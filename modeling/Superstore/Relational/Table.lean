import Mathlib.Algebra.BigOperators.Group.List.Basic
import Mathlib.Algebra.Group.Basic
import Mathlib.Algebra.Order.BigOperators.Group.List
import Mathlib.Data.List.Nodup
import Mathlib.Order.Defs.Unbundled
import Mathlib.Tactic.Abel

/-!
# Tables with an autoincrement primary key

A table is the list of its rows in key order, each under its key, together with the next
key to be issued. The two facts every lookup rests on are fields: each key is below the
next one, and no key occurs twice. An update keeps the keys, so no later proof has to
show again that a lookup is unambiguous.

Statements about a table go through `find`, membership and `total`, never through the
row list itself.
-/

namespace Relational

/-- Rows of type `α` under distinct numeric keys, all below the next key to be issued. -/
structure Table (α : Type) where
  rows : List (ℕ × α)
  next : ℕ
  keys_lt : ∀ r ∈ rows, r.1 < next
  keys_nodup : (rows.map Prod.fst).Nodup

namespace Table

variable {α : Type} {M : Type*}

/-- The table without rows; the first key issued is `1`. -/
def empty : Table α := ⟨[], 1, by simp, by simp⟩

/-- The row stored under a key. -/
def find (t : Table α) (i : ℕ) : Option α :=
  (t.rows.find? fun r => r.1 == i).map Prod.snd

/-- The first row, in key order, that satisfies a condition. -/
def first (t : Table α) (p : ℕ → α → Bool) : Option (ℕ × α) :=
  t.rows.find? fun r => p r.1 r.2

/-- All rows that satisfy a condition, in key order. -/
def many (t : Table α) (p : ℕ → α → Bool) : List (ℕ × α) :=
  t.rows.filter fun r => p r.1 r.2

/-- Append a row under the next key. -/
def create (t : Table α) (a : α) : Table α where
  rows := t.rows ++ [(t.next, a)]
  next := t.next + 1
  keys_lt := by
    intro r hr
    rcases List.mem_append.mp hr with h | h
    · exact Nat.lt_succ_of_lt (t.keys_lt r h)
    · rw [List.mem_singleton.mp h]
      exact Nat.lt_succ_self _
  keys_nodup := by
    rw [List.map_append]
    refine List.nodup_append.mpr ⟨t.keys_nodup, by simp, ?_⟩
    rintro a ha b hb rfl
    obtain ⟨r, hr, rfl⟩ := List.mem_map.mp ha
    have hlt := t.keys_lt r hr
    simp only [List.map_cons, List.map_nil, List.mem_singleton] at hb
    omega

/-- Rewrite every row that satisfies a condition. -/
def updateMany (t : Table α) (p : ℕ → α → Bool) (f : α → α) : Table α where
  rows := t.rows.map fun r => (r.1, if p r.1 r.2 then f r.2 else r.2)
  next := t.next
  keys_lt := by
    intro r hr
    obtain ⟨s, hs, rfl⟩ := List.mem_map.mp hr
    exact t.keys_lt s hs
  keys_nodup := by
    rw [List.map_map]
    exact t.keys_nodup

/-- Rewrite the row under one key; a missing key leaves the table as it is. -/
def update (t : Table α) (i : ℕ) (f : α → α) : Table α :=
  t.updateMany (fun j _ => j == i) f

/-- Remove every row that satisfies a condition; its key is not issued again. -/
def deleteMany (t : Table α) (p : ℕ → α → Bool) : Table α where
  rows := t.rows.filter fun r => !p r.1 r.2
  next := t.next
  keys_lt := fun r hr => t.keys_lt r (List.mem_filter.mp hr).1
  keys_nodup := t.keys_nodup.sublist (List.filter_sublist.map _)

/-- The sum of a quantity over all rows. -/
def total [AddMonoid M] (t : Table α) (g : ℕ → α → M) : M :=
  (t.rows.map fun r => g r.1 r.2).sum

/-- A lookup succeeds exactly on the rows of the table. -/
theorem find_eq_some {t : Table α} {i : ℕ} {a : α} : t.find i = some a ↔ (i, a) ∈ t.rows := by
  constructor
  · intro h
    obtain ⟨r, hr, rfl⟩ := Option.map_eq_some_iff.mp h
    have hkey : r.1 = i := by simpa using List.find?_some hr
    rw [← hkey]
    exact List.mem_of_find?_eq_some hr
  · intro h
    cases hf : t.rows.find? fun r => r.1 == i with
    | none => simpa using List.find?_eq_none.mp hf (i, a) h
    | some r =>
      have hkey : r.1 = i := by simpa using List.find?_some hf
      have hmem := List.mem_of_find?_eq_some hf
      have heq : r = (i, a) := List.inj_on_of_nodup_map t.keys_nodup hmem h hkey
      simp [find, hf, heq]

/-- A lookup fails exactly when no row has the key. -/
theorem find_eq_none {t : Table α} {i : ℕ} : t.find i = none ↔ ∀ a, (i, a) ∉ t.rows := by
  rw [Option.eq_none_iff_forall_ne_some]
  exact forall_congr' fun a => not_congr find_eq_some

/-- Keys that have not been issued yet find nothing. -/
theorem find_of_next_le {t : Table α} {i : ℕ} (h : t.next ≤ i) : t.find i = none :=
  find_eq_none.mpr fun _ ha => absurd (t.keys_lt _ ha) (by simpa using h)

/-- The key of a stored row has been issued. -/
theorem lt_next {t : Table α} {i : ℕ} {a : α} (h : t.find i = some a) : i < t.next :=
  t.keys_lt _ (find_eq_some.mp h)

/-- An empty table has no rows. -/
@[simp] theorem find_empty (i : ℕ) : (empty : Table α).find i = none := rfl

/-- The row found by a search is stored under its key and satisfies the condition. -/
theorem find_of_first {t : Table α} {p : ℕ → α → Bool} {r : ℕ × α} (h : t.first p = some r) :
    t.find r.1 = some r.2 ∧ p r.1 r.2 := by
  rw [first] at h
  have hp := List.find?_some h
  exact ⟨find_eq_some.mpr (List.mem_of_find?_eq_some h), hp⟩

/-- A search that finds nothing rules every stored row out. -/
theorem first_eq_none {t : Table α} {p : ℕ → α → Bool} :
    t.first p = none ↔ ∀ i a, t.find i = some a → p i a = false := by
  simp only [first, List.find?_eq_none, Prod.forall, Bool.not_eq_true, find_eq_some]

/-- The rows selected by a condition are exactly the stored rows that satisfy it. -/
theorem mem_many {t : Table α} {p : ℕ → α → Bool} {r : ℕ × α} :
    r ∈ t.many p ↔ t.find r.1 = some r.2 ∧ p r.1 r.2 := by
  simp only [many, List.mem_filter, find_eq_some]

/-- A created row is found under the key that was next; every other lookup is unchanged. -/
theorem find_create (t : Table α) (a : α) (i : ℕ) :
    (t.create a).find i = if i = t.next then some a else t.find i := by
  split
  · next h =>
    rw [find_eq_some, h]
    exact List.mem_append_right _ (List.mem_singleton.mpr rfl)
  · next h =>
    ext b
    rw [find_eq_some, find_eq_some]
    simp [create, h]

/-- A new row is stored under the next key. -/
theorem find_create_self (t : Table α) (a : α) : (t.create a).find t.next = some a := by
  rw [find_create, if_pos rfl]

/-- A search of all rows comes to a created row last. -/
theorem many_create (t : Table α) (a : α) (p : ℕ → α → Bool) :
    (t.create a).many p = t.many p ++ if p t.next a then [(t.next, a)] else [] := by
  simp only [many, create, List.filter_append, List.filter_cons, List.filter_nil]

/-- The only row of a table that had none. -/
theorem eq_of_find_single {a b : α} {i : ℕ} (h : (empty.create a).find i = some b) : i = 1 ∧ b = a := by
  rw [find_create] at h
  split at h
  · next heq => exact ⟨heq, (Option.some.inj h).symm⟩
  · cases h

/-- Rows that were there before a creation are still found. -/
theorem find_create_of_find {t : Table α} {i : ℕ} {b : α} (a : α) (h : t.find i = some b) :
    (t.create a).find i = some b := by
  rw [find_create, if_neg (lt_next h).ne, h]

/-- A conditional update rewrites the value found under each key. -/
@[simp] theorem find_updateMany (t : Table α) (p : ℕ → α → Bool) (f : α → α) (i : ℕ) :
    (t.updateMany p f).find i = (t.find i).map fun a => if p i a then f a else a := by
  ext b
  simp only [find_eq_some, Option.map_eq_some_iff, updateMany, List.mem_map, Prod.mk.injEq,
    Prod.exists]
  constructor
  · rintro ⟨j, a, ha, rfl, hb⟩
    exact ⟨a, ha, hb⟩
  · rintro ⟨a, ha, hb⟩
    exact ⟨i, a, ha, rfl, hb⟩

/-- An update by key rewrites that row only. -/
theorem find_update (t : Table α) (i : ℕ) (f : α → α) (j : ℕ) :
    (t.update i f).find j = if j = i then (t.find j).map f else t.find j := by
  rw [update, find_updateMany]
  by_cases h : j = i <;> simp [h]

/-- The row that is updated is changed. -/
theorem find_update_self (t : Table α) (i : ℕ) (f : α → α) :
    (t.update i f).find i = (t.find i).map f := by
  rw [find_update, if_pos rfl]

/-- The other rows are not updated. -/
theorem find_update_of_ne (t : Table α) {i j : ℕ} (f : α → α) (h : j ≠ i) :
    (t.update i f).find j = t.find j := by
  rw [find_update, if_neg h]

/-- A conditional update that meets a single row is an update of that row. -/
theorem updateMany_eq_update {t : Table α} {p : ℕ → α → Bool} {i : ℕ} {a : α}
    (h : t.find i = some a) (hp : p i a) (honly : ∀ j b, t.find j = some b → p j b → j = i)
    (f : α → α) : t.updateMany p f = t.update i f := by
  simp only [update, updateMany, mk.injEq, and_true]
  refine List.map_congr_left fun r hr => ?_
  have hr' : t.find r.1 = some r.2 := find_eq_some.mpr hr
  by_cases hi : r.1 = i
  · rw [hi] at hr'
    obtain rfl := Option.some.inj (h.symm.trans hr')
    simp [hi, hp]
  · have hnot : p r.1 r.2 = false := by
      rw [Bool.eq_false_iff]
      exact fun h' => hi (honly _ _ hr' h')
    simp [hi, hnot]

/-- An update that meets no row changes nothing. -/
@[simp] theorem updateMany_false (t : Table α) (f : α → α) : t.updateMany (fun _ _ => false) f = t := by
  obtain ⟨rows, next, _, _⟩ := t
  simp only [updateMany, mk.injEq, and_true]
  exact (List.map_congr_left fun r _ => rfl).trans (List.map_id rows)

/-- Two updates of one row that agree on it are the same. -/
theorem update_congr {t : Table α} {i : ℕ} {a : α} {f g : α → α} (h : t.find i = some a)
    (hfg : f a = g a) : t.update i f = t.update i g := by
  simp only [update, updateMany, mk.injEq, and_true]
  refine List.map_congr_left fun r hr => ?_
  by_cases hi : r.1 = i
  · have hr' : t.find i = some r.2 := find_eq_some.mpr (hi ▸ hr)
    obtain rfl := Option.some.inj (h.symm.trans hr')
    simp [hi, hfg]
  · simp [hi]

/-- An update that changes nothing. -/
@[simp] theorem update_id (t : Table α) (i : ℕ) : t.update i id = t := by
  obtain ⟨rows, next, _, _⟩ := t
  simp only [update, updateMany, mk.injEq, and_true]
  refine (List.map_congr_left fun r _ => ?_).trans (List.map_id rows)
  simp

/-- The first row that satisfies a condition stays the first one if its change does not affect
the condition. -/
theorem first_update {t : Table α} {p : ℕ → α → Bool} {i : ℕ} {a : α} {f : α → α}
    (h : t.first p = some (i, a)) (hkeep : ∀ j b, p j (f b) = p j b) :
    (t.update i f).first p = some (i, f a) := by
  have hsame : (fun r : ℕ × α => p r.1 r.2) ∘ (fun r : ℕ × α => (r.1, if r.1 == i then f r.2 else r.2)) =
      fun r : ℕ × α => p r.1 r.2 := by
    funext r
    by_cases hr : r.1 == i
    · simp only [Function.comp_apply, hr, if_true, hkeep]
    · simp only [Function.comp_apply, hr, Bool.false_eq_true, if_false]
  rw [first] at h
  simp only [first, update, updateMany, List.find?_map, hsame, h, Option.map_some, beq_self_eq_true, if_true]

/-- A new row that satisfies a condition is the first one if there was none. -/
theorem first_create {t : Table α} {p : ℕ → α → Bool} {a : α} (h : t.first p = none)
    (ha : p t.next a = true) : (t.create a).first p = some (t.next, a) := by
  rw [first] at h
  simp only [first, create, List.find?_append, h, Option.none_or, List.find?_cons, ha]

/-- An update of a missing row changes nothing. -/
theorem update_of_none {t : Table α} {i : ℕ} (h : t.find i = none) (f : α → α) :
    t.update i f = t := by
  obtain ⟨rows, next, _, _⟩ := t
  simp only [update, updateMany, mk.injEq, and_true]
  refine (List.map_congr_left fun r hr => ?_).trans (List.map_id rows)
  have hne : r.1 ≠ i := by
    rintro rfl
    exact find_eq_none.mp h r.2 hr
  simp [hne]

/-- Two updates of one row are one. -/
theorem update_update (t : Table α) (i : ℕ) (f g : α → α) :
    (t.update i f).update i g = t.update i (g ∘ f) := by
  simp only [update, updateMany, List.map_map, mk.injEq, and_true]
  refine List.map_congr_left fun r _ => ?_
  by_cases h : r.1 = i <;> simp [h]

/-- A deletion hides exactly the rows that satisfy the condition. -/
theorem find_deleteMany (t : Table α) (p : ℕ → α → Bool) (i : ℕ) :
    (t.deleteMany p).find i = (t.find i).filter fun a => !p i a := by
  ext b
  rw [find_eq_some, Option.filter_eq_some_iff, find_eq_some]
  simp [deleteMany, List.mem_filter]

/-! ## Tables that evolve -/

/-- Every row of the first table is found in the second one, changed along a relation. -/
def Evolves (R : α → α → Prop) (t t' : Table α) : Prop :=
  ∀ i a, t.find i = some a → ∃ b, t'.find i = some b ∧ R a b

section Evolves

variable {R : α → α → Prop}

/-- A table evolves from itself. -/
theorem Evolves.refl [Std.Refl R] (t : Table α) : t.Evolves R t :=
  fun _ a h => ⟨a, h, Std.Refl.refl a⟩

/-- Evolutions of a table compose. -/
theorem Evolves.trans [IsTrans α R] {t t' t'' : Table α} (h : t.Evolves R t')
    (h' : t'.Evolves R t'') : t.Evolves R t'' := by
  intro i a ha
  obtain ⟨b, hb, hab⟩ := h i a ha
  obtain ⟨c, hc, hbc⟩ := h' i b hb
  exact ⟨c, hc, trans_of R hab hbc⟩

/-- The rows of a table may be related in a weaker way. -/
theorem Evolves.mono {S : α → α → Prop} {t t' : Table α} (h : t.Evolves R t')
    (hRS : ∀ a b, R a b → S a b) : t.Evolves S t' := by
  intro i a ha
  obtain ⟨b, hb, hab⟩ := h i a ha
  exact ⟨b, hb, hRS a b hab⟩

/-- A table that stays evolves. -/
theorem Evolves.of_eq [Std.Refl R] {t t' : Table α} (h : t' = t) : t.Evolves R t' := by
  rw [h]
  exact .refl t

/-- A new row leaves the others alone. -/
theorem Evolves.create [Std.Refl R] (t : Table α) (a : α) : t.Evolves R (t.create a) :=
  fun _ b h => ⟨b, find_create_of_find a h, Std.Refl.refl b⟩

/-- A table evolves when all rows of a kind are changed to related ones. -/
theorem Evolves.updateMany [Std.Refl R] {t : Table α} {p : ℕ → α → Bool} {f : α → α}
    (h : ∀ i a, t.find i = some a → p i a → R a (f a)) : t.Evolves R (t.updateMany p f) := by
  intro i a ha
  refine ⟨if p i a then f a else a, by rw [find_updateMany, ha]; rfl, ?_⟩
  split
  · next hp => exact h i a ha hp
  · exact Std.Refl.refl a

/-- A table evolves when a row is changed to a related one. -/
theorem Evolves.update [Std.Refl R] {t : Table α} {i : ℕ} {f : α → α}
    (h : ∀ a, t.find i = some a → R a (f a)) : t.Evolves R (t.update i f) :=
  .updateMany fun j a ha hj => by
    rw [beq_iff_eq] at hj
    exact h a (hj ▸ ha)

end Evolves

/-- Two tables that issue the same next key and hold the same rows under every key have the
same totals. -/
theorem total_congr [AddMonoid M] {t : Table α} {g h : ℕ → α → M}
    (hgh : ∀ i a, t.find i = some a → g i a = h i a) : t.total g = t.total h := by
  refine congrArg List.sum (List.map_congr_left fun r hr => ?_)
  exact hgh r.1 r.2 (find_eq_some.mpr hr)

/-- A total of zeros is zero. -/
@[simp] theorem total_zero [AddMonoid M] (t : Table α) : (t.total fun _ _ => (0 : M)) = 0 := by
  simp [total]

/-- A created row adds its own quantity to the total. -/
theorem total_create [AddMonoid M] (t : Table α) (a : α) (g : ℕ → α → M) :
    (t.create a).total g = t.total g + g t.next a := by
  simp [total, create]

/-- The totals of two quantities add up to the total of their sums. -/
theorem total_add [AddCommMonoid M] (t : Table α) (g h : ℕ → α → M) :
    (t.total fun i a => g i a + h i a) = t.total g + t.total h := by
  simp only [total, List.sum_map_add]

/-- A total of negated amounts is the negated total. -/
theorem total_neg [AddCommGroup M] (t : Table α) (g : ℕ → α → M) :
    (t.total fun i a => -g i a) = -t.total g := by
  have hsum := total_add t g fun i a => -g i a
  simp only [add_neg_cancel, total_zero] at hsum
  exact (neg_eq_of_add_eq_zero_right hsum.symm).symm

/-- A conditional update changes the total as if the rewriting were part of the quantity. -/
theorem total_updateMany [AddMonoid M] (t : Table α) (p : ℕ → α → Bool) (f : α → α)
    (g : ℕ → α → M) :
    (t.updateMany p f).total g = t.total fun i a => g i (if p i a then f a else a) := by
  simp only [total, updateMany, List.map_map, Function.comp_def]

/-- A function that vanishes on every row but one totals to its value on that row. -/
theorem total_single [AddCommMonoid M] {t : Table α} {i : ℕ} {a : α} (h : t.find i = some a)
    (g : α → M) : (t.total fun j b => if j = i then g b else 0) = g a := by
  have hmem := find_eq_some.mp h
  have hnodup := t.keys_nodup
  simp only [total]
  generalize t.rows = rows at hmem hnodup
  induction rows with
  | nil => simp at hmem
  | cons r rest ih =>
    rw [List.map_cons, List.nodup_cons] at hnodup
    rcases List.mem_cons.mp hmem with rfl | hrest
    · have hzero : (rest.map fun s => if s.1 = i then g s.2 else 0).sum = 0 := by
        refine List.sum_eq_zero fun x hx => ?_
        obtain ⟨s, hs, rfl⟩ := List.mem_map.mp hx
        rw [if_neg]
        rintro rfl
        exact hnodup.1 (List.mem_map.mpr ⟨s, hs, rfl⟩)
      simp [hzero]
    · have hne : r.1 ≠ i := by
        rintro rfl
        exact hnodup.1 (List.mem_map.mpr ⟨_, hrest, rfl⟩)
      simp [hne, ih hrest hnodup.2]

/-- An update of one row moves the total by the change of that row. -/
theorem total_update [AddCommGroup M] {t : Table α} {i : ℕ} {a : α} (h : t.find i = some a)
    (f : α → α) (g : ℕ → α → M) :
    (t.update i f).total g = t.total g + (g i (f a) - g i a) := by
  rw [update, total_updateMany, ← total_single h fun b => g i (f b) - g i b]
  simp only [total, ← List.sum_map_add]
  refine congrArg List.sum (List.map_congr_left fun r _ => ?_)
  by_cases hr : r.1 = i
  · subst hr
    simp
  · simp [hr]

/-- The total over the rows that satisfy a condition is the sum over the list of them. -/
theorem total_ite [AddMonoid M] (t : Table α) (p : ℕ → α → Bool) (g : ℕ → α → M) :
    (t.total fun i a => if p i a then g i a else 0) = ((t.many p).map fun r => g r.1 r.2).sum := by
  simp only [total, many]
  induction t.rows with
  | nil => rfl
  | cons r rest ih =>
    rw [List.map_cons, List.sum_cons, ih, List.filter_cons]
    by_cases hr : p r.1 r.2 <;> simp [hr]

/-- Rows that stand for different entries give a list without repetitions. -/
theorem many_map_nodup {β : Type} {t : Table α} {p : ℕ → α → Bool} {v : α → β}
    (hinj : ∀ i a j b, t.find i = some a → p i a → t.find j = some b → p j b → v a = v b → i = j) :
    ((t.many p).map fun r => v r.2).Nodup := by
  have hrow {r : ℕ × α} (hr : r ∈ t.many p) : t.find r.1 = some r.2 ∧ p r.1 r.2 := mem_many.mp hr
  have hkeys : ((t.many p).map Prod.fst).Nodup := t.keys_nodup.sublist (List.filter_sublist.map _)
  refine (List.nodup_map_iff_inj_on hkeys.of_map).mpr fun r hr s hs h => ?_
  have hkey := hinj _ _ _ _ (hrow hr).1 (hrow hr).2 (hrow hs).1 (hrow hs).2 h
  exact List.inj_on_of_nodup_map hkeys hr hs hkey

/-- Rows that stand for the entries of a list, each of them once, come to the whole list. -/
theorem total_eq [AddCommMonoid M] {β : Type} {t : Table α} {p : ℕ → α → Bool} {v : α → β} {u : β → M} {bs : List β}
    (hmem : ∀ i a, t.find i = some a → p i a → v a ∈ bs)
    (hinj : ∀ i a j b, t.find i = some a → p i a → t.find j = some b → p j b → v a = v b → i = j)
    (hbs : bs.Nodup) (hcomplete : ∀ b ∈ bs, ∃ i a, t.find i = some a ∧ p i a ∧ v a = b) :
    (t.total fun i a => if p i a then u (v a) else 0) = (bs.map u).sum := by
  rw [total_ite t p fun _ a => u (v a)]
  have hperm : ((t.many p).map fun r => v r.2).Perm bs := by
    refine (List.perm_ext_iff_of_nodup (many_map_nodup hinj) hbs).mpr fun b => ⟨fun hb => ?_, fun hb => ?_⟩
    · obtain ⟨r, hr, rfl⟩ := List.mem_map.mp hb
      obtain ⟨hfind, hp⟩ := mem_many.mp hr
      exact hmem _ _ hfind hp
    · obtain ⟨i, a, ha, hp, rfl⟩ := hcomplete b hb
      exact List.mem_map.mpr ⟨(i, a), mem_many.mpr ⟨ha, hp⟩, rfl⟩
  calc ((t.many p).map fun r => u (v r.2)).sum
      = (((t.many p).map fun r => v r.2).map u).sum := by rw [List.map_map]; rfl
    _ = (bs.map u).sum := (hperm.map u).sum_eq

/-- Rows that stand for different entries of a list with non-negative amounts come to no more than
the whole list. -/
theorem total_le [AddCommMonoid M] [PartialOrder M] [IsOrderedAddMonoid M] {β : Type} {t : Table α}
    {p : ℕ → α → Bool} {v : α → β} {u : β → M} {bs : List β}
    (hmem : ∀ i a, t.find i = some a → p i a → v a ∈ bs)
    (hinj : ∀ i a j b, t.find i = some a → p i a → t.find j = some b → p j b → v a = v b → i = j)
    (hnonneg : ∀ b ∈ bs, 0 ≤ u b) :
    (t.total fun i a => if p i a then u (v a) else 0) ≤ (bs.map u).sum := by
  rw [total_ite t p fun _ a => u (v a)]
  have hsub : ((t.many p).map fun r => v r.2) ⊆ bs := by
    intro b hb
    obtain ⟨r, hr, rfl⟩ := List.mem_map.mp hb
    obtain ⟨hfind, hp⟩ := mem_many.mp hr
    exact hmem _ _ hfind hp
  obtain ⟨cs, hperm, hcs⟩ := List.subperm_of_subset (many_map_nodup hinj) hsub
  calc ((t.many p).map fun r => u (v r.2)).sum
      = (((t.many p).map fun r => v r.2).map u).sum := by rw [List.map_map]; rfl
    _ = (cs.map u).sum := ((hperm.map u).sum_eq).symm
    _ ≤ (bs.map u).sum := (hcs.map u).sum_le_sum fun x hx => by
        obtain ⟨b, hb, rfl⟩ := List.mem_map.mp hx
        exact hnonneg b hb

end Table

end Relational

import Superstore.Relational.Growth

/-!
# Rows with keys of their own

Some rows have a key besides the one that the table issues: a reference, an owner, something that they
hold for a while. No two rows may have the same one. Keys stay distinct where rows keep or give up their
keys, and where a row is entered under a key that is free.
-/

namespace Relational

namespace Table

variable {α κ : Type} {key : α → Option κ} {t t' : Table α}

/-- No two rows have the same key. -/
def Distinct (key : α → Option κ) (t : Table α) : Prop :=
  ∀ i j a b c, t.find i = some a → t.find j = some b → key a = some c → key b = some c → i = j

/-- A table without rows has no keys. -/
theorem Distinct.of_empty (h : ∀ i, t.find i = none) : t.Distinct key := by
  intro i _ a _ _ ha
  rw [h i] at ha
  cases ha

/-- A row that keeps its key, or gives it up. -/
def KeepsKey (key : α → Option κ) (a b : α) : Prop := ∀ c, key b = some c → key a = some c

/-- Keeping a key is reflexive and transitive. -/
instance (key : α → Option κ) : IsPreorder α (KeepsKey key) where
  refl _ _ := id
  trans _ _ _ h h' c hc := h c (h' c hc)

/-- Where no row is entered and none takes a key, keys stay distinct. -/
theorem Distinct.grows {R : α → α → Prop} (h : t.Distinct key) (hgrows : t.Grows (fun _ => False) R t')
    (hR : ∀ a b, R a b → KeepsKey key a b) : t'.Distinct key := by
  intro i j a b c ha hb hac hbc
  obtain ⟨a₀, ha₀, haa⟩ := hgrows.back ha
  obtain ⟨b₀, hb₀, hbb⟩ := hgrows.back hb
  exact h i j a₀ b₀ c ha₀ hb₀ (hR a₀ a haa c hac) (hR b₀ b hbb c hbc)

/-- A row may be entered under a key that no row has. -/
theorem Distinct.create (h : t.Distinct key) {a : α}
    (hfree : ∀ i b c, t.find i = some b → key a = some c → key b ≠ some c) :
    (t.create a).Distinct key := by
  intro i j b d c hb hd hbc hdc
  rw [find_create] at hb hd
  split at hb
  · next hi =>
    obtain rfl := Option.some.inj hb
    split at hd
    · next hj => exact hi.trans hj.symm
    · exact absurd hdc (hfree j d c hd hbc)
  · split at hd
    · obtain rfl := Option.some.inj hd
      exact absurd hbc (hfree i b c hb hdc)
    · exact h i j b d c hb hd hbc hdc

/-- The row with a key is the first one that is found under it. -/
theorem Distinct.first [BEq κ] [LawfulBEq κ] (h : t.Distinct key) {i : ℕ} {a : α} {c : κ} (ha : t.find i = some a)
    (hc : key a = some c) : t.first (fun _ b => key b == some c) = some (i, a) := by
  cases hfirst : t.first fun _ b => key b == some c with
  | none =>
    have hnone := first_eq_none.mp hfirst i a ha
    rw [hc, beq_self_eq_true] at hnone
    cases hnone
  | some r =>
    obtain ⟨hr, hkey⟩ := find_of_first hfirst
    obtain rfl := h r.1 i r.2 a c hr ha (eq_of_beq hkey) hc
    obtain rfl := Option.some.inj (hr.symm.trans ha)
    rfl

/-! ## Totals by key -/

variable {β M : Type} [AddCommMonoid M]

/-- Two totals may be taken in either order. -/
theorem total_comm (t : Table α) (u : Table β) (g : ℕ → α → ℕ → β → M) :
    (t.total fun i a => u.total fun j b => g i a j b) = u.total fun j b => t.total fun i a => g i a j b := by
  unfold total
  induction t.rows with
  | nil => simp
  | cons r rows ih =>
    simp only [List.map_cons, List.sum_cons, List.sum_map_add]
    rw [ih]

/-- Rows whose keys are those of another table add up to what they add up to under each of its keys, beside the rows
that have none. -/
theorem total_fibres (key : α → Option ℕ) {t : Table α} {u : Table β}
    (h : ∀ i a k, t.find i = some a → key a = some k → ∃ b, u.find k = some b) (g : α → M) :
    (t.total fun _ a => g a) = (t.total fun _ a => if key a = none then g a else 0) +
      u.total fun k _ => t.total fun _ a => if key a = some k then g a else 0 := by
  rw [← total_comm, ← total_add]
  refine total_congr fun i a ha => ?_
  cases hk : key a with
  | none => simp
  | some k =>
    obtain ⟨b, hb⟩ := h i a k ha hk
    simp only [reduceCtorEq, if_false, zero_add, Option.some.injEq]
    refine (total_single hb fun _ => g a).symm.trans (total_congr fun j c _ => ?_)
    simp only [eq_comm]

end Table

end Relational

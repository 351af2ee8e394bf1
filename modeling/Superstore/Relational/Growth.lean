import Superstore.Relational.Transaction

/-!
# Tables that grow

A table grows when its rows stay, changed along a relation, and every other row was new at some
time, sound as it was entered, and has changed along the relation since. What holds of sound rows
and is kept by the relation then holds of all rows.
-/

namespace Relational

namespace Table

variable {α : Type} {P : α → Prop} {R : α → α → Prop} {t t' t'' : Table α}

/-- Rows stay along a relation, and other rows come from sound ones. -/
structure Grows (P : α → Prop) (R : α → α → Prop) (t t' : Table α) : Prop where
  kept : t.Evolves R t'
  entered : ∀ i b, t'.find i = some b → t.find i = none → ∃ a, P a ∧ R a b

/-- A table grows from itself. -/
theorem Grows.refl [Std.Refl R] (t : Table α) : t.Grows P R t where
  kept := .refl t
  entered i b hb hnone := by
    rw [hnone] at hb
    cases hb

/-- Growths of a table compose. -/
theorem Grows.trans [IsTrans α R] (h : t.Grows P R t') (h' : t'.Grows P R t'') : t.Grows P R t'' where
  kept := h.kept.trans h'.kept
  entered i c hc hnone := by
    cases hb : t'.find i with
    | none => exact h'.entered i c hc hb
    | some b =>
      obtain ⟨a, ha, hab⟩ := h.entered i b hb hnone
      obtain ⟨c', hc', hbc⟩ := h'.kept i b hb
      obtain rfl := Option.some.inj (hc.symm.trans hc')
      exact ⟨a, ha, trans_of R hab hbc⟩

/-- A table that stays grows. -/
theorem Grows.of_eq [Std.Refl R] (h : t' = t) : t.Grows P R t' := by
  rw [h]
  exact .refl t

/-- A new row of a kind lets a table grow. -/
theorem Grows.create [Std.Refl R] (t : Table α) {a : α} (ha : P a) : t.Grows P R (t.create a) where
  kept := .create t a
  entered i b hb hnone := by
    rw [find_create] at hb
    split at hb
    · obtain rfl := Option.some.inj hb
      exact ⟨a, ha, Std.Refl.refl a⟩
    · rw [hnone] at hb
      cases hb

/-- A table grows when a row is changed to a related one. -/
theorem Grows.update [Std.Refl R] {i : ℕ} {f : α → α} (h : ∀ a, t.find i = some a → R a (f a)) :
    t.Grows P R (t.update i f) where
  kept := .update h
  entered j b hb hnone := by
    rw [find_update, hnone] at hb
    split at hb <;> cases hb

/-- A table grows when all rows of a kind are changed to related ones. -/
theorem Grows.updateMany [Std.Refl R] {p : ℕ → α → Bool} {f : α → α}
    (h : ∀ i a, t.find i = some a → p i a → R a (f a)) : t.Grows P R (t.updateMany p f) where
  kept := .updateMany h
  entered j b hb hnone := by
    rw [find_updateMany, hnone] at hb
    cases hb

/-- Where no row is entered, every row comes from one that was there before. -/
theorem Grows.back (h : t.Grows (fun _ => False) R t') {i : ℕ} {b : α} (hb : t'.find i = some b) :
    ∃ a, t.find i = some a ∧ R a b := by
  cases ha : t.find i with
  | none =>
    obtain ⟨_, hnone, -⟩ := h.entered i b hb ha
    exact hnone.elim
  | some a =>
    obtain ⟨b', hb', hab⟩ := h.kept i a ha
    obtain rfl := Option.some.inj (hb.symm.trans hb')
    exact ⟨a, rfl, hab⟩

/-- What holds of every row, of sound new ones, and along the relation holds of every row later. -/
theorem Grows.forall {S : α → Prop} (h : t.Grows P R t') (hS : ∀ i a, t.find i = some a → S a)
    (hP : ∀ a, P a → S a) (hR : ∀ a b, R a b → S a → S b) :
    ∀ i b, t'.find i = some b → S b := by
  intro i b hb
  cases ha : t.find i with
  | none =>
    obtain ⟨a, hsound, hab⟩ := h.entered i b hb ha
    exact hR a b hab (hP a hsound)
  | some a =>
    obtain ⟨b', hb', hab⟩ := h.kept i a ha
    obtain rfl := Option.some.inj (hb.symm.trans hb')
    exact hR a b hab (hS i a ha)

end Table

namespace Tx

variable {Name : Type} {Row : Name → Type} {ε α β : Type}

/-- Every returning run makes one table grow. -/
abbrev Grows (n : Name) (P : Row n → Prop) (R : Row n → Row n → Prop) (m : Tx Row ε α) : Prop :=
  Within (fun db db' => (db n).Grows P R (db' n)) m

section Grows

variable {n : Name} {P : Row n → Prop} {R : Row n → Row n → Prop} [IsPreorder (Row n) R] {db : Database Row}

/-- Growing is reflexive and transitive on databases. -/
instance : IsPreorder (Database Row) fun db db' => (db n).Grows P R (db' n) where
  refl db := .refl (db n)
  trans _ _ _ := .trans

variable [DecidableEq Name]

/-- A transaction that does not write the table. -/
theorem grows_of_writes {ns : List Name} {m : Tx Row ε α} (h : Writes ns m) (hn : n ∉ ns) :
    Grows n P R m :=
  .of_writes h fun _ _ hsame => .of_eq (hsame n hn)

/-- What follows a first part finds the tables that it does not write as they were. -/
theorem Writes.before {ns : List Name} {m : Tx Row ε α} {f : α → Tx Row ε β}
    {Q : β → Database Row → Prop} (h : Writes ns m)
    (hf : ∀ a db', (∀ k ∉ ns, db' k = db k) → wp db' (f a) Q) : wp db (m >>= f) Q := by
  rw [wp_bind]
  exact wp_mono (h db) hf

/-- A row that is found or created lets its table grow. -/
theorem grows_firstOrCreate (p : ℕ → Row n → Bool) {r : Row n} (hr : P r) :
    Grows n P R (firstOrCreate n p r : Tx Row ε _) := fun db => by
  change wp db _ fun _ db' => (db n).Grows P R (db' n)
  rw [wp_firstOrCreate, Database.set_self]
  exact ⟨fun _ _ => .refl _, fun _ => .create _ hr⟩

variable [StatementError ε]

/-- A creation without a clash lets its table grow. -/
theorem grows_createUnique (clash : ℕ → Row n → Bool) {r : Row n} (hr : P r) :
    Grows n P R (createUnique n clash r : Tx Row ε _) := fun db => by
  change wp db _ fun _ db' => (db n).Grows P R (db' n)
  rw [wp_createUnique, Database.set_self]
  exact fun _ => .create _ hr

omit [StatementError ε] in
/-- An update of many rows along the relation. -/
theorem grows_updateMany {p : ℕ → Row n → Bool} {f : Row n → Row n}
    (h : ∀ i r, (db n).find i = some r → p i r → R r (f r)) :
    wp db (updateMany n p f : Tx Row ε _) fun _ db' => (db n).Grows P R (db' n) := by
  rw [wp_updateMany, Database.set_self]
  exact .updateMany h

/-- An update of a row along the relation. -/
theorem grows_update {i : ℕ} {f : Row n → Row n} (h : ∀ r, (db n).find i = some r → R r (f r)) :
    wp db (update n i f : Tx Row ε _) fun _ db' => (db n).Grows P R (db' n) := by
  rw [wp_update, Database.set_self]
  exact fun _ _ => .update h

end Grows

end Tx

end Relational

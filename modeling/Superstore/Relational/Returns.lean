import Superstore.Relational.Transaction

/-!
# Transactions that return

The weakest precondition of a transaction says nothing of a run that fails. That a transaction
returns is stated here in the same way, with a rule for each statement, so that what it returns
and that it returns are found in one go.
-/

namespace Relational.Tx

variable {Name : Type} {Row : Name → Type} {ε α β : Type}

/-- The run from `db` returns, with a result and a database that satisfy `Q`. -/
def Returns (db : Database Row) (m : Tx Row ε α) (Q : α → Database Row → Prop) : Prop :=
  ∃ a db', m db = .ok (a, db') ∧ Q a db'

/-- What a transaction returns with may be weakened. -/
theorem Returns.mono {m : Tx Row ε α} {Q R : α → Database Row → Prop} {db : Database Row}
    (h : Returns db m Q) (hQR : ∀ a db', Q a db' → R a db') : Returns db m R := by
  obtain ⟨a, db', hm, hQ⟩ := h
  exact ⟨a, db', hm, hQR a db' hQ⟩

/-- A run that has been made returns. -/
theorem returns_of_ok {m : Tx Row ε α} {Q : α → Database Row → Prop} {db db' : Database Row} {a : α}
    (h : m db = .ok (a, db')) : Returns db m Q ↔ Q a db' := by
  constructor
  · rintro ⟨b, db'', hb, hQ⟩
    rw [h] at hb
    cases hb
    exact hQ
  · intro hQ
    exact ⟨a, db', h, hQ⟩

/-- A run that has failed does not return. -/
theorem not_returns_of_error {m : Tx Row ε α} {Q : α → Database Row → Prop} {db : Database Row} {e : ε}
    (h : m db = .error e) : ¬Returns db m Q := by
  rintro ⟨a, db', hm, -⟩
  rw [h] at hm
  cases hm

/-- What every returning run satisfies, a run that returns satisfies as well. -/
theorem Returns.and_wp {m : Tx Row ε α} {Q R : α → Database Row → Prop} {db : Database Row}
    (h : Returns db m Q) (hw : wp db m R) : Returns db m fun a db' => Q a db' ∧ R a db' := by
  obtain ⟨a, db', hm, hQ⟩ := h
  exact ⟨a, db', hm, hQ, hw a db' hm⟩

/-- A value returns as it is. -/
@[simp] theorem returns_pure (a : α) (Q : α → Database Row → Prop) (db : Database Row) :
    Returns db (pure a : Tx Row ε α) Q ↔ Q a db :=
  returns_of_ok rfl

/-- A sequence returns exactly if its first part does, and then the second. -/
@[simp] theorem returns_bind (m : Tx Row ε α) (f : α → Tx Row ε β) (Q : β → Database Row → Prop)
    (db : Database Row) : Returns db (m >>= f) Q ↔ Returns db m fun a db' => Returns db' (f a) Q := by
  have hrun : (m >>= f) db = (m db).bind fun r => f r.1 r.2 := rfl
  cases hm : m db with
  | error e =>
    have hb : (m >>= f) db = .error e := by rw [hrun, hm]; rfl
    exact iff_of_false (not_returns_of_error hb) (not_returns_of_error hm)
  | ok r =>
    have hb : (m >>= f) db = f r.1 r.2 := by rw [hrun, hm]; rfl
    rw [returns_of_ok hm, Returns, Returns, hb]

/-- A mapped transaction returns exactly if the transaction does. -/
@[simp] theorem returns_map (g : α → β) (m : Tx Row ε α) (Q : β → Database Row → Prop)
    (db : Database Row) : Returns db (g <$> m) Q ↔ Returns db m fun a => Q (g a) := by
  have hmap : g <$> m = m >>= fun a => pure (g a) := (bind_pure_comp g m).symm
  rw [hmap, returns_bind]
  simp only [returns_pure]

/-- A query returns its answer. -/
@[simp] theorem returns_query (f : Database Row → α) (Q : α → Database Row → Prop) (db : Database Row) :
    Returns db (query f : Tx Row ε α) Q ↔ Q (f db) db :=
  returns_of_ok rfl

/-- A lookup returns the stored row, or none. -/
@[simp] theorem returns_find (n : Name) (i : ℕ) (Q : Option (Row n) → Database Row → Prop)
    (db : Database Row) : Returns db (find n i : Tx Row ε _) Q ↔ Q ((db n).find i) db :=
  returns_of_ok rfl

/-- A search returns the first row of its kind, or none. -/
@[simp] theorem returns_first (n : Name) (p : ℕ → Row n → Bool)
    (Q : Option (ℕ × Row n) → Database Row → Prop) (db : Database Row) :
    Returns db (first n p : Tx Row ε _) Q ↔ Q ((db n).first p) db :=
  returns_of_ok rfl

/-- A requirement returns exactly if it is met. -/
@[simp] theorem returns_require (c : Prop) [Decidable c] (e : ε) (Q : Unit → Database Row → Prop)
    (db : Database Row) : Returns db (require c e : Tx Row ε Unit) Q ↔ c ∧ Q () db := by
  by_cases h : c
  · simpa [h] using returns_of_ok (m := require c e) (if_pos h)
  · simpa [h] using not_returns_of_error (m := require c e) (if_neg h)

/-- An option returns exactly if it has a value. -/
@[simp] theorem returns_orThrow (o : Option α) (e : ε) (Q : α → Database Row → Prop)
    (db : Database Row) : Returns db (orThrow o e : Tx Row ε α) Q ↔ ∃ a, o = some a ∧ Q a db := by
  cases o with
  | none => simpa using not_returns_of_error (m := orThrow none e) rfl
  | some a => simpa using returns_of_ok (m := orThrow (some a) e) rfl

/-- A result returns exactly if it is not an error. -/
@[simp] theorem returns_ofExcept (x : Except ε α) (Q : α → Database Row → Prop) (db : Database Row) :
    Returns db (ofExcept x : Tx Row ε α) Q ↔ ∃ a, x = .ok a ∧ Q a db := by
  cases x with
  | error e => simpa using not_returns_of_error (m := ofExcept (.error e)) rfl
  | ok a => simpa using returns_of_ok (m := ofExcept (.ok a)) rfl

/-- A part that is run under a condition returns where it is not run. -/
@[simp] theorem returns_when (c : Prop) [Decidable c] (m : Tx Row ε Unit)
    (Q : Unit → Database Row → Prop) (db : Database Row) :
    Returns db (when c m) Q ↔ (c → Returns db m Q) ∧ (¬c → Q () db) := by
  by_cases h : c
  · have hrun : (when c m) db = m db := if_pos h
    constructor
    · rintro ⟨a, db', hm, hQ⟩
      exact ⟨fun _ => ⟨a, db', hrun.symm.trans hm, hQ⟩, absurd h⟩
    · rintro ⟨hm, -⟩
      obtain ⟨a, db', hm, hQ⟩ := hm h
      exact ⟨a, db', hrun.trans hm, hQ⟩
  · simpa [h] using returns_of_ok (m := when c m) (if_neg h)

variable [DecidableEq Name] [StatementError ε]

omit [DecidableEq Name] in

/-- A lookup that has to succeed returns exactly if the row is there. -/
@[simp] theorem returns_findOrThrow (n : Name) (i : ℕ) (Q : Row n → Database Row → Prop)
    (db : Database Row) :
    Returns db (findOrThrow n i : Tx Row ε _) Q ↔ ∃ r, (db n).find i = some r ∧ Q r db := by
  cases h : (db n).find i with
  | none =>
    simpa using not_returns_of_error (m := findOrThrow n i) (e := StatementError.recordNotFound)
      (by simp [findOrThrow, h])
  | some r => simpa using returns_of_ok (m := findOrThrow n i) (by simp [findOrThrow, h])

/-- A creation returns exactly if no stored row clashes with it. -/
@[simp] theorem returns_createUnique (n : Name) (clash : ℕ → Row n → Bool) (r : Row n)
    (Q : ℕ → Database Row → Prop) (db : Database Row) :
    Returns db (createUnique n clash r : Tx Row ε _) Q ↔
      (db n).first clash = none ∧ Q (db n).next (db.set n ((db n).create r)) := by
  cases h : (db n).first clash with
  | none => simpa using returns_of_ok (m := createUnique n clash r) (by simp [createUnique, h])
  | some s =>
    simpa using not_returns_of_error (m := createUnique n clash r) (e := StatementError.uniqueViolation)
      (by simp [createUnique, h])

omit [StatementError ε] in

/-- A row that is found or created is returned either way. -/
@[simp] theorem returns_firstOrCreate (n : Name) (p : ℕ → Row n → Bool) (r : Row n)
    (Q : ℕ × Row n → Database Row → Prop) (db : Database Row) :
    Returns db (firstOrCreate n p r : Tx Row ε _) Q ↔
      (∀ s, (db n).first p = some s → Q s db) ∧
      ((db n).first p = none → Q ((db n).next, r) (db.set n ((db n).create r))) := by
  cases h : (db n).first p with
  | none => simpa using returns_of_ok (m := firstOrCreate n p r) (by simp [firstOrCreate, h])
  | some s => simpa using returns_of_ok (m := firstOrCreate n p r) (by simp [firstOrCreate, h])

/-- A change of a row returns exactly if the row is there. -/
@[simp] theorem returns_update (n : Name) (i : ℕ) (f : Row n → Row n)
    (Q : Unit → Database Row → Prop) (db : Database Row) :
    Returns db (update n i f : Tx Row ε _) Q ↔
      ((db n).find i).isSome ∧ Q () (db.set n ((db n).update i f)) := by
  cases h : (db n).find i with
  | none =>
    simpa using not_returns_of_error (m := update n i f) (e := StatementError.recordNotFound)
      (by simp [update, h])
  | some r => simpa using returns_of_ok (m := update n i f) (by simp [update, h])

end Relational.Tx

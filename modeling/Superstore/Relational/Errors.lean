import Superstore.Relational.Transaction

/-!
# The errors of a transaction

The weakest precondition speaks of returning runs. `Avoids` speaks of the others: from a given
database on, a transaction does not fail with a given error. Most transactions never do, so
that `Spares` states it for every database, statement by statement; what is left is to know
the state of the database where a statement can raise the error.
-/

namespace Relational

namespace Tx

variable {Name : Type} {Row : Name → Type} {ε α β : Type} {x : ε}

/-- From a database on, a transaction does not fail with an error. -/
def Avoids (x : ε) (db : Database Row) (m : Tx Row ε α) : Prop := m db ≠ .error x

/-- A transaction never fails with an error. -/
def Spares (x : ε) (m : Tx Row ε α) : Prop := ∀ db : Database Row, m.Avoids x db

/-- What follows a part that returns runs on its result. -/
theorem bind_of_ok {m : Tx Row ε α} {f : α → Tx Row ε β} {db db' : Database Row} {a : α}
    (h : m db = .ok (a, db')) : (m >>= f) db = f a db' := by
  change (m db >>= fun p => f p.1 p.2) = f a db'
  rw [h]
  rfl

/-- A sequence whose first part fails does so too. -/
theorem bind_of_error {m : Tx Row ε α} {f : α → Tx Row ε β} {db : Database Row} {e : ε}
    (h : m db = .error e) : (m >>= f) db = .error e := by
  change (m db >>= fun p => f p.1 p.2) = .error e
  rw [h]
  rfl

/-- A requirement that is met changes nothing. -/
theorem require_of {c : Prop} [Decidable c] (h : c) (e : ε) (db : Database Row) :
    (require c e : Tx Row ε Unit) db = .ok ((), db) := by
  rw [require, if_pos h]

/-- A step that is taken only under a condition is taken where the condition holds. -/
theorem when_of {c : Prop} [Decidable c] (h : c) (m : Tx Row ε Unit) (db : Database Row) :
    (when c m) db = m db := if_pos h

/-- A sequence avoids an error if its first part does, and the second one does afterwards. -/
theorem Avoids.bind {m : Tx Row ε α} {f : α → Tx Row ε β} {db : Database Row} (hm : Avoids x db m)
    (hf : wp db m fun a db' => Avoids x db' (f a)) : Avoids x db (m >>= f) := by
  change (m db >>= fun p => f p.1 p.2) ≠ .error x
  cases hrun : m db with
  | error e =>
    intro h
    cases h
    exact hm hrun
  | ok p => exact hf p.1 p.2 hrun

/-- A decision avoids an error if it succeeds, or if its error is another one. -/
theorem Avoids.require {c : Prop} [Decidable c] {e : ε} {db : Database Row} (h : ¬c → e ≠ x) :
    Avoids x db (require c e : Tx Row ε Unit) := by
  unfold Avoids Tx.require
  split
  · exact fun h => by cases h
  · next hc =>
    intro he
    cases he
    exact h hc rfl

/-- A part that is run under a condition avoids an error if the part does. -/
theorem Avoids.when {c : Prop} [Decidable c] {m : Tx Row ε Unit} {db : Database Row}
    (h : c → Avoids x db m) : Avoids x db (when c m) := by
  unfold Avoids Tx.when
  split
  · next hc => exact h hc
  · exact fun h => by cases h

/-- A loop avoids an error if every round does where the rounds before it have led to. -/
theorem Avoids.forM {P : List β → Database Row → Prop} {f : β → Tx Row ε PUnit}
    (hround : ∀ y ys db, P (y :: ys) db → Avoids x db (f y) ∧ wp db (f y) fun _ db' => P ys db') :
    ∀ (ys : List β) {db : Database Row}, P ys db → Avoids x db (ys.forM f)
  | [], _, _ => fun h => by cases h
  | y :: ys, db, h => by
    obtain ⟨hy, hys⟩ := hround y ys db h
    rw [List.forM_eq_forM, List.forM_cons]
    exact .bind hy (wp_mono hys fun _ _ h' => Avoids.forM hround ys h')

/-- A value never fails. -/
theorem Spares.pure (a : α) : Spares x (pure a : Tx Row ε α) := fun _ h => by cases h

/-- A sequence spares an error if its parts do. -/
theorem Spares.bind {m : Tx Row ε α} {f : α → Tx Row ε β} (hm : Spares x m) (hf : ∀ a, Spares x (f a)) :
    Spares x (m >>= f) := fun db => .bind (hm db) fun a db' _ => hf a db'

/-- A query never fails. -/
theorem Spares.query (f : Database Row → α) : Spares x (query f : Tx Row ε α) := fun _ h => by cases h

/-- A requirement fails with its own error only. -/
theorem Spares.require (c : Prop) [Decidable c] {e : ε} (h : e ≠ x) :
    Spares x (require c e : Tx Row ε Unit) := fun _ => .require fun _ => h

/-- An option fails with its own error only. -/
theorem Spares.orThrow (o : Option α) {e : ε} (h : e ≠ x) : Spares x (orThrow o e : Tx Row ε α) := by
  intro db he
  cases o with
  | some a => cases he
  | none =>
    cases he
    exact h rfl

/-- A result fails with its own error only. -/
theorem Spares.ofExcept {y : Except ε α} (h : y ≠ .error x) : Spares x (ofExcept y : Tx Row ε α) := by
  intro db he
  cases y with
  | ok a => cases he
  | error e =>
    cases he
    exact h rfl

/-- A part that is run under a condition spares an error if the part does. -/
theorem Spares.when {c : Prop} [Decidable c] {m : Tx Row ε Unit} (h : Spares x m) :
    Spares x (when c m) := fun db => .when fun _ => h db

/-- A loop spares an error if its body does. -/
theorem Spares.forM {ys : List β} {f : β → Tx Row ε PUnit} (h : ∀ y, Spares x (f y)) :
    Spares x (ys.forM f) := fun _ =>
  .forM (P := fun _ _ => True) (fun y _ db _ => ⟨h y db, fun _ _ _ => trivial⟩) ys trivial

section Writing

variable [DecidableEq Name] [StatementError ε]

omit [DecidableEq Name] in

/-- A lookup that has to succeed fails only for want of the row. -/
theorem Spares.findOrThrow (n : Name) (i : ℕ) (h : StatementError.recordNotFound ≠ x) :
    Spares x (findOrThrow n i : Tx Row ε _) := by
  intro db he
  rw [Tx.findOrThrow] at he
  split at he
  · cases he
  · exact h (Except.error.inj he)

/-- A change of a row fails only for want of the row. -/
theorem Spares.update (n : Name) (i : ℕ) (f : Row n → Row n) (h : StatementError.recordNotFound ≠ x) :
    Spares x (update n i f : Tx Row ε _) := by
  intro db he
  rw [Tx.update] at he
  split at he
  · cases he
  · exact h (Except.error.inj he)

/-- A creation without a clash fails only for a clash. -/
theorem Spares.createUnique (n : Name) (clash : ℕ → Row n → Bool) (r : Row n)
    (h : StatementError.uniqueViolation ≠ x) : Spares x (createUnique n clash r : Tx Row ε _) := by
  intro db he
  rw [Tx.createUnique] at he
  split at he
  · exact h (Except.error.inj he)
  · cases he

omit [StatementError ε] in

/-- A row that is found or created never fails. -/
theorem Spares.firstOrCreate (n : Name) (p : ℕ → Row n → Bool) (r : Row n) :
    Spares x (firstOrCreate n p r : Tx Row ε _) := by
  intro db he
  rw [Tx.firstOrCreate] at he
  split at he <;> cases he

omit [StatementError ε] in

/-- A creation never fails. -/
theorem Spares.create (n : Name) (r : Row n) : Spares x (create n r : Tx Row ε _) := fun _ h => by cases h

omit [StatementError ε] in

/-- A change of many rows never fails. -/
theorem Spares.updateMany (n : Name) (p : ℕ → Row n → Bool) (f : Row n → Row n) :
    Spares x (updateMany n p f : Tx Row ε _) := fun _ h => by cases h

omit [StatementError ε] in

/-- A deletion never fails. -/
theorem Spares.deleteMany (n : Name) (p : ℕ → Row n → Bool) :
    Spares x (deleteMany n p : Tx Row ε _) := fun _ h => by cases h

end Writing

end Tx

end Relational

import Mathlib.Logic.Function.Basic
import Superstore.Relational.Table

/-!
# Transactions over a family of tables

A database holds one table under every name. A transaction is a state transformer that
either returns with a new database or fails; a failure carries no database at all, so a
failed transaction has changed nothing.

Two judgements are enough for the proofs about transactions. `wp` is the weakest
precondition of a returning run, and unfolds over the statements of a transaction by
`simp`. `Writes` bounds the tables that a transaction may change and needs no precondition,
so a caller that is not interested in a part of a transaction can step over it.
-/

namespace Relational

variable {Name : Type} {Row : Name → Type} {ε α β : Type}

/-- One table under every name. -/
abbrev Database (Row : Name → Type) := ∀ n, Table (Row n)

namespace Database

/-- Replace one table. -/
def set [DecidableEq Name] (db : Database Row) (n : Name) (t : Table (Row n)) : Database Row :=
  Function.update db n t

variable [DecidableEq Name]

/-- The table that is set is the new one. -/
@[simp] theorem set_self (db : Database Row) (n : Name) (t : Table (Row n)) : db.set n t n = t := by
  simp [set]

/-- The other tables stay. -/
@[simp] theorem set_of_ne (db : Database Row) {n m : Name} (t : Table (Row n)) (h : m ≠ n) :
    db.set n t m = db m := by
  simp [set, h]

end Database

/-- The failures a statement raises by itself. -/
class StatementError (ε : Type) where
  recordNotFound : ε
  uniqueViolation : ε

/-- A transaction: it returns a value and the new database, or fails and is rolled back. -/
abbrev Tx (Row : Name → Type) (ε : Type) : Type → Type := StateT (Database Row) (Except ε)

namespace Tx

/-! ## Statements -/

/-- Read any value off the database. -/
def query (f : Database Row → α) : Tx Row ε α := fun db => .ok (f db, db)

/-- The row under a key, if there is one. -/
def find (n : Name) (i : ℕ) : Tx Row ε (Option (Row n)) := query fun db => (db n).find i

/-- The first row that satisfies a condition, with its key. -/
def first (n : Name) (p : ℕ → Row n → Bool) : Tx Row ε (Option (ℕ × Row n)) :=
  query fun db => (db n).first p

/-- All rows that satisfy a condition, with their keys. -/
def many (n : Name) (p : ℕ → Row n → Bool) : Tx Row ε (List (ℕ × Row n)) :=
  query fun db => (db n).many p

/-- Fail unless a condition holds. -/
def require (c : Prop) [Decidable c] (e : ε) : Tx Row ε Unit :=
  fun db => if c then .ok ((), db) else .error e

/-- The value of an option, or a failure. -/
def orThrow (o : Option α) (e : ε) : Tx Row ε α :=
  fun db => match o with
    | some a => .ok (a, db)
    | none => .error e

/-- The outcome of a computation that does not touch the database. -/
def ofExcept (x : Except ε α) : Tx Row ε α := fun db => x.map fun a => (a, db)

/-- Run a statement only under a condition. -/
def when (c : Prop) [Decidable c] (m : Tx Row ε Unit) : Tx Row ε Unit :=
  fun db => if c then m db else .ok ((), db)

section Writing

variable [DecidableEq Name] [StatementError ε]

/-- The row under a key; a missing row is a failure. -/
def findOrThrow (n : Name) (i : ℕ) : Tx Row ε (Row n) := fun db =>
  match (db n).find i with
  | some r => .ok (r, db)
  | none => .error StatementError.recordNotFound

/-- Append a row and return its key. -/
def create (n : Name) (r : Row n) : Tx Row ε ℕ := fun db =>
  .ok ((db n).next, db.set n ((db n).create r))

/-- Append a row unless one that it clashes with is there already. -/
def createUnique (n : Name) (clash : ℕ → Row n → Bool) (r : Row n) : Tx Row ε ℕ := fun db =>
  match (db n).first clash with
  | some _ => .error StatementError.uniqueViolation
  | none => .ok ((db n).next, db.set n ((db n).create r))

/-- The first row that satisfies a condition; where there is none, a new row. -/
def firstOrCreate (n : Name) (p : ℕ → Row n → Bool) (r : Row n) : Tx Row ε (ℕ × Row n) := fun db =>
  match (db n).first p with
  | some s => .ok (s, db)
  | none => .ok (((db n).next, r), db.set n ((db n).create r))

/-- Rewrite the row under a key; a missing row is a failure. -/
def update (n : Name) (i : ℕ) (f : Row n → Row n) : Tx Row ε Unit := fun db =>
  match (db n).find i with
  | some _ => .ok ((), db.set n ((db n).update i f))
  | none => .error StatementError.recordNotFound

/-- Rewrite the row under a key unless a row under another key clashes with what it becomes. -/
def updateUnique (n : Name) (i : ℕ) (clash : Row n → Row n → Bool) (f : Row n → Row n) : Tx Row ε Unit :=
  fun db =>
    match (db n).find i with
    | some r =>
      match (db n).first fun j s => j != i && clash s (f r) with
      | some _ => .error StatementError.uniqueViolation
      | none => .ok ((), db.set n ((db n).update i f))
    | none => .error StatementError.recordNotFound

/-- Rewrite every row that satisfies a condition and return their number. -/
def updateMany (n : Name) (p : ℕ → Row n → Bool) (f : Row n → Row n) : Tx Row ε ℕ := fun db =>
  .ok (((db n).many p).length, db.set n ((db n).updateMany p f))

/-- Remove every row that satisfies a condition. -/
def deleteMany (n : Name) (p : ℕ → Row n → Bool) : Tx Row ε Unit := fun db =>
  .ok ((), db.set n ((db n).deleteMany p))

end Writing

/-! ## Weakest preconditions -/

/-- Every returning run from `db` ends with a result and a database that satisfy `Q`. -/
def wp (db : Database Row) (m : Tx Row ε α) (Q : α → Database Row → Prop) : Prop :=
  ∀ a db', m db = .ok (a, db') → Q a db'

/-- What a transaction ends with may be weakened. -/
theorem wp_mono {m : Tx Row ε α} {Q R : α → Database Row → Prop} {db : Database Row}
    (h : wp db m Q) (hQR : ∀ a db', Q a db' → R a db') : wp db m R :=
  fun a db' hm => hQR a db' (h a db' hm)

/-- What a transaction ends with in two respects it ends with in both. -/
theorem wp_and {m : Tx Row ε α} {Q R : α → Database Row → Prop} {db : Database Row}
    (hQ : wp db m Q) (hR : wp db m R) : wp db m (fun a db' => Q a db' ∧ R a db') :=
  fun a db' hm => ⟨hQ a db' hm, hR a db' hm⟩

/-- A condition on the database before the run may be put off. -/
theorem wp_imp {p : Prop} {m : Tx Row ε α} {Q : α → Database Row → Prop} {db : Database Row} (h : p → wp db m Q) :
    wp db m fun a db' => p → Q a db' := fun a db' hm hp => h hp a db' hm

/-- A run that returns has its result as the only thing to check. -/
theorem wp_of_ok {m : Tx Row ε α} {Q : α → Database Row → Prop} {db db' : Database Row} {a : α}
    (h : m db = .ok (a, db')) : wp db m Q ↔ Q a db' := by
  constructor
  · intro hQ
    exact hQ a db' h
  · intro hQ b db'' hb
    rw [h] at hb
    cases hb
    exact hQ

/-- A run that fails satisfies every postcondition. -/
theorem wp_of_error {m : Tx Row ε α} {db : Database Row} {e : ε} (h : m db = .error e)
    (Q : α → Database Row → Prop) : wp db m Q := by
  intro a db' hm
  rw [h] at hm
  cases hm

/-- A value changes nothing. -/
@[simp] theorem wp_pure (a : α) (Q : α → Database Row → Prop) (db : Database Row) :
    wp db (pure a : Tx Row ε α) Q ↔ Q a db :=
  wp_of_ok rfl

/-- The second part of a sequence starts where the first one has ended. -/
@[simp] theorem wp_bind (m : Tx Row ε α) (f : α → Tx Row ε β) (Q : β → Database Row → Prop)
    (db : Database Row) : wp db (m >>= f) Q ↔ wp db m (fun a db' => wp db' (f a) Q) := by
  have hrun : (m >>= f) db = (m db).bind fun r => f r.1 r.2 := rfl
  cases hm : m db with
  | error e =>
    have hb : (m >>= f) db = .error e := by rw [hrun, hm]; rfl
    exact iff_of_true (wp_of_error hb Q) (wp_of_error hm _)
  | ok r =>
    rw [wp_of_ok hm]
    refine forall₂_congr fun b db' => ?_
    rw [hrun, hm]
    rfl

/-- A first part whose outcome does not matter. -/
theorem wp_bind_of_forall {m : Tx Row ε α} {f : α → Tx Row ε β} {Q : β → Database Row → Prop}
    {db : Database Row} (h : ∀ a db', wp db' (f a) Q) : wp db (m >>= f) Q :=
  (wp_bind m f Q db).mpr fun a db' _ => h a db'

/-- The value of a transaction may be mapped. -/
@[simp] theorem wp_map (g : α → β) (m : Tx Row ε α) (Q : β → Database Row → Prop)
    (db : Database Row) : wp db (g <$> m) Q ↔ wp db m (fun a => Q (g a)) := by
  have hmap : g <$> m = m >>= fun a => pure (g a) := (bind_pure_comp g m).symm
  rw [hmap, wp_bind]
  simp only [wp_pure]

/-- A transaction that fails ends with nothing. -/
@[simp] theorem wp_throw (e : ε) (Q : α → Database Row → Prop) (db : Database Row) :
    wp db (throw e : Tx Row ε α) Q :=
  wp_of_error (e := e) rfl Q

/-- Each branch of a decision is run under its condition. -/
@[simp] theorem wp_ite (c : Prop) [Decidable c] (m n : Tx Row ε α)
    (Q : α → Database Row → Prop) (db : Database Row) :
    wp db (if c then m else n) Q ↔ (c → wp db m Q) ∧ (¬c → wp db n Q) := by
  by_cases h : c <;> simp [h]

/-- A query answers from the tables as they are. -/
@[simp] theorem wp_query (f : Database Row → α) (Q : α → Database Row → Prop)
    (db : Database Row) : wp db (query f : Tx Row ε α) Q ↔ Q (f db) db :=
  wp_of_ok rfl

/-- A row that is looked up is the stored one. -/
@[simp] theorem wp_find (n : Name) (i : ℕ) (Q : Option (Row n) → Database Row → Prop)
    (db : Database Row) : wp db (find n i : Tx Row ε _) Q ↔ Q ((db n).find i) db :=
  wp_of_ok rfl

/-- A search answers with the first row of its kind. -/
@[simp] theorem wp_first (n : Name) (p : ℕ → Row n → Bool)
    (Q : Option (ℕ × Row n) → Database Row → Prop) (db : Database Row) :
    wp db (first n p : Tx Row ε _) Q ↔ Q ((db n).first p) db :=
  wp_of_ok rfl

/-- A search for all rows answers with those of its kind. -/
@[simp] theorem wp_many (n : Name) (p : ℕ → Row n → Bool)
    (Q : List (ℕ × Row n) → Database Row → Prop) (db : Database Row) :
    wp db (many n p : Tx Row ε _) Q ↔ Q ((db n).many p) db :=
  wp_of_ok rfl

/-- What follows a requirement may rely on it. -/
@[simp] theorem wp_require (c : Prop) [Decidable c] (e : ε) (Q : Unit → Database Row → Prop)
    (db : Database Row) : wp db (require c e : Tx Row ε Unit) Q ↔ (c → Q () db) := by
  by_cases h : c
  · simpa [h] using wp_of_ok (m := require c e) (if_pos h)
  · simpa [h] using wp_of_error (m := require c e) (if_neg h) Q

/-- What follows an option may rely on its value. -/
@[simp] theorem wp_orThrow (o : Option α) (e : ε) (Q : α → Database Row → Prop)
    (db : Database Row) : wp db (orThrow o e : Tx Row ε α) Q ↔ ∀ a, o = some a → Q a db := by
  cases o with
  | none => simpa using wp_of_error (m := orThrow none e) rfl Q
  | some a => simpa using wp_of_ok (m := orThrow (some a) e) rfl

/-- What follows a result may rely on its value. -/
@[simp] theorem wp_ofExcept (x : Except ε α) (Q : α → Database Row → Prop) (db : Database Row) :
    wp db (ofExcept x : Tx Row ε α) Q ↔ ∀ a, x = .ok a → Q a db := by
  cases x with
  | error e => simpa using wp_of_error (m := ofExcept (.error e)) rfl Q
  | ok a => simpa using wp_of_ok (m := ofExcept (.ok a)) rfl

/-- A part that is run under a condition does nothing otherwise. -/
@[simp] theorem wp_when (c : Prop) [Decidable c] (m : Tx Row ε Unit)
    (Q : Unit → Database Row → Prop) (db : Database Row) :
    wp db (when c m) Q ↔ (c → wp db m Q) ∧ (¬c → Q () db) := by
  by_cases h : c
  · simp [wp, when, h]
  · simpa [h] using wp_of_ok (m := when c m) (if_neg h)

/-- A loop keeps what each of its rounds keeps. -/
theorem wp_forM {xs : List β} {f : β → Tx Row ε PUnit} {P : Database Row → Prop}
    {db : Database Row} (hf : ∀ x ∈ xs, ∀ db, P db → wp db (f x) (fun _ => P)) (h : P db) :
    wp db (xs.forM f) (fun _ => P) := by
  induction xs generalizing db with
  | nil => simpa using h
  | cons x xs ih =>
    rw [List.forM_eq_forM, List.forM_cons, wp_bind]
    refine wp_mono (hf x List.mem_cons_self db h) fun _ db' h' => ?_
    exact ih (fun y hy => hf y (List.mem_cons_of_mem _ hy)) h'

/-- A loop that collects its results keeps what each of its rounds keeps. -/
theorem wp_mapM {xs : List β} {f : β → Tx Row ε α} {P : Database Row → Prop} {db : Database Row}
    (hf : ∀ x ∈ xs, ∀ db, P db → wp db (f x) (fun _ => P)) (h : P db) :
    wp db (xs.mapM f) (fun _ => P) := by
  induction xs generalizing db with
  | nil => simpa using h
  | cons x xs ih =>
    simp only [List.mapM_cons, wp_bind, wp_pure]
    refine wp_mono (hf x List.mem_cons_self db h) fun _ db' h' => ?_
    exact ih (fun y hy => hf y (List.mem_cons_of_mem _ hy)) h'

section Writing

variable [DecidableEq Name] [StatementError ε]

omit [DecidableEq Name] in
/-- What follows a lookup that has to succeed may rely on the row. -/
@[simp] theorem wp_findOrThrow (n : Name) (i : ℕ) (Q : Row n → Database Row → Prop)
    (db : Database Row) :
    wp db (findOrThrow n i : Tx Row ε _) Q ↔ ∀ r, (db n).find i = some r → Q r db := by
  cases h : (db n).find i <;> simp [wp, findOrThrow, h]

omit [StatementError ε] in
/-- A row is created under the next key. -/
@[simp] theorem wp_create (n : Name) (r : Row n) (Q : ℕ → Database Row → Prop)
    (db : Database Row) :
    wp db (create n r : Tx Row ε _) Q ↔ Q (db n).next (db.set n ((db n).create r)) :=
  wp_of_ok rfl

/-- A row is created under the next key, and clashes with none that is stored. -/
@[simp] theorem wp_createUnique (n : Name) (clash : ℕ → Row n → Bool) (r : Row n)
    (Q : ℕ → Database Row → Prop) (db : Database Row) :
    wp db (createUnique n clash r : Tx Row ε _) Q ↔
      ((db n).first clash = none → Q (db n).next (db.set n ((db n).create r))) := by
  cases h : (db n).first clash <;> simp [wp, createUnique, h]

omit [StatementError ε] in
/-- The first row of its kind is found, or created under the next key. -/
@[simp] theorem wp_firstOrCreate (n : Name) (p : ℕ → Row n → Bool) (r : Row n)
    (Q : ℕ × Row n → Database Row → Prop) (db : Database Row) :
    wp db (firstOrCreate n p r : Tx Row ε _) Q ↔
      (∀ s, (db n).first p = some s → Q s db) ∧
        ((db n).first p = none → Q ((db n).next, r) (db.set n ((db n).create r))) := by
  cases h : (db n).first p <;> simp [wp, firstOrCreate, h]

/-- A stored row is changed; a missing one makes the transaction fail. -/
@[simp] theorem wp_update (n : Name) (i : ℕ) (f : Row n → Row n)
    (Q : Unit → Database Row → Prop) (db : Database Row) :
    wp db (update n i f : Tx Row ε _) Q ↔
      ∀ r, (db n).find i = some r → Q () (db.set n ((db n).update i f)) := by
  cases h : (db n).find i with
  | none => simp [wp, update, h]
  | some r => simpa using wp_of_ok (m := update n i f) (by simp [update, h])

/-- A stored row is changed, and clashes with no other one. -/
@[simp] theorem wp_updateUnique (n : Name) (i : ℕ) (clash : Row n → Row n → Bool) (f : Row n → Row n)
    (Q : Unit → Database Row → Prop) (db : Database Row) :
    wp db (updateUnique n i clash f : Tx Row ε _) Q ↔
      ∀ r, (db n).find i = some r → ((db n).first fun j s => j != i && clash s (f r)) = none →
        Q () (db.set n ((db n).update i f)) := by
  cases h : (db n).find i with
  | none => simp [wp, updateUnique, h]
  | some r =>
    cases hc : (db n).first fun j s => j != i && clash s (f r) with
    | some _ => simp [wp, updateUnique, h, hc]
    | none => simpa [hc] using wp_of_ok (m := updateUnique n i clash f) (by simp [updateUnique, h, hc])

omit [StatementError ε] in
/-- All rows of a kind are changed. -/
@[simp] theorem wp_updateMany (n : Name) (p : ℕ → Row n → Bool) (f : Row n → Row n)
    (Q : ℕ → Database Row → Prop) (db : Database Row) :
    wp db (updateMany n p f : Tx Row ε _) Q ↔
      Q ((db n).many p).length (db.set n ((db n).updateMany p f)) :=
  wp_of_ok rfl

omit [StatementError ε] in
/-- All rows of a kind are deleted. -/
@[simp] theorem wp_deleteMany (n : Name) (p : ℕ → Row n → Bool)
    (Q : Unit → Database Row → Prop) (db : Database Row) :
    wp db (deleteMany n p : Tx Row ε _) Q ↔ Q () (db.set n ((db n).deleteMany p)) :=
  wp_of_ok rfl

end Writing

/-! ## Frames -/

/-- Every returning run leaves each table outside of a list as it was. -/
def Writes [DecidableEq Name] (ns : List Name) (m : Tx Row ε α) : Prop :=
  ∀ db, wp db m fun _ db' => ∀ n ∉ ns, db' n = db n

section Writes

variable [DecidableEq Name] {ns : List Name}

/-- A value writes nothing. -/
theorem Writes.pure (a : α) : Writes ns (pure a : Tx Row ε α) := fun db => by simp

/-- A query writes nothing. -/
theorem Writes.query (f : Database Row → α) : Writes ns (query f : Tx Row ε α) := fun db => by simp

/-- A lookup writes nothing. -/
theorem Writes.find (n : Name) (i : ℕ) : Writes ns (find n i : Tx Row ε _) := fun db => by simp

/-- A search writes nothing. -/
theorem Writes.first (n : Name) (p : ℕ → Row n → Bool) : Writes ns (first n p : Tx Row ε _) :=
  fun db => by simp

/-- A search for all rows writes nothing. -/
theorem Writes.many (n : Name) (p : ℕ → Row n → Bool) : Writes ns (many n p : Tx Row ε _) :=
  fun db => by simp

/-- A requirement writes nothing. -/
theorem Writes.require (c : Prop) [Decidable c] (e : ε) :
    Writes ns (require c e : Tx Row ε Unit) := fun db => by simp

/-- An option writes nothing. -/
theorem Writes.orThrow (o : Option α) (e : ε) : Writes ns (orThrow o e : Tx Row ε α) :=
  fun db => by simp

/-- A result writes nothing. -/
theorem Writes.ofExcept (x : Except ε α) : Writes ns (ofExcept x : Tx Row ε α) :=
  fun db => by simp

/-- A part that is run under a condition writes no more than the part. -/
theorem Writes.when {c : Prop} [Decidable c] {m : Tx Row ε Unit} (h : Writes ns m) :
    Writes ns (when c m) := fun db => by simp [h db]

/-- A sequence writes what its parts write. -/
theorem Writes.bind {m : Tx Row ε α} {f : α → Tx Row ε β} (hm : Writes ns m)
    (hf : ∀ a, Writes ns (f a)) : Writes ns (m >>= f) := fun db => by
  rw [wp_bind]
  intro a db' h b db'' hb n hn
  rw [hf a db' b db'' hb n hn, hm db a db' h n hn]

/-- A loop writes what its body writes. -/
theorem Writes.forM {xs : List β} {f : β → Tx Row ε PUnit} (hf : ∀ x ∈ xs, Writes ns (f x)) :
    Writes ns (xs.forM f) := fun db =>
  wp_forM (fun x hx db' h => wp_mono (hf x hx db') fun _ db'' h' n hn => by rw [h' n hn, h n hn])
    fun _ _ => rfl

/-- A loop with results writes what its body writes. -/
theorem Writes.mapM {xs : List β} {f : β → Tx Row ε α} (hf : ∀ x ∈ xs, Writes ns (f x)) :
    Writes ns (xs.mapM f) := fun db =>
  wp_mapM (fun x hx db' h => wp_mono (hf x hx db') fun _ db'' h' n hn => by rw [h' n hn, h n hn])
    fun _ _ => rfl

/-- More tables may be allowed for. -/
theorem Writes.mono {ms : List Name} {m : Tx Row ε α} (h : Writes ms m) (hsub : ms ⊆ ns) :
    Writes ns m := fun db =>
  wp_mono (h db) fun _ _ h' n hn => h' n fun hm => hn (hsub hm)

/-- Setting a table leaves all others alone. -/
theorem Writes.set {n : Name} (hn : n ∈ ns) (db : Database Row) (t : Table (Row n)) :
    ∀ m ∉ ns, db.set n t m = db m := by
  intro m hm
  refine Database.set_of_ne db t ?_
  rintro rfl
  exact hm hn

/-- A creation writes its table. -/
theorem Writes.create {n : Name} (hn : n ∈ ns) (r : Row n) : Writes ns (create n r : Tx Row ε _) :=
  fun db => by
    rw [wp_create]
    exact Writes.set hn db _

/-- A change of many rows writes their table. -/
theorem Writes.updateMany {n : Name} (hn : n ∈ ns) (p : ℕ → Row n → Bool) (f : Row n → Row n) :
    Writes ns (updateMany n p f : Tx Row ε _) := fun db => by
  rw [wp_updateMany]
  exact Writes.set hn db _

/-- A deletion writes its table. -/
theorem Writes.deleteMany {n : Name} (hn : n ∈ ns) (p : ℕ → Row n → Bool) :
    Writes ns (deleteMany n p : Tx Row ε _) := fun db => by
  rw [wp_deleteMany]
  exact Writes.set hn db _

/-- A row that is found or created is written to its table at most. -/
theorem Writes.firstOrCreate {n : Name} (hn : n ∈ ns) (p : ℕ → Row n → Bool) (r : Row n) :
    Writes ns (firstOrCreate n p r : Tx Row ε _) := fun db => by
  rw [wp_firstOrCreate]
  exact ⟨fun _ _ _ _ => rfl, fun _ => Writes.set hn db _⟩

variable [StatementError ε]

/-- A lookup that has to succeed writes nothing. -/
theorem Writes.findOrThrow (n : Name) (i : ℕ) : Writes ns (findOrThrow n i : Tx Row ε _) :=
  fun db => by simp

/-- A creation without a clash writes its table. -/
theorem Writes.createUnique {n : Name} (hn : n ∈ ns) (clash : ℕ → Row n → Bool) (r : Row n) :
    Writes ns (createUnique n clash r : Tx Row ε _) := fun db => by
  rw [wp_createUnique]
  exact fun _ => Writes.set hn db _

/-- A change of a row writes its table. -/
theorem Writes.update {n : Name} (hn : n ∈ ns) (i : ℕ) (f : Row n → Row n) :
    Writes ns (update n i f : Tx Row ε _) := fun db => by
  rw [wp_update]
  exact fun _ _ => Writes.set hn db _

/-- A change of a row without a clash writes its table. -/
theorem Writes.updateUnique {n : Name} (hn : n ∈ ns) (i : ℕ) (clash : Row n → Row n → Bool)
    (f : Row n → Row n) : Writes ns (updateUnique n i clash f : Tx Row ε _) := fun db => by
  rw [wp_updateUnique]
  exact fun _ _ _ => Writes.set hn db _

end Writes

/-! ## Relations that a transaction stays within -/

/-- Every returning run leaves a database that is related to the one it was given. -/
def Within (R : Database Row → Database Row → Prop) (m : Tx Row ε α) : Prop :=
  ∀ db, wp db m fun _ db' => R db db'

/-- What holds of one database holds of the next one as well. -/
def Keeps (Φ : Database Row → Prop) (db db' : Database Row) : Prop := Φ db → Φ db'

/-- Keeping a condition is reflexive and transitive. -/
instance (Φ : Database Row → Prop) : IsPreorder (Database Row) (Keeps Φ) where
  refl _ := id
  trans _ _ _ h h' := h' ∘ h

/-- A transaction that keeps a condition may rely on it. -/
theorem wp_keeps {Φ : Database Row → Prop} {m : Tx Row ε α} {db : Database Row}
    (h : Φ db → wp db m fun _ db' => Φ db') : wp db m fun _ db' => Keeps Φ db db' := wp_imp h

section Within

variable {R : Database Row → Database Row → Prop} [IsPreorder (Database Row) R]

/-- What follows a step that has stayed within the relation may do so as well. -/
theorem Within.after {m : Tx Row ε α} {f : α → Tx Row ε β} {db : Database Row}
    (hm : wp db m fun _ db' => R db db') (hf : ∀ a, Within R (f a)) :
    wp db (m >>= f) fun _ db' => R db db' := by
  rw [wp_bind]
  exact fun a db' h b db'' hb => trans_of R (hm a db' h) (hf a db' b db'' hb)

/-- A sequence stays within a relation if its parts do. -/
theorem Within.bind {m : Tx Row ε α} {f : α → Tx Row ε β} (hm : Within R m)
    (hf : ∀ a, Within R (f a)) : Within R (m >>= f) := fun db => Within.after (hm db) hf

/-- A transaction that stays within the relation, run after a change that did. -/
theorem Within.from {m : Tx Row ε α} {db db₁ : Database Row} (h : R db db₁) (hm : Within R m) :
    wp db₁ m fun _ db' => R db db' :=
  wp_mono (hm db₁) fun _ _ => trans_of R h

/-- What follows a transaction that stays within the relation may rely on it. -/
theorem Within.then {m : Tx Row ε α} {f : α → Tx Row ε β} {db db₁ : Database Row}
    {Q : β → Database Row → Prop} (h : R db db₁) (hm : Within R m)
    (hf : ∀ a db₂, R db db₂ → wp db₂ (f a) Q) : wp db₁ (m >>= f) Q := by
  rw [wp_bind]
  exact wp_mono (Within.from h hm) hf

/-- A part that is run under a condition stays within a relation if the part does. -/
theorem Within.when {c : Prop} [Decidable c] {m : Tx Row ε Unit} (h : Within R m) :
    Within R (when c m) := fun db => by
  rw [wp_when]
  exact ⟨fun _ => h db, fun _ => refl_of R db⟩

/-- A loop stays within a relation if its body does. -/
theorem Within.forM {xs : List β} {f : β → Tx Row ε PUnit} (hf : ∀ x ∈ xs, Within R (f x)) :
    Within R (xs.forM f) := fun db =>
  wp_forM (fun x hx db' h => wp_mono (hf x hx db') fun _ _ h' => trans_of R h h') (refl_of R db)

/-- A loop with results stays within a relation if its body does. -/
theorem Within.mapM {xs : List β} {f : β → Tx Row ε α} (hf : ∀ x ∈ xs, Within R (f x)) :
    Within R (xs.mapM f) := fun db =>
  wp_mapM (fun x hx db' h => wp_mono (hf x hx db') fun _ _ h' => trans_of R h h') (refl_of R db)

omit [IsPreorder (Database Row) R] in
/-- A transaction that does not write the tables the relation is about. -/
theorem Within.of_writes [DecidableEq Name] {ns : List Name} {m : Tx Row ε α} (h : Writes ns m)
    (hns : ∀ db db', (∀ n ∉ ns, db' n = db n) → R db db') : Within R m := fun db =>
  wp_mono (h db) fun _ db' => hns db db'

/-- A transaction that writes nothing. -/
theorem Within.of_reads [DecidableEq Name] {m : Tx Row ε α} (h : Writes [] m) : Within R m :=
  .of_writes h fun db db' hsame => by
    rw [show db' = db from funext fun n => hsame n List.not_mem_nil]
    exact refl_of R db

/-- A value stays within every relation. -/
theorem Within.pure [DecidableEq Name] (a : α) : Within R (pure a : Tx Row ε α) := .of_reads (.pure a)

omit [IsPreorder (Database Row) R] in
/-- A loop is described round by round, along its list. -/
theorem wp_forM_rec {R : List β → Database Row → Database Row → Prop} {f : β → Tx Row ε PUnit}
    {xs : List β} (hnil : ∀ db, R [] db db)
    (hcons : ∀ x ∈ xs, ∀ ys db, wp db (f x) fun _ db₁ => ∀ db', R ys db₁ db' → R (x :: ys) db db')
    (db : Database Row) : wp db (xs.forM f) fun _ db' => R xs db db' := by
  induction xs generalizing db with
  | nil => simpa using hnil db
  | cons x xs ih =>
    rw [List.forM_eq_forM, List.forM_cons, wp_bind]
    refine wp_mono (hcons x List.mem_cons_self xs db) fun _ db₁ h₁ => ?_
    have hrest := ih (fun y hy => hcons y (List.mem_cons_of_mem _ hy)) db₁
    rw [List.forM_eq_forM] at hrest
    exact wp_mono hrest fun _ db' h' => h₁ db' h'

omit [IsPreorder (Database Row) R] in
/-- A loop that collects its results is described round by round, along its list. -/
theorem wp_mapM_rec {R : List β → List α → Database Row → Database Row → Prop} {f : β → Tx Row ε α}
    {xs : List β} (hnil : ∀ db, R [] [] db db)
    (hcons : ∀ x ∈ xs, ∀ ys as db, wp db (f x) fun a db₁ => ∀ db', R ys as db₁ db' →
      R (x :: ys) (a :: as) db db')
    (db : Database Row) : wp db (xs.mapM f) fun as db' => R xs as db db' := by
  induction xs generalizing db with
  | nil => simpa using hnil db
  | cons x xs ih =>
    simp only [List.mapM_cons, wp_bind, wp_pure]
    intro a db₁ h₁ as db' h'
    refine hcons x List.mem_cons_self xs as db a db₁ h₁ db' ?_
    exact ih (fun y hy => hcons y (List.mem_cons_of_mem _ hy)) db₁ as db' h'

omit [IsPreorder (Database Row) R] in
/-- A loop adds up what each of its rounds contributes. -/
theorem wp_forM_sum {M : Type*} [AddMonoid M] {R : M → Database Row → Database Row → Prop}
    (hzero : ∀ db, R 0 db db) (hadd : ∀ {a b db db₁ db'}, R a db db₁ → R b db₁ db' → R (a + b) db db')
    {xs : List β} {f : β → Tx Row ε PUnit} {d : β → M}
    (hf : ∀ x ∈ xs, ∀ db, wp db (f x) fun _ db' => R (d x) db db') (db : Database Row) :
    wp db (xs.forM f) fun _ db' => R (xs.map d).sum db db' := by
  refine wp_forM_rec (R := fun ys => R (ys.map d).sum) hzero (fun x hx ys db => ?_) db
  refine wp_mono (hf x hx db) fun _ db₁ h₁ db' h' => ?_
  rw [List.map_cons, List.sum_cons]
  exact hadd h₁ h'

end Within

/-! ## Tables that a transaction makes evolve -/

/-- Every returning run changes the rows of a table along a relation, and removes none. -/
def Evolves (n : Name) (R : Row n → Row n → Prop) (m : Tx Row ε α) : Prop :=
  Within (fun db db' => (db n).Evolves R (db' n)) m

section Evolves

variable {n : Name} {R : Row n → Row n → Prop} [IsPreorder (Row n) R]

/-- A table evolves from itself, and its evolutions compose. -/
instance : IsPreorder (Database Row) fun db db' => (db n).Evolves R (db' n) where
  refl db := .refl (db n)
  trans _ _ _ := .trans

omit [IsPreorder (Row n) R] in
/-- A transaction lets a table evolve if every run of it does. -/
theorem evolves_iff {m : Tx Row ε α} :
    Evolves n R m ↔ ∀ db, wp db m fun _ db' => (db n).Evolves R (db' n) := Iff.rfl

/-- A transaction that does not write the table. -/
theorem Evolves.of_writes [DecidableEq Name] {ns : List Name} {m : Tx Row ε α} (h : Writes ns m)
    (hn : n ∉ ns) : Evolves n R m :=
  Within.of_writes h fun db db' hsame => by
    rw [hsame n hn]
    exact .refl _

/-- What follows a step that has made the table evolve may do so as well. -/
theorem Evolves.after {m : Tx Row ε α} {f : α → Tx Row ε β} {db : Database Row}
    (hm : wp db m fun _ db' => (db n).Evolves R (db' n)) (hf : ∀ a, Evolves n R (f a)) :
    wp db (m >>= f) fun _ db' => (db n).Evolves R (db' n) :=
  Within.after (R := fun db db' => (db n).Evolves R (db' n)) hm hf

/-- A sequence lets a table evolve if its parts do. -/
theorem Evolves.bind {m : Tx Row ε α} {f : α → Tx Row ε β} (hm : Evolves n R m)
    (hf : ∀ a, Evolves n R (f a)) : Evolves n R (m >>= f) := Within.bind hm hf

/-- A part that is run under a condition lets a table evolve if the part does. -/
theorem Evolves.when {c : Prop} [Decidable c] {m : Tx Row ε Unit} (h : Evolves n R m) :
    Evolves n R (when c m) := Within.when h

/-- A loop lets a table evolve if its body does. -/
theorem Evolves.forM {xs : List β} {f : β → Tx Row ε PUnit} (hf : ∀ x ∈ xs, Evolves n R (f x)) :
    Evolves n R (xs.forM f) := Within.forM hf

/-- A loop with results lets a table evolve if its body does. -/
theorem Evolves.mapM {xs : List β} {f : β → Tx Row ε α} (hf : ∀ x ∈ xs, Evolves n R (f x)) :
    Evolves n R (xs.mapM f) := Within.mapM hf

variable [DecidableEq Name]

/-- A transaction that writes nothing. -/
theorem Evolves.of_reads {m : Tx Row ε α} (h : Writes [] m) : Evolves n R m := Within.of_reads h

/-- A value lets every table evolve. -/
theorem Evolves.pure (a : α) : Evolves n R (pure a : Tx Row ε α) := Within.pure a

/-- A change of all rows of a kind lets their table evolve if it takes each one to a related one. -/
theorem Evolves.updateMany {p : ℕ → Row n → Bool} {f : Row n → Row n}
    (h : ∀ i r, p i r → R r (f r)) : Evolves n R (updateMany n p f : Tx Row ε _) := evolves_iff.mpr fun _ => by
  rw [wp_updateMany, Database.set_self]
  exact .updateMany fun i a _ => h i a

/-- A change of rows elsewhere lets a table evolve. -/
theorem Evolves.updateMany_of_ne {k : Name} (h : n ≠ k) (p : ℕ → Row k → Bool) (f : Row k → Row k) :
    Evolves n R (Tx.updateMany k p f : Tx Row ε _) :=
  .of_writes (.updateMany (List.mem_singleton_self k) p f) (by simpa using h)

/-- A row that is created elsewhere lets a table evolve. -/
theorem Evolves.create_of_ne {k : Name} (h : n ≠ k) (r : Row k) :
    Evolves n R (Tx.create k r : Tx Row ε _) :=
  .of_writes (.create (List.mem_singleton_self k) r) (by simpa using h)

variable [StatementError ε]

/-- A row that is created lets its table evolve. -/
theorem Evolves.createUnique (clash : ℕ → Row n → Bool) (r : Row n) :
    Evolves n R (createUnique n clash r : Tx Row ε _) := evolves_iff.mpr fun db => by
  rw [wp_createUnique, Database.set_self]
  exact fun _ => .create _ _

/-- A change of a row elsewhere lets a table evolve. -/
theorem Evolves.update_of_ne {k : Name} (h : n ≠ k) (i : ℕ) (f : Row k → Row k) :
    Evolves n R (Tx.update k i f : Tx Row ε _) :=
  .of_writes (.update (List.mem_singleton_self k) i f) (by simpa using h)

/-- An update of a row that the transaction has read. -/
theorem Evolves.update_of_find {db : Database Row} {i : ℕ} {f : Row n → Row n}
    (h : ∀ r, (db n).find i = some r → R r (f r)) :
    wp db (Tx.update n i f : Tx Row ε _) fun _ db' => (db n).Evolves R (db' n) := by
  rw [wp_update, Database.set_self]
  exact fun _ _ => .update h

/-- A change of a row lets its table evolve if it takes each row to a related one. -/
theorem Evolves.update (i : ℕ) {f : Row n → Row n} (h : ∀ r, R r (f r)) :
    Evolves n R (update n i f : Tx Row ε _) := evolves_iff.mpr fun db => by
  rw [wp_update, Database.set_self]
  exact fun _ _ => .update fun a _ => h a

end Evolves

end Tx

end Relational

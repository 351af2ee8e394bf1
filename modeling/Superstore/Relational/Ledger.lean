import Mathlib.Algebra.Order.Group.Defs
import Mathlib.Logic.Relation
import Superstore.Relational.Transaction

/-!
# Accounts and their entries

A table of accounts, each with an owner and a balance, beside a table of entries that say why a
balance has moved. A posting moves one balance by the amount of the entry that it adds, and an
entry's reference is used once. Everything that is made of postings and of new empty accounts
leaves every balance equal to the sum of the account's entries.

A condition on postings is carried along: what every posting of a run satisfies tells which
entries the run can have added, and whether it can have overdrawn an account.
-/

namespace Relational

/-- How accounts of type `α` and entries of type `β` are read. -/
structure Ledger (α β κ ρ M : Type) [AddCommGroup M] where
  owner : α → κ
  balance : α → M
  move : α → M → α
  account : β → ℕ
  amount : β → M
  reference : β → Option ρ
  owner_move : ∀ a x, owner (move a x) = owner a
  balance_move : ∀ a x, balance (move a x) = balance a + x

namespace Ledger

variable {α β κ ρ M : Type} [AddCommGroup M] (L : Ledger α β κ ρ M)

/-- No owner has two accounts. -/
def Owned (accounts : Table α) : Prop :=
  ∀ i a j b, accounts.find i = some a → accounts.find j = some b → L.owner a = L.owner b → i = j

/-- A reference that no entry has been added under. -/
def Unused (entries : Table β) (r : Option ρ) : Prop :=
  ∀ k e x, entries.find k = some e → L.reference e = some x → r ≠ some x

/-- One posting, or one new account without a balance. -/
inductive Step (P : α → β → Prop) : Table α × Table β → Table α × Table β → Prop
  | enrol {accounts : Table α} {entries : Table β} {a : α}
      (hnew : ∀ i b, accounts.find i = some b → L.owner b ≠ L.owner a) (hzero : L.balance a = 0) :
      Step P (accounts, entries) (accounts.create a, entries)
  | post {accounts : Table α} {entries : Table β} {a : α} {e : β}
      (ha : accounts.find (L.account e) = some a) (hunused : L.Unused entries (L.reference e))
      (hP : P a e) :
      Step P (accounts, entries)
        (accounts.update (L.account e) (fun a => L.move a (L.amount e)), entries.create e)

/-- Any number of postings and new accounts. -/
abbrev Moves (P : α → β → Prop) : Table α × Table β → Table α × Table β → Prop :=
  Relation.ReflTransGen (L.Step P)

/-- Every entry belongs to an account, no reference occurs twice, and every balance is the sum of
the account's entries. -/
structure Balanced (s : Table α × Table β) : Prop where
  owned : L.Owned s.1
  known : ∀ k e, s.2.find k = some e → ∃ a, s.1.find (L.account e) = some a
  unique : ∀ k e l f x, s.2.find k = some e → s.2.find l = some f → L.reference e = some x →
    L.reference f = some x → k = l
  balance : ∀ i a, s.1.find i = some a →
    L.balance a = s.2.total fun _ e => if L.account e = i then L.amount e else 0

/-- No account is overdrawn. -/
def Solvent [LE M] (accounts : Table α) : Prop := ∀ i a, accounts.find i = some a → 0 ≤ L.balance a

variable {L} {P Q : α → β → Prop} {s s' : Table α × Table β}

/-- Accounts that hold nothing balance with no entries. -/
theorem Balanced.of_empty {accounts : Table α} {entries : Table β} (howned : L.Owned accounts)
    (hzero : ∀ i a, accounts.find i = some a → L.balance a = 0) (hnone : ∀ k, entries.find k = none) :
    L.Balanced (accounts, entries) where
  owned := howned
  known k e he := absurd ((hnone k).symm.trans he) nofun
  unique k e _ _ _ he := absurd ((hnone k).symm.trans he) nofun
  balance i a ha := by
    have hempty : ∀ k e, entries.find k = some e → (if L.account e = i then L.amount e else 0) = 0 :=
      fun k e he => absurd ((hnone k).symm.trans he) nofun
    rw [hzero i a ha, Table.total_congr hempty, Table.total_zero]

/-! ## What a step keeps -/

/-- Where an account of the second table comes from. -/
theorem find_of_move {accounts : Table α} {i j : ℕ} {x : M} {b : α}
    (h : (accounts.update i (fun a => L.move a x)).find j = some b) :
    ∃ a, accounts.find j = some a ∧ L.owner b = L.owner a ∧
      L.balance b = L.balance a + if j = i then x else 0 := by
  rw [Table.find_update] at h
  by_cases hj : j = i
  · rw [if_pos hj] at h
    obtain ⟨a, ha, rfl⟩ := Option.map_eq_some_iff.mp h
    refine ⟨a, ha, L.owner_move a x, ?_⟩
    rw [if_pos hj, L.balance_move]
  · rw [if_neg hj] at h
    refine ⟨b, h, rfl, ?_⟩
    rw [if_neg hj, add_zero]

/-- Where an entry of the second table comes from. -/
theorem find_of_create {γ : Type} {t : Table γ} {a b : γ} {i : ℕ} (h : (t.create a).find i = some b) :
    i = t.next ∧ b = a ∨ t.find i = some b := by
  rw [Table.find_create] at h
  by_cases hi : i = t.next
  · rw [if_pos hi] at h
    exact .inl ⟨hi, (Option.some.inj h).symm⟩
  · rw [if_neg hi] at h
    exact .inr h

/-- A posting leaves every account with its owner. -/
theorem Step.owned (h : L.Step P s s') (ho : L.Owned s.1) : L.Owned s'.1 := by
  cases h with
  | @enrol accounts entries c hnew hzero =>
    intro i a j b ha hb hsame
    change (accounts.create c).find i = some a at ha
    change (accounts.create c).find j = some b at hb
    rcases find_of_create ha with ⟨rfl, rfl⟩ | hold
    · rcases find_of_create hb with ⟨rfl, -⟩ | hold
      · rfl
      · exact absurd hsame.symm (hnew j b hold)
    · rcases find_of_create hb with ⟨rfl, rfl⟩ | hold'
      · exact absurd hsame (hnew i a hold)
      · exact ho i a j b hold hold' hsame
  | post ha hunused hP =>
    intro i b j c hb hc hsame
    obtain ⟨b', hb', hown, -⟩ := find_of_move hb
    obtain ⟨c', hc', hown', -⟩ := find_of_move hc
    exact ho i b' j c' hb' hc' (hown.symm.trans (hsame.trans hown'))

/-- Postings leave every account with its owner. -/
theorem Moves.owned (h : L.Moves P s s') (ho : L.Owned s.1) : L.Owned s'.1 := by
  induction h with
  | refl => exact ho
  | tail _ hstep ih => exact hstep.owned ih

/-- A new account has no entries, and a posting adds to the balance what it adds to the entries. -/
theorem Step.balanced (h : L.Step P s s') (hb : L.Balanced s) : L.Balanced s' := by
  have howned : L.Owned s'.1 := h.owned hb.owned
  cases h with
  | @enrol accounts entries a hnew hzero =>
    refine ⟨howned, fun k e he => ?_, hb.unique, fun i b hi => ?_⟩
    · obtain ⟨c, hc⟩ := hb.known k e he
      exact ⟨c, Table.find_create_of_find a hc⟩
    · rcases find_of_create hi with ⟨rfl, rfl⟩ | hi
      · rw [hzero]
        have hnone : ∀ k e, entries.find k = some e →
            (if L.account e = accounts.next then L.amount e else 0) = 0 := by
          intro k e he
          obtain ⟨c, hc⟩ := hb.known k e he
          exact if_neg (Table.lt_next hc).ne
        rw [Table.total_congr hnone]
        exact (Table.total_zero entries).symm
      · exact hb.balance i b hi
  | @post accounts entries a e ha hunused hP =>
    refine ⟨howned, fun k f hf => ?_, fun k f l g x hf hg hx hx' => ?_, fun i b hi => ?_⟩
    · have hkept {i : ℕ} {c : α} (hc : accounts.find i = some c) :
          ∃ c', (accounts.update (L.account e) fun a => L.move a (L.amount e)).find i = some c' := by
        rw [Table.find_update, hc]
        split <;> exact ⟨_, rfl⟩
      rcases find_of_create hf with ⟨-, rfl⟩ | hf
      · exact hkept ha
      · obtain ⟨c, hc⟩ := hb.known k f hf
        exact hkept hc
    · change (entries.create e).find k = some f at hf
      change (entries.create e).find l = some g at hg
      rcases find_of_create hf with ⟨rfl, rfl⟩ | hold
      · rcases find_of_create hg with ⟨rfl, -⟩ | hold
        · rfl
        · exact absurd hx (hunused l g x hold hx')
      · rcases find_of_create hg with ⟨rfl, rfl⟩ | hold'
        · exact absurd hx' (hunused k f x hold hx)
        · exact hb.unique k f l g x hold hold' hx hx'
    · obtain ⟨c, hc, -, hbal⟩ := find_of_move hi
      calc L.balance b = L.balance c + (if i = L.account e then L.amount e else 0) := hbal
        _ = (entries.total fun _ f => if L.account f = i then L.amount f else 0) +
            (if L.account e = i then L.amount e else 0) := by
              rw [hb.balance i c hc]
              simp only [eq_comm]
        _ = _ := (Table.total_create entries e _).symm

/-- Postings leave every account balanced. -/
theorem Moves.balanced (h : L.Moves P s s') (hb : L.Balanced s) : L.Balanced s' := by
  induction h with
  | refl => exact hb
  | tail _ hstep ih => exact hstep.balanced ih

/-- Postings that never overdraw a covered account overdraw none. -/
theorem Step.solvent [PartialOrder M] (hP : ∀ a e, P a e → 0 ≤ L.balance a → 0 ≤ L.balance a + L.amount e)
    (h : L.Step P s s') (hs : L.Solvent s.1) : L.Solvent s'.1 := by
  cases h with
  | enrol hnew hzero =>
    intro i b hi
    rcases find_of_create hi with ⟨-, rfl⟩ | hi
    · exact hzero.ge
    · exact hs i b hi
  | @post accounts entries a e ha hunused hpost =>
    intro i b hi
    obtain ⟨c, hc, -, hbal⟩ := find_of_move hi
    rw [hbal]
    by_cases hie : i = L.account e
    · subst hie
      obtain rfl := Option.some.inj (ha.symm.trans hc)
      rw [if_pos rfl]
      exact hP a e hpost (hs _ a ha)
    · rw [if_neg hie, add_zero]
      exact hs i c hc

/-- Postings that the balance covers leave every account solvent. -/
theorem Moves.solvent [PartialOrder M] (hP : ∀ a e, P a e → 0 ≤ L.balance a → 0 ≤ L.balance a + L.amount e)
    (h : L.Moves P s s') (hs : L.Solvent s.1) : L.Solvent s'.1 := by
  induction h with
  | refl => exact hs
  | tail _ hstep ih => exact hstep.solvent hP ih

/-- An account stays, with its owner. -/
theorem Moves.account (h : L.Moves P s s') {i : ℕ} {a : α} (ha : s.1.find i = some a) :
    ∃ a', s'.1.find i = some a' ∧ L.owner a' = L.owner a := by
  induction h with
  | refl => exact ⟨a, ha, rfl⟩
  | tail _ hstep ih =>
    obtain ⟨b, hb, hown⟩ := ih
    cases hstep with
    | @enrol accounts entries c hnew hzero => exact ⟨b, Table.find_create_of_find c hb, hown⟩
    | @post accounts entries c e hc hunused hP =>
      have hfind : (accounts.update (L.account e) fun a => L.move a (L.amount e)).find i =
          if i = L.account e then some (L.move b (L.amount e)) else some b := by
        rw [Table.find_update, show accounts.find i = some b from hb]
        rfl
      by_cases hi : i = L.account e
      · exact ⟨_, hfind.trans (if_pos hi), (L.owner_move _ _).trans hown⟩
      · exact ⟨_, hfind.trans (if_neg hi), hown⟩

/-- Entries stay, and what a run adds are postings that satisfy its condition. -/
theorem Moves.entries (h : L.Moves P s s') :
    (∀ k e, s.2.find k = some e → s'.2.find k = some e) ∧
      ∀ k e, s'.2.find k = some e → s.2.find k = some e ∨ ∃ a, P a e := by
  induction h with
  | refl => exact ⟨fun _ _ => id, fun _ _ => .inl⟩
  | tail _ hstep ih =>
    cases hstep with
    | enrol hnew hzero => exact ih
    | @post accounts entries a e ha hunused hP =>
      refine ⟨fun k f hf => Table.find_create_of_find e (ih.1 k f hf), fun k f hf => ?_⟩
      rcases find_of_create hf with ⟨-, rfl⟩ | hf
      · exact .inr ⟨a, hP⟩
      · exact ih.2 k f hf

/-- The condition on postings may be weakened. -/
theorem Moves.mono (h : L.Moves P s s') (hPQ : ∀ a e, P a e → Q a e) : L.Moves Q s s' := by
  induction h with
  | refl => exact .refl
  | tail _ hstep ih =>
    refine ih.tail ?_
    cases hstep with
    | enrol hnew hzero => exact .enrol hnew hzero
    | post ha hunused hP => exact .post ha hunused (hPQ _ _ hP)

/-! ## Ledgers in a database -/

section Database

variable {Name : Type} [DecidableEq Name] {Row : Name → Type} {ε γ : Type} {n k : Name}
  (L : Ledger (Row n) (Row k) κ ρ M)

/-- From one database to another the accounts and entries have only been moved by postings. -/
def Posts (P : Row n → Row k → Prop) (db db' : Database Row) : Prop :=
  L.Owned (db n) → L.Moves P (db n, db k) (db' n, db' k)

variable {L} {P Q : Row n → Row k → Prop} {db db' : Database Row}

/-- Posting is reflexive and transitive. -/
instance : IsPreorder (Database Row) (L.Posts P) where
  refl _ _ := .refl
  trans _ _ _ h h' ho := (h ho).trans (h' ((h ho).owned ho))

omit [DecidableEq Name] in

/-- The condition on the postings of a database may be weakened. -/
theorem Posts.mono (h : L.Posts P db db') (hPQ : ∀ a e, P a e → Q a e) : L.Posts Q db db' :=
  fun ho => (h ho).mono hPQ

omit [DecidableEq Name] in

/-- Accounts and entries that stay have had no postings. -/
theorem Posts.of_eq (hn : db' n = db n) (hk : db' k = db k) : L.Posts P db db' := fun _ => by
  rw [hn, hk]

/-- A transaction that writes neither accounts nor entries. -/
theorem posts_of_writes {ns : List Name} {m : Tx Row ε γ} (h : Tx.Writes ns m) (hn : n ∉ ns)
    (hk : k ∉ ns) : Tx.Within (L.Posts P) m :=
  .of_writes h fun _ _ hsame => .of_eq (hsame n hn) (hsame k hk)

omit [DecidableEq Name] in
/-- A posting, in whichever order its two tables are written. -/
theorem Posts.of_post {i : ℕ} {a : Row n} {e : Row k} {f : Row n → Row n} {clash : ℕ → Row k → Bool}
    (hn : db' n = (db n).update i f) (hk : db' k = (db k).create e) (hi : L.account e = i)
    (ha : (db n).find i = some a) (hf : f a = L.move a (L.amount e))
    (hfresh : (db k).first clash = none)
    (hclash : ∀ j b x, L.reference b = some x → L.reference e = some x → clash j b) (hP : P a e) :
    L.Posts P db db' := fun _ => by
  subst hi
  have hmove : (db n).update (L.account e) f = (db n).update (L.account e) fun a => L.move a (L.amount e) :=
    Table.update_congr ha hf
  rw [hn, hk, hmove]
  refine .single (.post ha (fun j b x hb hx hx' => ?_) hP)
  have hfalse := Table.first_eq_none.mp hfresh j b hb
  rw [hclash j b x hx hx'] at hfalse
  cases hfalse

/-- A balance that is moved before its entry is added. -/
theorem Posts.post (hnk : n ≠ k) {i : ℕ} {a : Row n} {e : Row k} {f : Row n → Row n}
    {clash : ℕ → Row k → Bool} (hi : L.account e = i) (ha : (db n).find i = some a)
    (hf : f a = L.move a (L.amount e))
    (hfresh : ((db.set n ((db n).update i f)) k).first clash = none)
    (hclash : ∀ j b x, L.reference b = some x → L.reference e = some x → clash j b) (hP : P a e) :
    L.Posts P db ((db.set n ((db n).update i f)).set k
      (((db.set n ((db n).update i f)) k).create e)) := by
  have hk : (db.set n ((db n).update i f)) k = db k := Database.set_of_ne db _ hnk.symm
  rw [hk] at hfresh
  refine .of_post (f := f) ?_ ?_ hi ha hf hfresh hclash hP
  · rw [Database.set_of_ne _ _ hnk, Database.set_self]
  · rw [Database.set_self, hk]

/-- An entry that is added before its balance is moved. -/
theorem Posts.post_rev (hnk : n ≠ k) {i : ℕ} {a : Row n} {e : Row k} {f : Row n → Row n}
    {clash : ℕ → Row k → Bool} (hi : L.account e = i) (ha : (db n).find i = some a)
    (hf : f a = L.move a (L.amount e)) (hfresh : (db k).first clash = none)
    (hclash : ∀ j b x, L.reference b = some x → L.reference e = some x → clash j b) (hP : P a e) :
    L.Posts P db ((db.set k ((db k).create e)).set n
      (((db.set k ((db k).create e)) n).update i f)) := by
  refine .of_post (f := f) ?_ ?_ hi ha hf hfresh hclash hP
  · rw [Database.set_self, Database.set_of_ne _ _ hnk]
  · rw [Database.set_of_ne _ _ hnk.symm, Database.set_self]

/-- An entry that moves no balance. -/
theorem Posts.note (hnk : n ≠ k) {a : Row n} {e : Row k} {clash : ℕ → Row k → Bool}
    (ha : (db n).find (L.account e) = some a) (hzero : a = L.move a (L.amount e))
    (hfresh : (db k).first clash = none)
    (hclash : ∀ j b x, L.reference b = some x → L.reference e = some x → clash j b) (hP : P a e) :
    L.Posts P db (db.set k ((db k).create e)) := by
  refine .of_post (f := id) ?_ ?_ rfl ha hzero hfresh hclash hP
  · rw [Database.set_of_ne _ _ hnk, Table.update_id]
  · rw [Database.set_self]

/-- The account of an owner is found, or opened without a balance. -/
theorem firstOrCreate_posts (hnk : n ≠ k) {p : ℕ → Row n → Bool} {r : Row n}
    (hp : ∀ i a, p i a ↔ L.owner a = L.owner r) (hzero : L.balance r = 0) (db : Database Row) :
    Tx.wp db (Tx.firstOrCreate n p r : Tx Row ε _) fun s db' => L.Posts P db db' ∧ db' k = db k ∧
      (db' n).find s.1 = some s.2 ∧ L.owner s.2 = L.owner r := by
  rw [Tx.wp_firstOrCreate]
  refine ⟨fun s hs => ?_, fun hnone => ?_⟩
  · obtain ⟨hfind, hps⟩ := Table.find_of_first hs
    exact ⟨fun _ => .refl, rfl, hfind, (hp _ _).mp hps⟩
  · have hk : db.set n ((db n).create r) k = db k := Database.set_of_ne db _ hnk.symm
    refine ⟨fun _ => ?_, hk, ?_, rfl⟩
    · rw [Database.set_self, hk]
      refine .single (.enrol (fun i b hb hown => ?_) hzero)
      have hfalse := Table.first_eq_none.mp hnone i b hb
      rw [(hp i b).mpr hown] at hfalse
      cases hfalse
    · rw [Database.set_self]
      exact Table.find_create_self _ _

end Database

end Ledger

end Relational

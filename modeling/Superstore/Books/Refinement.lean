import Superstore.Books.Steps
import Superstore.Orders.Moves

/-!
# The books of a database

Every database keeps books, and what a statement does to its tables is a change of the books.
A transaction refines the books when all that it does to consistent ones are legitimate steps.
-/

namespace Superstore

open Relational.Tx
open Payments (setCurrentStatus)

/-- What a group asks for. -/
def CheckoutPaymentGroup.terms (g : CheckoutPaymentGroup) : GroupTerms :=
  ⟨g.paymentId, g.totalAmount, g.allocations⟩

/-- Whether a payment funds a wallet or repays an installment. -/
def Payment.special (p : Payment) : Bool :=
  match p.metadata.purpose with
  | some .walletTopup | some .walletTransferTopup | some .walletDvaTopup | some .bnplRepayment => true
  | some .klumpCheckout | none => false

/-- What is fixed about a payment. -/
def Payment.terms (p : Payment) : PaymentTerms := ⟨p.amount, p.provider, p.transactionRef, p.special⟩

/-- What is fixed about a refund. -/
def Refund.terms (r : Refund) : RefundTerms := ⟨r.orderId, r.paymentId, r.amount, r.provider⟩

/-- What is fixed about a Klump transaction. -/
def KlumpTransaction.terms (k : KlumpTransaction) : KlumpTerms := ⟨k.paymentGroupId, k.paymentId⟩

/-- The books that a database keeps. -/
def books (db : Database) : Books where
  order k := ((db .order).find k).map (·.orderNumber)
  orderStatus k := (((db .order).find k).map (·.currentStatus)).getD .orderReceived
  group i := ((db .checkoutPaymentGroup).find i).map (·.terms)
  groupStatus i := (((db .checkoutPaymentGroup).find i).map (·.status)).getD .pending
  payment p := ((db .payment).find p).map (·.terms)
  paymentStatus p := (((db .payment).find p).map (·.status)).getD .pending
  refund k := ((db .refund).find k).map (·.terms)
  klump k := ((db .klumpTransaction).find k).map (·.terms)
  settled := Settlements.Settled db

/-- Where the books are consistent, they have made legitimate steps. -/
def Refines (spared : Prop) (db db' : Database) : Prop :=
  Consistent (books db) → Books.Steps spared (books db) (books db')

/-- Refining the books is reflexive and transitive. -/
instance (spared : Prop) : IsPreorder Database (Refines spared) where
  refl _ _ := .refl
  trans _ _ _ h h' hB := (h hB).trans (h' (Books.Steps.advances (h hB) hB).1)

/-- The entries of a ledger stay. -/
abbrev LedgerKept (db db' : Database) : Prop :=
  (db .storeWalletTransaction).Evolves Eq (db' .storeWalletTransaction)

/-- An order that has been settled stays settled where the ledger is kept. -/
theorem LedgerKept.settled {db db' : Database} (h : LedgerKept db db') (n : String)
    (hn : Settlements.Settled db n) : Settlements.Settled db' n := by
  obtain ⟨i, t, ht, href⟩ := hn
  obtain ⟨t', ht', rfl⟩ := h i t ht
  exact ⟨i, t, ht', href⟩

/-- The tables that the books are kept of, besides the ledger. -/
def bookTables : List TableName := [.order, .payment, .checkoutPaymentGroup, .refund, .klumpTransaction]

/-- The books of a database in which only the ledger has grown. -/
theorem books_of_frame {db db' : Database} (h : ∀ n ∈ bookTables, db' n = db n) :
    books db' = { books db with settled := Settlements.Settled db' } := by
  simp only [books, h .order (by decide), h .payment (by decide),
    h .checkoutPaymentGroup (by decide), h .refund (by decide), h .klumpTransaction (by decide)]

/-- The books stay where no table of theirs is written. -/
theorem books_congr {db db' : Database}
    (h : ∀ n ∈ .storeWalletTransaction :: bookTables, db' n = db n) : books db' = books db := by
  have hsettled : Settlements.Settled db' = Settlements.Settled db := by
    funext n
    simp only [Settlements.Settled, h .storeWalletTransaction List.mem_cons_self]
  rw [books_of_frame fun n hn => h n (List.mem_cons_of_mem _ hn), hsettled]
  rfl

/-- The same books are a refinement. -/
theorem Refines.of_eq {spared : Prop} {db db' : Database} (h : books db' = books db) :
    Refines spared db db' := by
  intro _
  rw [h]

/-- Nothing but entries of the ledger is added. -/
theorem Refines.of_frame {spared : Prop} {db db' : Database} (h : ∀ n ∈ bookTables, db' n = db n)
    (hledger : LedgerKept db db') : Refines spared db db' := by
  intro _
  rw [books_of_frame h]
  exact .single (.settle hledger.settled)

/-- A transaction that writes none of the tables that the books are kept of. -/
theorem refines_of_writes {spared : Prop} {α : Type} {ns : List TableName} {m : Tx α}
    (hm : Writes ns m) (hns : ∀ n ∈ .storeWalletTransaction :: bookTables, n ∉ ns) :
    Within (Refines spared) m :=
  .of_writes hm fun _ _ hsame => .of_eq (books_congr fun n hn => hsame n (hns n hn))

/-! ## Rows of the database and entries of the books -/

section Rows

variable {db : Database} {i : ℕ}

/-- The books of a stored order. -/
theorem books_order {o : Order} (h : (db .order).find i = some o) :
    (books db).order i = some o.orderNumber ∧ (books db).orderStatus i = o.currentStatus := by
  simp only [books, h, Option.map_some, Option.getD_some, and_self]

/-- The books of a stored group. -/
theorem books_group {g : CheckoutPaymentGroup} (h : (db .checkoutPaymentGroup).find i = some g) :
    (books db).group i = some g.terms ∧ (books db).groupStatus i = g.status := by
  simp only [books, h, Option.map_some, Option.getD_some, and_self]

/-- The books of a stored payment. -/
theorem books_payment {p : Payment} (h : (db .payment).find i = some p) :
    (books db).payment i = some p.terms ∧ (books db).paymentStatus i = p.status := by
  simp only [books, h, Option.map_some, Option.getD_some, and_self]

/-- The books of a stored refund. -/
theorem books_refund {r : Refund} (h : (db .refund).find i = some r) :
    (books db).refund i = some r.terms := by
  simp only [books, h, Option.map_some]

/-- The books of a stored transaction of Klump. -/
theorem books_klump {k : KlumpTransaction} (h : (db .klumpTransaction).find i = some k) :
    (books db).klump i = some k.terms := by
  simp only [books, h, Option.map_some]

/-- A group in the books is a row of its table. -/
theorem find_of_books_group {g : GroupTerms} (h : (books db).group i = some g) :
    ∃ r, (db .checkoutPaymentGroup).find i = some r ∧ r.terms = g :=
  Option.map_eq_some_iff.mp h

end Rows

/-! ## Statements -/

/-- The books of an order that gets another status. -/
theorem books_set_order {db : Database} {k : ℕ} {o : Order} (h : (db .order).find k = some o)
    (s : OrderStatus) :
    books (db.set .order ((db .order).update k (setCurrentStatus s))) = (books db).setOrder k s := by
  ext1
  · funext j
    simp only [books, Books.setOrder, Relational.Database.set_self, Relational.Table.find_update]
    split
    · cases (db .order).find j <;> rfl
    · rfl
  · funext j
    simp only [books, Books.setOrder, Relational.Database.set_self, Relational.Table.find_update]
    by_cases hj : j = k
    · subst hj
      rw [if_pos rfl, Function.update_self, h]
      rfl
    · rw [if_neg hj, Function.update_of_ne hj]
  all_goals rfl

/-- An update of a payment that keeps its amount, its provider and its reference. -/
theorem books_set_payment {db : Database} {p : ℕ} {r : Payment} {f : Payment → Payment}
    (h : (db .payment).find p = some r) (hamount : (f r).amount = r.amount)
    (hprovider : (f r).provider = r.provider) (href : (f r).transactionRef = r.transactionRef) :
    books (db.set .payment ((db .payment).update p f)) =
      ((books db).setSpecial p (f r).special).setPayment p (f r).status := by
  ext1
  case payment =>
    funext j
    simp only [books, Books.setSpecial, Books.setPayment, Books.modify,
      Relational.Database.set_self, Relational.Table.find_update]
    by_cases hj : j = p
    · subst hj
      simp only [if_pos, h, Option.map_some, Payment.terms, hamount, hprovider, href]
    · simp only [if_neg hj]
  case paymentStatus =>
    funext j
    simp only [books, Books.setSpecial, Books.setPayment, Relational.Database.set_self,
      Relational.Table.find_update]
    by_cases hj : j = p
    · subst hj
      simp only [if_pos, Function.update_self, h, Option.map_some, Option.getD_some]
    · rw [if_neg hj, Function.update_of_ne hj]
  all_goals rfl

/-- An update of a payment that leaves its terms alone. -/
theorem books_set_paymentStatus {db : Database} {p : ℕ} {r : Payment} {f : Payment → Payment}
    (h : (db .payment).find p = some r) (hterms : (f r).terms = r.terms) :
    books (db.set .payment ((db .payment).update p f)) = (books db).setPayment p (f r).status := by
  rw [books_set_payment h (congrArg PaymentTerms.amount hterms) (congrArg PaymentTerms.provider hterms)
    (congrArg PaymentTerms.reference hterms), show (f r).special = r.terms.special from
    congrArg PaymentTerms.special hterms, Books.setSpecial_self (books_payment h).1]

/-- An update of refunds that leaves their terms alone. -/
theorem books_set_refund (db : Database) (p : ℕ → Refund → Bool) {f : Refund → Refund}
    (h : ∀ r, (f r).terms = r.terms) :
    books (db.set .refund ((db .refund).updateMany p f)) = books db := by
  ext1
  case refund =>
    funext k
    simp only [books, Relational.Database.set_self, Relational.Table.find_updateMany, Option.map_map]
    refine congrArg (Option.map · _) (funext fun r => ?_)
    simp only [Function.comp_apply]
    split
    · exact h r
    · rfl
  all_goals rfl

/-- An update of Klump transactions that leaves their terms alone. -/
theorem books_set_klump (db : Database) (p : ℕ → KlumpTransaction → Bool)
    {f : KlumpTransaction → KlumpTransaction} (h : ∀ k, (f k).terms = k.terms) :
    books (db.set .klumpTransaction ((db .klumpTransaction).updateMany p f)) = books db := by
  ext1
  case klump =>
    funext k
    simp only [books, Relational.Database.set_self, Relational.Table.find_updateMany, Option.map_map]
    refine congrArg (Option.map · _) (funext fun t => ?_)
    simp only [Function.comp_apply]
    split
    · exact h t
    · rfl
  all_goals rfl

/-- Steps that are legitimate once the books are known to be consistent. -/
theorem refines_of_steps {spared : Prop} {α : Type} {m : Tx α} {db : Database}
    (h : Consistent (books db) → wp db m fun _ db' => Books.Steps spared (books db) (books db')) :
    wp db m fun _ db' => Refines spared db db' := fun a db' hrun hB => h hB a db' hrun

/-- A payment stays special or becomes so while no group is linked to it, and its status changes
legitimately or not at all. -/
theorem refines_set_payment {spared : Prop} {db : Database} {p : ℕ} {r : Payment}
    {f : Payment → Payment} (h : (db .payment).find p = some r) (hamount : (f r).amount = r.amount)
    (hprovider : (f r).provider = r.provider) (href : (f r).transactionRef = r.transactionRef)
    (hspecial : (f r).special = true → r.special = true ∨ (books db).Unlinked p)
    (hstatus : (f r).status = r.status ∨
      Books.Change spared (books db) ((books db).setPayment p (f r).status)) :
    Refines spared db (db.set .payment ((db .payment).update p f)) := by
  intro hB
  rw [books_set_payment h hamount hprovider href]
  have hsteps : Books.Steps spared (books db) ((books db).setPayment p (f r).status) := by
    rcases hstatus with hsame | hchange
    · rw [hsame, ← (books_payment h).2, Books.setPayment_self]
    · exact .single hchange
  refine hsteps.tail (.special (B := (books db).setPayment p (f r).status) ?_)
  cases hs : (f r).special with
  | false => exact .inl rfl
  | true =>
    refine .inr ((hspecial hs).elim (fun hold => ?_) id)
    refine ⟨Option.isSome_of_mem (books_payment h).1, fun i g hg hp => ?_⟩
    obtain ⟨q, hq, -, hq', -⟩ := hB.linked i g p hg hp
    obtain rfl := Option.some.inj ((books_payment h).1.symm.trans hq)
    rw [show r.terms.special = r.special from rfl, hold] at hq'
    cases hq'

/-- An update of a group that leaves its terms alone. -/
theorem books_set_groupStatus {db : Database} {i : ℕ} {g : CheckoutPaymentGroup}
    {f : CheckoutPaymentGroup → CheckoutPaymentGroup}
    (h : (db .checkoutPaymentGroup).find i = some g) (hterms : (f g).terms = g.terms) :
    books (db.set .checkoutPaymentGroup ((db .checkoutPaymentGroup).update i f)) =
      { books db with groupStatus := Function.update (books db).groupStatus i (f g).status } := by
  ext1
  case group =>
    funext j
    simp only [books, Relational.Database.set_self, Relational.Table.find_update]
    by_cases hj : j = i
    · subst hj
      simp only [if_pos, h, Option.map_some, hterms]
    · simp only [if_neg hj]
  case groupStatus =>
    funext j
    simp only [books, Relational.Database.set_self, Relational.Table.find_update]
    by_cases hj : j = i
    · subst hj
      simp only [if_pos, Function.update_self, h, Option.map_some, Option.getD_some]
    · rw [if_neg hj, Function.update_of_ne hj]
  all_goals rfl

/-- An update of a group that links it to a payment. -/
theorem books_set_link {db : Database} {i p : ℕ} {g : CheckoutPaymentGroup}
    {f : CheckoutPaymentGroup → CheckoutPaymentGroup}
    (h : (db .checkoutPaymentGroup).find i = some g)
    (hterms : (f g).terms = { g.terms with paymentId := some p }) :
    books (db.set .checkoutPaymentGroup ((db .checkoutPaymentGroup).update i f)) =
      { books db with
        group := Books.modify (books db).group i fun t => { t with paymentId := some p }
        groupStatus := Function.update (books db).groupStatus i (f g).status } := by
  ext1
  case group =>
    funext j
    simp only [books, Books.modify, Relational.Database.set_self, Relational.Table.find_update]
    by_cases hj : j = i
    · subst hj
      simp only [if_pos, h, Option.map_some, hterms]
    · simp only [if_neg hj]
  case groupStatus =>
    funext j
    simp only [books, Relational.Database.set_self, Relational.Table.find_update]
    by_cases hj : j = i
    · subst hj
      simp only [if_pos, Function.update_self, h, Option.map_some, Option.getD_some]
    · rw [if_neg hj, Function.update_of_ne hj]
  all_goals rfl

section Create

variable {α β : Type} (t : Relational.Table α) (a : α)

/-- A created row is an entry under the next key. -/
theorem map_find_create (v : α → β) :
    (fun i => ((t.create a).find i).map v) =
      Books.enter (fun i => (t.find i).map v) t.next (v a) := by
  funext i
  simp only [Books.enter, Relational.Table.find_create]
  split <;> rfl

/-- A created row that begins with the default status. -/
theorem getD_find_create {v : α → β} {d : β} (h : v a = d) :
    (fun i => (((t.create a).find i).map v).getD d) = fun i => ((t.find i).map v).getD d := by
  funext i
  rw [Relational.Table.find_create]
  split
  · next hi =>
    rw [Relational.Table.find_of_next_le hi.ge]
    exact h
  · rfl

end Create

variable (db : Database)

/-- The books of a new payment. -/
theorem books_create_payment (r : Payment) :
    books (db.set .payment ((db .payment).create r)) =
      ((books db).addPayment (db .payment).next r.terms).setPayment (db .payment).next r.status := by
  ext1
  case payment => exact map_find_create (db .payment) r (·.terms)
  case paymentStatus =>
    funext i
    simp only [books, Books.addPayment, Books.setPayment, Relational.Database.set_self,
      Relational.Table.find_create]
    by_cases hi : i = (db .payment).next
    · subst hi
      simp only [if_pos, Function.update_self, Option.map_some, Option.getD_some]
    · rw [if_neg hi, Function.update_of_ne hi]
  all_goals rfl

/-- The next payment is not in the books yet. -/
theorem books_payment_next : (books db).payment (db .payment).next = none := by
  simp only [books, Relational.Table.find_of_next_le (le_refl (db .payment).next), Option.map_none]

/-- A new payment that a group is linked to. -/
theorem books_create_link {db : Database} {i : ℕ} {g : CheckoutPaymentGroup} {r : Payment}
    {f : CheckoutPaymentGroup → CheckoutPaymentGroup} (h : (db .checkoutPaymentGroup).find i = some g)
    (hterms : (f g).terms = { g.terms with paymentId := some (db .payment).next }) :
    books ((db.set .payment ((db .payment).create r)).set .checkoutPaymentGroup
        ((db.set .payment ((db .payment).create r) .checkoutPaymentGroup).update i f)) =
      ((books db).link i (db .payment).next r.terms (f g).status).setPayment (db .payment).next
        r.status := by
  have hlink := @books_set_link (db.set .payment ((db .payment).create r)) i (db .payment).next g f h
    hterms
  rw [books_create_payment] at hlink
  exact hlink

/-- The books of a new refund. -/
theorem books_create_refund (r : Refund) :
    books (db.set .refund ((db .refund).create r)) =
      (books db).addRefund (db .refund).next r.terms := by
  ext1
  case refund => exact map_find_create (db .refund) r (·.terms)
  all_goals rfl

/-- The next refund is not in the books yet. -/
theorem books_refund_next : (books db).refund (db .refund).next = none := by
  simp only [books, Relational.Table.find_of_next_le (le_refl (db .refund).next), Option.map_none]

/-- The books of a new transaction of Klump. -/
theorem books_create_klump (k : KlumpTransaction) :
    books (db.set .klumpTransaction ((db .klumpTransaction).create k)) =
      { books db with klump := Books.enter (books db).klump (db .klumpTransaction).next k.terms } := by
  ext1
  case klump => exact map_find_create (db .klumpTransaction) k (·.terms)
  all_goals rfl

/-- The next transaction of Klump is not in the books yet. -/
theorem books_klump_next : (books db).klump (db .klumpTransaction).next = none := by
  simp only [books, Relational.Table.find_of_next_le (le_refl (db .klumpTransaction).next),
    Option.map_none]

/-- The books of a new order. -/
theorem books_create_order {o : Order} (h : o.currentStatus = .orderReceived) :
    books (db.set .order ((db .order).create o)) =
      { books db with order := Books.enter (books db).order (db .order).next o.orderNumber } := by
  ext1
  case order => exact map_find_create (db .order) o (·.orderNumber)
  case orderStatus => exact getD_find_create (db .order) o h
  all_goals rfl

/-- The next order is not in the books yet. -/
theorem books_order_next : (books db).order (db .order).next = none ∧
    (books db).orderStatus (db .order).next = .orderReceived := by
  simp only [books, Relational.Table.find_of_next_le (le_refl (db .order).next), Option.map_none,
    Option.getD_none, and_self]

/-- The books of a new group. -/
theorem books_create_group {g : CheckoutPaymentGroup} (h : g.status = .pending) :
    books (db.set .checkoutPaymentGroup ((db .checkoutPaymentGroup).create g)) =
      { books db with
        group := Books.enter (books db).group (db .checkoutPaymentGroup).next g.terms } := by
  ext1
  case group => exact map_find_create (db .checkoutPaymentGroup) g (·.terms)
  case groupStatus => exact getD_find_create (db .checkoutPaymentGroup) g h
  all_goals rfl

/-- The next group is not in the books yet. -/
theorem books_group_next : (books db).group (db .checkoutPaymentGroup).next = none ∧
    (books db).groupStatus (db .checkoutPaymentGroup).next = .pending := by
  simp only [books, Relational.Table.find_of_next_le (le_refl (db .checkoutPaymentGroup).next),
    Option.map_none, Option.getD_none, and_self]

end Superstore

import Superstore.Properties.Captured
import Superstore.Properties.RefundTerminal
import Superstore.Properties.Topups
import Superstore.Wallets.StoreAccounts

/-!
# The shares of stores

A store is credited with its share of an order when the order is paid, and the share is taken back when the order
is cancelled and its customer refunded. So an order that is paid and has no refund has brought its store its share,
one that is refunded has brought it nothing, and what a wallet holds is what the orders of its store have brought
less what the store has withdrawn. -/

namespace Superstore

open Interleaving Relational Relational.Tx
open Settlements (settlementReference)

/-- A refund of an order is there. -/
def HasRefund (db : Database) (k : ℕ) : Prop := ∃ l r, (db .refund).find l = some r ∧ r.orderId = k

/-- The share of an order has been taken back. -/
def HasReversal (db : Database) (k : ℕ) : Prop :=
  ∃ j t, (db .storeWalletTransaction).find j = some t ∧ t.orderId = some k ∧ t.type = .debit

/-- An order belongs to a group that is paid. -/
def OrderFunded (db : Database) (k : ℕ) : Prop :=
  ∃ i g, (db .checkoutPaymentGroup).find i = some g ∧ g.status = .paid ∧ k ∈ g.allocations.map Allocation.orderId

/-- Of an order that is paid, the share is taken back exactly if the order has a refund. -/
structure RefundsMatched (db : Database) : Prop where
  reversed : ∀ k, OrderFunded db k → HasRefund db k → HasReversal db k
  refunded : ∀ k, HasReversal db k → HasRefund db k

/-- A refund stays one of its order and its payment. -/
def Refund.SameOrder (r r' : Refund) : Prop := r'.orderId = r.orderId ∧ r'.paymentId = r.paymentId

/-- Belonging to the same order is reflexive and transitive. -/
instance : IsPreorder Refund Refund.SameOrder where
  refl _ := ⟨rfl, rfl⟩
  trans _ _ _ h h' := ⟨h'.1.trans h.1, h'.2.trans h.2⟩

variable {db db' : Database}

/-- An order that has a refund keeps one. -/
theorem HasRefund.mono {k : ℕ} (h : HasRefund db k)
    (hlater : (db .refund).Evolves Refund.SameOrder (db' .refund)) : HasRefund db' k := by
  obtain ⟨l, r, hr, hk⟩ := h
  obtain ⟨r', hr', hsame⟩ := hlater l r hr
  exact ⟨l, r', hr', hsame.1.trans hk⟩

/-- An order that has been taken back stays so. -/
theorem HasReversal.mono {k : ℕ} (h : HasReversal db k)
    (hkept : ∀ j t, (db .storeWalletTransaction).find j = some t → (db' .storeWalletTransaction).find j = some t) :
    HasReversal db' k := by
  obtain ⟨j, t, ht, hentry⟩ := h
  exact ⟨j, t, hkept j t ht, hentry⟩

/-- An order that has a refund is paid only if it was paid when it had the refund already: its group had been
released before otherwise. -/
theorem OrderFunded.before {k : ℕ} (h : OrderFunded db' k) (hrefund : HasRefund db k) (hB : Consistent (books db))
    (hM : Books.Money (books db)) (hB' : Consistent (books db')) (hlater : (books db).Later (books db')) :
    OrderFunded db k := by
  obtain ⟨i, g, hg, hpaid, hk⟩ := h
  obtain ⟨l, r, hr, rfl⟩ := hrefund
  obtain ⟨j, g₀, hg₀, hlinked, hmem⟩ := hB.refund_owed l _ (books_refund hr)
  obtain ⟨g₁, hg₁, hlater₁⟩ := hlater.group j g₀ hg₀
  have hshare : r.orderId ∈ g₀.orders := List.mem_map_of_mem hmem
  have hshare₁ : r.orderId ∈ g₁.orders := by
    rw [GroupTerms.orders, hlater₁.allocations]
    exact hshare
  obtain ⟨hterms, hstatus⟩ := books_group hg
  obtain rfl := hB'.carrier_unique i _ j g₁ hterms hg₁ r.orderId hk hshare₁
  obtain ⟨g₂, hg₂, rfl⟩ := find_of_books_group hg₀
  rcases hM.refunded l _ i _ (books_refund hr) hg₀ hlinked with hpaid₀ | ⟨hfailed, -⟩
  · exact ⟨i, g₂, hg₂, (books_group hg₂).2.symm.trans hpaid₀, hshare⟩
  · rw [hlater.failed i _ hg₀ hfailed, hpaid] at hstatus
    cases hstatus

/-- What every change has to show: new refunds are of orders that are not paid, or go with a reversal, and new
reversals go with a refund. -/
theorem RefundsMatched.step (h : RefundsMatched db) (hB : Consistent (books db)) (hM : Books.Money (books db))
    (hB' : Consistent (books db')) (hlater : (books db).Later (books db'))
    (hrefunds : (db .refund).Evolves Refund.SameOrder (db' .refund))
    (hkept : ∀ j t, (db .storeWalletTransaction).find j = some t → (db' .storeWalletTransaction).find j = some t)
    (hrefund : ∀ k, HasRefund db' k → HasRefund db k ∨ (OrderFunded db' k → HasReversal db' k))
    (hreversal : ∀ k, HasReversal db' k → HasReversal db k ∨ HasRefund db' k) : RefundsMatched db' where
  reversed k hfunded hk := by
    rcases hrefund k hk with hold | hnew
    · exact (h.reversed k (hfunded.before hold hB hM hB' hlater) hold).mono hkept
    · exact hnew hfunded
  refunded k hk := by
    rcases hreversal k hk with hold | hnew
    · exact (h.refunded k hold).mono hrefunds
    · exact hnew

/-! ## Refunds -/

/-- Refunds are entered for one payment only. -/
def LateRefunds (p : ℕ) (db db' : Database) : Prop :=
  (db .refund).Grows (fun r => r.paymentId = p) Refund.SameOrder (db' .refund)

/-- Entering refunds for one payment is reflexive and transitive. -/
instance (p : ℕ) : IsPreorder Database (LateRefunds p) where
  refl _ := .refl _
  trans _ _ _ := .trans

namespace Payments

/-- Paying back a late payment enters refunds for it only. -/
theorem lateRefund_late (p groupId : ℕ) (g : CheckoutPaymentGroup) (a : Allocation) :
    Within (LateRefunds p) (lateRefund p groupId g a) := by
  refine .bind (.of_reads (.first _ _)) fun existing => ?_
  cases existing with
  | some existing => exact .pure _
  | none =>
    intro db
    rw [wp_createUnique]
    intro _
    rw [LateRefunds, Database.set_self]
    exact .create _ rfl

/-- Taking in a late payment enters refunds for it only. -/
theorem acceptLatePayment_late (e : Env) (p : ℕ) : Within (LateRefunds p) (acceptLatePayment e p) := by
  refine .bind
    (.of_writes (.update (List.mem_singleton_self TableName.payment) _ _) fun _ _ hsame => ?_) fun _ => ?_
  · exact .of_eq (hsame _ (by decide))
  · refine .bind (.of_reads (.many _ _)) fun groups => .bind ?_ fun _ => .pure _
    exact .mapM fun g _ => .mapM fun a _ => lateRefund_late p g.1 g.2 a

/-- Where the outcome of a payment enters refunds, the payment had failed, and no group changes. -/
theorem finalizePayment_late (e : Env) (p : ℕ) (groups : List (ℕ × ℕ)) (success : Bool) (db : Database) :
    wp db (finalizePayment e p groups success) fun _ db' => db' .refund = db .refund ∨
      (∃ q, (db .payment).find p = some q ∧ q.status = .failed) ∧
        db' .checkoutPaymentGroup = db .checkoutPaymentGroup ∧ LateRefunds p db db' := by
  have hlock : Writes Cart.tables (groups.forM fun g => do let _ ← Cart.lock g.2; pure ()) :=
    .forM fun g _ => .bind (Cart.lock_writes _) fun _ => .pure ()
  rw [finalizePayment]
  refine hlock.before fun _ db₁ h₁ => ?_
  rw [wp_bind, wp_findOrThrow, h₁ .payment (by decide)]
  intro current hcurrent
  have hwrites {α : Type} {ns : List TableName} {m : Tx α} (hm : Writes ns m) (hns : .refund ∉ ns) :
      wp db₁ m fun _ db' => db' .refund = db .refund ∨
        (∃ q, (db .payment).find p = some q ∧ q.status = .failed) ∧
          db' .checkoutPaymentGroup = db .checkoutPaymentGroup ∧ LateRefunds p db db' :=
    wp_mono (hm db₁) fun _ _ hsame => .inl ((hsame _ hns).trans (h₁ _ (by decide)))
  split
  · exact (wp_pure _ _ _).mpr (.inl (h₁ _ (by decide)))
  · split
    · next hfailed =>
      split
      · refine wp_mono (wp_and (acceptLatePayment_late e p db₁) (acceptLatePayment_writes e p db₁))
          fun _ db₂ h₂ => ?_
        obtain ⟨hlate, hsame⟩ := h₂
        refine .inr ⟨⟨current, hcurrent, hfailed⟩, (hsame _ (by decide)).trans (h₁ _ (by decide)), ?_⟩
        rw [LateRefunds, ← h₁ .refund (by decide)]
        exact hlate
      · exact (wp_pure _ _ _).mpr (.inl (h₁ _ (by decide)))
    · split
      · exact hwrites (.bind (.update (List.mem_cons_self (a := TableName.payment)) _ _) fun _ =>
          .bind (.forM fun g _ => (completeGroup_writes e g.1).mono (List.subset_cons_self _ _)) fun _ => .pure _)
          (by decide)
      · exact hwrites (.bind (.update (List.mem_cons_self (a := TableName.payment)) _ _) fun _ =>
          .bind (.forM fun g _ => (failGroup_writes e g.1).mono (List.subset_cons_self _ _)) fun _ => .pure _)
          (by decide)

end Payments

/-- Whether an operation enters refunds. -/
def Op.entersRefunds : {α : Type} → Op α → Bool
  | _, .finalizePayment _ _ _ | _, .cancelOrder _ _ _ => true
  | _, _ => false

/-- Other operations enter none. -/
theorem exec_noRefund {α : Type} (op : Op α) (hop : op.entersRefunds = false) (e : Env) (w : World) :
    (w.db .refund).Grows (fun _ => False) Refund.SameOrder ((op.exec e w).2.db .refund) := by
  by_cases hwrites : TableName.refund ∈ op.writes
  swap
  · exact .of_eq (exec_frame op e w _ hwrites)
  have hrun {α : Type} {op : Op α} {m : Env → Tx α} (hop : op.transaction = some m)
      (hm : wp w.db (m e) fun _ db => (w.db .refund).Grows (fun _ => False) Refund.SameOrder (db .refund)) :
      (w.db .refund).Grows (fun _ => False) Refund.SameOrder ((op.exec e w).2.db .refund) :=
    exec_transaction hop
      (Φ := fun w' => (w.db .refund).Grows (fun _ => False) Refund.SameOrder (w'.db .refund)) (.refl _) hm
  cases op <;> dsimp only [Op.writes] at hwrites <;>
    first | exact absurd hwrites (by decide) | exact absurd hop.symm Bool.false_ne_true | clear hwrites hop
  case claimRefund => exact hrun rfl (grows_updateMany fun _ _ _ _ => ⟨rfl, rfl⟩)
  case reopenRefund => exact hrun rfl (grows_updateMany fun _ _ _ _ => ⟨rfl, rfl⟩)
  case updateRefund id u =>
    refine hrun rfl ?_
    rw [Payments.updateRefund, wp_bind, wp_update]
    intro _ _
    rw [wp_findOrThrow, Database.set_self]
    exact fun _ _ => .update fun r _ => by cases u <;> exact ⟨rfl, rfl⟩
  case completeManual =>
    refine hrun rfl ?_
    rw [Payments.completeManual, wp_bind, wp_update]
    intro _ _
    rw [wp_findOrThrow, Database.set_self]
    exact fun _ _ => .update fun r _ => ⟨rfl, rfl⟩

/-! ## Runs -/

/-- Withdrawals of stores have references of their own kind. -/
def marking : Contract Op World Env where
  inv _ := True
  guar _ _ := True
  known op _ := op.Marked
  allowed _ _ _ := True
  refl _ := trivial
  trans _ _ := trivial

/-- What is kept of the shares of stores, beside the books and the ledgers. -/
def storeShares : Contract Op World Env where
  inv w := (accounting.both ledgers).inv w ∧ StoreAccounts w.db ∧ RefundsMatched w.db
  guar := (accounting.both ledgers).guar
  known op w := (accounting.both ledgers).known op w ∧ op.Marked
  allowed _ e _ := e.Honest ∧ e.Numbered
  refl := (accounting.both ledgers).refl
  trans := (accounting.both ledgers).trans

/-- Entries of stores are never rewritten, and an operation that is neither a cancellation nor a withdrawal enters
credits only. -/
theorem exec_storeEntries {α : Type} (op : Op α) (e : Env) {w : World}
    (hb : storeLedger.Balanced (w.db .storeWallet, w.db .storeWalletTransaction)) :
    (∀ j t, (w.db .storeWalletTransaction).find j = some t →
      ((op.exec e w).2.db .storeWalletTransaction).find j = some t) ∧
    ∀ j t, ((op.exec e w).2.db .storeWalletTransaction).find j = some t →
      (w.db .storeWalletTransaction).find j = some t ∨ ∃ v, op.storePosting w.db v t :=
  Ledger.Moves.entries (op.storePosts e w hb.owned)

/-- Every operation keeps the order and the payment of a refund. -/
theorem exec_sameOrder {α : Type} (op : Op α) (e : Env) (w : World) :
    (w.db .refund).Evolves Refund.SameOrder ((op.exec e w).2.db .refund) := by
  by_cases hop : op.entersRefunds = true
  · have hrun {α : Type} {op : Op α} {m : Env → Tx α} (hop : op.transaction = some m)
        (hm : wp w.db (m e) fun _ db => (w.db .refund).Evolves Refund.SameOrder (db .refund)) :
        (w.db .refund).Evolves Refund.SameOrder ((op.exec e w).2.db .refund) :=
      exec_transaction hop (Φ := fun w' => (w.db .refund).Evolves Refund.SameOrder (w'.db .refund)) (.refl _) hm
    cases op <;> first | exact absurd hop Bool.false_ne_true | clear hop
    case finalizePayment => exact hrun rfl (Payments.finalizePayment_evolves e _ _ _ w.db)
    case cancelOrder => exact hrun rfl (Orders.cancel_evolves e _ _ _ w.db)
  · exact (exec_noRefund op (Bool.eq_false_iff.mpr hop) e w).kept

/-- An operation that enters credits only takes no share back. -/
theorem exec_noReversal {α : Type} (op : Op α) (e : Env) {w : World}
    (hb : storeLedger.Balanced (w.db .storeWallet, w.db .storeWalletTransaction))
    (hop : ∀ v t, op.storePosting w.db v t → t.type = .credit) {k : ℕ} (h : HasReversal (op.exec e w).2.db k) :
    HasReversal w.db k := by
  obtain ⟨j, t, ht, hk, hdebit⟩ := h
  rcases (exec_storeEntries op e hb).2 j t ht with hold | ⟨v, hposting⟩
  · exact ⟨j, t, hold, hk, hdebit⟩
  · rw [hop v t hposting] at hdebit
    cases hdebit

/-- The withdrawal of a store takes no share back. -/
theorem withdrawStore_noReversal (storeId walletId : ℕ) (amount : ℚ) (reference : String) (db : Database) :
    wp db (Wallets.withdrawStore storeId walletId amount reference)
      fun _ db' => ∀ k, HasReversal db' k → HasReversal db k := by
  rw [Wallets.withdrawStore, wp_bind, wp_update]
  intro _ _
  rw [wp_bind, wp_createUnique]
  intro _
  rw [wp_create]
  intro k h
  obtain ⟨j, t, ht, hk, hdebit⟩ := h
  rcases Ledger.find_of_create (t := db .storeWalletTransaction) ht with ⟨-, rfl⟩ | hold
  · cases hk
  · exact ⟨j, t, hold, hk, hdebit⟩

/-- A group that is linked to a failed payment of Paystack is not paid. -/
theorem not_funded_of_failed (hB' : Consistent (books db')) (hM : Books.Money (books db))
    (hgroups : db' .checkoutPaymentGroup = db .checkoutPaymentGroup) {l : ℕ} {r : Refund}
    (hr : (db' .refund).find l = some r)
    (hpaystack : ∃ q, (books db).payment r.paymentId = some q ∧ q.provider = .paystack)
    (hfailed : (books db).paymentStatus r.paymentId = .failed) : ¬OrderFunded db' r.orderId := by
  intro hfunded
  obtain ⟨i, g, hg, hpaid, hk⟩ := hfunded
  obtain ⟨j, g', hg', hlinked, hmem⟩ := hB'.refund_owed l _ (books_refund hr)
  obtain ⟨hterms, -⟩ := books_group hg
  obtain rfl := hB'.carrier_unique i _ j g' hterms hg' r.orderId hk (List.mem_map_of_mem hmem)
  obtain rfl := Option.some.inj (hterms.symm.trans hg')
  rw [hgroups] at hg
  obtain ⟨hterms, hstatus⟩ := books_group hg
  have hreleased := hM.failed r.paymentId i _ ⟨hterms, hlinked, hpaystack⟩ hfailed
  rw [hstatus, hpaid] at hreleased
  cases hreleased

/-- Refunds that come late are of orders whose groups were released. -/
theorem finalizePayment_noFunded {p : ℕ} {groups : List (ℕ × ℕ)} {success : Bool} (e : Env) {db : Database}
    (hM : Books.Money (books db)) (hlegit : (Op.finalizePayment p groups success).Legitimate True (books db)) :
    wp db (Payments.finalizePayment e p groups success) fun _ db' => Consistent (books db') → ∀ k, HasRefund db' k →
      HasRefund db k ∨ ¬OrderFunded db' k := by
  refine wp_mono (Payments.finalizePayment_late e p groups success db) fun _ db' h hB' k hk => ?_
  obtain ⟨l, r, hr, rfl⟩ := hk
  rcases h with hsame | ⟨⟨q, hq, hfailed⟩, hgroups, hlate⟩
  · rw [hsame] at hr
    exact .inl ⟨l, r, hr, rfl⟩
  · cases hr₀ : (db .refund).find l with
    | some r₀ =>
      obtain ⟨r', hr', hsame⟩ := hlate.kept l r₀ hr₀
      obtain rfl := Option.some.inj (hr.symm.trans hr')
      exact .inl ⟨l, r₀, hr₀, hsame.1.symm⟩
    | none =>
      obtain ⟨r₀, hp, hsame⟩ := hlate.entered l r hr hr₀
      have hpayment : r.paymentId = p := hsame.2.trans hp
      refine .inr (not_funded_of_failed hB' hM hgroups hr ?_ ?_)
      · rw [hpayment]
        exact hlegit.1
      · rw [hpayment, (books_payment hq).2, hfailed]

/-- An order that can be cancelled is paid and settled. -/
theorem funded_of_open {id : ℕ} {o : Order} (hB : Consistent (books db)) (hM : Books.Money (books db))
    (ho : (db .order).find id = some o) (hstatus : o.currentStatus = .confirmed ∨ o.currentStatus = .preparing) :
    OrderFunded db id ∧ Settlements.Settled db o.orderNumber := by
  obtain ⟨i, terms, hterms, hpaid, hk⟩ :=
    orderPaid_of_find hB ho (by rcases hstatus with h | h <;> rw [h] <;> decide)
    (by rcases hstatus with h | h <;> rw [h] <;> decide)
  obtain ⟨g, hg, rfl⟩ := find_of_books_group hterms
  exact ⟨⟨i, g, hg, (books_group hg).2.symm.trans hpaid, hk⟩,
    hM.settled i _ hterms hpaid id hk _ (books_order ho).1⟩

/-- What was settled is taken back, as it can be found. -/
theorem TakenBack.of_settled {id : ℕ} {o : Order} (h : TakenBack id o db db') (ho : (db .order).find id = some o)
    (haccounts : StoreAccounts db) (hsettled : Settlements.Settled db o.orderNumber) :
    ∃ (i : ℕ) (v : StoreWallet) (j : ℕ) (t : StoreWalletTransaction),
      (db .storeWallet).find i = some v ∧ v.storeId = o.storeId ∧ (db .storeWalletTransaction).find j = some t ∧
      t.reference = some (settlementReference o.orderNumber) ∧
      (db .storeWalletTransaction).first (fun _ t => t.reference == some (reversalReference o.orderNumber)) = none ∧
      db' .storeWallet = (db .storeWallet).update i (fun w => { w with balance := w.balance - t.amount }) ∧
      db' .storeWalletTransaction = (db .storeWalletTransaction).create
        { walletId := i, amount := t.amount, type := .debit
          reference := some (reversalReference o.orderNumber), orderId := some id } := by
  rcases h with ⟨wallet, settlement, hwallet, hsettlement, hfree, hwallets, hentries⟩ | ⟨hnone, -, -⟩
  · obtain ⟨hrow, hstore⟩ := Table.find_of_first hwallet
    obtain ⟨hcredit, href⟩ := Table.find_of_first hsettlement
    exact ⟨wallet.1, wallet.2, settlement.1, settlement.2, hrow, beq_iff_eq.mp hstore, hcredit, beq_iff_eq.mp href,
      hfree, hwallets, hentries⟩
  · obtain ⟨i, t, ht, href⟩ := hsettled
    obtain ⟨hk, -⟩ := haccounts.settlement ht ho href
    obtain ⟨o', v, ho', hv, hstore, -⟩ := haccounts.entries i t id ht hk
    obtain rfl := Option.some.inj (ho.symm.trans ho')
    rcases hnone with hwallet | hsettlement
    · have hother := Table.first_eq_none.mp hwallet _ v hv
      rw [hstore, beq_self_eq_true] at hother
      cases hother
    · have hother := Table.first_eq_none.mp hsettlement i t ht
      rw [href, beq_self_eq_true] at hother
      cases hother

/-- Whoever takes a share back notes a refund, and the other way round. -/
theorem cancel_matches {e : Env} {userId id p : ℕ} {reason : String} {o : Order} {g : CheckoutPaymentGroup}
    {a : Allocation} (h : Orders.Cancelled e userId id reason o g a p db db') (hB : Consistent (books db))
    (hM : Books.Money (books db)) (haccounts : StoreAccounts db) :
    (∀ k, HasRefund db' k → HasRefund db k ∨ HasReversal db' k) ∧
      ∀ k, HasReversal db' k → HasReversal db k ∨ HasRefund db' k := by
  have hrefund : HasRefund db' id := by
    rcases h.refund with ⟨x, hfirst, hsame⟩ | ⟨-, r, hr, -, -, -, -, hrefunds⟩
    · obtain ⟨hx, hid⟩ := Table.find_of_first hfirst
      refine ⟨x.1, x.2, ?_, beq_iff_eq.mp hid⟩
      rw [hsame]
      exact hx
    · refine ⟨(db .refund).next, r, ?_, hr⟩
      rw [hrefunds]
      exact Table.find_create_self _ _
  have hreversal : HasReversal db' id := by
    obtain ⟨i, v, j, t, -, -, -, -, -, -, hentries⟩ :=
      h.takenBack.of_settled h.found haccounts (funded_of_open hB hM h.found h.status).2
    have hentry := Table.find_create_self (db .storeWalletTransaction)
      { walletId := i, amount := t.amount, type := .debit, reference := some (reversalReference o.orderNumber)
        orderId := some id }
    rw [← hentries] at hentry
    exact ⟨_, _, hentry, rfl, rfl⟩
  refine ⟨fun k hk => ?_, fun k hk => ?_⟩
  · by_cases hid : k = id
    · exact .inr (hid ▸ hreversal)
    · obtain ⟨l, r, hr, hrk⟩ := hk
      rcases h.refund with ⟨x, -, hsame⟩ | ⟨-, r₀, hr₀, -, -, -, -, hrefunds⟩
      · rw [hsame] at hr
        exact .inl ⟨l, r, hr, hrk⟩
      · rw [hrefunds] at hr
        rcases Ledger.find_of_create hr with ⟨-, rfl⟩ | hold
        · exact absurd (hrk.symm.trans hr₀) hid
        · exact .inl ⟨l, r, hold, hrk⟩
  · by_cases hid : k = id
    · exact .inr (hid ▸ hrefund)
    · obtain ⟨j, t, ht, htk, hdebit⟩ := hk
      rcases h.takenBack with ⟨wallet, settlement, -, -, -, -, hentries⟩ | ⟨-, -, hentries⟩
      · rw [hentries] at ht
        rcases Ledger.find_of_create ht with ⟨-, rfl⟩ | hold
        · exact absurd (Option.some.inj htk).symm hid
        · exact .inl ⟨j, t, hold, htk, hdebit⟩
      · rw [hentries] at ht
        exact .inl ⟨j, t, ht, htk, hdebit⟩

/-- Every operation keeps the shares of the stores. -/
theorem storeShares_safe {α : Type} (op : Op α) : storeShares.Safe machine op := by
  intro e w hinv hknown hallowed
  obtain ⟨⟨⟨hB, hM⟩, hledgers⟩, haccounts, hmatched⟩ := hinv
  obtain ⟨⟨hlegit, hlocated⟩, hmarked⟩ := hknown
  obtain ⟨⟨hB', hM'⟩, hlater⟩ := Refines.accounted (Op.Legitimate.refines hlegit e) ⟨hB, hM⟩
  obtain ⟨hledgers', hmove⟩ := ledgers_safe op e w hledgers hlocated trivial
  have haccounts' : StoreAccounts (op.exec e w).2.db := exec_accounts op hallowed.2 hmarked haccounts
  refine ⟨⟨⟨⟨hB', hM'⟩, hledgers'⟩, haccounts', ?_⟩, hlater, hmove⟩
  have hkept := (exec_storeEntries op e hledgers.stores).1
  have hrefunds := exec_sameOrder op e w
  have hcredits (hop : ∀ v t, op.storePosting w.db v t → t.type = .credit) (k : ℕ)
      (hk : HasReversal (op.exec e w).2.db k) : HasReversal w.db k ∨ HasRefund (op.exec e w).2.db k :=
    .inl (exec_noReversal op e hledgers.stores hop hk)
  have hnone (hop : op.entersRefunds = false) (k : ℕ) (hk : HasRefund (op.exec e w).2.db k) : HasRefund w.db k ∨
      (OrderFunded (op.exec e w).2.db k → HasReversal (op.exec e w).2.db k) := by
    obtain ⟨l, r, hr, rfl⟩ := hk
    obtain ⟨r₀, hr₀, hsame⟩ := (exec_noRefund op hop e w).back hr
    exact .inl ⟨l, r₀, hr₀, hsame.1.symm⟩
  cases op
  case cancelOrder userId id reason =>
    cases hresult : ((Op.cancelOrder userId id reason).exec e w).1 with
    | error err =>
      change RefundsMatched ((Op.cancelOrder userId id reason).exec e w).2.db
      rw [exec_error hresult]
      exact hmatched
    | ok r =>
      obtain ⟨o, g, a, p, hcancelled⟩ := Orders.cancel_cancels e userId id reason w.db r _ (exec_ok rfl hresult)
      obtain ⟨hrefund, hreversal⟩ := cancel_matches hcancelled hB hM haccounts
      exact hmatched.step hB hM hB' hlater hrefunds hkept
        (fun k hk => (hrefund k hk).imp_right fun h _ => h) hreversal
  case finalizePayment p groups success =>
    refine hmatched.step hB hM hB' hlater hrefunds hkept (fun k hk => ?_) (hcredits fun _ _ h => h.1)
    have hlate := exec_transaction (e := e) (w := w)
      (rfl : (Op.finalizePayment p groups success).transaction = some _)
      (Φ := fun w' => Consistent (books w'.db) → ∀ k, HasRefund w'.db k → HasRefund w.db k ∨ ¬OrderFunded w'.db k)
      (fun _ k hk => .inl hk) (finalizePayment_noFunded e hM hlegit)
    exact (hlate hB' k hk).imp_right fun hnot hfunded => absurd hfunded hnot
  case withdrawStore storeId walletId amount reference =>
    refine hmatched.step hB hM hB' hlater hrefunds hkept (hnone rfl) fun k hk => .inl ?_
    have hnoReversal := exec_transaction (e := e) (w := w)
      (rfl : (Op.withdrawStore storeId walletId amount reference).transaction = some _)
      (Φ := fun w' => ∀ k, HasReversal w'.db k → HasReversal w.db k) (fun _ => id)
      (withdrawStore_noReversal storeId walletId amount reference w.db)
    exact hnoReversal k hk
  all_goals
    refine hmatched.step hB hM hB' hlater hrefunds hkept (hnone rfl) (hcredits fun _ _ h => ?_)
    first | exact h.1 | exact h.elim

/-- A program that makes no withdrawal of a store. -/
theorem Uses.marked {α : Type} {ks : List OpKind} {p : Request α} (h : Uses ks p) (hks : .storeWithdrawal ∉ ks) :
    p.All fun _ op => op.Marked := by
  refine Prog.All.imp h fun _ op hop => ?_
  cases op
  case withdrawStore => exact absurd hop hks
  all_goals trivial

/-- The requests of a store are marked as such. -/
theorem StoreRequest.marked {p : Request Unit} (h : StoreRequest p) : p.All fun _ op => op.Marked := by
  cases h with
  | payment h => exact h.uses.marked (by decide)
  | refund h => exact h.uses.marked (by decide)
  | status h => exact h.uses.marked (by decide)

/-- A store withdraws under a reference that says so. -/
theorem WalletRequest.marked {p : Request Unit} (h : WalletRequest p) : p.All fun _ op => op.Marked := by
  cases h with
  | customerWithdrawal userId input => exact (Wallets.requestCustomerWithdrawal_uses _ _).marked (by decide)
  | riderWithdrawal userId amount bankAccountId =>
      exact (Wallets.requestRiderWithdrawal_uses _ _ _).marked (by decide)
  | storeWithdrawal userId storeId amount =>
    have hcall {α : Type} {op : Op α} (hop : op.Marked) : (call op).All fun _ op => op.Marked :=
      (Prog.all_call op).mpr hop
    refine .bind (hcall trivial) fun _ => .bind (hcall trivial) fun _ => .bind (Prog.all_done _) fun _ => ?_
    exact .bind (hcall trivial) fun now => .bind (hcall ⟨_, rfl⟩) fun _ => Prog.all_done _
  | claim userId => exact (Wallets.claim_uses _).marked (by decide)
  | redeem userId input => exact (Wallets.redeem_uses _ _).marked (by decide)

/-- The requests of the treasury keep the shares of the stores. -/
theorem storeShares_holds : storeShares.Holds treasury where
  starts {p} hp w hinv := by
    have hmarked : p.All fun _ op => op.Marked := hp.elim StoreRequest.marked WalletRequest.marked
    have hboth : (accounting.both ledgers).Ready machine p w := by
      have hbooks : accounting.Ready machine p w := by
        have hready : Bookkeeping True p w := hp.elim (fun h => h.books) fun h => h.books w
        exact hready.strengthen (fun _ hinv => hinv.1) (fun _ _ => id)
          (fun _ _ _ hhonest _ => hhonest) fun _ _ => id
      have hledgers : ledgers.Ready machine p w := hp.elim (fun h => h.untold.ledgers_ready w) fun h => h.ready w
      exact (hbooks.both hledgers).mono fun _ _ _ => trivial
    have hmarking : marking.Ready machine p w := Contract.informed_of_all (hmarked.imp fun _ _ hop _ => hop) w
    exact ((hboth.both hmarking).mono fun _ _ _ => trivial).strengthen (fun _ hinv => ⟨hinv.1, trivial⟩)
      (fun _ _ hguar => ⟨hguar, trivial⟩) (fun _ _ _ hallowed => ⟨⟨hallowed.1, trivial⟩, trivial⟩) fun _ _ => id
  performs op := storeShares_safe op
  background {w w'} h hinv := by
    obtain ⟨⟨⟨hB, hM⟩, hledgers⟩, haccounts, hmatched⟩ := hinv
    obtain ⟨⟨hB', hM'⟩, hlater⟩ := accounting_holds.background h.toOtherChange ⟨hB, hM⟩
    obtain ⟨hledgers', hmove⟩ := ledgers_holds.background h hledgers
    have horder : w'.db .order = w.db .order := h.owned _ (by decide)
    have hwallets : w'.db .storeWallet = w.db .storeWallet := h.wallets _ (by decide)
    have hentries : w'.db .storeWalletTransaction = w.db .storeWalletTransaction := h.wallets _ (by decide)
    have hrefunds : w'.db .refund = w.db .refund := h.owned _ (by decide)
    refine ⟨⟨⟨⟨hB', hM'⟩, hledgers'⟩, haccounts.congr horder hwallets hentries, ?_⟩, hlater, hmove⟩
    refine hmatched.step hB hM hB' hlater (.of_eq hrefunds) (fun j t ht => ?_) (fun k hk => .inl ?_)
      fun k hk => .inl ?_
    · rw [hentries]
      exact ht
    · rw [HasRefund, ← hrefunds]
      exact hk
    · rw [HasReversal, ← hentries]
      exact hk

/-! ## What wallets hold -/

/-- What the entries of an order have brought its store. -/
def orderNet (db : Database) (k : ℕ) : ℚ :=
  (db .storeWalletTransaction).total fun _ t => if t.orderId = some k then t.type.storeSigned t.amount else 0

/-- What a store has withdrawn from a wallet. -/
def storeWithdrawn (db : Database) (i : ℕ) : ℚ :=
  (db .storeWalletTransaction).total fun _ t => if t.walletId = i ∧ t.orderId = none then t.amount else 0

/-- What the orders of a store have brought it. -/
def storeEarned (db : Database) (storeId : ℕ) : ℚ :=
  (db .order).total fun k o => if o.storeId = storeId then orderNet db k else 0

section Balances

variable (hb : storeLedger.Balanced (db .storeWallet, db .storeWalletTransaction)) (h : StoreAccounts db)

include hb h

/-- An order has one credit, and its debits take this one back. -/
theorem entry_of_order {i j k : ℕ} {o : Order} {t u : StoreWalletTransaction} (ho : (db .order).find k = some o)
    (ht : (db .storeWalletTransaction).find i = some t)
    (href : t.reference = some (settlementReference o.orderNumber))
    (hu : (db .storeWalletTransaction).find j = some u) (hk : u.orderId = some k) :
    j = i ∨ u.TakesBack o.orderNumber ∧ u.amount = t.amount := by
  obtain ⟨o', v, ho', -, -, hkind⟩ := h.entries j u k hu hk
  obtain rfl := Option.some.inj (ho.symm.trans ho')
  rcases hkind with hsettles | ⟨htakes, l, s, hs, -, hcredit, hamount⟩
  · exact .inl (hb.unique j u i t _ hu ht hsettles.reference href)
  · obtain rfl := hb.unique l s i t _ hs ht hcredit.reference href
    obtain rfl := Option.some.inj (hs.symm.trans ht)
    exact .inr ⟨htakes, hamount.symm⟩

/-- What an order has brought its store: its share, as long as it has not been taken back. -/
theorem orderNet_share {i k : ℕ} {o : Order} {t : StoreWalletTransaction} (ho : (db .order).find k = some o)
    (ht : (db .storeWalletTransaction).find i = some t)
    (href : t.reference = some (settlementReference o.orderNumber))
    (hnot : ¬HasReversal db k) : orderNet db k = t.amount := by
  obtain ⟨hk, hsettles⟩ := h.settlement ht ho href
  have hsingle := Table.total_single ht fun u => u.type.storeSigned u.amount
  rw [hsettles.type] at hsingle
  refine Eq.trans (Table.total_congr fun j u hu => ?_) hsingle
  by_cases hj : j = i
  · rw [hj, ht] at hu
    rw [if_pos hj, ← Option.some.inj hu, if_pos hk]
  · rw [if_neg hj, if_neg]
    intro hu'
    obtain hself | ⟨htakes, -⟩ := entry_of_order hb h ho ht href hu hu'
    · exact hj hself
    · exact hnot ⟨j, u, hu, hu', htakes.type⟩

/-- An order whose share has been taken back has brought its store nothing. -/
theorem orderNet_reversed {i k : ℕ} {o : Order} {t : StoreWalletTransaction} (ho : (db .order).find k = some o)
    (ht : (db .storeWalletTransaction).find i = some t)
    (href : t.reference = some (settlementReference o.orderNumber))
    (hreversal : HasReversal db k) : orderNet db k = 0 := by
  obtain ⟨hk, hsettles⟩ := h.settlement ht ho href
  obtain ⟨l, s, hs, hs', hdebit⟩ := hreversal
  obtain hself | ⟨htakes, hamount⟩ := entry_of_order hb h ho ht href hs hs'
  · rw [hself, ht] at hs
    rw [← Option.some.inj hs, hsettles.type] at hdebit
    cases hdebit
  have hne : l ≠ i := by
    rintro rfl
    rw [ht] at hs
    rw [← Option.some.inj hs, hsettles.type] at hdebit
    cases hdebit
  have hboth := (Table.total_add (db .storeWalletTransaction)
    (fun j u => if j = i then u.type.storeSigned u.amount else 0)
    fun j u => if j = l then u.type.storeSigned u.amount else 0).trans (congrArg₂ (· + ·)
      (Table.total_single ht fun u => u.type.storeSigned u.amount)
      (Table.total_single hs fun u => u.type.storeSigned u.amount))
  rw [hsettles.type, hdebit, hamount] at hboth
  refine (Eq.trans (Table.total_congr fun j u hu => ?_) hboth).trans (add_neg_cancel _)
  by_cases hj : j = i
  · have hl : j ≠ l := fun heq => hne (heq.symm.trans hj)
    rw [hj, ht] at hu
    obtain rfl := Option.some.inj hu
    rw [if_pos hk, if_pos hj, if_neg hl, add_zero]
  · rw [if_neg hj, zero_add]
    by_cases hj' : j = l
    · rw [hj', hs] at hu
      rw [if_pos hj', ← Option.some.inj hu, if_pos hs']
    · rw [if_neg hj', if_neg]
      intro hu'
      obtain hself | ⟨htakes', -⟩ := entry_of_order hb h ho ht href hu hu'
      · exact hj hself
      · exact hj' (hb.unique j u l s _ hu hs htakes'.reference htakes.reference)

/-- The balance of a store's wallet is what its orders have brought less what it has withdrawn. -/
theorem storeBalance_eq {i : ℕ} {v : StoreWallet} (hv : (db .storeWallet).find i = some v) :
    v.balance = storeEarned db v.storeId - storeWithdrawn db i := by
  have hbalance : v.balance = (db .storeWalletTransaction).total fun _ t =>
      if t.walletId = i then t.type.storeSigned t.amount else 0 := hb.balance i v hv
  have horders : ∀ j t k, (db .storeWalletTransaction).find j = some t → t.orderId = some k →
      ∃ o, (db .order).find k = some o := by
    intro j t k ht hk
    obtain ⟨o, -, ho, -⟩ := h.entries j t k ht hk
    exact ⟨o, ho⟩
  rw [hbalance, Table.total_fibres StoreWalletTransaction.orderId horders fun t =>
    if t.walletId = i then t.type.storeSigned t.amount else 0, add_comm, sub_eq_add_neg]
  congr 1
  · refine Table.total_congr fun k o ho => ?_
    have hentry {j : ℕ} {t : StoreWalletTransaction} (ht : (db .storeWalletTransaction).find j = some t)
        (hk : t.orderId = some k) : t.walletId = i ↔ o.storeId = v.storeId := by
      obtain ⟨o', v', ho', hv', hstore, -⟩ := h.entries j t k ht hk
      obtain rfl := Option.some.inj (ho.symm.trans ho')
      refine ⟨fun hi => ?_, fun hown => hb.owned _ v' i v hv' hv (hstore.trans hown)⟩
      rw [hi, hv] at hv'
      rw [← hstore, ← Option.some.inj hv']
    by_cases hown : o.storeId = v.storeId
    · rw [if_pos hown]
      refine Table.total_congr fun j t ht => ?_
      by_cases hk : t.orderId = some k
      · rw [if_pos hk, if_pos hk, if_pos ((hentry ht hk).mpr hown)]
      · rw [if_neg hk, if_neg hk]
    · rw [if_neg hown]
      refine Eq.trans (Table.total_congr fun j t ht => ?_) (Table.total_zero (db .storeWalletTransaction))
      by_cases hk : t.orderId = some k
      · rw [if_pos hk, if_neg (mt (hentry ht hk).mp hown)]
      · rw [if_neg hk]
  · rw [storeWithdrawn, ← Table.total_neg]
    refine Table.total_congr fun j t ht => ?_
    by_cases hnone : t.orderId = none
    · have hdebit := h.withdrawals j t ht hnone
      by_cases hi : t.walletId = i
      · rw [if_pos hnone, if_pos hi, if_pos ⟨hi, hnone⟩, hdebit]
        rfl
      · rw [if_pos hnone, if_neg hi, if_neg fun hboth => hi hboth.1, neg_zero]
    · rw [if_neg hnone, if_neg fun hboth => hnone hboth.2, neg_zero]

end Balances

/-- Before the first checkout there are no accounts to keep. -/
theorem Untouched.accounts {w : World} (h : Untouched w) : StoreAccounts w.db where
  numbered k o ho := by
    rw [h.fresh .order (by decide)] at ho
    cases ho
  distinct := .of_empty (h.fresh .order (by decide))
  known i t _ ht := by
    rw [h.wallets.storeEntries] at ht
    cases ht
  entries i t _ ht := by
    rw [h.wallets.storeEntries] at ht
    cases ht
  withdrawals i t ht := by
    rw [h.wallets.storeEntries] at ht
    cases ht

/-- Before the first checkout all refunds are matched. -/
theorem Untouched.refundsMatched {w : World} (h : Untouched w) : RefundsMatched w.db where
  reversed k hfunded := by
    obtain ⟨i, g, hg, -⟩ := hfunded
    rw [h.fresh .checkoutPaymentGroup (by decide)] at hg
    cases hg
  refunded k hreversal := by
    obtain ⟨j, t, ht, -⟩ := hreversal
    rw [h.wallets.storeEntries] at ht
    cases ht

/-- Before the first checkout the stores have their shares. -/
theorem Untouched.shares {w : World} (h : Untouched w) : storeShares.Sound treasury ⟨w, []⟩ :=
  ⟨⟨⟨⟨h.fresh.consistent, h.fresh.money⟩, h.wallets.balanced⟩, h.accounts, h.refundsMatched⟩, by simp⟩

/-- In every run of payments, refunds, the statuses of orders and withdrawals, in any order: an order that is paid
has one credit, in the wallet of its store, of which the store keeps all while the order has no refund, and nothing
once it has one; and every wallet of a store holds what the orders of the store have brought it less what the store
has withdrawn. -/
theorem store_accounts {w : World} (hw : Untouched w) {c : Config Op Error World}
    (hrun : treasury.Run (fun _ e _ => e.Honest ∧ e.Numbered) ⟨w, []⟩ c) :
    (∀ k, OrderFunded c.world.db k → ∃ o v i t, (c.world.db .order).find k = some o ∧
      (c.world.db .storeWalletTransaction).find i = some t ∧ t.orderId = some k ∧ t.Settles o.orderNumber ∧
      (c.world.db .storeWallet).find t.walletId = some v ∧ v.storeId = o.storeId ∧
      (¬HasRefund c.world.db k → orderNet c.world.db k = t.amount) ∧
      (HasRefund c.world.db k → orderNet c.world.db k = 0)) ∧
    ∀ i v, (c.world.db .storeWallet).find i = some v →
      v.balance = storeEarned c.world.db v.storeId - storeWithdrawn c.world.db i := by
  obtain ⟨⟨hinv, -⟩, -⟩ := storeShares_holds.run hw.shares hrun
  obtain ⟨⟨⟨hB, hM⟩, hledgers⟩, haccounts, hmatched⟩ := hinv
  refine ⟨fun k hfunded => ?_, fun i v hv => storeBalance_eq hledgers.stores haccounts hv⟩
  have hpaid := hfunded
  obtain ⟨j, g, hg, hstatus, hk⟩ := hpaid
  obtain ⟨hterms, hbooked⟩ := books_group hg
  obtain ⟨a, ha, rfl⟩ := List.mem_map.mp hk
  obtain ⟨n, hn⟩ := Option.isSome_iff_exists.mp (hB.placed j _ hterms a ha)
  obtain ⟨o, ho, rfl⟩ := Option.map_eq_some_iff.mp hn
  obtain ⟨i, t, ht, href⟩ := hM.settled j _ hterms (hbooked.trans hstatus) _ (List.mem_map_of_mem ha) _ hn
  obtain ⟨hown, hsettles⟩ := haccounts.settlement ht ho href
  obtain ⟨o', v, ho', hv, hstore, -⟩ := haccounts.entries i t _ ht hown
  obtain rfl := Option.some.inj (ho.symm.trans ho')
  refine ⟨o, v, i, t, ho, ht, hown, hsettles, hv, hstore, fun hnot => ?_, fun hrefund => ?_⟩
  · exact orderNet_share hledgers.stores haccounts ho ht href fun h => hnot (hmatched.refunded _ h)
  · exact orderNet_reversed hledgers.stores haccounts ho ht href (hmatched.reversed _ hfunded hrefund)

/-- A store as before, in which no wallet holds anything. -/
def cardShop : World where
  db := shop.db.set .wallet .empty

/-- The store of the example is untouched. -/
theorem untouched_cardShop : Untouched cardShop where
  fresh n hn i := by
    simp only [ownedTables, List.mem_cons, List.not_mem_nil, or_false] at hn
    rcases hn with rfl | rfl | rfl | rfl | rfl <;> rfl
  wallets := ⟨nofun, nofun, nofun, nofun, fun _ => rfl, fun _ => rfl⟩

/-- Paystack reports that payments have been made, and orders are numbered as the checkout does. -/
def numberedPaystack : Env := { paystackPays with orderNumber := fun _ => "PUR-1" }

/-- The environment of the example is honest, and numbers orders as the checkout does. -/
theorem numberedPaystack_honest : numberedPaystack.Honest ∧ numberedPaystack.Numbered := by
  refine ⟨?_, fun _ => ⟨"1", rfl⟩⟩
  rintro reference v ⟨⟩ hchannel
  cases hchannel

/-- A customer buys by card, and cancels the order. -/
def paidThenCancelled : List (Request Unit) := cardRequests ++ [Orders.cancelOrder 1 1 "Changed my mind."]

/-- The requests of the example can be made. -/
theorem paidThenCancelled_start : ∀ p ∈ paidThenCancelled, treasury.starts p := by
  intro p hp
  simp only [paidThenCancelled, cardRequests, List.cons_append, List.nil_append, List.mem_cons, List.not_mem_nil,
    or_false] at hp
  rcases hp with rfl | rfl | rfl
  · exact .inl (.payment (.place 1 cardPickup))
  · exact .inl (.payment (.verifyReference "PUR-1-u"))
  · exact .inl (.payment (.cancelOrder 1 1 _))

/-- The order is placed, paid and cancelled. -/
def sharesReturned : Config Op Error World :=
  treasury.follow ⟨cardShop, paidThenCancelled⟩ (List.replicate 6 (0, numberedPaystack) ++
    List.replicate 5 (1, numberedPaystack) ++ List.replicate 3 (2, numberedPaystack))

/-- The cancellation of the example is a run. -/
theorem sharesReturned_run :
    treasury.Run (fun _ e _ => e.Honest ∧ e.Numbered) ⟨cardShop, []⟩ sharesReturned := by
  have hstarted : treasury.Run (fun _ e _ => e.Honest ∧ e.Numbered) ⟨cardShop, []⟩ ⟨cardShop, paidThenCancelled⟩ :=
    treasury.start_all_run paidThenCancelled_start
  refine hstarted.trans (treasury.follow_run_env fun round hround => ?_)
  simp only [List.mem_append, List.mem_replicate] at hround
  rcases hround with (⟨-, rfl⟩ | ⟨-, rfl⟩) | ⟨-, rfl⟩ <;> exact numberedPaystack_honest

/-- The store has nothing of the order left, although the order is paid. -/
theorem store_accounts_returned : OrderFunded sharesReturned.world.db 1 ∧ orderNet sharesReturned.world.db 1 = 0 ∧
    ∃ v, (sharesReturned.world.db .storeWallet).find 1 = some v ∧
      v.balance = storeEarned sharesReturned.world.db v.storeId - storeWithdrawn sharesReturned.world.db 1 := by
  have hgroup : ((sharesReturned.world.db .checkoutPaymentGroup).find 1).map
      (fun g => (g.status, g.allocations.map Allocation.orderId)) = some (.paid, [1]) := by decide +kernel
  have hrefund : ((sharesReturned.world.db .refund).find 1).map Refund.orderId = some 1 := by decide +kernel
  have hwallet : ((sharesReturned.world.db .storeWallet).find 1).isSome := by decide +kernel
  obtain ⟨g, hg, hterms⟩ := Option.map_eq_some_iff.mp hgroup
  obtain ⟨r, hr, hid⟩ := Option.map_eq_some_iff.mp hrefund
  obtain ⟨v, hv⟩ := Option.isSome_iff_exists.mp hwallet
  obtain ⟨hpaid, horders⟩ := Prod.mk.inj hterms
  have hfunded : OrderFunded sharesReturned.world.db 1 := ⟨1, g, hg, hpaid, horders ▸ List.mem_singleton_self 1⟩
  obtain ⟨hpaidOrders, hwallets⟩ := store_accounts untouched_cardShop sharesReturned_run
  obtain ⟨-, -, -, -, -, -, -, -, -, -, -, hreturned⟩ := hpaidOrders 1 hfunded
  exact ⟨hfunded, hreturned ⟨1, r, hr, hid⟩, v, hv, hwallets 1 v hv⟩

end Superstore

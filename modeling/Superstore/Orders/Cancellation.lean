import Superstore.Orders.Stock

/-!
# What a cancellation leaves

The cancellation of a paid order is one transaction over thirteen tables. Here is what it leaves in each of them:
the goods are back on the shelf, what was issued for the order is withdrawn, the customer has a refund or the money
in the wallet, and the settlement is taken back from the store. -/

namespace Superstore

open Relational Relational.Tx
open Payments (setCurrentStatus callOff restock creditWallet)

variable {db db' db'' : Database}

/-! ## What is called off -/

/-- Each offer has some more units on the shelf, and is as it was otherwise. -/
def Restocked (d : ℕ → ℤ) (db db' : Database) : Prop :=
  ∀ i, (db' .storeProduct).find i =
    ((db .storeProduct).find i).map fun p => { p with stockQuantity := p.stockQuantity + d i }

/-- Nothing is put back where nothing was bought. -/
theorem Restocked.zero (db : Database) : Restocked 0 db db := by
  intro i
  cases (db .storeProduct).find i <;> simp

/-- What is put back in two steps is put back together. -/
theorem Restocked.add {d d' : ℕ → ℤ} {db₁ : Database} (h : Restocked d db db₁) (h' : Restocked d' db₁ db') :
    Restocked (d + d') db db' := by
  intro i
  rw [h' i, h i, Option.map_map]
  congr 1
  funext p
  simp [add_assoc]

/-- A line that is put back adds its units to its offer. -/
theorem restock_restocks (item : OrderItem) (db : Database) : wp db (restock item)
    fun _ db' => Restocked (Pi.single item.storeProductId (item.quantity : ℤ)) db db' := by
  rw [restock, wp_update]
  intro _ _ i
  rw [Database.set_self, Table.find_update]
  split
  · next hi => simp [hi]
  · next hi =>
    rw [Pi.single_eq_of_ne hi]
    cases (db .storeProduct).find i <;> simp

/-- An order has been called off: its units are back on the shelf, its deliveries and pickups are cancelled, its
active credentials revoked, and the history says so. -/
structure CalledOff (now id : ℕ) (o : Order) (h : OrderStatusHistory) (db db' : Database) : Prop where
  shelf : Restocked (units o.items) db db'
  order : db' .order = (db .order).update id (setCurrentStatus .cancelled)
  deliveries : db' .delivery =
    (db .delivery).updateMany (fun _ d => d.orderId == id) fun d => { d with status := .cancelled }
  pickups : db' .pickup = (db .pickup).updateMany (fun _ p => p.orderId == id) fun p =>
    { p with status := "cancelled" }
  credentials : db' .orderQrCredential = (db .orderQrCredential).updateMany
    (fun _ c => c.orderId == id && c.status == "ACTIVE") fun c =>
      { c with status := "REVOKED", revokedAt := some now }
  history : db' .orderStatusHistory = (db .orderStatusHistory).create h

/-- What is called off stays so while other tables are written. -/
theorem CalledOff.congr {now id : ℕ} {o : Order} {h : OrderStatusHistory} (hoff : CalledOff now id o h db db')
    (hsame : ∀ n ∈ Payments.callOffTables, db'' n = db' n) : CalledOff now id o h db db'' where
  shelf i := by
    rw [hsame .storeProduct (by decide)]
    exact hoff.shelf i
  order := (hsame _ (by decide)).trans hoff.order
  deliveries := (hsame _ (by decide)).trans hoff.deliveries
  pickups := (hsame _ (by decide)).trans hoff.pickups
  credentials := (hsame _ (by decide)).trans hoff.credentials
  history := (hsame _ (by decide)).trans hoff.history

/-- Calling off an order does what is to be done when it is called off. -/
theorem callOff_callsOff (now id : ℕ) (o : Order) (h : OrderStatusHistory) (db : Database) :
    wp db (callOff now id o h) fun _ db' => CalledOff now id o h db db' := by
  have hshelf : Writes [.storeProduct] (o.items.forM restock) := .forM fun item _ => Payments.restock_writes item
  rw [callOff, wp_bind]
  refine wp_mono (wp_and (hshelf db) (wp_forM_sum Restocked.zero Restocked.add
    (fun item _ => restock_restocks item) db)) fun _ db₁ h₁ => ?_
  obtain ⟨hsame, hstocked⟩ := h₁
  rw [wp_bind, wp_update]
  intro _ _
  rw [wp_bind, wp_updateMany, wp_bind, wp_updateMany, wp_bind, wp_updateMany, wp_bind, wp_create, wp_pure]
  have hkept (n : TableName) (hn : n ∉ [TableName.storeProduct]) : db₁ n = db n := hsame n hn
  exact
    { shelf := hstocked
      order := by rw [← hkept .order (by decide)]; rfl
      deliveries := by rw [← hkept .delivery (by decide)]; rfl
      pickups := by rw [← hkept .pickup (by decide)]; rfl
      credentials := by rw [← hkept .orderQrCredential (by decide)]; rfl
      history := by rw [← hkept .orderStatusHistory (by decide)]; rfl }

/-! ## What is paid back -/

/-- An amount has been credited to the wallet of a user, which was opened if there was none. -/
structure WalletCredited (userId : ℕ) (amount : ℚ) (reference : String) (db db' : Database) (i : ℕ) : Prop where
  wallet : (∃ w, (db .wallet).first (fun _ w => w.userId == userId) = some (i, w) ∧
      db' .wallet = (db .wallet).update i fun w => { w with balance := w.balance + amount }) ∨
    (db .wallet).first (fun _ w => w.userId == userId) = none ∧ i = (db .wallet).next ∧ db' .wallet =
      ((db .wallet).create { userId := userId }).update i fun w => { w with balance := w.balance + amount }
  entry : db' .walletTransaction = (db .walletTransaction).create
    { walletId := i, amount := amount, type := .credit, reference := some reference }

/-- Whether a wallet has been credited depends on the wallets alone. -/
theorem WalletCredited.congr {userId i : ℕ} {amount : ℚ} {reference : String} {db₁ db₂ : Database}
    (h : WalletCredited userId amount reference db₁ db₂ i)
    (hsame : ∀ n ∈ [TableName.wallet, .walletTransaction], db n = db₁ n ∧ db' n = db₂ n) :
    WalletCredited userId amount reference db db' i := by
  obtain ⟨hwallet, hwallet'⟩ := hsame .wallet (by decide)
  obtain ⟨hentry, hentry'⟩ := hsame .walletTransaction (by decide)
  constructor
  · rw [hwallet, hwallet']
    exact h.wallet
  · rw [hentry, hentry']
    exact h.entry

/-- Crediting a wallet enters the amount under its reference. -/
theorem creditWallet_credited (userId : ℕ) (amount : ℚ) (reference : String) (db : Database) :
    wp db (creditWallet userId amount reference) fun _ db' =>
      ∃ i, WalletCredited userId amount reference db db' i := by
  rw [creditWallet, wp_bind, wp_firstOrCreate]
  refine ⟨fun wallet hfirst => ?_, fun hnone => ?_⟩
  · rw [wp_bind, wp_update]
    intro _ _
    rw [wp_bind, wp_createUnique]
    intro _
    rw [wp_pure]
    exact ⟨wallet.1, .inl ⟨wallet.2, hfirst, rfl⟩, rfl⟩
  · rw [wp_bind, wp_update]
    intro _ _
    rw [wp_bind, wp_createUnique]
    intro _
    rw [wp_pure]
    exact ⟨(db .wallet).next, .inr ⟨hnone, rfl, rfl⟩, rfl⟩

/-- The settlement of an order has been taken back from its store, where there was one. -/
def TakenBack (id : ℕ) (o : Order) (db db' : Database) : Prop :=
  (∃ wallet settlement, (db .storeWallet).first (fun _ w => w.storeId == o.storeId) = some wallet ∧
    (db .storeWalletTransaction).first
      (fun _ t => t.reference == some (Settlements.settlementReference o.orderNumber)) = some settlement ∧
    (db .storeWalletTransaction).first (fun _ t => t.reference == some ("ORDER-CANCEL-" ++ o.orderNumber)) = none ∧
    db' .storeWallet = (db .storeWallet).update wallet.1
      (fun w => { w with balance := w.balance - settlement.2.amount }) ∧
    db' .storeWalletTransaction = (db .storeWalletTransaction).create
      { walletId := wallet.1, amount := settlement.2.amount, type := .debit
        reference := some ("ORDER-CANCEL-" ++ o.orderNumber), orderId := some id }) ∨
  ((db .storeWallet).first (fun _ w => w.storeId == o.storeId) = none ∨
      (db .storeWalletTransaction).first
        (fun _ t => t.reference == some (Settlements.settlementReference o.orderNumber)) = none) ∧
    db' .storeWallet = db .storeWallet ∧ db' .storeWalletTransaction = db .storeWalletTransaction

/-- Whether a settlement has been taken back depends on the wallets of stores alone. -/
theorem TakenBack.congr {id : ℕ} {o : Order} {db₁ db₂ : Database} (h : TakenBack id o db₁ db₂)
    (hsame : ∀ n ∈ [TableName.storeWallet, .storeWalletTransaction], db n = db₁ n ∧ db' n = db₂ n) :
    TakenBack id o db db' := by
  obtain ⟨hwallet, hwallet'⟩ := hsame .storeWallet (by decide)
  obtain ⟨hentry, hentry'⟩ := hsame .storeWalletTransaction (by decide)
  rw [TakenBack, hwallet, hwallet', hentry, hentry']
  exact h

namespace Orders

/-- Taking back a settlement debits the store with what it has been credited. -/
theorem reverseSettlement_takesBack (id : ℕ) (o : Order) (db : Database) :
    wp db (reverseSettlement id o) fun _ db' => TakenBack id o db db' := by
  rw [reverseSettlement, wp_bind, wp_first, wp_bind, wp_first]
  split
  · next wallet settlement hwallet hsettlement =>
    rw [wp_bind, wp_update]
    intro _ _
    rw [wp_bind, wp_createUnique]
    intro hfree
    rw [wp_pure]
    exact .inl ⟨wallet, settlement, hwallet, hsettlement, hfree, rfl, rfl⟩
  · next hnot =>
    rw [wp_pure]
    refine .inr ⟨?_, rfl, rfl⟩
    cases hwallet : (db .storeWallet).first fun _ w => w.storeId == o.storeId with
    | none => exact .inl rfl
    | some wallet =>
      cases hsettlement : (db .storeWalletTransaction).first
          fun _ t => t.reference == some (Settlements.settlementReference o.orderNumber) with
      | none => exact .inr rfl
      | some settlement => exact (hnot wallet settlement hwallet hsettlement).elim

/-- A cancelled order has a refund: the one that it had, or a new one of its share. -/
def Refunded (id : ℕ) (userId p : ℕ) (amount : ℚ) (status : RefundStatus) (db db' : Database) : Prop :=
  (∃ x, (db .refund).first (fun _ r => r.orderId == id) = some x ∧ db' .refund = db .refund) ∨
  (db .refund).first (fun _ r => r.orderId == id) = none ∧
    ∃ r : Refund, r.orderId = id ∧ r.userId = userId ∧ r.paymentId = p ∧ r.amount = amount ∧ r.status = status ∧
      db' .refund = (db .refund).create r

/-- Whether a refund has been noted depends on the refunds alone. -/
theorem Refunded.congr {id userId p : ℕ} {amount : ℚ} {status : RefundStatus} {db₁ db₂ : Database}
    (h : Refunded id userId p amount status db₁ db₂) (hbefore : db .refund = db₁ .refund)
    (hafter : db' .refund = db₂ .refund) : Refunded id userId p amount status db db' := by
  rw [Refunded, hbefore, hafter]
  exact h

/-- A refund is noted where there was none. -/
theorem noteRefund_refunds (e : Env) (userId id p : ℕ) (o : Order) (a : Allocation) (isWallet isKlump : Bool)
    (reason : String) (db : Database) : wp db (noteRefund e userId id p o a isWallet isKlump reason)
      fun _ db' => Refunded id userId p a.amount (initialRefundStatus isWallet isKlump) db db' := by
  rw [noteRefund, wp_bind, wp_first]
  split
  · next x hfirst => exact (wp_pure _ _ _).mpr (.inl ⟨x, hfirst, rfl⟩)
  · next hnone =>
    rw [wp_bind, wp_createUnique]
    intro _
    exact (wp_pure _ _ _).mpr (.inr ⟨hnone, _, rfl, rfl, rfl, rfl, rfl, rfl⟩)

/-- The tables of what is paid back to the customer and taken back from the store. -/
def paidBackTables : List TableName :=
  [.wallet, .walletTransaction, .refund, .payment, .storeWallet, .storeWalletTransaction, .checkoutPaymentGroup]

/-- What is paid back is not called off. -/
theorem paidBack_not_calledOff : ∀ n ∈ paidBackTables, n ∉ Payments.callOffTables := by decide

/-- What is called off is not paid back. -/
theorem calledOff_not_paidBack : ∀ n ∈ Payments.callOffTables, n ≠ .cashbackReward ∧
    n ∉ [TableName.wallet, .walletTransaction] ∧ n ∉ [TableName.refund] ∧ n ∉ [TableName.payment] ∧
    n ∉ [TableName.storeWallet, .storeWalletTransaction] := by decide

/-- The wallets of customers are written by the credit only. -/
theorem wallet_kept : ∀ n ∈ [TableName.wallet, .walletTransaction], n ∈ paidBackTables ∧ n ∉ [TableName.refund] ∧
    n ∉ [TableName.payment] ∧ n ∉ [TableName.storeWallet, .storeWalletTransaction] ∧
      n ≠ .cashbackReward := by decide

/-- The wallets of stores are written by the reversal only. -/
theorem storeWallet_kept : ∀ n ∈ [TableName.storeWallet, .storeWalletTransaction], n ∈ paidBackTables ∧
    n ∉ [TableName.wallet, .walletTransaction] ∧ n ∉ [TableName.refund] ∧ n ∉ [TableName.payment] ∧
    n ≠ .cashbackReward := by decide

/-- What is known of the order when it is cancelled, and what the cancellation leaves in each table: the group that
carries the order, its share in it and the payment are found first. -/
structure Cancelled (e : Env) (userId id : ℕ) (reason : String) (o : Order) (g : CheckoutPaymentGroup)
    (a : Allocation) (p : ℕ) (db db' : Database) : Prop where
  found : (db .order).find id = some o
  own : o.userId = userId
  status : o.currentStatus = .confirmed ∨ o.currentStatus = .preparing
  carried : ∃ i, allocationOf id db = some (i, g, a)
  payment : g.paymentId = some p
  calledOff : CalledOff e.now id o { orderId := id, fromStatus := some o.currentStatus, toStatus := .cancelled
                                     changedById := some userId, reason := some reason } db db'
  refund : Refunded id userId p a.amount (initialRefundStatus (g.paymentMethod == .wallet)
    (((db .payment).find p).any (·.provider == .klump))) db db'
  credited : g.paymentMethod = .wallet →
    ∃ j, WalletCredited userId o.total ("ORDER-CANCEL-" ++ toString id) db db' j
  uncredited : g.paymentMethod ≠ .wallet →
    db' .wallet = db .wallet ∧ db' .walletTransaction = db .walletTransaction
  takenBack : TakenBack id o db db'

/-- Only an order that its customer can cancel is cancelled. -/
theorem Cancelled.cancellable {e : Env} {userId id : ℕ} {reason : String} {o : Order} {g : CheckoutPaymentGroup}
    {a : Allocation} {p : ℕ} {db db' : Database} (h : Cancelled e userId id reason o g a p db db') :
    cancellable userId id db = true := by
  obtain ⟨i, hcarried⟩ := h.carried
  have hstatus : (o.currentStatus == .confirmed || o.currentStatus == .preparing) = true := by
    rw [Bool.or_eq_true, beq_iff_eq, beq_iff_eq]
    exact h.status
  rw [Orders.cancellable, h.found, hcarried, Option.any_some, Option.bind_some, h.payment, h.own, beq_self_eq_true,
    hstatus]
  rfl

/-- What is paid back and taken back is decided by tables that calling the order off leaves alone. -/
theorem cancel_cancels (e : Env) (userId id : ℕ) (reason : String) (db : Database) :
    wp db (cancel e userId id reason) fun _ db' => ∃ o g a p, Cancelled e userId id reason o g a p db db' := by
  rw [cancel, wp_bind, wp_find, wp_bind, wp_orThrow]
  intro o ho
  obtain ⟨ho, hown⟩ := Option.filter_eq_some_iff.mp ho
  rw [wp_bind, wp_require]
  intro hstatus
  rw [wp_bind]
  refine wp_mono (wp_and (callOff_callsOff _ _ _ _ db) (Payments.callOff_writes _ _ _ _ db)) fun _ db₁ h₁ => ?_
  obtain ⟨hoff, h₁⟩ := h₁
  have hcarried : allocationOf id db₁ = allocationOf id db := by
    rw [allocationOf, allocationOf, h₁ .checkoutPaymentGroup (by decide)]
  rw [wp_bind, wp_query, wp_bind, wp_orThrow]
  intro located hlocated
  obtain ⟨⟨i, g, a⟩, hfound, hpayment⟩ := Option.bind_eq_some_iff.mp hlocated
  obtain ⟨p, hp, rfl⟩ := Option.map_eq_some_iff.mp hpayment
  rw [hcarried] at hfound
  rw [wp_bind, wp_query, h₁ .payment (by decide)]
  dsimp only at hp ⊢
  have hcredit : wp db₁ (when (g.paymentMethod == .wallet) do
      creditWallet userId o.total ("ORDER-CANCEL-" ++ toString id)) fun _ db₂ =>
        (g.paymentMethod = .wallet →
          ∃ j, WalletCredited userId o.total ("ORDER-CANCEL-" ++ toString id) db₁ db₂ j) ∧
        (g.paymentMethod ≠ .wallet → db₂ .wallet = db₁ .wallet ∧
            db₂ .walletTransaction = db₁ .walletTransaction) := by
    rw [wp_when]
    refine ⟨fun hwallet => wp_mono (creditWallet_credited _ _ _ db₁) fun _ _ h => ⟨fun _ => h, fun hnot => ?_⟩,
      fun hnot => ⟨fun hwallet => ?_, fun _ => ⟨rfl, rfl⟩⟩⟩
    · exact absurd (beq_iff_eq.mp hwallet) hnot
    · exact absurd (beq_iff_eq.mpr hwallet) hnot
  rw [wp_bind]
  refine wp_mono (wp_and hcredit (Writes.when (Payments.creditWallet_writes _ _ _) db₁)) fun _ db₂ h₂ => ?_
  obtain ⟨⟨hcredited, huncredited⟩, h₂⟩ := h₂
  rw [wp_bind]
  refine wp_mono (wp_and (noteRefund_refunds _ _ _ _ _ _ _ _ _ db₂) (noteRefund_writes _ _ _ _ _ _ _ _ _ db₂))
    fun refund db₃ h₃ => ?_
  obtain ⟨hrefund, h₃⟩ := h₃
  rw [wp_bind]
  refine wp_mono (Writes.when (syncInTransaction_writes p) db₃) fun _ db₄ h₄ => ?_
  rw [wp_bind]
  refine wp_mono (wp_and (reverseSettlement_takesBack id o db₄) (reverseSettlement_writes id o db₄))
    fun _ db₅ h₅ => ?_
  obtain ⟨htaken, h₅⟩ := h₅
  rw [wp_bind, wp_updateMany, wp_pure]
  have hbefore (n : TableName) (hn : n ∈ paidBackTables) : db₁ n = db n := h₁ n (paidBack_not_calledOff n hn)
  have hlast (n : TableName) (hn : n ≠ .cashbackReward) :
      (db₅.set .cashbackReward
        ((db₅ .cashbackReward).updateMany (fun _ c => c.orderId == id && c.status == "AVAILABLE")
        fun c => { c with status := "REVERSED" })) n = db₅ n := Database.set_of_ne _ _ hn
  have hwallets : ∀ n ∈ [TableName.wallet, .walletTransaction], db n = db₁ n ∧
      (db₅.set .cashbackReward
        ((db₅ .cashbackReward).updateMany (fun _ c => c.orderId == id && c.status == "AVAILABLE")
        fun c => { c with status := "REVERSED" })) n = db₂ n := by
    intro n hn
    obtain ⟨hpaid, hrefund, hpayment, hstores, hcashback⟩ := wallet_kept n hn
    exact ⟨(hbefore n hpaid).symm, by rw [hlast n hcashback, h₅ n hstores, h₄ n hpayment, h₃ n hrefund]⟩
  refine ⟨o, g, a, p, ho, beq_iff_eq.mp hown, hstatus, ⟨i, hfound⟩, hp, hoff.congr fun n hn =>
    ?_, ?_, fun hwallet => ?_,
    fun hnot => ?_, ?_⟩
  · obtain ⟨hcashback, hwallets, hrefunds, hpayments, hstores⟩ := calledOff_not_paidBack n hn
    exact (hlast n hcashback).trans
      ((h₅ n hstores).trans ((h₄ n hpayments).trans ((h₃ n hrefunds).trans (h₂ n hwallets))))
  · refine hrefund.congr ?_ ?_
    · rw [h₂ .refund (by decide), hbefore .refund (by decide)]
    · rw [hlast .refund (by decide), h₅ .refund (by decide), h₄ .refund (by decide)]
  · obtain ⟨j, hcredit⟩ := hcredited hwallet
    exact ⟨j, hcredit.congr hwallets⟩
  · obtain ⟨hwallet, hentry⟩ := huncredited hnot
    obtain ⟨hwallet₁, hwallet₂⟩ := hwallets .wallet (by decide)
    obtain ⟨hentry₁, hentry₂⟩ := hwallets .walletTransaction (by decide)
    exact ⟨by rw [hwallet₂, hwallet, hwallet₁], by rw [hentry₂, hentry, hentry₁]⟩
  · refine htaken.congr fun n hn => ?_
    obtain ⟨hpaid, hwallet, hrefund, hpayment, hcashback⟩ := storeWallet_kept n hn
    exact ⟨by rw [h₄ n hpayment, h₃ n hrefund, h₂ n hwallet, hbefore n hpaid], hlast n hcashback⟩

end Orders

end Superstore

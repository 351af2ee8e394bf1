import Superstore.Checkout.Bnpl
import Superstore.Orders.Transactions
import Superstore.Payments.Klump
import Superstore.Relational.Growth

/-!
# How payments are entered and change

Most transactions change nothing of a payment but its outcome, and each of them changes one
payment: the one that it is told of, or the one that a group is linked to. Of a relation between
payments it is enough to know that it holds across such a change, and across those few statements
that write how a payment was started.
-/

namespace Superstore

open Relational.Tx

/-- Whether a payment tops a wallet up. -/
def Payment.topup (p : Payment) : Bool :=
  p.metadata.purpose == some .walletTopup || p.metadata.purpose == some .walletTransferTopup

/-- A payment as it is entered: it has a reference, no transfer account, and no outcome if it tops
a wallet up. -/
structure Payment.Entered (p : Payment) : Prop where
  reference : p.transactionRef.isSome
  uninstructed : p.metadata.transferInstructions = none
  klump : p.provider = .klump → p.paymentMethod = .klumpBnpl
  pending : p.topup → p.status = .pending

/-- Nothing but the outcome of a payment has changed, and it is one of these. -/
def Payment.Settles (S : PaymentStatus → Prop) (p q : Payment) : Prop :=
  ∃ s t f, S s ∧ q = { p with status := s, paidAt := t, failureReason := f }

/-- The payment that a group is linked to. -/
def Payments.Linked (db : Database) (p : ℕ) : Prop :=
  ∃ i g, (db .checkoutPaymentGroup).find i = some g ∧ g.paymentId = some p

/-- A relation that holds across each of these outcomes of a payment. -/
def Payments.MaySettle (S : PaymentStatus → Prop) (R : Payment → Payment → Prop) (db : Database) (p : ℕ) : Prop :=
  ∀ r q, (db .payment).find p = some r → r.Settles S q → R r q

/-- Payments are entered as above, and change along a relation. -/
abbrev PaymentsGrow (R : Payment → Payment → Prop) (db db' : Database) : Prop :=
  (db .payment).Grows Payment.Entered R (db' .payment)

variable {S : PaymentStatus → Prop} {R : Payment → Payment → Prop} [IsPreorder Payment R] {db : Database}

/-- Growing by entered payments is reflexive and transitive. -/
instance : IsPreorder Database (PaymentsGrow R) where
  refl db := .refl (db .payment)
  trans _ _ _ := .trans

/-- A transaction that writes no payment. -/
theorem paymentsGrow_of_writes {α : Type} {ns : List TableName} {m : Tx α} (h : Writes ns m)
    (hns : .payment ∉ ns) : Within (PaymentsGrow R) m :=
  .of_writes h fun _ _ hsame => .of_eq (hsame _ hns)

omit [IsPreorder Payment R] in

/-- What a payment may come to depends on the payments alone. -/
theorem Payments.MaySettle.congr {db' : Database} {p : ℕ} (h : Payments.MaySettle S R db p)
    (hsame : db' .payment = db .payment) : Payments.MaySettle S R db' p := by
  intro r q hr
  rw [hsame] at hr
  exact h r q hr

omit [IsPreorder Payment R] in
/-- A part that comes after one that has left the payments as they were. -/
theorem PaymentsGrow.from {α : Type} {m : Tx α} {db₁ : Database} (hsame : db₁ .payment = db .payment)
    (h : wp db₁ m fun _ db' => PaymentsGrow R db₁ db') : wp db₁ m fun _ db' => PaymentsGrow R db db' := by
  refine wp_mono h fun _ db' hgrows => ?_
  change (db .payment).Grows _ R (db' .payment)
  rw [← hsame]
  exact hgrows

namespace Payments

/-- The outcome of one payment. -/
theorem settle_grows {p : ℕ} {f : Payment → Payment} (h : MaySettle S R db p)
    (hf : ∀ r : Payment, r.Settles S (f r)) :
    wp db (update .payment p f) fun _ db' => PaymentsGrow R db db' :=
  grows_update fun r hr => h r _ hr (hf r)

/-- A payment is settled once, whatever happens to its groups. -/
theorem finalizePayment_grows (e : Env) {p : ℕ} (groups : List (ℕ × ℕ)) (success : Bool)
    (h : MaySettle (fun s => s = .paid ∨ s = .failed) R db p) :
    wp db (finalizePayment e p groups success) fun _ db' => PaymentsGrow R db db' := by
  have hlock : Writes Cart.tables (groups.forM fun g => do let _ ← Cart.lock g.2; pure ()) :=
    .forM fun g _ => .bind (Cart.lock_writes _) fun _ => .pure ()
  refine hlock.before fun _ db₁ hsame => ?_
  have hpayment : db₁ .payment = db .payment := hsame _ (by decide)
  apply PaymentsGrow.from hpayment
  have hsettle {f : Payment → Payment} (hf : ∀ r : Payment, r.Settles (fun s => s = .paid ∨ s = .failed) (f r))
      {α : Type} {m : Tx α} {ns : List TableName} (hm : Writes ns m) (hns : .payment ∉ ns) :
      wp db₁ (do update .payment p f; m) fun _ db' => PaymentsGrow R db₁ db' :=
    Within.after (settle_grows (h.congr hpayment) hf) fun _ => paymentsGrow_of_writes hm hns
  rw [wp_bind, wp_findOrThrow]
  intro current _
  split
  · exact (wp_pure _ _ _).mpr (.refl _)
  · split
    · split
      · have hrefunds (groups : List (ℕ × CheckoutPaymentGroup)) : Writes [.refund]
            (groups.mapM fun g => g.2.allocations.mapM (lateRefund p g.1 g.2)) :=
          .mapM fun _ _ => .mapM fun _ _ => lateRefund_writes _ _ _ _
        exact hsettle (fun _ => ⟨_, _, _, .inl rfl, rfl⟩) (.bind (.many _ _) fun _ =>
          .bind (hrefunds _) fun _ => .pure _)
          (by decide)
      · exact (wp_pure _ _ _).mpr (.refl _)
    · split
      · exact hsettle (fun _ => ⟨_, _, _, .inl rfl, rfl⟩)
          (.bind (.forM fun g _ => completeGroup_writes e g.1) fun _ => .pure _)
          (by decide)
      · exact hsettle (fun _ => ⟨_, _, _, .inr rfl, rfl⟩)
          (.bind (.forM fun g _ => failGroup_writes e g.1) fun _ => .pure _)
          (by decide)

/-- A checkout that is cancelled settles the payment that its group is linked to. -/
theorem cancelGroup_grows (e : Env) (userId id : ℕ) (h : ∀ p, Linked db p → MaySettle (· = .failed) R db p) :
    wp db (cancelGroup e userId id) fun _ db' => PaymentsGrow R db db' := by
  refine (Cart.lock_writes userId).before fun _ db₁ hsame => ?_
  have hpayment : db₁ .payment = db .payment := hsame _ (by decide)
  have hgroups : db₁ .checkoutPaymentGroup = db .checkoutPaymentGroup := hsame _ (by decide)
  apply PaymentsGrow.from hpayment
  rw [wp_bind, wp_find, wp_bind, wp_orThrow]
  intro group hgroup
  obtain ⟨hfind, -⟩ := Option.filter_eq_some_iff.mp hgroup
  rw [wp_bind, wp_query, wp_bind, wp_require]
  intro _
  rw [wp_when]
  refine ⟨fun _ => Within.after ?_ fun _ => paymentsGrow_of_writes (failGroup_writes e id) (by decide),
    fun _ => .refl _⟩
  cases hlinked : group.paymentId with
  | none => exact (wp_pure _ _ _).mpr (.refl _)
  | some p =>
    rw [hgroups] at hfind
    exact settle_grows ((h p ⟨id, group, hfind, hlinked⟩).congr hpayment) fun _ => ⟨_, _, _, rfl, rfl⟩

/-- Settling a repayment takes its payment to where it may come. -/
theorem settleRepayment_grows (e : Env) (repaymentId : ℕ) {p : ℕ} (success : Bool)
    (h : MaySettle (fun s => s = .paid ∨ s = .failed) R db p) :
    wp db (settleRepayment e repaymentId p success) fun _ db' => PaymentsGrow R db db' := by
  rw [settleRepayment, wp_bind, wp_findOrThrow]
  intro current _
  rw [wp_when]
  refine ⟨fun _ => ?_, fun _ => .refl _⟩
  have hrepayment : Writes [.bnplRepayment, .bnplInstallment]
      (if success then completeBnplRepayment e repaymentId
        else update .bnplRepayment repaymentId fun r => { r with status := .failed }) := by
    split
    · exact completeBnplRepayment_writes e repaymentId
    · exact .update (by decide) _ _
  refine hrepayment.before fun _ db₁ hsame => ?_
  have hpayment : db₁ .payment = db .payment := hsame _ (by decide)
  refine PaymentsGrow.from hpayment (settle_grows (h.congr hpayment) fun _ => ⟨_, _, _, ?_, rfl⟩)
  split
  · exact .inl rfl
  · exact .inr rfl

/-- Crediting a top-up takes its payment to where it may come. -/
theorem creditTopup_grows (e : Env) {p : ℕ} (userId : ℕ) (amount : ℚ)
    (h : MaySettle (· = .paid) R db p) :
    wp db (creditTopup e p userId amount) fun _ db' => PaymentsGrow R db db' := by
  rw [creditTopup, wp_bind, wp_findOrThrow]
  intro current _
  split
  · exact (wp_pure _ _ _).mpr (.refl _)
  · exact Within.after (settle_grows h fun _ => ⟨_, _, _, rfl, rfl⟩) fun _ =>
      .bind (paymentsGrow_of_writes (creditWallet_writes _ _ _) (by decide)) fun _ => .pure _

/-- Crediting a transfer takes its payment to where it may come. -/
theorem creditFunding_grows (e : Env) {p : ℕ} (userId : ℕ) (reference : String) (amount : ℚ)
    (h : MaySettle (· = .paid) R db p) :
    wp db (creditFunding e p userId reference amount) fun _ db' => PaymentsGrow R db db' := by
  rw [creditFunding, wp_bind, wp_findOrThrow]
  intro current _
  split
  · exact (wp_pure _ _ _).mpr (.refl _)
  have hpost (wallet : ℕ) (t : WalletTransaction) (clash : ℕ → WalletTransaction → Bool) :
      Writes [.wallet, .walletTransaction] (do
        update .wallet wallet fun w => { w with balance := w.balance + amount }
        let _ ← createUnique .walletTransaction clash t
        pure ()) :=
    .bind (.update (by decide) _ _) fun _ => .bind (.createUnique (by decide) _ _) fun _ => .pure _
  refine (Writes.firstOrCreate (List.mem_singleton_self _) _ _).before fun wallet db₁ hsame₁ => ?_
  refine (show Writes [] _ from .first _ _).before fun prior db₂ hsame₂ => ?_
  refine (Writes.when (hpost _ _ _)).before fun _ db₃ hsame₃ => ?_
  have hpayment : db₃ .payment = db .payment :=
    (hsame₃ _ (by decide)).trans ((hsame₂ _ (by decide)).trans (hsame₁ _ (by decide)))
  exact PaymentsGrow.from hpayment
    (Within.after (settle_grows (h.congr hpayment) fun _ => ⟨_, _, _, rfl, rfl⟩) fun _ => .pure _)

/-- Bringing a payment in line with its refunds takes it to where it may come. -/
theorem writeRefundStatus_grows {p : ℕ} (status : PaymentStatus) (h : MaySettle (· = status) R db p) :
    wp db (writeRefundStatus p status) fun _ db' => PaymentsGrow R db db' :=
  settle_grows h fun _ => ⟨_, _, _, rfl, rfl⟩

/-- The first report of a transfer enters its payment. -/
theorem upsertFundingPayment_grows (e : Env) (reference : String) (userId : ℕ) (amount : ℚ) (providerRef : String) :
    wp db (upsertFundingPayment e reference userId amount providerRef) fun _ db' => PaymentsGrow R db db' :=
  grows_firstOrCreate _ ⟨rfl, rfl, nofun, nofun⟩ db

/-- Entering a payment leaves all others as they are. -/
theorem createPayment_grows (e : Env) {payment : Payment} (h : payment.Entered) :
    wp db (createPayment e payment) fun _ db' => PaymentsGrow R db db' :=
  Within.after (grows_createUnique _ ⟨h.reference, h.uninstructed, h.klump, h.pending⟩ db) fun _ => .pure _

/-- Noting how a payment has been started takes it to where it may come. -/
theorem updatePayment_grows {id : ℕ} {u : PaymentUpdate}
    (h : ∀ r, (db .payment).find id = some r → R r (u.apply r)) :
    wp db (updatePayment id u) fun _ db' => PaymentsGrow R db db' :=
  grows_update h

/-- Claiming the start of a payment reserves one that has not been started, or enters a new one. -/
theorem claimInitialization_grows (e : Env) (userId groupId : ℕ)
    (h : ∀ p, Linked db p → ∀ r, (db .payment).find p = some r → ¬Started e.now r →
      R r { r with metadata := { initializingUntil := some (e.now + claimLease) } }) :
    wp db (claimInitialization e userId groupId) fun _ db' => PaymentsGrow R db db' := by
  rw [claimInitialization, wp_bind, wp_find, wp_bind, wp_orThrow]
  intro group hgroup
  obtain ⟨hfind, -⟩ := Option.filter_eq_some_iff.mp hgroup
  rw [wp_bind, wp_require]
  intro _
  split
  · next p hlinked =>
    rw [claimExisting, wp_bind, wp_findOrThrow]
    intro r hr
    split
    · exact (wp_pure _ _ _).mpr (.refl _)
    · next hstarted =>
      refine Within.after (grows_update fun r' hr' => ?_) fun _ =>
        .bind (.of_reads (.findOrThrow _ _)) fun _ => .pure _
      obtain rfl := Option.some.inj (hr.symm.trans hr')
      exact h p ⟨groupId, group, hfind, hlinked⟩ r hr hstarted
  · refine Within.after (((wp_require _ _ _ _).mpr fun _ => .refl _)) fun _ => ?_
    refine .bind (grows_createUnique _ ⟨rfl, rfl, nofun, nofun⟩) fun _ => ?_
    exact .bind (paymentsGrow_of_writes (.update (List.mem_singleton_self _) _ _) (by decide)) fun _ => .pure _

end Payments

namespace Checkout

/-- A checkout that is paid at once enters its payment. -/
theorem createInTransaction_grows (e : Env) (userId : ℕ) (input : CreateCheckoutDto) (credit : Option Credit) :
    Within (PaymentsGrow R) (createInTransaction e userId input credit) := by
  have hpay (groupId : ℕ) (q : Quote) (method : PaymentMethod) :
      Within (PaymentsGrow R) (payAtOnce e userId groupId q method credit) := by
    refine .bind (.when (paymentsGrow_of_writes (debitWallet_writes _ _ _) (by decide))) fun _ => ?_
    refine .bind (grows_createUnique _ ⟨rfl, rfl, nofun, nofun⟩) fun _ => ?_
    exact .bind (paymentsGrow_of_writes (.update (List.mem_singleton_self _) _ _) (by decide)) fun _ =>
      paymentsGrow_of_writes (Payments.completeGroup_writes e _) (by decide)
  refine .bind (paymentsGrow_of_writes (Cart.lock_writes userId) (by decide)) fun cart => ?_
  refine .bind (.of_reads (.require _ _)) fun _ => .bind (.of_reads (.first _ _)) fun pending => ?_
  cases pending with
  | some pending => exact .bind (.of_reads (.require _ _)) fun _ => .pure _
  | none =>
    refine .bind (.of_reads (.query _)) fun _ => .bind (.of_reads (.ofExcept _)) fun q => ?_
    refine .bind (.of_reads (.require _ _)) fun _ => .bind ?_ fun _ =>
      .bind (.of_reads (.findOrThrow _ _)) fun _ => .pure _
    have horders := Writes.mapM fun order (_ : order ∈ q.orders.zipIdx) => placeOrder_writes e userId q order
    refine .bind (paymentsGrow_of_writes horders (by decide)) fun _ => .bind (.of_reads (.ofExcept _)) fun _ => ?_
    refine .bind (paymentsGrow_of_writes (.createUnique (List.mem_singleton_self _) _ _) (by decide)) fun _ => ?_
    exact .bind (.when (hpay _ _ _)) fun _ => .pure _

/-- Confirming an application enters its payment. -/
theorem confirm_grows (e : Env) (userId id : ℕ) : Within (PaymentsGrow R) (confirm e userId id) := by
  refine .bind (.of_reads (.find _ _)) fun _ => .bind (.of_reads (.orThrow _ _)) fun app => ?_
  split
  · exact .pure _
  · refine .bind (.of_reads (.require _ _)) fun _ => .bind (.of_reads (.findOrThrow _ _)) fun _ => ?_
    refine .bind (.of_reads (.require _ _)) fun _ => .bind (createInTransaction_grows e _ _ _) fun _ => ?_
    refine .bind (paymentsGrow_of_writes (.update (List.mem_singleton_self _) _ _) (by decide)) fun _ => ?_
    exact .bind (paymentsGrow_of_writes (createInstallments_writes _ _) (by decide)) fun _ => .pure _

end Checkout

namespace Klump

/-- The payment of a Klump checkout is the one it has, or is entered. -/
theorem startTransaction_grows (e : Env) (userId groupId : ℕ) :
    Within (PaymentsGrow R) (startTransaction e userId groupId) := by
  have hpayment (group : CheckoutPaymentGroup) (reference : String) :
      Within (PaymentsGrow R) (paymentOf e userId group reference) := by
    unfold paymentOf
    split
    · exact .pure _
    · exact grows_createUnique _ ⟨rfl, rfl, fun _ => rfl, nofun⟩
  refine .bind (.of_reads (.find _ _)) fun _ => .bind (.of_reads (.orThrow _ _)) fun group => ?_
  refine .bind (.of_reads (.require _ _)) fun _ => .bind (.of_reads (.require _ _)) fun _ => ?_
  refine .bind (.of_reads (.first _ _)) fun existing => ?_
  cases existing with
  | some existing => exact .pure _
  | none =>
    refine .bind (.of_reads (.query _)) fun _ => .bind (.of_reads (.require _ _)) fun _ => ?_
    refine .bind (.of_reads (.query _)) fun _ => .bind (.of_reads (.ofExcept _)) fun _ => ?_
    refine .bind (hpayment _ _) fun _ => ?_
    refine .bind (paymentsGrow_of_writes (.update (List.mem_singleton_self _) _ _) (by decide)) fun _ => ?_
    refine .bind (.of_reads (.ofExcept _)) fun _ => ?_
    exact .bind (paymentsGrow_of_writes (.createUnique (List.mem_singleton_self _) _ _) (by decide))
      fun _ => .pure _

/-- A verified Klump transaction pays its payment and forgets how it was started. -/
theorem completeTransaction_grows (e : Env) (id : ℕ) (transaction : KlumpTransaction) (providerReference : String)
    (h : ∀ r, (db .payment).find transaction.paymentId = some r → r.status ≠ .failed →
      R r { r with status := .paid, providerRef := some providerReference, paidAt := some e.now
                   metadata := { purpose := some .klumpCheckout } }) :
    wp db (completeTransaction e id transaction providerReference) fun _ db' => PaymentsGrow R db db' := by
  rw [completeTransaction, wp_bind, wp_findOrThrow]
  intro current hcurrent
  rw [wp_bind, wp_require]
  intro hfailed
  refine Within.after ((wp_when _ _ _ _).mpr ⟨fun _ => ?_, fun _ => .refl _⟩) fun _ =>
    paymentsGrow_of_writes (.update (List.mem_singleton_self _) _ _) (by decide)
  refine Within.after (grows_update fun r hr => ?_) fun _ =>
    paymentsGrow_of_writes (Payments.completeGroup_writes e _) (by decide)
  obtain rfl := Option.some.inj (hcurrent.symm.trans hr)
  exact h _ hcurrent hfailed

end Klump

namespace Orders

open Payments (Linked MaySettle)

/-- An order that is cancelled settles the payment of its group. -/
theorem cancel_grows (e : Env) (userId id : ℕ) (reason : String)
    (h : ∀ p, Linked db p → MaySettle PaymentStatus.Refunded R db p) :
    wp db (cancel e userId id reason) fun _ db' => PaymentsGrow R db db' := by
  have hsync (p : ℕ) (db₁ : Database) (hp : MaySettle PaymentStatus.Refunded R db₁ p) :
      wp db₁ (syncInTransaction p) fun _ db' => PaymentsGrow R db₁ db' := by
    rw [syncInTransaction, wp_bind, wp_findOrThrow]
    intro _ _
    rw [wp_bind, wp_query]
    exact Payments.settle_grows hp fun _ => ⟨_, _, _, Payments.refundedStatus_refunded _ _, rfl⟩
  rw [cancel, wp_bind, wp_find, wp_bind, wp_orThrow]
  intro order _
  rw [wp_bind, wp_require]
  intro _
  refine (Payments.callOff_writes _ _ _ _).before fun _ db₁ hsame₁ => ?_
  rw [wp_bind, wp_query, wp_bind, wp_orThrow]
  intro located hlocated
  obtain ⟨a, ha, hlinked⟩ := Option.bind_eq_some_iff.mp hlocated
  obtain ⟨p, hp, rfl⟩ := Option.map_eq_some_iff.mp hlinked
  obtain ⟨g, hg, hmap⟩ := Option.bind_eq_some_iff.mp ha
  obtain ⟨_, -, rfl⟩ := Option.map_eq_some_iff.mp hmap
  have hfind := (Relational.Table.find_of_first hg).1
  rw [hsame₁ .checkoutPaymentGroup (by decide)] at hfind
  have hsettle := h p ⟨g.1, g.2, hfind, hp⟩
  rw [wp_bind, wp_query]
  refine (Writes.when (Payments.creditWallet_writes _ _ _)).before fun _ db₂ hsame₂ => ?_
  refine (noteRefund_writes _ _ _ _ _ _ _ _ _).before fun refund db₃ hsame₃ => ?_
  have hpayment : db₃ .payment = db .payment :=
    (hsame₃ _ (by decide)).trans ((hsame₂ _ (by decide)).trans (hsame₁ _ (by decide)))
  apply PaymentsGrow.from hpayment
  refine Within.after ((wp_when _ _ _ _).mpr ⟨fun _ => hsync p db₃ (hsettle.congr hpayment), fun _ => .refl _⟩)
    fun _ => ?_
  refine .bind (paymentsGrow_of_writes (reverseSettlement_writes _ _) (by decide)) fun _ => ?_
  exact .bind (paymentsGrow_of_writes (.updateMany (List.mem_singleton_self _) _ _) (by decide)) fun _ => .pure _

end Orders

end Superstore

import Superstore.Payments.Lifecycle
import Superstore.Relational.Keys
import Superstore.Requests.Effects

/-!
# The references of payments

A payment is entered under a reference that no other payment has, and keeps it. Where no payment is
entered for the repayment of an installment, none comes to be one.
-/

namespace Superstore

open Interleaving Relational.Tx

variable {only : Prop}

/-- Payments have references of their own; where only the payments of purchases are asked for, none of them repays
an installment. -/
structure OwnReferences (only : Prop) (db : Database) : Prop where
  distinct : (db .payment).Distinct (·.transactionRef)
  unrepaying : only → ∀ p r, (db .payment).find p = some r → r.metadata.purpose ≠ some .bnplRepayment

/-- A payment keeps its reference, and does not come to repay an installment. -/
structure Payment.SameReference (p q : Payment) : Prop where
  reference : q.transactionRef = p.transactionRef
  purpose : p.metadata.purpose ≠ some .bnplRepayment → q.metadata.purpose ≠ some .bnplRepayment

/-- A change that leaves the metadata of a payment and its reference alone. -/
theorem Payment.SameReference.of_eq {p q : Payment} (href : q.transactionRef = p.transactionRef)
    (hmetadata : q.metadata = p.metadata) : p.SameReference q :=
  ⟨href, fun h => by rwa [hmetadata]⟩

/-- Whether references are kept apart depends on the payments alone. -/
theorem OwnReferences.congr {db db' : Database} (h : OwnReferences only db) (hsame : db' .payment = db .payment) :
    OwnReferences only db' where
  distinct := by
    rw [hsame]
    exact h.distinct
  unrepaying ho p r hr := by
    rw [hsame] at hr
    exact h.unrepaying ho p r hr

/-- A payment may be entered under a reference that none has. -/
theorem OwnReferences.enter {db : Database} (h : OwnReferences only db) {r : Payment}
    (hfree : (db .payment).first (fun _ q => q.transactionRef == r.transactionRef) = none)
    (hpurpose : only → r.metadata.purpose ≠ some .bnplRepayment) :
    OwnReferences only (db.set .payment ((db .payment).create r)) where
  distinct := by
    rw [Relational.Database.set_self]
    apply h.distinct.create
    intro i b c hb hc hbc
    have hother := Relational.Table.first_eq_none.mp hfree i b hb
    rw [hc, hbc, beq_self_eq_true] at hother
    cases hother
  unrepaying ho p q hq := by
    rw [Relational.Database.set_self, Relational.Table.find_create] at hq
    split at hq
    · obtain rfl := Option.some.inj hq
      exact hpurpose ho
    · exact h.unrepaying ho p q hq

/-- Payments that keep their references keep them apart. -/
theorem OwnReferences.update {db : Database} (h : OwnReferences only db) {p : ℕ} {f : Payment → Payment}
    (hf : ∀ r, (db .payment).find p = some r → r.SameReference (f r)) :
    OwnReferences only (db.set .payment ((db .payment).update p f)) where
  distinct := by
    rw [Relational.Database.set_self]
    have hgrows : (db .payment).Grows (fun _ => False) (fun a b => b.transactionRef = a.transactionRef)
        ((db .payment).update p f) := .update fun r hr => (hf r hr).reference
    exact h.distinct.grows hgrows fun a b hsame c hc => hsame.symm.trans hc
  unrepaying ho i q hq := by
    rw [Relational.Database.set_self, Relational.Table.find_update] at hq
    split at hq
    · next hi =>
      obtain ⟨r, hr, rfl⟩ := Option.map_eq_some_iff.mp hq
      exact (hf r (hi ▸ hr)).purpose (h.unrepaying ho _ r hr)
    · exact h.unrepaying ho i q hq

/-- The transactions that keep references apart. -/
abbrev KeepsReferences (only : Prop) {α : Type} (m : Tx α) : Prop := Within (Keeps (OwnReferences only)) m

/-- A transaction that writes no payment. -/
theorem keepsReferences_of_writes {α : Type} {ns : List TableName} {m : Tx α} (h : Writes ns m)
    (hns : .payment ∉ ns) : KeepsReferences only m :=
  .of_writes h fun _ _ hsame hown => hown.congr (hsame _ hns)

/-- A change that keeps the reference of a payment keeps references apart. -/
theorem keepsReferences_update (p : ℕ) {f : Payment → Payment} (hf : ∀ r : Payment, r.SameReference (f r)) :
    KeepsReferences only (update .payment p f : Tx Unit) := by
  intro db
  rw [wp_update]
  exact fun _ _ hown => hown.update fun r _ => hf r

/-- A payment that is entered under a free reference keeps references apart. -/
theorem keepsReferences_create {reference : Option String} {r : Payment} (href : r.transactionRef = reference)
    (hpurpose : only → r.metadata.purpose ≠ some .bnplRepayment) :
    KeepsReferences only (createUnique .payment (fun _ q => q.transactionRef == reference) r : Tx ℕ) := by
  intro db
  subst href
  rw [wp_createUnique]
  exact fun hfree hown => hown.enter hfree hpurpose

namespace Payments

/-- What is not written about a payment here is kept. -/
theorem settle_references (p : ℕ) {f : Payment → Payment}
    (hf : ∀ r : Payment, (f r).transactionRef = r.transactionRef ∧ (f r).metadata = r.metadata) :
    KeepsReferences only (update .payment p f : Tx Unit) :=
  keepsReferences_update p fun r => .of_eq (hf r).1 (hf r).2

/-- Finishing a payment keeps references apart. -/
theorem finalizePayment_references (e : Env) (p : ℕ) (groups : List (ℕ × ℕ)) (success : Bool) :
    KeepsReferences only (finalizePayment e p groups success) := by
  have hlock : Writes Cart.tables (groups.forM fun g => do let _ ← Cart.lock g.2; pure ()) :=
    .forM fun g _ => .bind (Cart.lock_writes _) fun _ => .pure ()
  refine .bind (keepsReferences_of_writes hlock (by decide)) fun _ =>
    .bind (.of_reads (.findOrThrow _ _)) fun current => ?_
  split
  · exact .pure _
  · split
    · split
      · refine .bind (settle_references p fun _ => ⟨rfl, rfl⟩) fun _ => .bind (.of_reads (.many _ _)) fun _ => ?_
        have hrefunds (groups : List (ℕ × CheckoutPaymentGroup)) : Writes [.refund]
            (groups.mapM fun g => g.2.allocations.mapM (lateRefund p g.1 g.2)) :=
          .mapM fun _ _ => .mapM fun _ _ => lateRefund_writes _ _ _ _
        exact .bind (keepsReferences_of_writes (hrefunds _) (by decide)) fun _ => .pure _
      · exact .pure _
    · split
      · refine .bind (settle_references p fun _ => ⟨rfl, rfl⟩) fun _ => ?_
        exact .bind (.forM fun g _ => keepsReferences_of_writes (completeGroup_writes e g.1) (by decide))
          fun _ => .pure _
      · refine .bind (settle_references p fun _ => ⟨rfl, rfl⟩) fun _ => ?_
        exact .bind (.forM fun g _ => keepsReferences_of_writes (failGroup_writes e g.1) (by decide))
          fun _ => .pure _

/-- Cancelling a group keeps references apart. -/
theorem cancelGroup_references (e : Env) (userId id : ℕ) : KeepsReferences only (cancelGroup e userId id) := by
  refine .bind (keepsReferences_of_writes (Cart.lock_writes userId) (by decide)) fun _ =>
    .bind (.of_reads (.find _ _)) fun _ => ?_
  refine .bind (.of_reads (.orThrow _ _)) fun group => .bind (.of_reads (.query _)) fun _ => ?_
  refine .bind (.of_reads (.require _ _)) fun _ => .when (.bind ?_ fun _ =>
    keepsReferences_of_writes (failGroup_writes e id) (by decide))
  cases group.paymentId with
  | none => exact .pure _
  | some p => exact settle_references p fun _ => ⟨rfl, rfl⟩

/-- Settling a repayment keeps references apart. -/
theorem settleRepayment_references (e : Env) (repaymentId p : ℕ) (success : Bool) :
    KeepsReferences only (settleRepayment e repaymentId p success) := by
  have hrepayment : Writes [.bnplRepayment, .bnplInstallment]
      (if success then completeBnplRepayment e repaymentId
        else update .bnplRepayment repaymentId fun r => { r with status := .failed }) := by
    split
    · exact completeBnplRepayment_writes e repaymentId
    · exact .update (by decide) _ _
  refine .bind (.of_reads (.findOrThrow _ _)) fun _ => .when ?_
  exact .bind (keepsReferences_of_writes hrepayment (by decide)) fun _ => settle_references p fun _ => ⟨rfl, rfl⟩

/-- Crediting a top-up keeps references apart. -/
theorem creditTopup_references (e : Env) (p userId : ℕ) (amount : ℚ) :
    KeepsReferences only (creditTopup e p userId amount) := by
  refine .bind (.of_reads (.findOrThrow _ _)) fun current => ?_
  split
  · exact .pure _
  · exact .bind (settle_references p fun _ => ⟨rfl, rfl⟩) fun _ =>
      .bind (keepsReferences_of_writes (creditWallet_writes _ _ _) (by decide)) fun _ => .pure _

/-- Crediting a transfer keeps references apart. -/
theorem creditFunding_references (e : Env) (p userId : ℕ) (reference : String) (amount : ℚ) :
    KeepsReferences only (creditFunding e p userId reference amount) := by
  have hpost (wallet : ℕ) (t : WalletTransaction) (clash : ℕ → WalletTransaction → Bool) :
      Writes [.wallet, .walletTransaction] (do
        update .wallet wallet fun w => { w with balance := w.balance + amount }
        let _ ← createUnique .walletTransaction clash t
        pure ()) :=
    .bind (.update (by decide) _ _) fun _ => .bind (.createUnique (by decide) _ _) fun _ => .pure _
  refine .bind (.of_reads (.findOrThrow _ _)) fun current => ?_
  split
  · exact .pure _
  · refine .bind (keepsReferences_of_writes (Writes.firstOrCreate (List.mem_singleton_self _) _ _) (by decide))
      fun wallet => ?_
    refine .bind (.of_reads (.first _ _)) fun _ =>
      .bind (.when (keepsReferences_of_writes (hpost _ _ _) (by decide))) fun _ => ?_
    exact .bind (settle_references p fun _ => ⟨rfl, rfl⟩) fun _ => .pure _

/-- Entering the payment of a transfer keeps references apart. -/
theorem upsertFundingPayment_references (e : Env) (reference : String) (userId : ℕ) (amount : ℚ)
    (providerRef : String) :
    KeepsReferences only (upsertFundingPayment e reference userId amount providerRef) := by
  intro db
  rw [upsertFundingPayment, wp_firstOrCreate]
  exact ⟨fun _ _ => id, fun hfree hown => hown.enter hfree fun _ => by simp⟩

/-- Entering a payment keeps references apart. -/
theorem createPayment_references (e : Env) {payment : Payment}
    (h : only → payment.metadata.purpose ≠ some .bnplRepayment) :
    KeepsReferences only (createPayment e payment) :=
  .bind (keepsReferences_create rfl h) fun _ => .pure _

/-- Noting how a payment has been started keeps references apart. -/
theorem updatePayment_references (id : ℕ) (u : PaymentUpdate) : KeepsReferences only (updatePayment id u) := by
  refine keepsReferences_update id fun r => ?_
  cases u <;> exact ⟨rfl, fun h => by simp_all [PaymentUpdate.apply]⟩

/-- Claiming the start of a payment keeps references apart. -/
theorem claimInitialization_references (e : Env) (userId groupId : ℕ) :
    KeepsReferences only (claimInitialization e userId groupId) := by
  refine .bind (.of_reads (.find _ _)) fun _ => .bind (.of_reads (.orThrow _ _)) fun group => ?_
  refine .bind (.of_reads (.require _ _)) fun _ => ?_
  split
  · refine .bind (.of_reads (.findOrThrow _ _)) fun payment => ?_
    split
    · exact .pure _
    · exact .bind (keepsReferences_update _ fun r => ⟨rfl, fun _ => by simp⟩) fun _ =>
        .bind (.of_reads (.findOrThrow _ _)) fun _ => .pure _
  · refine .bind (.of_reads (.require _ _)) fun _ => .bind (keepsReferences_create rfl fun _ => by simp) fun _ => ?_
    exact .bind (keepsReferences_of_writes (.update (List.mem_singleton_self _) _ _) (by decide)) fun _ => .pure _

end Payments

namespace Checkout

/-- Asking for a checkout keeps references apart. -/
theorem createInTransaction_references (e : Env) (userId : ℕ) (input : CreateCheckoutDto) (credit : Option Credit) :
    KeepsReferences only (createInTransaction e userId input credit) := by
  have hpay (groupId : ℕ) (q : Quote) (method : PaymentMethod) :
      KeepsReferences only (payAtOnce e userId groupId q method credit) := by
    refine .bind (.when (keepsReferences_of_writes (debitWallet_writes _ _ _) (by decide))) fun _ => ?_
    refine .bind (keepsReferences_create rfl fun _ => by simp) fun _ => ?_
    exact .bind (keepsReferences_of_writes (.update (List.mem_singleton_self _) _ _) (by decide)) fun _ =>
      keepsReferences_of_writes (Payments.completeGroup_writes e _) (by decide)
  refine .bind (keepsReferences_of_writes (Cart.lock_writes userId) (by decide)) fun cart => ?_
  refine .bind (.of_reads (.require _ _)) fun _ => .bind (.of_reads (.first _ _)) fun pending => ?_
  cases pending with
  | some pending => exact .bind (.of_reads (.require _ _)) fun _ => .pure _
  | none =>
    refine .bind (.of_reads (.query _)) fun _ => .bind (.of_reads (.ofExcept _)) fun q => ?_
    refine .bind (.of_reads (.require _ _)) fun _ => .bind ?_ fun _ =>
      .bind (.of_reads (.findOrThrow _ _)) fun _ => .pure _
    have horders := Writes.mapM fun order (_ : order ∈ q.orders.zipIdx) => placeOrder_writes e userId q order
    refine .bind (keepsReferences_of_writes horders (by decide)) fun _ =>
      .bind (.of_reads (.ofExcept _)) fun _ => ?_
    refine .bind (keepsReferences_of_writes (.createUnique (List.mem_singleton_self _) _ _) (by decide)) fun _ => ?_
    exact .bind (.when (hpay _ _ _)) fun _ => .pure _

/-- Confirming an application keeps references apart. -/
theorem confirm_references (e : Env) (userId id : ℕ) : KeepsReferences only (confirm e userId id) := by
  refine .bind (.of_reads (.find _ _)) fun _ => .bind (.of_reads (.orThrow _ _)) fun app => ?_
  split
  · exact .pure _
  · refine .bind (.of_reads (.require _ _)) fun _ => .bind (.of_reads (.findOrThrow _ _)) fun _ => ?_
    refine .bind (.of_reads (.require _ _)) fun _ => .bind (createInTransaction_references e _ _ _) fun _ => ?_
    refine .bind (keepsReferences_of_writes (.update (List.mem_singleton_self _) _ _) (by decide)) fun _ => ?_
    exact .bind (keepsReferences_of_writes (createInstallments_writes _ _) (by decide)) fun _ => .pure _

end Checkout

namespace Klump

/-- Starting a transaction of Klump keeps references apart. -/
theorem startTransaction_references (e : Env) (userId groupId : ℕ) :
    KeepsReferences only (startTransaction e userId groupId) := by
  have hpayment (group : CheckoutPaymentGroup) (reference : String) :
      KeepsReferences only (paymentOf e userId group reference) := by
    unfold paymentOf
    split
    · exact .pure _
    · exact keepsReferences_create rfl fun _ => by simp
  refine .bind (.of_reads (.find _ _)) fun _ => .bind (.of_reads (.orThrow _ _)) fun group => ?_
  refine .bind (.of_reads (.require _ _)) fun _ => .bind (.of_reads (.require _ _)) fun _ => ?_
  refine .bind (.of_reads (.first _ _)) fun existing => ?_
  cases existing with
  | some existing => exact .pure _
  | none =>
    refine .bind (.of_reads (.query _)) fun _ => .bind (.of_reads (.require _ _)) fun _ => ?_
    refine .bind (.of_reads (.query _)) fun _ => .bind (.of_reads (.ofExcept _)) fun _ => ?_
    refine .bind (hpayment _ _) fun _ => ?_
    refine .bind (keepsReferences_of_writes (.update (List.mem_singleton_self _) _ _) (by decide)) fun _ => ?_
    refine .bind (.of_reads (.ofExcept _)) fun _ => ?_
    exact .bind (keepsReferences_of_writes (.createUnique (List.mem_singleton_self _) _ _) (by decide))
      fun _ => .pure _

/-- Completing a transaction of Klump keeps references apart. -/
theorem completeTransaction_references (e : Env) (id : ℕ) (transaction : KlumpTransaction)
    (providerReference : String) :
    KeepsReferences only (completeTransaction e id transaction providerReference) := by
  refine .bind (.of_reads (.findOrThrow _ _)) fun current => .bind (.of_reads (.require _ _)) fun _ => ?_
  refine .bind (.when (.bind (keepsReferences_update _ fun r => ⟨rfl, fun _ => by simp⟩) fun _ => ?_)) fun _ => ?_
  · exact keepsReferences_of_writes (Payments.completeGroup_writes e _) (by decide)
  · exact keepsReferences_of_writes (.update (List.mem_singleton_self _) _ _) (by decide)

end Klump

namespace Orders

/-- Cancelling an order keeps references apart. -/
theorem cancel_references (e : Env) (userId id : ℕ) (reason : String) :
    KeepsReferences only (cancel e userId id reason) := by
  have hsync (p : ℕ) : KeepsReferences only (syncInTransaction p) :=
    .bind (.of_reads (.findOrThrow _ _)) fun _ => .bind (.of_reads (.query _)) fun _ =>
      Payments.settle_references p fun _ => ⟨rfl, rfl⟩
  refine .bind (.of_reads (.find _ _)) fun _ => .bind (.of_reads (.orThrow _ _)) fun order => ?_
  refine .bind (.of_reads (.require _ _)) fun _ => ?_
  refine .bind (keepsReferences_of_writes (Payments.callOff_writes _ _ _ _) (by decide)) fun _ => ?_
  refine .bind (.of_reads (.query _)) fun _ => .bind (.of_reads (.orThrow _ _)) fun located => ?_
  refine .bind (.of_reads (.query _)) fun payment => ?_
  refine .bind (.when (keepsReferences_of_writes (Payments.creditWallet_writes _ _ _) (by decide))) fun _ => ?_
  refine .bind (keepsReferences_of_writes (noteRefund_writes _ _ _ _ _ _ _ _ _) (by decide)) fun refund => ?_
  refine .bind (.when (hsync _)) fun _ => ?_
  refine .bind (keepsReferences_of_writes (reverseSettlement_writes _ _) (by decide)) fun _ => ?_
  refine .bind (keepsReferences_of_writes (.updateMany (List.mem_singleton_self TableName.cashbackReward) _ _)
    (by decide)) fun _ => ?_
  exact .pure _

end Orders

/-- An operation enters no payment that repays an installment. -/
def Op.EntersUnrepaying : {α : Type} → Op α → Prop
  | _, .createPayment payment => payment.metadata.purpose ≠ some .bnplRepayment
  | _, _ => True

/-- Every operation keeps references apart. -/
theorem exec_references {α : Type} (op : Op α) (e : Env) {w : World} (hown : OwnReferences only w.db)
    (henters : only → op.EntersUnrepaying) : OwnReferences only (op.exec e w).2.db := by
  by_cases hwrites : TableName.payment ∈ op.writes
  swap
  · exact hown.congr (exec_frame op e w _ hwrites)
  have hkeeps {α : Type} {op : Op α} {m : Env → Tx α} (hop : op.transaction = some m)
      (hm : KeepsReferences only (m e)) : OwnReferences only (op.exec e w).2.db :=
    exec_transaction hop (Φ := fun w' => OwnReferences only w'.db) hown (wp_mono (hm w.db) fun _ _ h => h hown)
  cases op <;> dsimp only [Op.writes] at hwrites <;>
    first | exact absurd hwrites (by decide) | clear hwrites
  case createCheckout => exact hkeeps rfl (Checkout.createInTransaction_references e _ _ _)
  case confirmFinancing => exact hkeeps rfl (Checkout.confirm_references e _ _)
  case claimInitialization => exact hkeeps rfl (Payments.claimInitialization_references e _ _)
  case updatePayment => exact hkeeps rfl (Payments.updatePayment_references _ _)
  case finalizePayment => exact hkeeps rfl (Payments.finalizePayment_references e _ _ _)
  case cancelGroup => exact hkeeps rfl (Payments.cancelGroup_references e _ _)
  case settleRepayment => exact hkeeps rfl (Payments.settleRepayment_references e _ _ _)
  case creditTopup => exact hkeeps rfl (Payments.creditTopup_references e _ _ _)
  case createPayment => exact hkeeps rfl (Payments.createPayment_references e henters)
  case upsertFundingPayment => exact hkeeps rfl (Payments.upsertFundingPayment_references e _ _ _ _)
  case creditFunding => exact hkeeps rfl (Payments.creditFunding_references e _ _ _ _)
  case writeRefundStatus => exact hkeeps rfl (Payments.settle_references _ fun _ => ⟨rfl, rfl⟩)
  case startKlump => exact hkeeps rfl (Klump.startTransaction_references e _ _)
  case completeKlump => exact hkeeps rfl (Klump.completeTransaction_references e _ _ _)
  case cancelOrder => exact hkeeps rfl (Orders.cancel_references e _ _ _)

end Superstore

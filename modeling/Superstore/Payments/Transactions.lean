import Superstore.Payments.Groups

/-!
# The transactions of the payment service

Each definition is the body of one database transaction, or one single statement that writes
on its own. What a request has read before is a parameter, so that a stale value can be told
from one that the transaction reads itself.
-/

namespace Superstore

/-- Money that has been given back, in whole or in part. -/
def PaymentStatus.Refunded (s : PaymentStatus) : Prop := s = .refunded ∨ s = .partiallyRefunded

/-- Whether a payment has been refunded can be decided. -/
instance (s : PaymentStatus) : Decidable s.Refunded := inferInstanceAs (Decidable (_ ∨ _))

/-- A payment that has been refunded has not failed. -/
theorem PaymentStatus.Refunded.ne_failed {s : PaymentStatus} (h : s.Refunded) : s ≠ .failed := by
  rcases h with rfl | rfl <;> decide

namespace Payments

/-! ## Starting a payment -/

/-- The outcome of claiming the start of a payment: the payment, and whether the caller is the
one to start it. -/
structure Claim where
  paymentId : ℕ
  payment : Payment
  start : Bool

/-- How long a claimed start is reserved for its caller. -/
def claimLease : ℕ := 60000

/-- The methods that are paid through Paystack. -/
def usesPaystack (method : PaymentMethod) : Bool :=
  [PaymentMethod.card, .bankTransfer, .opay].contains method

/-- Whether a payment has been started, or is being started by somebody else. -/
def Started (now : ℕ) (payment : Payment) : Prop :=
  payment.paymentUrl.isSome ∨ payment.metadata.transferInstructions.isSome ∨
    payment.status = .paid ∨ now < payment.metadata.initializingUntil.getD 0

/-- Whether a payment has been started can be decided. -/
instance (now : ℕ) (payment : Payment) : Decidable (Started now payment) :=
  inferInstanceAs (Decidable (_ ∨ _))

/-- Claim the start of the payment that a group already has. -/
def claimExisting (e : Env) (paymentId : ℕ) : Tx Claim := do
  let payment ← findOrThrow .payment paymentId
  if Started e.now payment then
    pure ⟨paymentId, payment, false⟩
  else do
    update .payment paymentId fun p =>
      { p with metadata := { initializingUntil := some (e.now + claimLease) } }
    let payment ← findOrThrow .payment paymentId
    pure ⟨paymentId, payment, true⟩

/-- Create the Paystack payment of a group and claim its start. -/
def claimNew (e : Env) (groupId : ℕ) (group : CheckoutPaymentGroup) : Tx Claim := do
  require (usesPaystack group.paymentMethod) (.badRequest "Checkout does not use Paystack.")
  let reference := "PUR-" ++ (toString groupId ++ "-" ++ e.uuid)
  let payment : Payment :=
    { amount := group.totalAmount, currency := group.currency, paymentMethod := group.paymentMethod
      provider := .paystack, transactionRef := some reference, createdAt := e.now
      metadata := { initializingUntil := some (e.now + claimLease) } }
  let paymentId ← createUnique .payment (fun _ p => p.transactionRef == some reference) payment
  update .checkoutPaymentGroup groupId fun g =>
    { g with paymentId := some paymentId, status := .processing }
  pure ⟨paymentId, payment, true⟩

/-- Claim the start of the payment of a group. -/
def claimInitialization (e : Env) (userId groupId : ℕ) : Tx Claim := do
  let group ← find .checkoutPaymentGroup groupId
  let group ← orThrow (group.filter (·.userId == userId))
    (.notFound "Checkout payment group not found.")
  require (group.status ≠ .failed) (.conflict "Checkout failed. Start a new checkout.")
  match group.paymentId with
  | some paymentId => claimExisting e paymentId
  | none => claimNew e groupId group

/-- A group whose payment its customer can start. -/
def startable (userId groupId : ℕ) (db : Database) : Bool :=
  ((db .checkoutPaymentGroup).find groupId).any fun g => g.userId == userId && g.status != .failed

/-- The single statements that write a payment. -/
inductive PaymentUpdate
  | transferInstructions (reference : String) (instructions : TransferInstructions)
  | paymentUrl (reference url : String)
  | clearMetadata
  | topupUrl (userId : ℕ) (reference url : String)
  | topupInstructions (userId : ℕ) (reference : String) (instructions : TransferInstructions)
  | failTopup (reason : Option String)
  deriving DecidableEq

/-- What a single statement makes of a payment. -/
def PaymentUpdate.apply : PaymentUpdate → Payment → Payment
  | .transferInstructions reference instructions, p =>
    { p with providerRef := some reference
             metadata := { transferInstructions := some instructions } }
  | .paymentUrl reference url, p =>
    { p with providerRef := some reference, paymentUrl := some url, metadata := {} }
  | .clearMetadata, p => { p with metadata := {} }
  | .topupUrl userId reference url, p =>
    { p with providerRef := some reference, paymentUrl := some url
             metadata := { purpose := some .walletTopup, userId := some userId } }
  | .topupInstructions userId reference instructions, p =>
    { p with providerRef := some reference
             metadata := { purpose := some .walletTransferTopup, userId := some userId
                           transferInstructions := some instructions } }
  | .failTopup reason, p =>
    { p with status := .failed, failureReason := reason <|> p.failureReason }

/-- Run a single statement on a payment. -/
def updatePayment (id : ℕ) (u : PaymentUpdate) : Tx Unit := update .payment id u.apply

/-! ## Verified checkout payments -/

/-- Mark a payment paid. -/
def markPaid (now : ℕ) (p : Payment) : Payment := { p with status := .paid, paidAt := some now }

/-- The refund of one order of a checkout that was paid for after its release. -/
def lateRefund (paymentId groupId : ℕ) (group : CheckoutPaymentGroup)
    (allocation : Allocation) : Tx ℕ := do
  let key := "LATE-PAYMENT-REFUND-" ++ toString allocation.orderId
  let existing ← first .refund fun _ r => r.orderId == allocation.orderId
  match existing with
  | some refund => pure refund.1
  | none =>
    createUnique .refund (fun _ r => r.idempotencyKey == key)
      { orderId := allocation.orderId, userId := group.userId, paymentId := paymentId
        amount := allocation.amount, currency := group.currency, provider := .paystack
        status := .pending, idempotencyKey := key
        reason := "Payment completed after checkout " ++ toString groupId ++ " was cancelled." }

/-- Take the money of a released checkout and note a refund for each of its orders. -/
def acceptLatePayment (e : Env) (paymentId : ℕ) : Tx (List ℕ) := do
  update .payment paymentId fun p => { markPaid e.now p with failureReason := none }
  let groups ← many .checkoutPaymentGroup fun _ g => g.paymentId == some paymentId
  let refunds ← groups.mapM fun g => g.2.allocations.mapM (lateRefund paymentId g.1 g.2)
  pure refunds.flatten

/-- Apply the outcome of a checkout payment to the groups it was read with. -/
def finalizePayment (e : Env) (paymentId : ℕ) (groups : List (ℕ × ℕ)) (success : Bool) :
    Tx (List ℕ) := do
  groups.forM fun g => do let _ ← Cart.lock g.2; pure ()
  let current ← findOrThrow .payment paymentId
  if current.status = .paid then pure []
  else if current.status = .failed then
    if success then acceptLatePayment e paymentId else pure []
  else if success then do
    update .payment paymentId (markPaid e.now)
    groups.forM fun g => completeGroup e g.1
    pure []
  else do
    update .payment paymentId fun p => { p with status := .failed }
    groups.forM fun g => failGroup e g.1
    pure []

/-- Finish the groups of a paid payment that are not finished yet. -/
def completeIncomplete (e : Env) (groups : List (ℕ × ℕ)) : Tx Unit :=
  groups.forM fun g => do
    let _ ← Cart.lock g.2
    completeGroup e g.1

/-- Mark the payment of a cancelled checkout failed, if it has one. -/
def failPayment (paymentId : Option ℕ) : Tx Unit :=
  match paymentId with
  | some paymentId =>
    update .payment paymentId fun p =>
      { p with
        status := .failed
        failureReason := some "Checkout cancelled by customer before payment completed." }
  | none => pure ()

/-- Cancel an unpaid checkout. -/
def cancelGroup (e : Env) (userId id : ℕ) : Tx Unit := do
  let _ ← Cart.lock userId
  let group ← find .checkoutPaymentGroup id
  let group ← orThrow (group.filter (·.userId == userId)) (.notFound "Checkout not found.")
  let payment ← Relational.Tx.query fun db => group.paymentId.bind (db .payment).find
  require (group.status ≠ .paid ∧ payment.all (·.status ≠ .paid))
    (.conflict "Payment has already completed and cannot be cancelled.")
  when (group.status ≠ .failed) do
    failPayment group.paymentId
    failGroup e id

/-! ## Repayments and top-ups -/

/-- Count a repayment towards its installment. -/
def completeBnplRepayment (e : Env) (repaymentId : ℕ) : Tx Unit := do
  let repayment ← findOrThrow .bnplRepayment repaymentId
  let installment ← findOrThrow .bnplInstallment repayment.installmentId
  when (repayment.status ≠ .paid) do
    let paid := installment.amountPaid + repayment.amount
    update .bnplRepayment repaymentId fun r => { r with status := .paid, paidAt := some e.now }
    update .bnplInstallment repayment.installmentId fun i =>
      { i with
        amountPaid := paid
        status := if installment.amount ≤ paid then "PAID" else "PARTIALLY_PAID"
        paidAt := if installment.amount ≤ paid then some e.now else none }

/-- Apply the outcome of a repayment. -/
def settleRepayment (e : Env) (repaymentId paymentId : ℕ) (success : Bool) : Tx Unit := do
  let current ← findOrThrow .bnplRepayment repaymentId
  when (current.status ≠ .paid ∧ current.status ≠ .failed) do
    (if success then completeBnplRepayment e repaymentId
      else update .bnplRepayment repaymentId fun r => { r with status := .failed })
    update .payment paymentId fun p =>
      { p with status := if success then .paid else .failed
               paidAt := if success then some e.now else none }

/-- Repay an installment out of the wallet. -/
def repayFromWallet (e : Env) (userId installmentId : ℕ) (amount : ℚ) (reference : String) :
    Tx ℕ := do
  let count ← updateMany .wallet (fun _ w => w.userId == userId && decide (amount ≤ w.balance))
    fun w => { w with balance := w.balance - amount }
  require (count ≠ 0) (.badRequest "Insufficient wallet balance.")
  let wallet ← first .wallet fun _ w => w.userId == userId
  let wallet ← orThrow wallet .recordNotFound
  let _ ← createUnique .walletTransaction (fun _ t => t.reference == some reference)
    { walletId := wallet.1, amount := amount, type := .debit, reference := some reference }
  let repaymentId ← createUnique .bnplRepayment (fun _ r => r.reference == reference)
    { installmentId := installmentId, userId := userId, amount := amount, method := .wallet
      reference := reference }
  completeBnplRepayment e repaymentId
  pure repaymentId

/-- Credit a wallet under a ledger reference. -/
def creditWallet (userId : ℕ) (amount : ℚ) (reference : String) : Tx Unit := do
  let wallet ← firstOrCreate .wallet (fun _ w => w.userId == userId) { userId := userId }
  update .wallet wallet.1 fun w => { w with balance := w.balance + amount }
  let _ ← createUnique .walletTransaction (fun _ t => t.reference == some reference)
    { walletId := wallet.1, amount := amount, type := .credit, reference := some reference }
  pure ()

/-- Credit a top-up unless its payment is paid already; the answer tells whether it was. -/
def creditTopup (e : Env) (paymentId userId : ℕ) (amount : ℚ) : Tx Bool := do
  let current ← findOrThrow .payment paymentId
  if current.status = .paid then pure false
  else do
    update .payment paymentId (markPaid e.now)
    creditWallet userId amount ("TOPUP-CREDIT-" ++ toString paymentId)
    pure true

/-- The ledger reference of a transfer to a dedicated account. -/
def fundingLedgerReference (reference : String) : String := "DVA-CREDIT-" ++ reference

/-- Credit a transfer to a dedicated account unless its payment is paid already. -/
def creditFunding (e : Env) (paymentId userId : ℕ) (reference : String) (amount : ℚ) :
    Tx Bool := do
  let current ← findOrThrow .payment paymentId
  if current.status = .paid then pure false
  else do
    let wallet ← firstOrCreate .wallet (fun _ w => w.userId == userId) { userId := userId }
    let ledgerReference := fundingLedgerReference reference
    let priorCredit ← first .walletTransaction fun _ t => t.reference == some ledgerReference
    when priorCredit.isNone do
      update .wallet wallet.1 fun w => { w with balance := w.balance + amount }
      let _ ← createUnique .walletTransaction (fun _ t => t.reference == some ledgerReference)
        { walletId := wallet.1, amount := amount, type := .credit
          reference := some ledgerReference }
      pure ()
    update .payment paymentId (markPaid e.now)
    pure true

/-- The payment of a transfer to a dedicated account, created at its first report. -/
def upsertFundingPayment (e : Env) (reference : String) (userId : ℕ) (amount : ℚ)
    (providerRef : String) : Tx (ℕ × Payment) :=
  firstOrCreate .payment (fun _ p => p.transactionRef == some reference)
    { amount := amount, paymentMethod := .bankTransfer, provider := .paystack
      transactionRef := some reference, providerRef := some providerRef, createdAt := e.now
      metadata := { purpose := some .walletDvaTopup, userId := some userId } }

/-- Create the payment of a top-up or of a repayment by card. -/
def createPayment (e : Env) (payment : Payment) : Tx (ℕ × Payment) := do
  let payment := { payment with createdAt := e.now }
  let id ← createUnique .payment (fun _ p => p.transactionRef == payment.transactionRef) payment
  pure (id, payment)

/-- Create the repayment that belongs to a payment by card. -/
def createRepayment (repayment : BnplRepayment) : Tx ℕ :=
  createUnique .bnplRepayment (fun _ r => r.reference == repayment.reference) repayment

/-! ## Refunds -/

/-- The single statements that write the status of a refund without a condition on it. -/
inductive RefundUpdate
  | manualReview
  | polled (answer : ProviderRefund)
  | submitted (answer : ProviderRefund)
  | submissionFailed (reason : Error)
  | webhook (status : RefundStatus) (providerId : Option String) (reason : Option String)
  | resubmitted

/-- The status that polling derives from the provider's answer. -/
def polledStatus : ProviderRefundStatus → RefundStatus
  | .processed => .succeeded
  | .failed => .failed
  | .needsAttention => .needsAttention
  | .processing => .processing

/-- The status that a submission derives from the provider's answer. -/
def submittedStatus : ProviderRefundStatus → RefundStatus
  | .processed => .succeeded
  | .needsAttention => .needsAttention
  | _ => .processing

/-- The status that a refund statement writes. -/
def RefundUpdate.status : RefundUpdate → RefundStatus
  | .manualReview => .manualReview
  | .polled answer => polledStatus answer.status
  | .submitted answer => submittedStatus answer.status
  | .submissionFailed _ => .failed
  | .webhook status _ _ => status
  | .resubmitted => .processing

/-- The time a completed refund is completed at; other statuses clear it. -/
def completionTime (now : ℕ) (status : RefundStatus) : Option ℕ :=
  if status = .succeeded then some now else none

/-- What a single statement makes of a refund. -/
def RefundUpdate.apply (now : ℕ) : RefundUpdate → Refund → Refund
  | .manualReview, r =>
    { r with status := .manualReview
             failureReason :=
              some "Complete the customer refund in the Klump merchant dashboard, then record its reference here." }
  | .polled answer, r =>
    { r with status := polledStatus answer.status
             completedAt := completionTime now (polledStatus answer.status)
             failureReason := if polledStatus answer.status = .failed
               then some (answer.reason.getD "Provider refund failed.") else none }
  | .submitted answer, r =>
    { r with providerRefundId := answer.id, status := submittedStatus answer.status
             completedAt := completionTime now (submittedStatus answer.status) }
  | .submissionFailed reason, r =>
    { r with status := .failed, failureReason := some reason.message }
  | .webhook status providerId reason, r =>
    { r with status := status, providerRefundId := providerId <|> r.providerRefundId
             failureReason := if status = .failed
               then some (reason.getD "Provider refund failed.") else none
             completedAt := completionTime now status }
  | .resubmitted, r =>
    { r with status := .processing, processingAt := some now, failureReason := none }

/-- Run a single statement on a refund and return the row it leaves. -/
def updateRefund (e : Env) (id : ℕ) (u : RefundUpdate) : Tx Refund := do
  update .refund id (u.apply e.now)
  findOrThrow .refund id

/-- Claim a pending refund for its submission; the count tells whether it was pending. -/
def claimRefund (e : Env) (id : ℕ) : Tx ℕ :=
  updateMany .refund (fun i r => i == id && r.status == .pending)
    fun r => { r with status := .processing, processingAt := some e.now, failureReason := none }

/-- Make a failed refund pending again; the count tells whether it had failed. -/
def reopenRefund (id : ℕ) : Tx ℕ :=
  updateMany .refund (fun i r => i == id && r.status == .failed)
    fun r => { r with status := .pending, failureReason := none, processingAt := none }

/-- Record the manual completion of a refund. -/
def completeManual (e : Env) (id : ℕ) (providerReference : String) (processingAt : Option ℕ) :
    Tx Refund := do
  update .refund id fun r =>
    { r with status := .succeeded, providerRefundId := some providerReference
             processingAt := processingAt <|> some e.now, completedAt := some e.now
             failureReason := none }
  findOrThrow .refund id

/-- The sum of the succeeded refunds of a payment. -/
def succeededTotal (paymentId : ℕ) (db : Database) : ℚ :=
  (db .refund).total fun _ r =>
    if r.paymentId = paymentId ∧ r.status = .succeeded then r.amount else 0

/-- The status of a payment whose refunds have been summed up. -/
def refundedStatus (refunded amount : ℚ) : PaymentStatus :=
  if amount ≤ refunded then .refunded else .partiallyRefunded

/-- Refunds leave a payment refunded, in whole or in part. -/
theorem refundedStatus_refunded (refunded amount : ℚ) : (refundedStatus refunded amount).Refunded := by
  unfold refundedStatus
  split
  · exact .inl rfl
  · exact .inr rfl

/-- Write the refund status of a payment. -/
def writeRefundStatus (paymentId : ℕ) (status : PaymentStatus) : Tx Unit :=
  update .payment paymentId fun p => { p with status := status }

/-! ## Webhook events -/

/-- Record a webhook and, once it is known, the outcome of its processing. -/
def upsertWebhookEvent (e : Env) (provider eventId eventType : String)
    (outcome : Option (Except Error (Option ℕ))) : Tx Unit := do
  let event ← firstOrCreate .paymentWebhookEvent (fun _ w => w.eventId == eventId)
    { provider := provider, eventId := eventId, eventType := eventType }
  update .paymentWebhookEvent event.1 fun w =>
    match outcome with
    | none => w
    | some (.ok paymentId) =>
      { w with processed := true, processedAt := some e.now, errorMessage := none
               paymentId := paymentId <|> w.paymentId }
    | some (.error err) => { w with processed := false, errorMessage := some err }

/-! ## What the transactions write -/

open Relational.Tx (Writes)

/-- Claiming the start of a payment writes payments and their groups. -/
theorem claimInitialization_writes (e : Env) (userId groupId : ℕ) :
    Writes [.payment, .checkoutPaymentGroup] (claimInitialization e userId groupId) := by
  refine .bind (.find _ _) fun _ => .bind (.orThrow _ _) fun group => ?_
  refine .bind (.require _ _) fun _ => ?_
  split
  · refine .bind (.findOrThrow _ _) fun payment => ?_
    split
    · exact .pure _
    · exact .bind (.update (by decide) _ _) fun _ => .bind (.findOrThrow _ _) fun _ => .pure _
  · exact .bind (.require _ _) fun _ => .bind (.createUnique (by decide) _ _) fun _ =>
      .bind (.update (by decide) _ _) fun _ => .pure _

/-- Paying back a late payment writes refunds. -/
theorem lateRefund_writes (paymentId groupId : ℕ) (group : CheckoutPaymentGroup)
    (allocation : Allocation) :
    Writes [.refund] (lateRefund paymentId groupId group allocation) := by
  refine .bind (.first _ _) fun existing => ?_
  cases existing with
  | some existing => exact .pure _
  | none => exact .createUnique (by decide) _ _

/-- Taking in a late payment writes payments and refunds. -/
theorem acceptLatePayment_writes (e : Env) (paymentId : ℕ) :
    Writes [.payment, .refund] (acceptLatePayment e paymentId) :=
  .bind (.update (by decide) _ _) fun _ => .bind (.many _ _) fun _ =>
    .bind (.mapM fun _ _ => .mapM fun _ _ => (lateRefund_writes _ _ _ _).mono (by decide))
      fun _ => .pure _

/-- The tables that the outcome of a checkout payment writes. -/
def outcomeTables : List TableName :=
  [.payment, .refund] ++ completionTables ++ callOffTables

/-- Finishing a payment writes what its outcome changes. -/
theorem finalizePayment_writes (e : Env) (paymentId : ℕ) (groups : List (ℕ × ℕ)) (success : Bool) :
    Writes outcomeTables (finalizePayment e paymentId groups success) := by
  refine .bind (.forM fun g _ => .bind ((Cart.lock_writes _).mono (by decide)) fun _ => .pure ())
    fun _ => .bind (.findOrThrow _ _) fun current => ?_
  split
  · exact .pure _
  · split
    · split
      · exact (acceptLatePayment_writes e _).mono (by decide)
      · exact .pure _
    · split
      · exact .bind (.update (by decide) _ _) fun _ =>
          .bind (.forM fun g _ => (completeGroup_writes e _).mono (by decide)) fun _ => .pure _
      · exact .bind (.update (by decide) _ _) fun _ =>
          .bind (.forM fun g _ => (failGroup_writes e _).mono (by decide)) fun _ => .pure _

/-- Completing groups that were left over writes what a completion changes. -/
theorem completeIncomplete_writes (e : Env) (groups : List (ℕ × ℕ)) :
    Writes completionTables (completeIncomplete e groups) :=
  .forM fun _ _ => .bind ((Cart.lock_writes _).mono (by decide)) fun _ => completeGroup_writes e _

/-- A payment that fails is written. -/
theorem failPayment_writes (paymentId : Option ℕ) : Writes [.payment] (failPayment paymentId) := by
  unfold failPayment
  split
  · exact .update (by decide) _ _
  · exact .pure ()

/-- Cancelling a group writes what it calls off, its payment and its cart. -/
theorem cancelGroup_writes (e : Env) (userId id : ℕ) :
    Writes (.payment :: .checkoutPaymentGroup :: callOffTables ++ Cart.tables)
      (cancelGroup e userId id) :=
  .bind ((Cart.lock_writes _).mono (by decide)) fun _ => .bind (.find _ _) fun _ =>
    .bind (.orThrow _ _) fun _ => .bind (.query _) fun _ => .bind (.require _ _) fun _ =>
    .when (.bind ((failPayment_writes _).mono (by decide)) fun _ =>
      (failGroup_writes e _).mono (by decide))

/-- Completing a repayment writes repayments and installments. -/
theorem completeBnplRepayment_writes (e : Env) (repaymentId : ℕ) :
    Writes [.bnplRepayment, .bnplInstallment] (completeBnplRepayment e repaymentId) :=
  .bind (.findOrThrow _ _) fun _ => .bind (.findOrThrow _ _) fun _ =>
    .when (.bind (.update (by decide) _ _) fun _ => .update (by decide) _ _)

/-- Settling a repayment writes its payment and what the repayment changes. -/
theorem settleRepayment_writes (e : Env) (repaymentId paymentId : ℕ) (success : Bool) :
    Writes [.payment, .bnplRepayment, .bnplInstallment]
      (settleRepayment e repaymentId paymentId success) := by
  refine .bind (.findOrThrow _ _) fun _ => .when (.bind ?_ fun _ => .update (by decide) _ _)
  split
  · exact (completeBnplRepayment_writes e _).mono (by decide)
  · exact .update (by decide) _ _

/-- Repaying out of the wallet writes the wallet and what the repayment changes. -/
theorem repayFromWallet_writes (e : Env) (userId installmentId : ℕ) (amount : ℚ)
    (reference : String) :
    Writes [.wallet, .walletTransaction, .bnplRepayment, .bnplInstallment]
      (repayFromWallet e userId installmentId amount reference) :=
  .bind (.updateMany (by decide) _ _) fun _ => .bind (.require _ _) fun _ =>
    .bind (.first _ _) fun _ => .bind (.orThrow _ _) fun _ =>
    .bind (.createUnique (by decide) _ _) fun _ => .bind (.createUnique (by decide) _ _) fun _ =>
    .bind ((completeBnplRepayment_writes e _).mono (by decide)) fun _ => .pure _

/-- Crediting a wallet writes wallets and their entries. -/
theorem creditWallet_writes (userId : ℕ) (amount : ℚ) (reference : String) :
    Writes [.wallet, .walletTransaction] (creditWallet userId amount reference) :=
  .bind (.firstOrCreate (by decide) _ _) fun _ => .bind (.update (by decide) _ _) fun _ =>
    .bind (.createUnique (by decide) _ _) fun _ => .pure ()

/-- Crediting a top-up writes its payment and the wallet. -/
theorem creditTopup_writes (e : Env) (paymentId userId : ℕ) (amount : ℚ) :
    Writes [.payment, .wallet, .walletTransaction] (creditTopup e paymentId userId amount) := by
  refine .bind (.findOrThrow _ _) fun current => ?_
  split
  · exact .pure _
  · exact .bind (.update (by decide) _ _) fun _ =>
      .bind ((creditWallet_writes _ _ _).mono (by decide)) fun _ => .pure _

/-- Crediting a transfer writes its payment and the wallet. -/
theorem creditFunding_writes (e : Env) (paymentId userId : ℕ) (reference : String) (amount : ℚ) :
    Writes [.payment, .wallet, .walletTransaction]
      (creditFunding e paymentId userId reference amount) := by
  refine .bind (.findOrThrow _ _) fun current => ?_
  split
  · exact .pure _
  · exact .bind (.firstOrCreate (by decide) _ _) fun _ => .bind (.first _ _) fun _ =>
      .bind (.when (.bind (.update (by decide) _ _) fun _ =>
        .bind (.createUnique (by decide) _ _) fun _ => .pure ())) fun _ =>
      .bind (.update (by decide) _ _) fun _ => .pure _

/-- Taking note of a notice writes the notices. -/
theorem upsertWebhookEvent_writes (e : Env) (provider eventId eventType : String)
    (outcome : Option (Except Error (Option ℕ))) :
    Writes [.paymentWebhookEvent] (upsertWebhookEvent e provider eventId eventType outcome) :=
  .bind (.firstOrCreate (by decide) _ _) fun _ => .update (by decide) _ _

end Payments

end Superstore

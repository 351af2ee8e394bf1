import Superstore.Requests.Operations

/-!
# Requests about refunds

Submission and polling, the refund webhooks, and the three ways in which staff intervene.
-/

namespace Superstore.Payments

open Interleaving

/-- Bring the status of a payment in line with its refunds, in two reads and a write. -/
def syncPaymentRefundStatus (paymentId : ℕ) : Request Unit := do
  let payment ← selectOrThrow (fun db => (db .payment).find paymentId) .recordNotFound
  let refunded ← select (succeededTotal paymentId)
  call (.writeRefundStatus paymentId (refundedStatus refunded payment.amount))

/-- Tell the customer about a refund. -/
def notifyRefund (id : ℕ) : Request Unit := do
  let _ ← selectOrThrow (fun db => (db .refund).find id) .recordNotFound
  call .notify

/-- Ask Paystack how a submitted refund is going. -/
def pollRefund (id : ℕ) (providerRefundId : String) : Request Refund := do
  let provider ← call (.fetchRefund providerRefundId)
  let updated ← call (.updateRefund id (.polled provider))
  onlyIf (polledStatus provider.status = .succeeded) (syncPaymentRefundStatus updated.paymentId)
  onlyIf (polledStatus provider.status ≠ .processing) (notifyRefund id)
  pure updated

/-- Submit a claimed refund to Paystack. One handler takes the errors of the submission and of
everything that is done locally after it. -/
def submitRefund (id : ℕ) (refund : Refund) (transaction : String) : Request Refund :=
  Prog.attempt
    (do
      let provider ← call (.createRefund transaction refund.amount refund.idempotencyKey)
      let updated ← call (.updateRefund id (.submitted provider))
      onlyIf (submittedStatus provider.status = .succeeded)
        (syncPaymentRefundStatus updated.paymentId)
      notifyRefund id
      pure updated)
    fun err => do
      let _ ← call (.updateRefund id (.submissionFailed err))
      notifyRefund id
      Prog.fail err

/-- A refund together with its payment. -/
def refundWithPayment (id : ℕ) (db : Database) : Option (Refund × Payment) := do
  let refund ← (db .refund).find id
  let payment ← (db .payment).find refund.paymentId
  pure (refund, payment)

/-- Move a refund on: park a Klump refund, poll a submitted one, or submit a pending one. -/
def processRefund (id : ℕ) : Request Refund := do
  let (refund, payment) ← selectOrThrow (refundWithPayment id) (.notFound "Refund not found.")
  if refund.status = .succeeded ∨ refund.provider = .manual then pure refund
  else if refund.provider = .klump then
    if refund.status = .manualReview then pure refund
    else do
      let updated ← call (.updateRefund id .manualReview)
      notifyRefund id
      pure updated
  else if refund.status = .processing then
    match refund.providerRefundId with
    | none => pure refund
    | some providerRefundId => pollRefund id providerRefundId
  else do
    let transaction ← decided (fromOption payment.transactionRef
      (.conflict "The original payment reference is unavailable."))
    let claimed ← call (.claimRefund id)
    if claimed = 0 then pure refund else submitRefund id refund transaction

/-! ## Webhooks -/

/-- A webhook event, with the fields of its data that are read. -/
structure WebhookEvent where
  eventType : String
  reference : Option String := none
  id : Option String := none
  merchantNote : Option String := none
  reason : Option String := none
  customerCode : Option String := none
  email : Option String := none
  message : Option String := none
  account : AccountFields := {}
  digest : String := ""

/-- The key under which an event is recorded. -/
def WebhookEvent.eventId (event : WebhookEvent) : String :=
  event.eventType ++ ":" ++ (event.reference <|> event.id).getD event.digest

/-- The status that a refund webhook reports. -/
def webhookStatus (eventType : String) : RefundStatus :=
  if eventType = "refund.processed" then .succeeded
  else if eventType = "refund.failed" then .failed
  else if eventType = "refund.needs-attention" then .needsAttention
  else .processing

/-- The refund that a webhook is about. -/
def refundOf (event : WebhookEvent) (db : Database) : Option (ℕ × Refund) :=
  (db .refund).first fun _ r =>
    (event.id.isSome && r.providerRefundId == event.id) ||
      event.merchantNote == some r.idempotencyKey

/-- Apply a refund webhook. -/
def applyRefundWebhook (event : WebhookEvent) : Request Refund := do
  let refund ← selectOrThrow (refundOf event)
    (.notFound "Refund webhook does not match a known refund.")
  let status := webhookStatus event.eventType
  let updated ← call (.updateRefund refund.1 (.webhook status event.id event.reason))
  onlyIf (status = .succeeded) (syncPaymentRefundStatus updated.paymentId)
  notifyRefund refund.1
  pure updated

/-! ## Staff -/

/-- Submit a failed refund again. -/
def retryRefund (id : ℕ) : Request Refund := do
  let refund ← select fun db => (db .refund).find id
  check (refund.all (·.provider ≠ .klump))
    (.conflict "Klump refunds must be completed through manual review.")
  let retryable ← call (.reopenRefund id)
  check (retryable ≠ 0) (.conflict "Only failed refunds can be retried.")
  processRefund id

/-- Record that a Klump refund was paid by hand. -/
def completeManualRefund (id : ℕ) (providerReference : String) : Request Refund := do
  let refund ← selectOrThrow (fun db => (db .refund).find id) (.notFound "Refund not found.")
  check (refund.provider = .klump)
    (.conflict "Only Klump refunds use this manual completion workflow.")
  if refund.status = .succeeded then pure refund
  else do
    check (refund.status = .manualReview)
      (.conflict "Only a Klump refund under manual review can be completed.")
    let updated ← call (.completeManual id providerReference refund.processingAt)
    syncPaymentRefundStatus updated.paymentId
    notifyRefund id
    pure updated

/-- Give Paystack the bank details that a refund lacks. -/
def resolveRefundAttention (id : ℕ) : Request Refund := do
  let refund ← select fun db => (db .refund).find id
  let providerRefundId ← decided (fromOption
    ((refund.filter (·.status == .needsAttention)).bind (·.providerRefundId))
    (.conflict "Only a refund needing attention can accept bank details."))
  let _ ← call (.retryRefundWithCustomerDetails providerRefundId)
  let updated ← call (.updateRefund id .resubmitted)
  notifyRefund id
  pure updated

end Superstore.Payments

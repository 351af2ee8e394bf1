import Superstore.Requests.Payments

/-!
# Requests about checkouts

Placing a checkout by its payment methods: through Paystack or the wallet, through Klump, and
by approved financing.
-/

namespace Superstore.Checkout

open Interleaving

/-- Create a checkout. -/
def create (userId : ℕ) (input : CreateCheckoutDto) : Request Payments.Summary := do
  let group ← call (.createCheckout userId input)
  onlyIf (group.2.status = .paid) (Payments.dispatchGroupConfirmations [group.1])
  Payments.summary userId group.1

/-- Create a checkout and start its payment. -/
def place (userId : ℕ) (input : CreateCheckoutDto) : Request Payments.Summary := do
  let group ← call (.createCheckout userId input)
  onlyIf (group.2.paymentMethod = .card ∨ group.2.paymentMethod = .bankTransfer)
    (Payments.initializePayment userId group.1)
  onlyIf (group.2.status = .paid) (Payments.dispatchGroupConfirmations [group.1])
  Payments.summary userId group.1

/-- Confirm a customer's approved financing. -/
def confirmBnpl (userId id : ℕ) : Request Payments.Summary := do
  let groupId ← call (.confirmFinancing userId id)
  let _ ← selectOrThrow (fun db => ((db .bnplApplication).find id).filter (·.userId == userId))
    (.notFound "BNPL application not found.")
  Payments.summary userId groupId

end Superstore.Checkout

namespace Superstore.Klump

open Interleaving

/-- Create a checkout that is paid through Klump, and start its transaction. -/
def initializeCheckout (userId : ℕ) (input : CreateCheckoutDto) : Request (ℕ × KlumpTransaction) := do
  call .notify
  let checkout ← Checkout.create userId { input with paymentMethod := some .klumpBnpl }
  call (.startKlump userId checkout.paymentGroupId)

/-- A Klump transaction with its payment, as its verification reads it. -/
def verifiedTransaction (v : KlumpVerification) (db : Database) :
    Option (ℕ × KlumpTransaction × Payment) := do
  let transaction ← transactionOf v db
  let payment ← (db .payment).find transaction.2.paymentId
  pure (transaction.1, transaction.2, payment)

/-- Verify a reference with Klump and apply what it says; the answer is the payment. -/
def verifyProviderTransaction (reference : String) (expectedUserId : Option ℕ) : Request ℕ := do
  let v ← call (.verifyKlump reference)
  let (id, transaction, payment) ← selectOrThrow (verifiedTransaction v)
    (.notFound "Klump transaction does not match a checkout.")
  let providerReference ← decided (ensureMatches v transaction payment expectedUserId)
  if v.status ≠ .successful then do
    call (.updateKlump id v.status (some providerReference))
    pure transaction.paymentId
  else do
    call (.completeKlump id transaction providerReference)
    Payments.dispatchGroupConfirmations [transaction.paymentGroupId]
    pure transaction.paymentId

/-- Verify a reference on behalf of a customer. -/
def verify (userId : ℕ) (reference : String) : Request Unit := do
  let _ ← verifyProviderTransaction reference (some userId)
  call .notify

/-- A webhook of Klump, with the fields of its data that are read. -/
structure WebhookEvent where
  webhookId : String
  eventType : String
  reference : Option String := none
  merchantReference : Option String := none

/-- Act on an event; the answer is the payment it is about. -/
def dispatchEvent (event : WebhookEvent) : Request (Option ℕ) :=
  if event.eventType = "klump.payment.transaction.successful" then do
    let reference ← decided (fromOption event.reference
      (.badRequest "Klump webhook reference is missing."))
    let paymentId ← verifyProviderTransaction reference none
    pure (some paymentId)
  else if event.eventType = "klump.payment.transaction.initiated" ∨
      event.eventType = "klump.payment.transaction.abandoned" then do
    let transaction ← select fun db => (db .klumpTransaction).first
      fun _ k => event.merchantReference == some k.merchantReference
    match transaction with
    | some transaction => do
      call (.updateKlump transaction.1
        (if event.eventType = "klump.payment.transaction.abandoned" then .abandoned else .initiated)
        event.reference)
      pure (some transaction.2.paymentId)
    | none => pure none
  else pure none

/-- Handle a webhook of Klump; an event that was processed before is not processed again. -/
def handleWebhook (event : WebhookEvent) : Request Unit := do
  let eventId := "KLUMP:" ++ event.webhookId
  let existing ← select fun db =>
    (db .paymentWebhookEvent).first fun _ w => w.eventId == eventId
  onlyIf (existing.all fun w => !w.2.processed) do
    call (.upsertWebhookEvent "KLUMP" eventId event.eventType none)
    Prog.attempt
      (do
        let paymentId ← dispatchEvent event
        call (.upsertWebhookEvent "KLUMP" eventId event.eventType (some (.ok paymentId))))
      fun err => do
        call (.upsertWebhookEvent "KLUMP" eventId event.eventType (some (.error err)))
        Prog.fail err

end Superstore.Klump

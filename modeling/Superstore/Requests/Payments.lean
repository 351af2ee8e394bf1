import Superstore.Requests.FundingAccounts

/-!
# Requests about payments

Starting a payment, verifying a reference, cancelling a checkout, funding a wallet and
repaying an installment; and the webhook and the timer that lead to the same verification.
-/

namespace Superstore.Payments

open Interleaving

/-! ## Starting a checkout payment -/

/-- Ask Paystack to start a claimed payment; the answer is the statement that records it. -/
def startPayment (userId groupId : ℕ) (payment : Payment) (reference : String) : Request PaymentUpdate :=
  if payment.paymentMethod = .bankTransfer then do
    let charge ← call (.createBankTransferCharge
      { reference := reference, amount := payment.amount
        metadata :=
          { userId := userId, paymentGroupId := some groupId, purpose := some "ORDER_PAYMENT" } })
    check (charge.reference = reference)
      (.badRequest "Payment provider returned a different reference.")
    check charge.pendingBankTransfer
      (.badRequest "Paystack did not return transfer instructions.")
    pure (.transferInstructions charge.reference
      { accountNumber := charge.accountNumber, amount := payment.amount
        currency := payment.currency, expiresAt := charge.accountExpiresAt })
  else do
    let initialized ← call (.initializeTransaction
      { reference := reference, amount := payment.amount
        metadata := { userId := userId, paymentGroupId := some groupId } })
    check (initialized.reference = reference)
      (.badRequest "Payment provider returned a different reference.")
    pure (.paymentUrl initialized.reference initialized.authorizationUrl)

/-- Start the payment of a checkout, unless it has been started. A provider error gives the
claim back; an error of the last statement does not. -/
def initializePayment (userId groupId : ℕ) : Request Unit := do
  let claim ← call (.claimInitialization userId groupId)
  onlyIf claim.start do
    let _ ← selectOrThrow (fun db => (db .user).find userId) .recordNotFound
    let started ← Prog.attempt
      (startPayment userId groupId claim.payment (claim.payment.transactionRef.getD ""))
      fun err => do
        call (.updatePayment claim.paymentId .clearMetadata)
        Prog.fail err
    call (.updatePayment claim.paymentId started)

/-! ## Reading a checkout -/

/-- The checkout of a customer: its group, its payment and its orders. -/
structure Summary where
  paymentGroupId : ℕ
  group : CheckoutPaymentGroup
  payment : Option Payment
  orders : List (ℕ × Option Order)

/-- Read a customer's checkout. -/
def summaryOf (userId id : ℕ) (db : Database) : Option Summary :=
  (((db .checkoutPaymentGroup).find id).filter (·.userId == userId)).map fun group =>
    { paymentGroupId := id, group := group, payment := group.paymentId.bind (db .payment).find
      orders := group.allocations.map fun a => (a.orderId, (db .order).find a.orderId) }

/-- Read a customer's checkout, which has to exist. -/
def summary (userId id : ℕ) : Request Summary :=
  selectOrThrow (summaryOf userId id) (.notFound "Checkout payment group not found.")

/-- Send the confirmations of paid groups. -/
def dispatchGroupConfirmations (groupIds : List ℕ) : Request Unit :=
  onlyIf (groupIds ≠ []) do
    let _ ← select fun db => (db .checkoutPaymentGroup).many fun i _ => groupIds.contains i
    call .notify

/-- Start an unpaid checkout again. -/
def resumeCheckout (userId id : ℕ) : Request Summary := do
  let group ← selectOrThrow
    (fun db => ((db .checkoutPaymentGroup).find id).filter (·.userId == userId))
    (.notFound "Checkout payment group not found.")
  check (group.status ≠ .failed)
    (.conflict "This checkout was cancelled. Start a new checkout.")
  onlyIf (group.status ≠ .paid ∧
      (group.paymentMethod = .card ∨ group.paymentMethod = .bankTransfer))
    (initializePayment userId id)
  summary userId id

/-! ## Verification -/

/-- The groups that a payment pays for, with their owners. -/
def groupsOf (paymentId : ℕ) (db : Database) : List (ℕ × CheckoutPaymentGroup) :=
  (db .checkoutPaymentGroup).many fun _ g => g.paymentId == some paymentId

/-- A payment with its groups, as a verification reads it. -/
structure KnownPayment where
  id : ℕ
  payment : Payment
  groups : List (ℕ × CheckoutPaymentGroup)

/-- The payment under a reference. -/
def knownPayment (reference : String) (db : Database) : Option KnownPayment :=
  ((db .payment).first fun _ p => p.transactionRef == some reference).map
    fun p => ⟨p.1, p.2, groupsOf p.1 db⟩

/-- The keys of the groups of a payment, with their owners. -/
def KnownPayment.owners (k : KnownPayment) : List (ℕ × ℕ) := k.groups.map fun g => (g.1, g.2.userId)

/-- What a verification reports. -/
inductive Verification
  | status (s : PaymentStatus)
  | refundPending
  deriving DecidableEq

/-- The provider's transaction is the one that was asked for, at the right amount. -/
def ensureMatches (v : VerifiedTransaction) (reference : String) (payment : Payment)
    (message : String) : Except Error Unit := do
  ensure (v.reference = reference ∧ v.currency = payment.currency ∧ v.amount.isSome)
    (.badRequest message)
  let amount ← kobo payment.amount
  ensure (v.amount = some amount) (.badRequest message)

/-- The time that a transfer account is kept after it has expired. -/
def transferGrace : ℕ := 10 * 60000

/-- Whether the transfer account of a payment has expired for good. -/
def transferExpired (now : ℕ) (payment : Payment) : Bool :=
  payment.metadata.transferInstructions.any fun t => decide (t.expiresAt + transferGrace < now)

/-- Finish what is left of a payment that is paid already. -/
def verifyPaid (k : KnownPayment) : Request Verification := do
  let incomplete := k.groups.filter fun g => g.2.activeCartId.isSome || g.2.status != .paid
  onlyIf (incomplete ≠ [])
    (call (.completeIncomplete (incomplete.map fun g => (g.1, g.2.userId))))
  dispatchGroupConfirmations (k.groups.map Prod.fst)
  pure (.status k.payment.status)

/-- Verify the repayment of an installment. -/
def verifyRepayment (k : KnownPayment) (reference : String) : Request Verification := do
  let repayment ← selectOrThrow
    (fun db => (db .bnplRepayment).first fun _ r => r.reference == reference)
    (.notFound "BNPL repayment not found.")
  let v ← call (.verify reference)
  decided (ensureMatches v reference k.payment
    "Payment reference, amount, or currency does not match repayment.")
  match v.status with
  | .other => pure (.status k.payment.status)
  | .success => do
    call (.settleRepayment repayment.1 k.id true)
    pure (.status .paid)
  | .failed => do
    call (.settleRepayment repayment.1 k.id false)
    pure (.status .failed)

/-- Verify a top-up of a wallet. -/
def verifyTopup (k : KnownPayment) (reference : String) : Request Verification := do
  let v ← call (.verify reference)
  decided (ensureMatches v reference k.payment
    "Payment reference, amount, or currency does not match top-up.")
  match v.status with
  | .other => do
    let now ← call .now
    if k.payment.metadata.purpose = some .walletTransferTopup ∧ transferExpired now k.payment then do
      call (.updatePayment k.id (.failTopup (some "Bank transfer account expired.")))
      call .notify
      pure (.status .failed)
    else pure (.status k.payment.status)
  | .success => do
    let credited ← call
      (.creditTopup k.id (k.payment.metadata.userId.getD 0) k.payment.amount)
    onlyIf credited (call .notify)
    pure (.status .paid)
  | .failed => do
    call (.updatePayment k.id (.failTopup none))
    call .notify
    pure (.status .failed)

/-- Apply the outcome of a verified checkout payment, and what follows from it. -/
def applyOutcome (k : KnownPayment) (success : Bool) : Request Verification := do
  let lateRefundIds ← call (.finalizePayment k.id k.owners success)
  if lateRefundIds ≠ [] then do
    Prog.forkEach lateRefundIds fun id => do
      let _ ← processRefund id
      pure ()
    pure .refundPending
  else if success then do
    dispatchGroupConfirmations (k.groups.map Prod.fst)
    pure (.status .paid)
  else do
    onlyIf (k.payment.status ≠ .failed)
      (Prog.forkEach (k.groups.map (·.2.userId)).dedup fun _ => call .notify)
    pure (.status .failed)

/-- Verify the payment of a checkout. -/
def verifyCheckout (k : KnownPayment) (reference : String) : Request Verification := do
  let v ← call (.verify reference)
  decided (ensureMatches v reference k.payment
    "Payment reference, amount, or currency does not match checkout.")
  match v.status with
  | .success => applyOutcome k true
  | .failed => applyOutcome k false
  | .other => do
    let now ← call .now
    if k.payment.paymentMethod = .bankTransfer ∧ transferExpired now k.payment then
      applyOutcome k false
    else pure (.status k.payment.status)

/-- Verify a reference with Paystack and apply what it says. -/
def verifyReference (reference : String) : Request Verification := do
  let known ← select (knownPayment reference)
  let k ← decided (fromOption (known.filter (·.payment.provider == .paystack))
    (.notFound "Payment not found."))
  if k.payment.status = .refunded ∨ k.payment.status = .partiallyRefunded then
    pure (.status k.payment.status)
  else if k.payment.status = .paid then verifyPaid k
  else match k.payment.metadata.purpose with
    | some .bnplRepayment => verifyRepayment k reference
    | some .walletTopup => verifyTopup k reference
    | some .walletTransferTopup => verifyTopup k reference
    | _ => verifyCheckout k reference

/-- The reference of a payment that is made through Paystack. -/
def paystackReference (payment : Option Payment) : Option String :=
  (payment.filter (·.provider == .paystack)).bind (·.transactionRef)

/-- Read a checkout, verifying its payment first if asked to. -/
def status (userId groupId : ℕ) (verify : Bool) : Request Summary := do
  let s ← summary userId groupId
  match if verify ∧ s.group.status ≠ .paid then paystackReference s.payment else none with
  | some reference => do
    let _ ← verifyReference reference
    summary userId groupId
  | none => summary userId groupId

/-- Cancel the rest of a checkout whose payment has not ended it. -/
def cancelUnpaid (userId id : ℕ) : Request Summary := do
  call (.cancelGroup userId id)
  summary userId id

/-- Cancel a checkout; a payment that Paystack may know of is verified first. -/
def cancelCheckout (userId id : ℕ) : Request Summary := do
  let existing ← selectOrThrow (summaryOf userId id) (.notFound "Checkout not found.")
  check (existing.group.status ≠ .paid ∧ existing.payment.all (·.status ≠ .paid))
    (.conflict "Payment has already completed and cannot be cancelled.")
  if existing.group.status = .failed then summary userId id
  else match paystackReference (existing.payment.filter (·.status != .failed)) with
    | none => cancelUnpaid userId id
    | some reference => do
      let verified ← verifyReference reference
      check (verified ≠ .status .paid)
        (.conflict "Payment has already completed and cannot be cancelled.")
      if verified = .status .failed ∨ verified = .refundPending then summary userId id
      else cancelUnpaid userId id

/-! ## Wallets -/

/-- Top a wallet up by card. -/
def topupWallet (userId : ℕ) (amount : ℚ) : Request Unit := do
  let _ ← selectOrThrow (fun db => (db .user).find userId) .recordNotFound
  let token ← call .token
  let now ← call .now
  let reference := "TOPUP-" ++ (toString userId ++ "-" ++ token)
  let payment ← call (.createPayment
    { amount := amount, paymentMethod := .card, provider := .paystack
      transactionRef := some reference
      metadata := { purpose := some .walletTopup, userId := some userId
                    initializingUntil := some (now + claimLease) } })
  let initialized ← Prog.attempt (call (.initializeTransaction
      { reference := reference, amount := amount
        metadata := { userId := userId, purpose := some "WALLET_TOPUP" } })) fun err => do
    call (.updatePayment payment.1 (.failTopup none))
    call .notify
    Prog.fail err
  call (.updatePayment payment.1
    (.topupUrl userId initialized.reference initialized.authorizationUrl))

/-- Top a wallet up by bank transfer. -/
def topupWalletByTransfer (userId : ℕ) (amount : ℚ) : Request Unit := do
  let _ ← selectOrThrow (fun db => (db .user).find userId) .recordNotFound
  let token ← call .token
  let reference := "TOPUP-TRANSFER-" ++ (toString userId ++ "-" ++ token)
  let payment ← call (.createPayment
    { amount := amount, paymentMethod := .bankTransfer, provider := .paystack
      transactionRef := some reference
      metadata := { purpose := some .walletTransferTopup, userId := some userId } })
  Prog.attempt
    (do
      let charge ← call (.createBankTransferCharge
        { reference := reference, amount := amount
          metadata :=
            { userId := userId, purpose := some "WALLET_TRANSFER_TOPUP", paymentId := some payment.1 } })
      check (charge.reference = reference ∧ charge.pendingBankTransfer)
        (.badRequest "Paystack did not return valid transfer instructions.")
      call (.updatePayment payment.1 (.topupInstructions userId charge.reference
        { accountNumber := charge.accountNumber, amount := amount, currency := "NGN"
          expiresAt := charge.accountExpiresAt })))
    fun err => do
      call (.updatePayment payment.1 (.failTopup none))
      call .notify
      Prog.fail err

/-- The active funding account that a transfer was made to. -/
def fundingAccountOf (v : VerifiedTransaction) (db : Database) :
    Option (ℕ × WalletFundingAccount) :=
  (db .walletFundingAccount).first fun _ a =>
    a.status == "ACTIVE" &&
      ((v.customerCode.isSome && a.paystackCustomerCode == v.customerCode) ||
        (v.receiverAccount.isSome && a.accountNumber == v.receiverAccount))

/-- The amount of a successful transfer in naira. -/
def fundedAmount (v : VerifiedTransaction) (reference : String) : Option ℚ :=
  if v.status = .success ∧ v.reference = reference ∧ v.currency = "NGN" then
    (v.amount.filter fun a => decide (0 < a)).map fun a => toDecimalPlaces2 (a / 100)
  else none

/-- Credit a transfer that arrived at a dedicated account. -/
def completeDedicatedAccountFunding (reference : String) : Request ℕ := do
  let v ← call (.verify reference)
  let amount ← decided (fromOption (fundedAmount v reference)
    (.badRequest "Invalid dedicated-account transfer confirmation."))
  check (v.channel = some "dedicated_nuban")
    (.badRequest "The transfer is not a dedicated-account wallet payment.")
  let account ← selectOrThrow (fundingAccountOf v)
    (.notFound "Receiving wallet account was not found.")
  let payment ← call
    (.upsertFundingPayment reference account.2.userId amount (v.id.getD reference))
  let credited ← call (.creditFunding payment.1 account.2.userId reference amount)
  onlyIf credited (call .notify)
  pure payment.1

/-! ## Repayments -/

/-- Start the repayment of an installment. -/
def initializeBnplRepayment (userId installmentId : ℕ) (amount : ℚ) (byWallet : Bool) :
    Request Unit := do
  let _ ← selectOrThrow (fun db => (db .user).find userId) .recordNotFound
  let token ← call .token
  let reference := "BNPL-REPAY-" ++ (toString installmentId ++ "-" ++ token)
  if byWallet then do
    let _ ← call (.repayFromWallet userId installmentId amount reference)
    pure ()
  else do
    let initialized ← call (.initializeTransaction
      { reference := reference, amount := amount
        metadata :=
          { userId := userId, purpose := some "BNPL_REPAYMENT", installmentId := some installmentId } })
    let _ ← call (.createPayment
      { amount := amount, paymentMethod := .card, provider := .paystack
        transactionRef := some reference, paymentUrl := some initialized.authorizationUrl
        metadata := { purpose := some .bnplRepayment, userId := some userId } })
    let _ ← call (.createRepayment
      { installmentId := installmentId, userId := userId, amount := amount, method := .card
        reference := reference, paymentUrl := some initialized.authorizationUrl })
    pure ()

/-- An installment of a customer's confirmed application. -/
def installmentOf (userId installmentId : ℕ) (db : Database) : Option BnplInstallment := do
  let installment ← (db .bnplInstallment).find installmentId
  let application ← (db .bnplApplication).find installment.applicationId
  if application.userId = userId ∧ application.status = "CONFIRMED" then some installment else none

/-- Repay what is left of an installment. -/
def payRepayment (userId installmentId : ℕ) (byWallet : Bool) : Request Unit := do
  let installment ← selectOrThrow (installmentOf userId installmentId)
    (.notFound "BNPL installment not found.")
  check (installment.status ≠ "PAID") (.conflict "Installment has already been paid.")
  initializeBnplRepayment userId installmentId (installment.amount - installment.amountPaid) byWallet

/-! ## The webhook and the timer -/

/-- Act on an event; the answer is the payment it is about, or nothing for an event of another kind. -/
def dispatchEvent (event : WebhookEvent) : Request (Option (Option ℕ)) :=
  match if event.eventType = "charge.success" then event.reference else none with
  | some reference => do
    let known ← select (knownPayment reference)
    match known.filter (·.payment.provider == .paystack) with
    | some k => do
      let result ← verifyReference reference
      check (result = .status .paid) (.conflict "Paystack charge.success did not verify as paid.")
      pure (some (some k.id))
    | none => do
      let paymentId ← completeDedicatedAccountFunding reference
      pure (some (some paymentId))
  | none =>
    if event.eventType.startsWith "refund." then do
      let refund ← applyRefundWebhook event
      pure (some (some refund.paymentId))
    else if event.eventType = "dedicatedaccount.assign.success" then do
      completeDedicatedAccountAssignment event
      pure (some none)
    else if event.eventType = "dedicatedaccount.assign.failed" then do
      failDedicatedAccountAssignment event
      pure (some none)
    else pure none

/-- Handle a webhook of Paystack; an event that was processed before is not processed again. -/
def handleWebhook (event : WebhookEvent) : Request Unit := do
  let existing ← select fun db =>
    (db .paymentWebhookEvent).first fun _ w => w.eventId == event.eventId
  onlyIf (existing.all fun w => !w.2.processed)
    (Prog.attempt
      (do
        let outcome ← dispatchEvent event
        match outcome with
        | some paymentId =>
          call (.upsertWebhookEvent "PAYSTACK" event.eventId event.eventType (some (.ok paymentId)))
        | none => pure ())
      fun err => do
        call (.upsertWebhookEvent "PAYSTACK" event.eventId event.eventType (some (.error err)))
        Prog.fail err)

/-- The references that the timer verifies: pending payments of unfinished checkouts that are
two minutes old. -/
def pendingReferences (now : ℕ) (db : Database) : List String :=
  (((db .payment).many fun i p =>
    p.provider == .paystack && p.status == .pending && p.transactionRef.isSome &&
      decide (p.createdAt + 2 * 60000 < now) &&
      (groupsOf i db).any fun g => g.2.status == .pending || g.2.status == .processing).take 50
    ).filterMap (·.2.transactionRef)

/-- The refunds that the timer moves on. -/
def pendingRefunds (db : Database) : List ℕ :=
  (((db .refund).many fun _ r => r.status == .pending || r.status == .processing).take 25).map
    Prod.fst

/-- Run a request and carry on after its error. -/
def tolerate {α : Type} (p : Request α) : Request Unit :=
  Prog.attempt (do let _ ← p; pure ()) fun _ => pure ()

/-- Verify the pending payments and move the pending refunds on. -/
def reconcilePending : Request Unit := do
  let now ← call .now
  let references ← select (pendingReferences now)
  Prog.forEach references fun reference => tolerate (verifyReference reference)
  let refunds ← select pendingRefunds
  Prog.forEach refunds fun id => tolerate (processRefund id)

end Superstore.Payments

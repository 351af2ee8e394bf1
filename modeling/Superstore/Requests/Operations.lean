import Superstore.Checkout.Bnpl
import Superstore.Interleaving.Runs
import Superstore.Orders.Scanning
import Superstore.Payments.FundingAccounts
import Superstore.Payments.Klump
import Superstore.Wallets.Transactions

/-!
# The atomic operations of a request

A request is a program over these operations: one for each transaction, each statement
outside of a transaction and each call of a provider. Everything between two operations of a
request is computed from what the earlier ones have returned.

The world holds the database and, as a record that no code reads, what Paystack has been
asked for.
-/

namespace Superstore

open Interleaving

/-- Whether a refund that Paystack was asked for is still going to be paid, or has been. -/
inductive RequestState
  | live | dead
  deriving DecidableEq

/-- A refund request as Paystack received it. -/
structure RefundRequest where
  transaction : String
  amount : ℚ
  merchantNote : String
  state : RequestState
  deriving DecidableEq

/-- What is told of a payment that Paystack is asked to start. -/
structure ChargeMetadata where
  userId : ℕ
  paymentGroupId : Option ℕ := none
  purpose : Option String := none
  paymentId : Option ℕ := none
  installmentId : Option ℕ := none
  deriving DecidableEq

/-- A payment that Paystack is asked to start. -/
structure Charge where
  reference : String
  amount : ℚ
  metadata : ChargeMetadata
  deriving DecidableEq

/-- What Paystack has been asked for. -/
structure Paystack where
  charged : List Charge := []
  refunds : List RefundRequest := []

/-- The shared state of all requests. -/
structure World where
  db : Database
  paystack : Paystack := {}

/-- One atomic operation, with the type of its answer. -/
inductive Op : Type → Type 1
  | read {α : Type} (f : Database → Except Error α) : Op α
  | now : Op ℕ
  | token : Op String
  | notify : Op Unit
  | createCheckout (userId : ℕ) (input : CreateCheckoutDto) : Op (ℕ × CheckoutPaymentGroup)
  | confirmFinancing (userId id : ℕ) : Op ℕ
  | claimInitialization (userId groupId : ℕ) : Op Payments.Claim
  | initializeTransaction (asked : Charge) : Op InitializedTransaction
  | createBankTransferCharge (asked : Charge) : Op BankTransferCharge
  | updatePayment (id : ℕ) (u : Payments.PaymentUpdate) : Op Unit
  | verify (reference : String) : Op VerifiedTransaction
  | finalizePayment (paymentId : ℕ) (groups : List (ℕ × ℕ)) (success : Bool) : Op (List ℕ)
  | completeIncomplete (groups : List (ℕ × ℕ)) : Op Unit
  | cancelGroup (userId id : ℕ) : Op Unit
  | settleRepayment (repaymentId paymentId : ℕ) (success : Bool) : Op Unit
  | repayFromWallet (userId installmentId : ℕ) (amount : ℚ) (reference : String) : Op ℕ
  | creditTopup (paymentId userId : ℕ) (amount : ℚ) : Op Bool
  | createPayment (payment : Payment) : Op (ℕ × Payment)
  | createRepayment (repayment : BnplRepayment) : Op ℕ
  | upsertFundingPayment (reference : String) (userId : ℕ) (amount : ℚ) (providerRef : String) :
      Op (ℕ × Payment)
  | creditFunding (paymentId userId : ℕ) (reference : String) (amount : ℚ) : Op Bool
  | findCustomer (email : String) : Op (Option Customer)
  | createCustomer (email : String) : Op Customer
  | assignDedicatedAccount (email : String) : Op AccountFields
  | requestFundingAccount (userId : ℕ) (customerCode : String) (customerId : Option ℕ) :
      Op (ℕ × WalletFundingAccount)
  | updateFundingAccount (id : ℕ) (u : Payments.FundingUpdate) : Op WalletFundingAccount
  | upsertWebhookEvent (provider eventId eventType : String)
      (outcome : Option (Except Error (Option ℕ))) : Op Unit
  | claimRefund (id : ℕ) : Op ℕ
  | reopenRefund (id : ℕ) : Op ℕ
  | createRefund (transaction : String) (amount : ℚ) (merchantNote : String) : Op ProviderRefund
  | fetchRefund (providerRefundId : String) : Op ProviderRefund
  | retryRefundWithCustomerDetails (providerRefundId : String) : Op Unit
  | updateRefund (id : ℕ) (u : Payments.RefundUpdate) : Op Refund
  | completeManual (id : ℕ) (providerReference : String) (processingAt : Option ℕ) : Op Refund
  | writeRefundStatus (paymentId : ℕ) (status : PaymentStatus) : Op Unit
  | startKlump (userId groupId : ℕ) : Op (ℕ × KlumpTransaction)
  | verifyKlump (reference : String) : Op KlumpVerification
  | updateKlump (id : ℕ) (status : KlumpTransactionStatus) (reference : Option String) : Op Unit
  | completeKlump (id : ℕ) (transaction : KlumpTransaction) (reference : String) : Op Unit
  | cancelOrder (userId id : ℕ) (reason : String) : Op Orders.CancelResult
  | writeStatus (id : ℕ) (fromStatus status : OrderStatus) (actorId : ℕ) (reason : Option String) :
      Op Order
  | writePacked (id : ℕ) (fromStatus : OrderStatus) (actorId : ℕ) : Op Unit
  | writePickup (id : ℕ) (fromStatus : OrderStatus) (riderId credentialId : ℕ) : Op Unit
  | writeDelivery (id : ℕ) (order : Order) (riderId credentialId deliveryId : ℕ) : Op (ℚ × ℤ)
  | writeProgress (deliveryId : ℕ) (status : DeliveryStatus) (orderId : ℕ)
      (orderStatus : OrderStatus) (riderId : ℕ) (location note : Option String) : Op Unit
  | claimDelivery (riderId deliveryId : ℕ) (offerId : Option ℕ) : Op Delivery
  | intervene (orderId : ℕ) (status : OrderStatus) (reason : String) : Op Order
  | createScan (scan : OrderItemScan) : Op Unit
  | revokeCredentials (orderId : ℕ) (purpose : String) (revokedAt : ℕ) : Op Unit
  | createCredential (orderId : ℕ) (purpose credential : String) (expiresAt : ℕ) : Op ℕ
  | requestWalletWithdrawal (userId : ℕ) (amount : ℚ) : Op ℕ
  | withdrawRider (userId walletId : ℕ) (amount : ℚ) (reference : String) : Op ℕ
  | withdrawStore (storeId walletId : ℕ) (amount : ℚ) (reference : String) : Op ℕ
  | claimReferrals (userId : ℕ) : Op Wallets.Claimed
  | redeemCashback (userId : ℕ) (amount : ℚ) : Op Wallets.Redeemed

namespace Op

/-- The transaction that an operation runs on the database, if it is one of the database. -/
def transaction : {α : Type} → Op α → Option (Env → Tx α)
  | _, .read f => some fun _ => do
      let x ← Relational.Tx.query f
      ofExcept x
  | _, .createCheckout userId input => some fun e =>
      Checkout.createInTransaction e userId input none
  | _, .confirmFinancing userId id => some fun e => Checkout.confirm e userId id
  | _, .claimInitialization userId groupId => some fun e =>
      Payments.claimInitialization e userId groupId
  | _, .updatePayment id u => some fun _ => Payments.updatePayment id u
  | _, .finalizePayment paymentId groups success => some fun e =>
      Payments.finalizePayment e paymentId groups success
  | _, .completeIncomplete groups => some fun e => Payments.completeIncomplete e groups
  | _, .cancelGroup userId id => some fun e => Payments.cancelGroup e userId id
  | _, .settleRepayment repaymentId paymentId success => some fun e =>
      Payments.settleRepayment e repaymentId paymentId success
  | _, .repayFromWallet userId installmentId amount reference => some fun e =>
      Payments.repayFromWallet e userId installmentId amount reference
  | _, .creditTopup paymentId userId amount => some fun e =>
      Payments.creditTopup e paymentId userId amount
  | _, .createPayment payment => some fun e => Payments.createPayment e payment
  | _, .createRepayment repayment => some fun _ => Payments.createRepayment repayment
  | _, .upsertFundingPayment reference userId amount providerRef => some fun e =>
      Payments.upsertFundingPayment e reference userId amount providerRef
  | _, .creditFunding paymentId userId reference amount => some fun e =>
      Payments.creditFunding e paymentId userId reference amount
  | _, .requestFundingAccount userId customerCode customerId => some fun e =>
      Payments.requestFundingAccount e userId customerCode customerId
  | _, .updateFundingAccount id u => some fun e => Payments.updateFundingAccount e id u
  | _, .upsertWebhookEvent provider eventId eventType outcome => some fun e =>
      Payments.upsertWebhookEvent e provider eventId eventType outcome
  | _, .claimRefund id => some fun e => Payments.claimRefund e id
  | _, .reopenRefund id => some fun _ => Payments.reopenRefund id
  | _, .updateRefund id u => some fun e => Payments.updateRefund e id u
  | _, .completeManual id providerReference processingAt => some fun e =>
      Payments.completeManual e id providerReference processingAt
  | _, .writeRefundStatus paymentId status => some fun _ =>
      Payments.writeRefundStatus paymentId status
  | _, .startKlump userId groupId => some fun e => Klump.startTransaction e userId groupId
  | _, .updateKlump id status reference => some fun _ => Klump.updateTransaction id status reference
  | _, .completeKlump id transaction reference => some fun e =>
      Klump.completeTransaction e id transaction reference
  | _, .cancelOrder userId id reason => some fun e => Orders.cancel e userId id reason
  | _, .writeStatus id fromStatus status actorId reason => some fun _ =>
      Orders.writeStatus id fromStatus status actorId reason
  | _, .writePacked id fromStatus actorId => some fun _ => Orders.writePacked id fromStatus actorId
  | _, .writePickup id fromStatus riderId credentialId => some fun e =>
      Orders.writePickup e id fromStatus riderId credentialId
  | _, .writeDelivery id order riderId credentialId deliveryId => some fun e =>
      Orders.writeDelivery e id order riderId credentialId deliveryId
  | _, .writeProgress deliveryId status orderId orderStatus riderId location note => some fun e =>
      Orders.writeProgress e deliveryId status orderId orderStatus riderId location note
  | _, .claimDelivery riderId deliveryId offerId => some fun e =>
      Orders.claimDelivery e riderId deliveryId offerId
  | _, .intervene orderId status reason => some fun e => Orders.intervene e orderId status reason
  | _, .createScan scan => some fun _ => Orders.createScan scan
  | _, .revokeCredentials orderId purpose revokedAt => some fun _ =>
      Orders.revokeCredentials orderId purpose revokedAt
  | _, .createCredential orderId purpose credential expiresAt => some fun _ =>
      Orders.createCredential orderId purpose credential expiresAt
  | _, .requestWalletWithdrawal userId amount => some fun e =>
      Wallets.requestWalletWithdrawal e userId amount
  | _, .withdrawRider userId walletId amount reference => some fun _ =>
      Wallets.withdrawRider userId walletId amount reference
  | _, .withdrawStore storeId walletId amount reference => some fun _ =>
      Wallets.withdrawStore storeId walletId amount reference
  | _, .claimReferrals userId => some fun e => Wallets.claimReferrals e userId
  | _, .redeemCashback userId amount => some fun e => Wallets.redeemCashback e userId amount
  | _, _ => none

end Op

/-- Run a transaction; one that fails, or whose call does not come back, has no effect. -/
def runTx {α : Type} (m : Env → Tx α) (e : Env) (w : World) : Except Error α × World :=
  if e.fails then (.error .unavailable, w)
  else
    match m e w.db with
    | .ok (a, db) => (.ok a, { w with db := db })
    | .error err => (.error err, w)

/-- Ask Paystack to start a payment, which leaves a trace of what was asked. -/
def charge {α : Type} (answer : Except Error α) (asked : Charge) (w : World) : Except Error α × World :=
  match kobo asked.amount with
  | .error err => (.error err, w)
  | .ok _ =>
    (answer, { w with paystack := { w.paystack with charged := w.paystack.charged ++ [asked] } })

/-- The answer of a refund request and whether it is going to be paid. -/
def RefundOutcome.result : RefundOutcome → Except Error ProviderRefund × RequestState
  | .accepted answer => (.ok answer, .live)
  | .rejected message => (.error (.provider message), .dead)
  | .lost executed => (.error .unavailable, if executed then .live else .dead)

/-- Ask Paystack for a refund, which leaves a trace of the request. -/
def requestRefund (outcome : RefundOutcome) (transaction : String) (amount : ℚ)
    (merchantNote : String) (w : World) : Except Error ProviderRefund × World :=
  match kobo amount with
  | .error err => (.error err, w)
  | .ok _ =>
    (outcome.result.1,
      { w with paystack := { w.paystack with
          refunds := w.paystack.refunds ++ [⟨transaction, amount, merchantNote, outcome.result.2⟩] } })

/-- What an operation that is not one of the database does. -/
def Op.external : {α : Type} → Op α → Env → World → Except Error α × World
  | _, .now, e, w => (.ok e.now, w)
  | _, .token, e, w => (.ok e.uuid, w)
  | _, .notify, e, w => (if e.fails then .error .unavailable else .ok (), w)
  | _, .initializeTransaction asked, e, w => charge (e.initializeTransaction asked.reference) asked w
  | _, .createBankTransferCharge asked, e, w => charge (e.createBankTransferCharge asked.reference) asked w
  | _, .findCustomer email, e, w => (e.findCustomer email, w)
  | _, .createCustomer email, e, w => (e.createCustomer email, w)
  | _, .assignDedicatedAccount email, e, w => (e.assignDedicatedAccount email, w)
  | _, .verify reference, e, w => (e.verify reference, w)
  | _, .createRefund transaction amount merchantNote, e, w =>
      requestRefund (e.createRefund merchantNote) transaction amount merchantNote w
  | _, .fetchRefund providerRefundId, e, w => (e.fetchRefund providerRefundId, w)
  | _, .retryRefundWithCustomerDetails providerRefundId, e, w =>
      (e.retryRefundWithCustomerDetails providerRefundId, w)
  | _, .verifyKlump reference, e, w => (e.klumpVerify reference, w)
  | _, _, _, w => (.error .unavailable, w)

/-- One atomic step of a request. -/
def Op.exec {α : Type} (op : Op α) (e : Env) (w : World) : Except Error α × World :=
  match op.transaction with
  | some m => runTx m e w
  | none => op.external e w

/-- The machine that runs the requests. -/
def machine : Machine Op Error World Env := ⟨Op.exec⟩

/-- A request: a program over the operations. -/
abbrev Request := Prog Op Error

/-- Perform one operation. -/
abbrev call {α : Type} (op : Op α) : Request α := Prog.call op

/-- Read the database in a single statement. -/
def select {α : Type} (f : Database → α) : Request α := call (.read fun db => .ok (f db))

/-- Read the database in a single statement that may fail. -/
def selectOrThrow {α : Type} (f : Database → Option α) (err : Error) : Request α :=
  call (.read fun db => fromOption (f db) err)

/-- The outcome of a computation that performs no operation. -/
def decided {α : Type} (x : Except Error α) : Request α := Prog.done x

/-- Run a request only under a condition. -/
def onlyIf (c : Prop) [Decidable c] (p : Request Unit) : Request Unit := if c then p else pure ()

/-- Fail unless a condition holds. -/
def check (c : Prop) [Decidable c] (err : Error) : Request Unit := decided (ensure c err)

end Superstore

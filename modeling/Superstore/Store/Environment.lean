import Superstore.Store.Schema

/-!
# What a step receives from outside

The clock, random tokens, configuration and the answers of the payment providers. One value
of `Env` belongs to one atomic step, so that two steps may see different answers. The
answers are functions of the reference they are asked about.
-/

namespace Superstore

/-- The state a provider reports for a transaction; `other` is every text but the two that end it. -/
inductive TransactionStatus
  | success | failed | other
  deriving DecidableEq

/-- A verified Paystack transaction. -/
structure VerifiedTransaction where
  reference : String
  currency : String
  amount : Option ℚ
  status : TransactionStatus
  customerCode : Option String := none
  channel : Option String := none
  receiverAccount : Option String := none
  id : Option String := none

/-- The answer to the initialization of a card or bank payment. -/
structure InitializedTransaction where
  reference : String
  authorizationUrl : String

/-- The answer to a bank-transfer charge. -/
structure BankTransferCharge where
  reference : String
  pendingBankTransfer : Bool
  accountNumber : String
  accountExpiresAt : ℕ

/-- A customer as Paystack knows one. -/
structure Customer where
  id : ℕ
  customerCode : String

/-- The fields of a dedicated account that Paystack has named. -/
structure AccountFields where
  providerAccountId : Option ℕ := none
  bankName : Option String := none
  bankSlug : Option String := none
  accountName : Option String := none
  accountNumber : Option String := none
  currency : String := "NGN"

/-- The state Paystack reports for a refund; `processing` is every other text and none. -/
inductive ProviderRefundStatus
  | processing | processed | failed | needsAttention
  deriving DecidableEq

/-- A refund as Paystack describes it. -/
structure ProviderRefund where
  id : Option String := none
  status : ProviderRefundStatus
  reason : Option String := none

/-- What becomes of a refund request: Paystack accepts it, answers that it is rejected, or the
answer is lost, whether or not the request was executed. -/
inductive RefundOutcome
  | accepted (answer : ProviderRefund)
  | rejected (message : String)
  | lost (executed : Bool)

/-- A Klump transaction as its verification returns it. -/
structure KlumpVerification where
  merchantReference : Option String
  providerReference : Option String
  currency : String
  amount : Option ℚ
  isLive : Option Bool
  status : KlumpTransactionStatus

/-- What one atomic step receives from outside. -/
structure Env where
  now : ℕ
  uuid : String := ""
  orderNumber : ℕ → String := fun _ => ""
  /-- The call of this step does not come back; a database call has then had no effect. -/
  fails : Bool := false
  config : String → Option ℚ := fun _ => none
  /-- The outcome of the checks on the approval and availability of a rider. -/
  riderEligibility : Except Error Unit := .ok ()
  /-- The outcome of the checks on the service area and position of a rider. -/
  riderPlacement : Except Error Unit := .ok ()
  verify : String → Except Error VerifiedTransaction := fun _ => .error .unavailable
  initializeTransaction : String → Except Error InitializedTransaction := fun _ => .error .unavailable
  createBankTransferCharge : String → Except Error BankTransferCharge :=
    fun _ => .error .unavailable
  findCustomer : String → Except Error (Option Customer) := fun _ => .error .unavailable
  createCustomer : String → Except Error Customer := fun _ => .error .unavailable
  assignDedicatedAccount : String → Except Error AccountFields := fun _ => .error .unavailable
  createRefund : String → RefundOutcome := fun _ => .lost false
  fetchRefund : String → Except Error ProviderRefund := fun _ => .error .unavailable
  retryRefundWithCustomerDetails : String → Except Error Unit := fun _ => .error .unavailable
  klumpMode : Except Error Bool := .ok false
  klumpVerify : String → Except Error KlumpVerification := fun _ => .error .unavailable

end Superstore

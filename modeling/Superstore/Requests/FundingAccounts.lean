import Superstore.Requests.Refunds

/-!
# Requests about transfer accounts

A customer asks Paystack for an account; Paystack may assign it at once, or report by webhook
later that it has assigned one or could not.
-/

namespace Superstore.Payments

open Interleaving

/-- Whether a field of a customer's profile has been filled in. -/
def filledIn (field : Option String) : Bool := field.getD "" != ""

/-- Mark the account that is known by now as failed, and fail. -/
def failAssignment {α : Type} (account : Option (ℕ × WalletFundingAccount)) (err : Error) : Request α := do
  match account with
  | some account => do
    let _ ← call (.updateFundingAccount account.1 (.failed err.message))
    Prog.fail err
  | none => Prog.fail err

/-- The customer that a transfer account is requested for, as Paystack knows them. -/
def paystackCustomer (email : String) (account : Option (ℕ × WalletFundingAccount)) :
    Request (String × Option ℕ) :=
  match (account.bind (·.2.paystackCustomerCode)).filter (· != "") with
  | some customerCode => pure (customerCode, account.bind (·.2.paystackCustomerId))
  | none => do
    let found ← call (.findCustomer email)
    match found with
    | some customer => pure (customer.customerCode, some customer.id)
    | none => do
      let customer ← call (.createCustomer email)
      pure (customer.customerCode, some customer.id)

/-- Ask for a transfer account; an error marks the account that is known by then as failed. -/
def createWalletTransferAccount (userId : ℕ) : Request WalletFundingAccount := do
  let user ← selectOrThrow (fun db => (db .user).find userId) .recordNotFound
  check (filledIn user.firstName && filledIn user.lastName && filledIn user.phoneNumber) (.badRequest
    "First name, last name, and phone number are required before requesting a transfer account.")
  let known ← select fun db => (db .walletFundingAccount).first fun _ a => a.userId == userId
  match known.filter fun a => a.2.status == "ACTIVE" || a.2.status == "PENDING" with
  | some account => pure account.2
  | none => do
    let customer ← Prog.attempt (paystackCustomer user.email known) (failAssignment known)
    let account ← Prog.attempt (call (.requestFundingAccount userId customer.1 customer.2))
      (failAssignment known)
    Prog.attempt
      (do
        let fields ← call (.assignDedicatedAccount user.email)
        if (fields.accountNumber.getD "") ≠ "" then
          call (.updateFundingAccount account.1 (.assignedAtOnce fields))
        else pure account.2)
      (failAssignment (some account))

/-- The account that an assignment is reported for. -/
def reportedAccount (event : WebhookEvent) (db : Database) : Option (ℕ × WalletFundingAccount) :=
  (db .walletFundingAccount).first fun _ a =>
    ((event.customerCode.filter (· != "")).isSome && a.paystackCustomerCode == event.customerCode) ||
      ((event.email.filter (· != "")).isSome &&
        ((db .user).find a.userId).any fun user => some user.email == event.email)

/-- Record that an account has been assigned. -/
def completeDedicatedAccountAssignment (event : WebhookEvent) : Request Unit := do
  let account ← selectOrThrow (reportedAccount event)
    (.notFound "Wallet transfer account assignment was not found.")
  let _ ← call (.updateFundingAccount account.1
    (.assigned event.account (event.customerCode <|> account.2.paystackCustomerCode)))
  pure ()

/-- Record that an account could not be assigned. -/
def failDedicatedAccountAssignment (event : WebhookEvent) : Request Unit := do
  let account ← selectOrThrow (reportedAccount event)
    (.notFound "Wallet transfer account assignment was not found.")
  let _ ← call (.updateFundingAccount account.1
    (.failed (event.message.getD "Paystack could not assign the account.")))
  pure ()

end Superstore.Payments

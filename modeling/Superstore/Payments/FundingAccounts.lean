import Superstore.Store.Environment

/-!
# The transfer accounts of wallets

A customer asks for an account of their own, to which transfers fund the wallet. The statements
that write such an account say what they make of it, whatever it was before.
-/

namespace Superstore.Payments

/-- Two accounts that share what no two accounts may share. -/
def sameFundingAccount (a b : WalletFundingAccount) : Bool :=
  a.userId == b.userId ||
    (b.paystackCustomerCode.isSome && a.paystackCustomerCode == b.paystackCustomerCode) ||
    (b.providerAccountId.isSome && a.providerAccountId == b.providerAccountId) ||
    (b.accountNumber.isSome && a.accountNumber == b.accountNumber)

/-- The single statements that write a transfer account. -/
inductive FundingUpdate
  | assignedAtOnce (fields : AccountFields)
  | assigned (fields : AccountFields) (customerCode : Option String)
  | failed (reason : String)

/-- Note what Paystack has named of an account; what it has not named stays. -/
def noteFields (fields : AccountFields) (a : WalletFundingAccount) : WalletFundingAccount :=
  { a with
    providerAccountId := fields.providerAccountId <|> a.providerAccountId
    bankName := fields.bankName <|> a.bankName
    bankSlug := fields.bankSlug <|> a.bankSlug
    accountName := fields.accountName <|> a.accountName
    accountNumber := fields.accountNumber <|> a.accountNumber
    currency := fields.currency }

/-- What a single statement makes of a transfer account. -/
def FundingUpdate.apply (now : ℕ) : FundingUpdate → WalletFundingAccount → WalletFundingAccount
  | .assignedAtOnce fields, a =>
    { noteFields fields a with status := "ACTIVE", assignedAt := some now }
  | .assigned fields customerCode, a =>
    { noteFields fields a with
      paystackCustomerCode := customerCode
      status := "ACTIVE"
      assignedAt := some now
      failureReason := none }
  | .failed reason, a => { a with status := "FAILED", failureReason := some reason }

/-- Run a single statement on a transfer account. -/
def updateFundingAccount (e : Env) (id : ℕ) (u : FundingUpdate) : Tx WalletFundingAccount := do
  updateUnique .walletFundingAccount id sameFundingAccount (u.apply e.now)
  findOrThrow .walletFundingAccount id

/-- Note that a customer has asked for a transfer account. -/
def requestFundingAccount (e : Env) (userId : ℕ) (customerCode : String) (customerId : Option ℕ) :
    Tx (ℕ × WalletFundingAccount) := do
  let existing ← first .walletFundingAccount fun _ a => a.userId == userId
  match existing with
  | some existing => do
    updateUnique .walletFundingAccount existing.1 sameFundingAccount fun a =>
      { a with
        paystackCustomerCode := some customerCode
        paystackCustomerId := customerId
        consentedAt := e.now
        status := "PENDING"
        failureReason := none }
    let account ← findOrThrow .walletFundingAccount existing.1
    pure (existing.1, account)
  | none => do
    let account : WalletFundingAccount :=
      { userId := userId, paystackCustomerCode := some customerCode
        paystackCustomerId := customerId, consentedAt := e.now, status := "PENDING" }
    let id ← createUnique .walletFundingAccount (fun _ a => sameFundingAccount a account) account
    pure (id, account)

/-! ## What the transactions write -/

open Relational.Tx (Writes)

/-- An update of a transfer account writes the transfer accounts. -/
theorem updateFundingAccount_writes (e : Env) (id : ℕ) (u : FundingUpdate) :
    Writes [.walletFundingAccount] (updateFundingAccount e id u) :=
  .bind (.updateUnique List.mem_cons_self _ _ _) fun _ => .findOrThrow _ _

/-- Asking for a transfer account writes the transfer accounts. -/
theorem requestFundingAccount_writes (e : Env) (userId : ℕ) (customerCode : String)
    (customerId : Option ℕ) :
    Writes [.walletFundingAccount] (requestFundingAccount e userId customerCode customerId) := by
  refine .bind (.first _ _) fun existing => ?_
  cases existing with
  | some existing =>
    exact .bind (.updateUnique List.mem_cons_self _ _ _) fun _ => .bind (.findOrThrow _ _) fun _ => .pure _
  | none => exact .bind (.createUnique List.mem_cons_self _ _) fun _ => .pure _

end Superstore.Payments

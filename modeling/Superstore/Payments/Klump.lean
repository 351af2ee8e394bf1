import Superstore.Payments.Transactions

/-!
# Klump checkouts

Klump is started by the customer's browser, so its transaction row is created before the
provider knows of it, and every outcome is verified with the provider.
-/

namespace Superstore.Klump

/-- An amount that Klump can be asked for: a positive whole number. -/
def integerAmount (amount : ℚ) (label : String) : Except Error ℚ := do
  ensure (amount.den = 1) (.badRequest (label ++ " must be a whole-number NGN amount."))
  ensure (0 < amount ∧ amount ≤ maxSafeInteger)
    (.badRequest (label ++ " is outside Klump's supported amount range."))
  pure amount

/-- The amounts of a group's orders, which have to be payable and to add up. -/
def checkoutPayload (db : Database) (group : CheckoutPaymentGroup) : Except Error (List ℚ) := do
  let amount ← integerAmount group.totalAmount "Klump checkout total"
  let items ← group.allocations.mapM fun a => do
    let order ← fromOption ((db .order).find a.orderId) .recordNotFound
    integerAmount order.total ("Order " ++ order.orderNumber ++ " total")
  ensure (items.sum = amount) (.badRequest "Klump item totals do not match checkout total.")
  pure items

/-- The payment of a Klump checkout: the one it has, or a new one. -/
def paymentOf (e : Env) (userId : ℕ) (group : CheckoutPaymentGroup) (merchantReference : String) :
    Tx ℕ :=
  match group.paymentId with
  | some paymentId => pure paymentId
  | none =>
    createUnique .payment (fun _ p => p.transactionRef == some merchantReference)
      { amount := group.totalAmount, currency := group.currency, paymentMethod := .klumpBnpl
        provider := .klump, transactionRef := some merchantReference, createdAt := e.now
        metadata := { purpose := some .klumpCheckout, userId := some userId } }

/-- Start the Klump transaction of a group. -/
def startTransaction (e : Env) (userId groupId : ℕ) : Tx (ℕ × KlumpTransaction) := do
  let group ← find .checkoutPaymentGroup groupId
  let group ← orThrow (group.filter (·.userId == userId))
    (.notFound "Checkout payment group was not found.")
  require (group.paymentMethod = .klumpBnpl)
    (.conflict "The active checkout uses a different payment method.")
  require (group.status ≠ .failed) (.conflict "Checkout has already failed.")
  let existing ← first .klumpTransaction fun _ k => k.paymentGroupId == groupId
  match existing with
  | some existing => pure existing
  | none => do
    let payment ← Relational.Tx.query fun db => group.paymentId.bind (db .payment).find
    require (payment.all (·.provider == .klump))
      (.conflict "Checkout has already been initialized with another provider.")
    let payload ← Relational.Tx.query fun db => checkoutPayload db group
    let _ ← ofExcept payload
    let merchantReference := "PURSE-KLUMP-" ++ (toString groupId ++ "-" ++ e.uuid)
    let paymentId ← paymentOf e userId group merchantReference
    update .checkoutPaymentGroup groupId fun g =>
      { g with paymentId := some paymentId, status := .processing }
    let isLive ← ofExcept e.klumpMode
    let transaction : KlumpTransaction :=
      { userId := userId, paymentGroupId := groupId, paymentId := paymentId
        merchantReference := merchantReference, isLive := isLive }
    let id ← createUnique .klumpTransaction
      (fun _ k => k.paymentId == paymentId || k.merchantReference == merchantReference) transaction
    pure (id, transaction)

/-- Record what Klump says about an unfinished transaction. -/
def updateTransaction (id : ℕ) (status : KlumpTransactionStatus)
    (providerReference : Option String) : Tx Unit :=
  update .klumpTransaction id fun k =>
    { k with status := status, providerReference := providerReference <|> k.providerReference }

/-- Finish the checkout of a verified Klump transaction. -/
def completeTransaction (e : Env) (id : ℕ) (transaction : KlumpTransaction)
    (providerReference : String) : Tx Unit := do
  let current ← findOrThrow .payment transaction.paymentId
  require (current.status ≠ .failed) (.conflict
    "A released Klump checkout later succeeded; staff reconciliation is required.")
  when (current.status ≠ .paid) do
    update .payment transaction.paymentId fun p =>
      { p with
        status := .paid
        providerRef := some providerReference
        paidAt := some e.now
        metadata := { purpose := some .klumpCheckout } }
    Payments.completeGroup e transaction.paymentGroupId
  update .klumpTransaction id fun k =>
    { k with
      status := .successful
      providerReference := some providerReference
      verifiedAt := some e.now }

/-- What a verified Klump transaction has to agree with before it counts. -/
def ensureMatches (v : KlumpVerification) (transaction : KlumpTransaction) (payment : Payment)
    (expectedUserId : Option ℕ) : Except Error String := do
  ensure (expectedUserId.all (· == transaction.userId))
    (.forbidden "Klump transaction does not belong to this customer.")
  ensure (v.merchantReference = some transaction.merchantReference)
    (.badRequest "Klump merchant reference does not match checkout.")
  let reference ← fromOption v.providerReference
    (.badRequest "Klump transaction reference is missing.")
  ensure (v.currency.toUpper = payment.currency)
    (.badRequest "Klump currency does not match checkout.")
  let amount ← fromOption v.amount (.badRequest "Klump amount is invalid.")
  ensure (amount = payment.amount) (.badRequest "Klump amount does not match checkout.")
  ensure (v.isLive = some transaction.isLive)
    (.badRequest "Klump environment does not match checkout.")
  pure reference

/-- The transaction a verification is about. -/
def transactionOf (v : KlumpVerification) (db : Database) : Option (ℕ × KlumpTransaction) :=
  (db .klumpTransaction).first fun _ k =>
    v.merchantReference == some k.merchantReference ||
      (v.providerReference.isSome && v.providerReference == k.providerReference)

open Relational.Tx (Writes)

/-- Starting a transaction writes the payment, its group and the transaction. -/
theorem startTransaction_writes (e : Env) (userId groupId : ℕ) :
    Writes [.payment, .checkoutPaymentGroup, .klumpTransaction]
      (startTransaction e userId groupId) := by
  refine .bind (.find _ _) fun _ => .bind (.orThrow _ _) fun group => ?_
  refine .bind (.require _ _) fun _ => .bind (.require _ _) fun _ => ?_
  refine .bind (.first _ _) fun existing => ?_
  cases existing with
  | some existing => exact .pure _
  | none =>
    refine .bind (.query _) fun _ => .bind (.require _ _) fun _ => .bind (.query _) fun _ => ?_
    refine .bind (.ofExcept _) fun _ => .bind ?_ fun _ => ?_
    · unfold paymentOf
      split
      · exact .pure _
      · exact .createUnique (by decide) _ _
    · exact .bind (.update (by decide) _ _) fun _ => .bind (.ofExcept _) fun _ =>
        .bind (.createUnique (by decide) _ _) fun _ => .pure _

/-- Completing a transaction writes it, its payment and the tables of completions. -/
theorem completeTransaction_writes (e : Env) (id : ℕ) (transaction : KlumpTransaction)
    (providerReference : String) :
    Writes (.klumpTransaction :: .payment :: Payments.completionTables)
      (completeTransaction e id transaction providerReference) :=
  .bind (.findOrThrow _ _) fun _ => .bind (.require _ _) fun _ =>
    .bind (.when (.bind (.update (by decide) _ _) fun _ =>
      (Payments.completeGroup_writes e _).mono (by decide))) fun _ => .update (by decide) _ _

end Superstore.Klump

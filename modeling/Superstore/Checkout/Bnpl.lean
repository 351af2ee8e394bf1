import Superstore.Checkout.Create

/-!
# Confirmed financing

An approved application becomes a checkout that is paid at once, and its installments.
-/

namespace Superstore.Checkout

/-- The payment method that stands for each financing provider. -/
def financingMethod : String → Option PaymentMethod
  | "nextgen_purse" => some .nextgenPurse
  | "easybuy" => some .easybuy
  | "wallet_bnpl" => some .walletBnpl
  | _ => none

/-- Create the installments of an application that it does not have yet. -/
def createInstallments (applicationId : ℕ) (terms : PlanSnapshot) : Tx Unit :=
  (List.range terms.months).forM fun index => do
    let _ ← firstOrCreate .bnplInstallment
      (fun _ i => i.applicationId == applicationId && i.sequence == index + 1)
      { applicationId := applicationId, sequence := index + 1
        amount := if index = terms.months - 1 then terms.finalInstallment else terms.monthlyAmount }
    pure ()

/-- Turn an approved application into a paid checkout. -/
def confirmApplication (e : Env) (userId id : ℕ) (app : BnplApplication) : Tx ℕ := do
  require (app.status = "APPROVED")
    (.forbidden "BNPL application must be approved before confirmation.")
  let plan ← findOrThrow .bnplPlan app.planId
  require plan.isActive (.conflict "This financing plan has been disabled.")
  let group ← createInTransaction e userId app.checkoutInput
    (some ⟨financingMethod app.planSnapshot.provider, app.quoteSnapshot, id⟩)
  update .bnplApplication id fun a =>
    { a with status := "CONFIRMED", activeCartId := none, paymentGroupId := some group.1
             confirmedAt := some e.now }
  createInstallments id app.planSnapshot
  pure group.1

/-- Confirm a customer's application; a confirmed one keeps its checkout. -/
def confirm (e : Env) (userId id : ℕ) : Tx ℕ := do
  let app ← find .bnplApplication id
  let app ← orThrow (app.filter (·.userId == userId)) (.notFound "BNPL application not found.")
  match if app.status = "CONFIRMED" then app.paymentGroupId else none with
  | some groupId => pure groupId
  | none => confirmApplication e userId id app

open Relational.Tx (Writes)

/-- The tables that confirmed financing writes. -/
def financingTables : List TableName :=
  [.bnplApplication, .bnplInstallment] ++ (placementTables ++ paymentTables)

/-- Creating the installments writes them and their application. -/
theorem createInstallments_writes (applicationId : ℕ) (terms : PlanSnapshot) :
    Writes [.bnplApplication, .bnplInstallment] (createInstallments applicationId terms) :=
  .forM fun _ _ => .bind (.firstOrCreate (by decide) _ _) fun _ => .pure ()

/-- Confirming a financing writes its own tables. -/
theorem confirm_writes (e : Env) (userId id : ℕ) :
    Writes financingTables (confirm e userId id) := by
  refine .bind (.find _ _) fun _ => .bind (.orThrow _ _) fun app => ?_
  split
  · exact .pure _
  · refine .bind (.require _ _) fun _ => .bind (.findOrThrow _ _) fun _ => ?_
    refine .bind (.require _ _) fun _ => ?_
    refine .bind ((createInTransaction_writes _ _ _ _).mono (by decide)) fun _ => ?_
    exact .bind (.update (by decide) _ _) fun _ =>
      .bind ((createInstallments_writes _ _).mono (by decide)) fun _ => .pure _

end Superstore.Checkout

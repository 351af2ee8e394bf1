import Superstore.Checkout.Bnpl
import Superstore.Checkout.Pricing

/-!
# Applications for financing

A customer applies for the financing of a cart, and what the cart costs is written down with the terms of
the plan. Staff approve the application or reject it, and until it is confirmed the customer may cancel it.
The terms add up: what is left of rounding every installment down is paid with the last one.
-/

namespace Superstore

/-- Round down to two decimal places what is not negative. -/
def roundDown2 (x : ℚ) : ℚ := (⌊x * 100⌋ : ℤ) / 100

namespace Bnpl

open Relational.Tx (Writes)

/-- The terms of a principal over some months, at a flat rate. -/
def installmentTerms (principal : ℚ) (months : ℕ) (rate : ℚ) : Except Error InstallmentTerms := do
  let principal ← money principal
  let totalPayable := toDecimalPlaces2 (principal * (rate / 100 + 1))
  let monthlyAmount := roundDown2 (totalPayable / months)
  return { principal := principal, months := months, interestRate := rate, totalPayable := totalPayable
           monthlyAmount := monthlyAmount, finalInstallment := totalPayable - monthlyAmount * (months - 1) }

/-- What a customer applies with. -/
structure ApplyBnplDto where
  cartId : ℕ
  deliveryMethod : DeliveryMethod
  addressId : Option ℕ := none
  pickupStationId : Option ℕ := none
  provider : String
  planId : ℕ

/-- The checkout that is applied for. -/
def ApplyBnplDto.checkoutInput (dto : ApplyBnplDto) : CreateCheckoutDto :=
  { cartId := some dto.cartId, deliveryMethod := some dto.deliveryMethod, addressId := dto.addressId
    pickupStationId := dto.pickupStationId }

/-- Apply for the financing of a cart. -/
def apply (e : Env) (userId : ℕ) (dto : ApplyBnplDto) : Tx ℕ := do
  let _ ← Cart.lock userId
  let existing ← first .bnplApplication fun _ a => a.activeCartId == some dto.cartId
  require existing.isNone (.unprocessable "A BNPL application already exists for this cart.")
  let pendingCheckout ← first .checkoutPaymentGroup fun _ g => g.activeCartId == some dto.cartId
  require pendingCheckout.isNone (.conflict "Resolve the unpaid checkout before applying for BNPL.")
  let plan ← first .bnplPlan fun i p => i == dto.planId && p.provider == dto.provider && p.isActive
  let plan ← orThrow plan (.badRequest "Installment plan is unavailable.")
  let quote ← Relational.Tx.query (Checkout.quote e.now userId dto.checkoutInput)
  let quote ← ofExcept quote
  let terms ← ofExcept (installmentTerms quote.total plan.2.months plan.2.interestRate)
  createUnique .bnplApplication (fun _ a => a.activeCartId == some dto.cartId)
    { userId := userId, activeCartId := some dto.cartId, planId := plan.1, checkoutInput := dto.checkoutInput
      quoteSnapshot := quote
      planSnapshot := { terms with provider := plan.2.provider, label := plan.2.label } }

/-- Cancel an application that has not been confirmed. -/
def cancel (userId id : ℕ) : Tx Unit := do
  let app ← find .bnplApplication id
  let app ← orThrow (app.filter (·.userId == userId)) (.notFound "BNPL application not found.")
  require (app.status = "PENDING_REVIEW" ∨ app.status = "APPROVED") (.conflict "Application cannot be cancelled.")
  update .bnplApplication id fun a => { a with status := "CANCELLED", activeCartId := none }

/-- Approve or reject an application, which is not one's own. -/
def review (staffEmail : String) (id : ℕ) (approved : Bool) : Tx Unit := do
  let app ← find .bnplApplication id
  let app ← orThrow app (.notFound "Application not found.")
  require (app.status = "PENDING_REVIEW") (.conflict "Application has already been reviewed.")
  let user ← findOrThrow .user app.userId
  require (user.email.toLower ≠ staffEmail.toLower) (.forbidden "You cannot review your own application.")
  update .bnplApplication id fun a =>
    { a with status := if approved then "APPROVED" else "REJECTED"
             activeCartId := if approved then a.activeCartId else none }

/-- What customers and staff do with applications before they are confirmed, one transaction each. -/
inductive Call
  | apply (userId : ℕ) (dto : ApplyBnplDto)
  | cancel (userId id : ℕ)
  | review (staffEmail : String) (id : ℕ) (approved : Bool)

/-- The transaction of a call; its answer does not matter. -/
def Call.transaction : Call → Env → Tx Unit
  | .apply userId dto, e => do
    let _ ← Bnpl.apply e userId dto
    pure ()
  | .cancel userId id, _ => Bnpl.cancel userId id
  | .review staffEmail id approved, _ => Bnpl.review staffEmail id approved

/-- Calls write applications, and the cart that they lock. -/
theorem Call.writes (call : Call) (e : Env) : Writes (.bnplApplication :: Cart.tables) (call.transaction e) := by
  cases call with
  | apply userId dto =>
    refine .bind (.bind ((Cart.lock_writes userId).mono (by decide)) fun _ => ?_) fun _ => .pure ()
    refine .bind (.first _ _) fun _ => .bind (.require _ _) fun _ => .bind (.first _ _) fun _ => ?_
    refine .bind (.require _ _) fun _ => .bind (.first _ _) fun _ => .bind (.orThrow _ _) fun _ => ?_
    refine .bind (.query _) fun _ => .bind (.ofExcept _) fun _ => .bind (.ofExcept _) fun _ => ?_
    exact .createUnique List.mem_cons_self _ _
  | cancel userId id =>
    refine .bind (.find _ _) fun _ => .bind (.orThrow _ _) fun _ => .bind (.require _ _) fun _ => ?_
    exact .update List.mem_cons_self _ _
  | review staffEmail id approved =>
    refine .bind (.find _ _) fun _ => .bind (.orThrow _ _) fun _ => .bind (.require _ _) fun _ => ?_
    exact .bind (.findOrThrow _ _) fun _ => .bind (.require _ _) fun _ => .update List.mem_cons_self _ _

/-! ## The terms -/

/-- Rounding down does not exceed an amount. -/
theorem roundDown2_le (x : ℚ) : roundDown2 x ≤ x := by
  have hfloor : (⌊x * 100⌋ : ℚ) ≤ x * 100 := Int.floor_le _
  rw [roundDown2, div_le_iff₀ (by norm_num)]
  exact hfloor

/-- Rounding down loses less than a cent. -/
theorem lt_roundDown2_add (x : ℚ) : x < roundDown2 x + 1 / 100 := by
  have hfloor : x * 100 < ⌊x * 100⌋ + 1 := Int.lt_floor_add_one _
  rw [roundDown2, ← add_div, lt_div_iff₀ (by norm_num)]
  exact hfloor

/-- The terms of a principal in whole cents: the installments add up, and the last one is the largest, by less than
a cent for each month. -/
theorem installmentTerms_spec {principal : ℚ} {months : ℕ} (rate : ℚ) (hcents : Cents principal)
    (hnonneg : 0 ≤ principal) (hmonths : 1 ≤ months) :
    ∃ terms, installmentTerms principal months rate = .ok terms ∧ terms.principal = principal ∧
      terms.months = months ∧
      terms.monthlyAmount * (months - 1) + terms.finalInstallment = terms.totalPayable ∧
      terms.monthlyAmount ≤ terms.finalInstallment ∧
      terms.finalInstallment < terms.monthlyAmount + 1 / 100 * months := by
  have hmoney : money principal = .ok principal := by
    rw [money, if_neg hnonneg.not_gt, toDecimalPlaces2_of_cents hcents]
  refine ⟨_, by rw [installmentTerms, hmoney]; rfl, rfl, rfl, ?_⟩
  dsimp only
  generalize toDecimalPlaces2 (principal * (rate / 100 + 1)) = total
  have hpos : (0 : ℚ) < months := by exact_mod_cast hmonths
  have hle : roundDown2 (total / months) * months ≤ total := by
    have h := mul_le_mul_of_nonneg_right (roundDown2_le (total / months)) hpos.le
    rwa [div_mul_cancel₀ _ hpos.ne'] at h
  have hlt : total < roundDown2 (total / months) * months + 1 / 100 * months := by
    have h := mul_lt_mul_of_pos_right (lt_roundDown2_add (total / months)) hpos
    rwa [div_mul_cancel₀ _ hpos.ne', add_mul] at h
  exact ⟨by ring, by linarith, by linarith⟩

end Bnpl

end Superstore

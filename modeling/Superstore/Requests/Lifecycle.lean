import Superstore.Payments.Lifecycle
import Superstore.Requests.Effects

/-!
# How operations change payments

Which payment an operation may change, and how, is read off here once for all operations.
-/

namespace Superstore

open Interleaving Relational.Tx
open Payments (Linked MaySettle Started claimLease)

/-- A relation that holds across whatever an operation may do to payments. -/
def Op.MayChange (R : Payment → Payment → Prop) : {α : Type} → Op α → Env → Database → Prop
  | _, .claimInitialization _ _, e, db =>
    ∀ p, Linked db p → ∀ r, (db .payment).find p = some r → ¬Started e.now r →
      R r { r with metadata := { initializingUntil := some (e.now + claimLease) } }
  | _, .updatePayment id u, _, db => ∀ r, (db .payment).find id = some r → R r (u.apply r)
  | _, .finalizePayment p _ _, _, db => MaySettle (fun s => s = .paid ∨ s = .failed) R db p
  | _, .cancelGroup _ _, _, db => ∀ p, Linked db p → MaySettle (· = .failed) R db p
  | _, .settleRepayment _ p _, _, db => MaySettle (fun s => s = .paid ∨ s = .failed) R db p
  | _, .creditTopup p _ _, _, db => MaySettle (· = .paid) R db p
  | _, .createPayment payment, _, _ => payment.Entered
  | _, .creditFunding p _ _ _, _, db => MaySettle (· = .paid) R db p
  | _, .writeRefundStatus p status, _, db => MaySettle (· = status) R db p
  | _, .completeKlump _ transaction reference, e, db =>
    ∀ r, (db .payment).find transaction.paymentId = some r → r.status ≠ .failed →
      R r { r with status := .paid, providerRef := some reference, paidAt := some e.now
                   metadata := { purpose := some .klumpCheckout } }
  | _, .cancelOrder _ _ _, _, db => ∀ p, Linked db p → MaySettle PaymentStatus.Refunded R db p
  | _, _, _, _ => True

variable {R : Payment → Payment → Prop} [IsPreorder Payment R]

/-- Payments change along a relation where it holds across what an operation may do to them. -/
theorem Op.MayChange.grows {α : Type} {op : Op α} {e : Env} {w : World} (h : op.MayChange R e w.db) :
    PaymentsGrow R w.db (op.exec e w).2.db := by
  by_cases hwrites : TableName.payment ∈ op.writes
  swap
  · exact .of_eq (exec_frame op e w _ hwrites)
  have hgrows {α : Type} {op : Op α} {m : Env → Tx α} (hop : op.transaction = some m)
      (hm : wp w.db (m e) fun _ db => PaymentsGrow R w.db db) : PaymentsGrow R w.db (op.exec e w).2.db :=
    exec_transaction hop (Φ := fun w' => PaymentsGrow R w.db w'.db) (refl_of _ _) hm
  cases op <;> dsimp only [Op.writes] at hwrites <;>
    first | exact absurd hwrites (by decide) | clear hwrites
  case createCheckout => exact hgrows rfl (Checkout.createInTransaction_grows e _ _ _ w.db)
  case confirmFinancing => exact hgrows rfl (Checkout.confirm_grows e _ _ w.db)
  case claimInitialization => exact hgrows rfl (Payments.claimInitialization_grows e _ _ h)
  case updatePayment => exact hgrows rfl (Payments.updatePayment_grows h)
  case finalizePayment => exact hgrows rfl (Payments.finalizePayment_grows e _ _ h)
  case cancelGroup => exact hgrows rfl (Payments.cancelGroup_grows e _ _ h)
  case settleRepayment => exact hgrows rfl (Payments.settleRepayment_grows e _ _ h)
  case creditTopup => exact hgrows rfl (Payments.creditTopup_grows e _ _ h)
  case createPayment => exact hgrows rfl (Payments.createPayment_grows e h)
  case upsertFundingPayment => exact hgrows rfl (Payments.upsertFundingPayment_grows e _ _ _ _)
  case creditFunding => exact hgrows rfl (Payments.creditFunding_grows e _ _ _ h)
  case writeRefundStatus => exact hgrows rfl (Payments.writeRefundStatus_grows _ h)
  case startKlump => exact hgrows rfl (Klump.startTransaction_grows e _ _ w.db)
  case completeKlump => exact hgrows rfl (Klump.completeTransaction_grows e _ _ _ h)
  case cancelOrder => exact hgrows rfl (Orders.cancel_grows e _ _ _ h)

end Superstore

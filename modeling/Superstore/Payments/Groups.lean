import Superstore.Checkout.Cart
import Superstore.Payments.Settlement

/-!
# Completing and failing a payment group

The two ends of a checkout. Both walk over the orders of the group inside a transaction of
their caller. The orders of a group are distinct, so an order read when its turn comes is
the order as it was when the group was read.
-/

namespace Superstore.Payments

/-- Put an order into a status. -/
def setCurrentStatus (status : OrderStatus) (order : Order) : Order :=
  { order with currentStatus := status }

/-- Confirm and settle one order of a paid group; an order that was confirmed before stays as it is. -/
def confirmOrder (e : Env) (userId : ℕ) (allocation : Allocation) : Tx Unit := do
  let order ← findOrThrow .order allocation.orderId
  when (order.currentStatus = .orderReceived) do
    update .order allocation.orderId (setCurrentStatus .confirmed)
    let _ ← create .orderStatusHistory
      { orderId := allocation.orderId, fromStatus := some .orderReceived, toStatus := .confirmed
        reason := some "Payment or approved financing confirmed." }
    Settlements.settleOrder e allocation.orderId
  require (order.currentStatus ≠ .cancelled)
    (.conflict "Cancelled order cannot be finalized as paid.")
  let _ ← firstOrCreate .orderConfirmationOutbox (fun _ o => o.orderId == allocation.orderId)
    { orderId := allocation.orderId, userId := userId }
  pure ()

/-- Finish a payment group after its payment. -/
def completeGroup (e : Env) (id : ℕ) : Tx Unit := do
  let group ← findOrThrow .checkoutPaymentGroup id
  when (¬(group.status = .paid ∧ group.activeCartId = none)) do
    require (group.status ≠ .failed) (.conflict "Cannot pay a released checkout.")
    group.allocations.forM (confirmOrder e group.userId)
    Cart.consume group.userId e.now group.cartSnapshot
    update .checkoutPaymentGroup id fun g => { g with status := .paid, activeCartId := none }

/-- Put the goods of one order line back on the shelf. -/
def restock (item : OrderItem) : Tx Unit :=
  update .storeProduct item.storeProductId fun p =>
    { p with stockQuantity := p.stockQuantity + item.quantity }

/-- Call an order off: its goods go back, and everything issued for it is withdrawn. -/
def callOff (now orderId : ℕ) (order : Order) (history : OrderStatusHistory) : Tx Unit := do
  order.items.forM restock
  update .order orderId (setCurrentStatus .cancelled)
  let _ ← updateMany .delivery (fun _ d => d.orderId == orderId)
    fun d => { d with status := .cancelled }
  let _ ← updateMany .pickup (fun _ p => p.orderId == orderId)
    fun p => { p with status := "cancelled" }
  let _ ← updateMany .orderQrCredential (fun _ c => c.orderId == orderId && c.status == "ACTIVE")
    fun c => { c with status := "REVOKED", revokedAt := some now }
  let _ ← create .orderStatusHistory history
  pure ()

/-- Release one order of a failed group. -/
def releaseOrder (e : Env) (allocation : Allocation) : Tx Unit := do
  let order ← findOrThrow .order allocation.orderId
  require (order.currentStatus = .orderReceived)
    (.conflict "Order cannot be released automatically.")
  callOff e.now allocation.orderId order
    { orderId := allocation.orderId, fromStatus := some .orderReceived, toStatus := .cancelled
      reason := some "Payment failed or unpaid checkout cancelled." }

/-- Give up a payment group that has not been paid. -/
def failGroup (e : Env) (id : ℕ) : Tx Unit := do
  let group ← findOrThrow .checkoutPaymentGroup id
  when (group.status ≠ .failed) do
    require (group.status ≠ .paid) (.conflict "Paid checkouts require the refund workflow.")
    group.allocations.forM (releaseOrder e)
    update .checkoutPaymentGroup id fun g => { g with status := .failed, activeCartId := none }

/-! ## What the two ends write -/

open Relational.Tx (Writes)

/-- The tables of orders that a confirmation writes, besides those of the settlement. -/
def confirmationTables : List TableName :=
  [.order, .orderStatusHistory, .orderConfirmationOutbox] ++ Settlements.tables

/-- The tables that completing a group writes. -/
def completionTables : List TableName :=
  .checkoutPaymentGroup :: confirmationTables ++ Cart.tables

/-- The tables that calling an order off writes. -/
def callOffTables : List TableName :=
  [.storeProduct, .order, .delivery, .pickup, .orderQrCredential, .orderStatusHistory]

/-- Confirming an order writes the tables of confirmations. -/
theorem confirmOrder_writes (e : Env) (userId : ℕ) (a : Allocation) :
    Writes confirmationTables (confirmOrder e userId a) := by
  refine .bind (.findOrThrow _ _) fun order => .bind (.when ?_) fun _ => ?_
  · refine .bind (.update (by decide) _ _) fun _ => .bind (.create (by decide) _) fun _ => ?_
    exact (Settlements.settleOrder_writes e _).mono (by decide)
  · exact .bind (.require _ _) fun _ => .bind (.firstOrCreate (by decide) _ _) fun _ => .pure ()

/-- Completing a group writes the tables of completions. -/
theorem completeGroup_writes (e : Env) (id : ℕ) : Writes completionTables (completeGroup e id) := by
  refine .bind (.findOrThrow _ _) fun group => .when (.bind (.require _ _) fun _ => ?_)
  refine .bind (.forM fun a _ => (confirmOrder_writes e _ a).mono (by decide)) fun _ => ?_
  exact .bind ((Cart.consume_writes _ _ _).mono (by decide)) fun _ => .update (by decide) _ _

/-- Putting an item back writes the offers. -/
theorem restock_writes (item : OrderItem) : Writes [.storeProduct] (restock item) :=
  .update (by decide) _ _

/-- Calling an order off writes the tables of that. -/
theorem callOff_writes (now orderId : ℕ) (order : Order) (history : OrderStatusHistory) :
    Writes callOffTables (callOff now orderId order history) := by
  refine .bind (.forM fun item _ => (restock_writes item).mono (by decide)) fun _ => ?_
  refine .bind (.update (by decide) _ _) fun _ => .bind (.updateMany (by decide) _ _) fun _ => ?_
  refine .bind (.updateMany (by decide) _ _) fun _ => .bind (.updateMany (by decide) _ _) fun _ => ?_
  exact .bind (.create (by decide) _) fun _ => .pure ()

/-- Releasing an order writes the tables of calling it off. -/
theorem releaseOrder_writes (e : Env) (a : Allocation) :
    Writes callOffTables (releaseOrder e a) :=
  .bind (.findOrThrow _ _) fun _ => .bind (.require _ _) fun _ => callOff_writes _ _ _ _

/-- Failing a group writes the group and the tables of calling its orders off. -/
theorem failGroup_writes (e : Env) (id : ℕ) :
    Writes (.checkoutPaymentGroup :: callOffTables) (failGroup e id) := by
  refine .bind (.findOrThrow _ _) fun group => .when (.bind (.require _ _) fun _ => ?_)
  exact .bind (.forM fun a _ => (releaseOrder_writes e a).mono (by decide)) fun _ =>
    .update (by decide) _ _

end Superstore.Payments

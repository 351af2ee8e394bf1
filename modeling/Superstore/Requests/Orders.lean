import Superstore.Requests.Payments

/-!
# Requests about orders

The requests of customers, stores, riders and staff that write the status of an order. Those
of stores and riders check the status in a read of their own and write it later.
-/

namespace Superstore.Orders

open Interleaving

/-- Cancel an order; a refund through Paystack is submitted at once. -/
def cancelOrder (userId id : ℕ) (reason : String) : Request Unit := do
  let result ← call (.cancelOrder userId id reason)
  if ¬result.isWallet ∧ result.refund.status = .pending then
    Payments.tolerate (Payments.processRefund result.refundId)
  else call .notify

/-- Whether somebody runs a store or works for it. -/
def storeOperator (actorId storeId : ℕ) (db : Database) : Bool :=
  ((db .store).find storeId).any (·.ownerUserId == actorId) ||
    ((db .storeUser).first fun _ m => m.storeId == storeId && m.userId == actorId).isSome

/-- Set the preparation status of an order as a store operator. -/
def setStatus (actorId id : ℕ) (status : OrderStatus) (reason : Option String) : Request Unit := do
  let (order, isStoreOperator) ← selectOrThrow
    (fun db => ((db .order).find id).map fun order =>
      (order, storeOperator actorId order.storeId db))
    (.notFound "Order not found.")
  check isStoreOperator
    (.forbidden "Only this order's store owner or store staff can update preparation status.")
  check (order.currentStatus ≠ .orderReceived) (.badRequest
    "Unpaid orders must be confirmed by payment verification or cancelled through checkout.")
  check (status ∈ storeManagedOrderStatuses)
    (.forbidden "Store operators may only mark an order as PREPARING or READY_FOR_PICKUP.")
  check (canTransitionOrder order.currentStatus status) (.badRequest
    ("Invalid order transition: " ++ order.currentStatus.name ++ " -> " ++ status.name))
  let updated ← call (.writeStatus id order.currentStatus status actorId reason)
  call .notify
  onlyIf (updated.currentStatus = .readyForPickup) (call .notify)

/-- Whether every line of an order has been scanned in a phase. -/
def checklistComplete (orderId : ℕ) (phase : String) (order : Order) (db : Database) : Bool :=
  order.items.all fun item =>
    decide (item.quantity ≤ (((db .orderItemScan).many fun _ s =>
      s.orderId == orderId && s.orderItemId == item.id && s.phase == phase &&
        s.status == "VERIFIED").map (·.2.quantity)).sum)

/-- Mark an order as packed. -/
def completePacking (actorId storeId id : ℕ) : Request Unit := do
  let order ← selectOrThrow (fun db => ((db .order).find id).filter (·.storeId == storeId))
    (.notFound "Order not found.")
  let access ← select (storeOperator actorId order.storeId)
  check access (.forbidden "Store access is required.")
  let complete ← select (checklistComplete id "PACKING" order)
  check complete (.conflict "Every order item must be scanned before packing is completed.")
  let order ← selectOrThrow (fun db => (db .order).find id) .recordNotFound
  check (order.currentStatus = .confirmed ∨ order.currentStatus = .preparing)
    (.badRequest "Order cannot be marked ready from its current state.")
  call (.writePacked id order.currentStatus actorId)
  call .notify
  call .notify

/-- An order with its delivery, if the delivery is a rider's. -/
def riderOrder (riderId id : ℕ) (db : Database) : Option (Order × ℕ) := do
  let delivery ← (db .delivery).first fun _ d => d.orderId == id && d.riderId == some riderId
  let order ← (db .order).find id
  pure (order, delivery.1)

/-- The order that a rider's request has read. -/
theorem find_of_riderOrder {riderId id : ℕ} {db : Database} {r : Order × ℕ}
    (h : riderOrder riderId id db = some r) : (db .order).find id = some r.1 := by
  simp only [riderOrder, Option.bind_eq_bind, Option.bind_eq_some_iff, Option.pure_def,
    Option.some.injEq] at h
  obtain ⟨_, _, o, ho, rfl⟩ := h
  exact ho

/-- The credential that a scanned token stands for, if it is valid for a hand-over. -/
def validCredential (now id : ℕ) (purpose token : String) (db : Database) : Except Error ℕ := do
  let credential ← fromOption
    (((db .orderQrCredential).first fun _ c => c.token == token).filter fun c =>
      c.2.orderId == id && c.2.purpose == purpose && c.2.status == "ACTIVE")
    (.forbidden "QR credential is invalid or already used.")
  ensure (now < credential.2.expiresAt) (.forbidden "QR credential has expired.")
  pure credential.1

/-- Confirm that a rider has picked an order up. -/
def confirmPickup (riderId id : ℕ) (token : String) : Request Unit := do
  let (order, _) ← selectOrThrow (riderOrder riderId id)
    (.forbidden "This order is not assigned to the rider.")
  let now ← call .now
  let credentialId ← call (.read (validCredential now id "RIDER_PICKUP" token))
  let (items, _) ← selectOrThrow (riderOrder riderId id)
    (.forbidden "This order is not assigned to the rider.")
  let complete ← select (checklistComplete id "RIDER_PICKUP" items)
  check complete (.conflict "Every item must be scanned before pickup confirmation.")
  check (order.currentStatus = .readyForPickup ∨ order.currentStatus = .riderAssigned)
    (.badRequest "Order is not ready for rider pickup.")
  call (.writePickup id order.currentStatus riderId credentialId)

/-- Confirm that an order has reached its customer. -/
def confirmDelivery (riderId id : ℕ) (token : String) : Request Unit := do
  let (order, deliveryId) ← selectOrThrow (riderOrder riderId id)
    (.forbidden "This order is not assigned to the rider.")
  let now ← call .now
  let credentialId ← call (.read (validCredential now id "CUSTOMER_DELIVERY" token))
  check (order.currentStatus = .outForDelivery)
    (.badRequest "Order is not ready for delivery confirmation.")
  let rewards ← call (.writeDelivery id order riderId credentialId deliveryId)
  call .notify
  onlyIf (0 < rewards.2 ∨ rewards.1 ≠ 0) (call .notify)

/-- A delivery with its order. -/
def deliveryWithOrder (deliveryId : ℕ) (db : Database) : Option (Delivery × Order) := do
  let delivery ← (db .delivery).find deliveryId
  let order ← (db .order).find delivery.orderId
  pure (delivery, order)

/-- Report the progress of a delivery. -/
def updateStatus (riderId deliveryId : ℕ) (status : DeliveryStatus) (location note : Option String) :
    Request Unit := do
  let (delivery, order) ← selectOrThrow (deliveryWithOrder deliveryId)
    (.notFound "Delivery not found.")
  check (delivery.riderId = some riderId) (.forbidden "You are not assigned to this delivery.")
  check (status ∈ allowedTransitions delivery.status) (.badRequest
    ("Invalid delivery transition: " ++ delivery.status.name ++ " -> " ++ status.name))
  check (status ≠ .pickedUp) (.badRequest
    "Confirm pickup with the store handoff QR instead of setting PICKED_UP directly.")
  check (status ≠ .delivered) (.badRequest
    "Confirm delivery with the customer QR instead of setting DELIVERED directly.")
  check ((synchronizedOrderStatus status).all fun s =>
      order.currentStatus == s || canTransitionOrder order.currentStatus s) (.badRequest
    ("Order " ++ toString delivery.orderId ++ " cannot move from " ++ order.currentStatus.name ++
      " to OUT_FOR_DELIVERY."))
  call (.writeProgress deliveryId status delivery.orderId order.currentStatus riderId location note)

/-- Claim an available delivery. -/
def claim (riderId deliveryId : ℕ) (offerId : Option ℕ) : Request Unit := do
  let _ ← call (.claimDelivery riderId deliveryId offerId)
  call .notify

/-- Accept an offered delivery. -/
def accept (riderId offerId : ℕ) : Request Unit := do
  let offer ← selectOrThrow
    (fun db => ((db .deliveryOffer).find offerId).filter fun o =>
      o.riderId == riderId && o.status == "PENDING")
    (.notFound "Delivery offer not found.")
  claim riderId offer.deliveryId (some offerId)

/-- Move an order on as a member of staff. -/
def updateOrderStatus (id : ℕ) (status : OrderStatus) (reason : String) : Request Unit := do
  let _ ← call (.intervene id status reason)
  call .notify
  onlyIf (status = .readyForPickup ∨ status = .completed) (call .notify)

end Superstore.Orders

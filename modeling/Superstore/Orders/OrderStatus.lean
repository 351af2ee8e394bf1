import Superstore.Store.Schema

/-!
# The transitions of an order

The table of transitions and the lists that the services check a requested status against.
-/

namespace Superstore

/-- The statuses that may follow each status. -/
def orderStatusTransitions : OrderStatus → List OrderStatus
  | .orderReceived => [.confirmed, .cancelled]
  | .confirmed => [.preparing, .cancelled]
  | .preparing => [.readyForPickup, .riderAssigned, .cancelled]
  | .readyForPickup => [.pickedUp, .riderAssigned, .cancelled]
  | .riderAssigned => [.pickedUp, .outForDelivery, .cancelled]
  | .outForDelivery => [.pickedUp, .delivered, .cancelled]
  | .pickedUp => [.outForDelivery, .delivered, .completed]
  | .delivered => [.completed]
  | .completed => []
  | .cancelled => []

/-- The statuses that store operators may set. -/
def storeManagedOrderStatuses : List OrderStatus := [.preparing, .readyForPickup]

/-- The statuses that staff may set. -/
def adminInterventionOrderStatuses : List OrderStatus :=
  [.preparing, .readyForPickup, .riderAssigned, .pickedUp, .outForDelivery, .delivered, .completed]

/-- Whether one status may follow another. -/
def canTransitionOrder (a b : OrderStatus) : Bool := (orderStatusTransitions a).contains b

/-- The statuses that may follow each status of a delivery. -/
def allowedTransitions : DeliveryStatus → List DeliveryStatus
  | .pending => [.offered, .assigned, .cancelled]
  | .offered => [.assigned, .cancelled]
  | .assigned => [.pickedUp, .cancelled]
  | .pickedUp => [.inTransit, .outForDelivery, .arrivedAtCustomer, .failed]
  | .inTransit => [.outForDelivery, .arrivedAtCustomer, .delivered, .failed]
  | .outForDelivery => [.arrivedAtCustomer, .delivered, .failed]
  | .arrivedAtCustomer => [.delivered, .failed]
  | .delivered => []
  | .failed => []
  | .cancelled => []

namespace OrderStatus

/-- An order that is over: delivered and rewarded, or called off. -/
def Terminal (s : OrderStatus) : Prop := s = .completed ∨ s = .cancelled

/-- Whether an order is over can be decided. -/
instance (s : OrderStatus) : Decidable s.Terminal := inferInstanceAs (Decidable (_ ∨ _))

/-- A status in which a checkout is given up or its customer may cancel an order. -/
def Open (s : OrderStatus) : Prop := s = .orderReceived ∨ s = .confirmed ∨ s = .preparing

/-- Whether an order is still open can be decided. -/
instance (s : OrderStatus) : Decidable s.Open := inferInstanceAs (Decidable (_ ∨ _))

/-- The name of a status as messages show it. -/
def name : OrderStatus → String
  | .orderReceived => "ORDER_RECEIVED"
  | .confirmed => "CONFIRMED"
  | .preparing => "PREPARING"
  | .readyForPickup => "READY_FOR_PICKUP"
  | .riderAssigned => "RIDER_ASSIGNED"
  | .outForDelivery => "OUT_FOR_DELIVERY"
  | .pickedUp => "PICKED_UP"
  | .delivered => "DELIVERED"
  | .completed => "COMPLETED"
  | .cancelled => "CANCELLED"

end OrderStatus

/-- The name of a delivery status as messages show it. -/
def DeliveryStatus.name : DeliveryStatus → String
  | .pending => "PENDING"
  | .offered => "OFFERED"
  | .assigned => "ASSIGNED"
  | .pickedUp => "PICKED_UP"
  | .inTransit => "IN_TRANSIT"
  | .outForDelivery => "OUT_FOR_DELIVERY"
  | .arrivedAtCustomer => "ARRIVED_AT_CUSTOMER"
  | .delivered => "DELIVERED"
  | .failed => "FAILED"
  | .cancelled => "CANCELLED"

/-- No transition leaves a terminal status, and every other status has one. -/
theorem transitions_eq_nil (s : OrderStatus) : orderStatusTransitions s = [] ↔ s.Terminal := by
  cases s <;> simp [orderStatusTransitions, OrderStatus.Terminal]

/-- The table lets an order be cancelled wherever it may be. -/
theorem OrderStatus.Open.canTransition {s : OrderStatus} (h : s.Open) : canTransitionOrder s .cancelled := by
  rcases h with rfl | rfl | rfl <;> decide

/-- A status that a transition starts from is not terminal. -/
theorem not_terminal_of_canTransition {a b : OrderStatus} (h : canTransitionOrder a b) :
    ¬a.Terminal := by
  intro ha
  rw [← transitions_eq_nil] at ha
  simp [canTransitionOrder, ha] at h

/-- Staff and store operators can neither confirm a payment nor cancel an order. -/
theorem managed_not_financial {s : OrderStatus}
    (h : s ∈ storeManagedOrderStatuses ∨ s ∈ adminInterventionOrderStatuses) :
    s ≠ .orderReceived ∧ s ≠ .confirmed ∧ s ≠ .cancelled := by
  revert h
  cases s <;> simp [storeManagedOrderStatuses, adminInterventionOrderStatuses]

/-- From an unpaid order staff can reach no status of fulfilment. -/
theorem not_canTransition_of_received {s : OrderStatus} (h : s ∈ adminInterventionOrderStatuses) :
    ¬canTransitionOrder .orderReceived s := by
  revert h
  cases s <;> simp [adminInterventionOrderStatuses, canTransitionOrder, orderStatusTransitions]

end Superstore

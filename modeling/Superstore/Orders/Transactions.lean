import Superstore.Orders.OrderStatus
import Superstore.Payments.Transactions

/-!
# The transactions that write the status of an order

Five of these write a status that was checked before the transaction began: the status
update of a store, the end of packing, the two hand-overs and the rider's progress. The
cancellation, the claim of a delivery and the intervention of staff read the order inside.
-/

namespace Superstore.Orders

open Payments (setCurrentStatus callOff creditWallet succeededTotal refundedStatus)

/-! ## Cancellation by the customer -/

/-- What a cancellation tells its caller. -/
structure CancelResult where
  refundId : ℕ
  refund : Refund
  isWallet : Bool

/-- The group that carries an order, with the order's share. -/
def allocationOf (orderId : ℕ) (db : Database) : Option (ℕ × CheckoutPaymentGroup × Allocation) :=
  ((db .checkoutPaymentGroup).first fun _ g => g.allocations.any (·.orderId == orderId)).bind
    fun g => (g.2.allocations.find? (·.orderId == orderId)).map fun a => (g.1, g.2, a)

/-- The provider that a cancelled order is refunded through. -/
def refundProvider (isWallet isKlump : Bool) : PaymentProvider :=
  if isWallet then .manual else if isKlump then .klump else .paystack

/-- The status that the refund of a cancelled order begins with. -/
def initialRefundStatus (isWallet isKlump : Bool) : RefundStatus :=
  if isWallet then .succeeded else if isKlump then .manualReview else .pending

/-- Note the refund of a cancelled order, unless it has one. -/
def noteRefund (e : Env) (userId orderId paymentId : ℕ) (order : Order) (allocation : Allocation)
    (isWallet isKlump : Bool) (reason : String) : Tx (ℕ × Refund) := do
  let key := "ORDER-REFUND-" ++ toString orderId
  let refund : Refund :=
    { orderId := orderId, userId := userId, paymentId := paymentId, amount := allocation.amount
      currency := order.currency, provider := refundProvider isWallet isKlump
      status := initialRefundStatus isWallet isKlump, idempotencyKey := key, reason := reason
      failureReason := if isKlump then
        some "Complete the customer refund in the Klump merchant dashboard, then record its reference here."
        else none
      completedAt := if isWallet then some e.now else none }
  let existing ← first .refund fun _ r => r.orderId == orderId
  match existing with
  | some existing => pure existing
  | none => do
    let id ← createUnique .refund (fun _ r => r.idempotencyKey == key) refund
    pure (id, refund)

/-- Bring the status of a payment in line with its refunds. -/
def syncInTransaction (paymentId : ℕ) : Tx Unit := do
  let payment ← findOrThrow .payment paymentId
  let refunded ← Relational.Tx.query (succeededTotal paymentId)
  update .payment paymentId fun p => { p with status := refundedStatus refunded payment.amount }

/-- Take the settlement of a cancelled order back from its store. -/
def reverseSettlement (orderId : ℕ) (order : Order) : Tx Unit := do
  let storeWallet ← first .storeWallet fun _ w => w.storeId == order.storeId
  let settlement ← first .storeWalletTransaction
    fun _ t => t.reference == some (Settlements.settlementReference order.orderNumber)
  match storeWallet, settlement with
  | some wallet, some settlement => do
    update .storeWallet wallet.1 fun w => { w with balance := w.balance - settlement.2.amount }
    let reference := some ("ORDER-CANCEL-" ++ order.orderNumber)
    let _ ← createUnique .storeWalletTransaction (fun _ t => t.reference == reference)
      { walletId := wallet.1, amount := settlement.2.amount, type := .debit
        reference := reference, orderId := some orderId }
    pure ()
  | _, _ => pure ()

/-- Cancel an order that is paid but not packed yet. -/
def cancel (e : Env) (userId id : ℕ) (reason : String) : Tx CancelResult := do
  let order ← find .order id
  let order ← orThrow (order.filter (·.userId == userId)) (.notFound "Order not found.")
  require (order.currentStatus = .confirmed ∨ order.currentStatus = .preparing)
    (.badRequest "This order can no longer be cancelled.")
  callOff e.now id order
    { orderId := id, fromStatus := some order.currentStatus, toStatus := .cancelled
      changedById := some userId, reason := some reason }
  let allocation ← Relational.Tx.query (allocationOf id)
  let located ← orThrow (allocation.bind fun a => a.2.1.paymentId.map fun p => (a, p))
    (.conflict "The order payment cannot be located for refund.")
  let payment ← Relational.Tx.query fun db => (db .payment).find located.2
  let isWallet := located.1.2.1.paymentMethod == .wallet
  let isKlump := payment.any (·.provider == .klump)
  when isWallet do creditWallet userId order.total ("ORDER-CANCEL-" ++ toString id)
  let refund ← noteRefund e userId id located.2 order located.1.2.2 isWallet isKlump reason
  when (refund.2.status = .succeeded) do syncInTransaction located.2
  reverseSettlement id order
  let _ ← updateMany .cashbackReward (fun _ c => c.orderId == id && c.status == "AVAILABLE")
    fun c => { c with status := "REVERSED" }
  pure ⟨refund.1, refund.2, isWallet⟩

/-- An order that its customer can cancel: one of their own that is not packed yet, and whose payment is there. -/
def cancellable (userId id : ℕ) (db : Database) : Bool :=
  ((db .order).find id).any (fun o => o.userId == userId &&
    (o.currentStatus == .confirmed || o.currentStatus == .preparing)) &&
  ((allocationOf id db).bind (·.2.1.paymentId)).isSome

/-! ## Completion -/

/-- The percentage of an order that is returned as cashback where nothing is configured. -/
def defaultCashbackRate : ℚ := 1

/-- A configured decimal, or a default. -/
def configured (key : String) (default : ℚ) : Tx ℚ := do
  let row ← first .platformConfig fun _ c => c.key == key
  ofExcept (match row with
    | some (_, ⟨_, .decimal value⟩) => .ok value
    | some (_, ⟨_, .checkoutSettings _ _⟩) => .error .unavailable
    | none => .ok default)

/-- Grant the rewards of a completed order. -/
def reward (e : Env) (orderId : ℕ) (order : Order) : Tx (ℚ × ℤ) := do
  let percentage ← configured "cashback_rate" defaultCashbackRate
  let eligible := decide (0 < percentage ∧ percentage ≤ 100)
  let cashbackAmount := if eligible then toDecimalPlaces2 (order.subtotal * percentage / 100) else 0
  when eligible do
    let _ ← firstOrCreate .cashbackReward (fun _ c => c.orderId == orderId)
      { userId := order.userId, orderId := orderId, percentage := percentage
        amount := cashbackAmount, createdAt := e.now }
    pure ()
  let points := ⌊order.total / 1000⌋
  let account ← firstOrCreate .rewardAccount (fun _ a => a.userId == order.userId)
    { userId := order.userId }
  update .rewardAccount account.1 fun a => { a with availablePoints := a.availablePoints + points }
  let referral ← first .referral fun _ r => r.referredUserId == order.userId
  match referral.filter (·.2.status == "PENDING") with
  | some referral => do
    let amount ← configured "referral_reward_amount" 1000
    update .referral referral.1 fun r =>
      { r with status := "QUALIFIED", qualifiedAt := some e.now, rewardAmount := amount }
    pure (cashbackAmount, points)
  | none => pure (cashbackAmount, points)

/-- Note a change of status in the history of an order. -/
def history (orderId : ℕ) (fromStatus toStatus : OrderStatus) (changedById : Option ℕ)
    (reason : Option String) : Tx Unit := do
  let _ ← create .orderStatusHistory
    { orderId := orderId, fromStatus := some fromStatus, toStatus := toStatus
      changedById := changedById, reason := reason }
  pure ()

/-- Complete an order; the order is the one the caller has read. -/
def completeOrder (e : Env) (orderId : ℕ) (order : Order) (changedById : Option ℕ)
    (reason : String) : Tx (ℚ × ℤ) := do
  update .order orderId (setCurrentStatus .completed)
  history orderId order.currentStatus .completed changedById (some reason)
  reward e orderId order

/-! ## Stores, riders and staff -/

/-- Write the status that a store operator asked for. -/
def writeStatus (id : ℕ) (fromStatus status : OrderStatus) (actorId : ℕ) (reason : Option String) :
    Tx Order := do
  update .order id (setCurrentStatus status)
  let updated ← findOrThrow .order id
  history id fromStatus status (some actorId) reason
  pure updated

/-- Mark a packed order ready. -/
def writePacked (id : ℕ) (fromStatus : OrderStatus) (actorId : ℕ) : Tx Unit := do
  update .order id (setCurrentStatus .readyForPickup)
  history id fromStatus .readyForPickup (some actorId)
    (some "All products scanned and packing completed.")

/-- Use up a hand-over credential. -/
def consumeCredential (e : Env) (credentialId riderId : ℕ) : Tx Unit := do
  let count ← updateMany .orderQrCredential
    (fun i c => i == credentialId && c.status == "ACTIVE" && decide (e.now < c.expiresAt))
    fun c => { c with status := "CONSUMED", consumedAt := some e.now, consumedById := some riderId }
  require (count ≠ 0) (.conflict "QR credential was already consumed.")

/-- Rewrite the delivery of an order, which has to exist. -/
def updateDeliveryOf (orderId : ℕ) (f : Delivery → Delivery) : Tx Unit := do
  let delivery ← first .delivery fun _ d => d.orderId == orderId
  let delivery ← orThrow delivery .recordNotFound
  update .delivery delivery.1 f

/-- Hand an order over to its rider. -/
def writePickup (e : Env) (id : ℕ) (fromStatus : OrderStatus) (riderId credentialId : ℕ) :
    Tx Unit := do
  consumeCredential e credentialId riderId
  update .order id (setCurrentStatus .pickedUp)
  updateDeliveryOf id fun d => { d with status := .pickedUp, pickedUpAt := some e.now }
  history id fromStatus .pickedUp (some riderId)
    (some "Rider QR and product checklist verified.")

/-- Hand an order over to its customer, and complete it. -/
def writeDelivery (e : Env) (id : ℕ) (order : Order) (riderId credentialId deliveryId : ℕ) :
    Tx (ℚ × ℤ) := do
  consumeCredential e credentialId riderId
  update .order id (setCurrentStatus .delivered)
  updateDeliveryOf id fun d => { d with status := .delivered, deliveredAt := some e.now }
  Settlements.releaseRiderEarning e.now deliveryId
  history id order.currentStatus .delivered (some riderId) (some "Customer delivery QR verified.")
  completeOrder e id (setCurrentStatus .delivered order) none
    "System completed the order after customer QR verification."

/-- The order status that goes with a delivery status. -/
def synchronizedOrderStatus (status : DeliveryStatus) : Option OrderStatus :=
  if status = .inTransit ∨ status = .outForDelivery ∨ status = .arrivedAtCustomer then
    some .outForDelivery
  else none

/-- Write the progress of a delivery, and the status of its order along with it. -/
def writeProgress (e : Env) (deliveryId : ℕ) (status : DeliveryStatus) (orderId : ℕ)
    (orderStatus : OrderStatus) (riderId : ℕ) (location note : Option String) : Tx Unit := do
  update .delivery deliveryId fun d =>
    { d with status := status
             arrivedAt := if status = .arrivedAtCustomer then some e.now else d.arrivedAt }
  let _ ← create .deliveryStatusUpdate
    { deliveryId := deliveryId, status := status, location := location, note := note }
  match synchronizedOrderStatus status with
  | some synchronized =>
    when (orderStatus ≠ synchronized) do
      update .order orderId (setCurrentStatus synchronized)
      history orderId orderStatus synchronized (some riderId)
        (some ("Synchronized from rider delivery status " ++ status.name ++ "."))
  | none => pure ()

/-- Record the offer that a claim rests on. -/
def acceptOffer (deliveryId riderId : ℕ) (offerId : Option ℕ) : Tx Unit :=
  match offerId with
  | some offerId => update .deliveryOffer offerId fun o => { o with status := "ACCEPTED" }
  | none => do
    let offer ← firstOrCreate .deliveryOffer
      (fun _ o => o.deliveryId == deliveryId && o.riderId == riderId)
      { deliveryId := deliveryId, riderId := riderId, status := "ACCEPTED" }
    update .deliveryOffer offer.1 fun o => { o with status := "ACCEPTED" }

/-- Assign a delivery to a rider who claims it. -/
def claimDelivery (e : Env) (riderId deliveryId : ℕ) (offerId : Option ℕ) : Tx Delivery := do
  ofExcept e.riderEligibility
  let current ← find .delivery deliveryId
  let current ← orThrow current (.notFound "Delivery job was not found.")
  require (current.riderId = none ∧ (current.status = .pending ∨ current.status = .offered))
    (.conflict "Delivery has already been claimed.")
  let order ← findOrThrow .order current.orderId
  require (order.currentStatus = .readyForPickup)
    (.badRequest "The order is not ready for rider pickup.")
  ofExcept e.riderPlacement
  let assigned ← updateMany .delivery
    (fun i d => i == deliveryId && d.riderId == none &&
      (d.status == .pending || d.status == .offered))
    fun d => { d with riderId := some riderId, status := .assigned, assignedAt := some e.now }
  require (assigned = 1) (.conflict "Delivery has already been claimed.")
  let updated ← updateMany .order
    (fun i o => i == current.orderId && o.currentStatus == .readyForPickup)
    (setCurrentStatus .riderAssigned)
  require (updated = 1) (.conflict "Order is no longer available for rider assignment.")
  acceptOffer deliveryId riderId offerId
  let _ ← updateMany .deliveryOffer
    (fun _ o => o.deliveryId == deliveryId && o.riderId != riderId && o.status == "PENDING")
    fun o => { o with status := "EXPIRED" }
  history current.orderId order.currentStatus .riderAssigned (some riderId)
    (some "Rider claimed the available delivery job.")
  Settlements.holdRiderEarning deliveryId
  findOrThrow .delivery deliveryId

/-- Let staff move an order along its transitions. -/
def intervene (e : Env) (orderId : ℕ) (status : OrderStatus) (reason : String) : Tx Order := do
  let order ← find .order orderId
  let order ← orThrow order (.notFound "Order not found.")
  require (status ∈ adminInterventionOrderStatuses) (.badRequest
    "Payment confirmation and cancellation must use their dedicated financial workflows.")
  require (canTransitionOrder order.currentStatus status) (.badRequest
    ("Invalid order transition: " ++ order.currentStatus.name ++ " -> " ++ status.name))
  (if status = .completed then do
    let _ ← completeOrder e orderId order none ("Staff intervention: " ++ reason)
    pure ()
  else do
    update .order orderId (setCurrentStatus status)
    history orderId order.currentStatus status none (some ("Staff intervention: " ++ reason)))
  findOrThrow .order orderId

/-! ## What the transactions write -/

open Relational.Tx (Writes)

/-- The tables that a cancellation writes, besides those of calling an order off. -/
def reversalTables : List TableName :=
  [.wallet, .walletTransaction, .refund, .payment, .storeWallet, .storeWalletTransaction,
    .cashbackReward]

/-- The tables of the rewards of an order. -/
def rewardTables : List TableName := [.cashbackReward, .rewardAccount, .referral]

/-- The tables that a change of status writes. -/
def statusTables : List TableName := [.order, .orderStatusHistory]

/-- The tables that the hand-over to a rider writes. -/
def pickupTables : List TableName := statusTables ++ [.orderQrCredential, .delivery]

/-- The tables that completing an order writes. -/
def rewardedTables : List TableName := statusTables ++ rewardTables

/-- The tables that the hand-over to a customer writes. -/
def deliveryTables : List TableName := pickupTables ++ rewardTables ++ Settlements.riderTables

/-- The tables that the progress of a delivery writes. -/
def movementTables : List TableName := statusTables ++ [.delivery, .deliveryStatusUpdate]

/-- The tables that claiming a delivery writes. -/
def claimTables : List TableName := statusTables ++ [.delivery, .deliveryOffer] ++ Settlements.riderTables

/-- The tables that moving an order on writes, in one way or another. -/
def progressTables : List TableName :=
  deliveryTables ++ [.deliveryOffer, .deliveryStatusUpdate]

/-- Noting the refund of an order writes refunds, and what pays them back. -/
theorem noteRefund_writes (e : Env) (userId orderId paymentId : ℕ) (order : Order)
    (allocation : Allocation) (isWallet isKlump : Bool) (reason : String) :
    Writes [.refund]
      (noteRefund e userId orderId paymentId order allocation isWallet isKlump reason) := by
  refine .bind (.first _ _) fun existing => ?_
  cases existing with
  | some existing => exact .pure _
  | none => exact .bind (.createUnique (by decide) _ _) fun _ => .pure _

/-- Bringing a payment in line with its refunds writes payments. -/
theorem syncInTransaction_writes (paymentId : ℕ) : Writes [.payment] (syncInTransaction paymentId) :=
  .bind (.findOrThrow _ _) fun _ => .bind (.query _) fun _ => .update (by decide) _ _

/-- Taking back a settlement writes the wallets of stores. -/
theorem reverseSettlement_writes (orderId : ℕ) (order : Order) :
    Writes [.storeWallet, .storeWalletTransaction] (reverseSettlement orderId order) := by
  refine .bind (.first _ _) fun _ => .bind (.first _ _) fun _ => ?_
  split
  · exact .bind (.update (by decide) _ _) fun _ => .bind (.createUnique (by decide) _ _) fun _ =>
      .pure _
  · exact .pure _

/-- Cancelling an order writes what it calls off and takes back. -/
theorem cancel_writes (e : Env) (userId id : ℕ) (reason : String) :
    Writes (Payments.callOffTables ++ reversalTables) (cancel e userId id reason) :=
  .bind (.find _ _) fun _ => .bind (.orThrow _ _) fun _ => .bind (.require _ _) fun _ =>
    .bind ((Payments.callOff_writes _ _ _ _).mono (by decide)) fun _ => .bind (.query _) fun _ =>
    .bind (.orThrow _ _) fun _ => .bind (.query _) fun _ =>
    .bind (.when ((Payments.creditWallet_writes _ _ _).mono (by decide))) fun _ =>
    .bind ((noteRefund_writes _ _ _ _ _ _ _ _ _).mono (by decide)) fun _ =>
    .bind (.when ((syncInTransaction_writes _).mono (by decide))) fun _ =>
    .bind ((reverseSettlement_writes _ _).mono (by decide)) fun _ =>
    .bind (.updateMany (by decide) _ _) fun _ => .pure _

/-- Reading the settings writes nothing. -/
theorem configured_writes (key : String) (default : ℚ) : Writes [] (configured key default) :=
  .bind (.first _ _) fun _ => .ofExcept _

/-- Rewarding an order writes rewards. -/
theorem reward_writes (e : Env) (orderId : ℕ) (order : Order) :
    Writes rewardTables (reward e orderId order) := by
  refine .bind ((configured_writes _ _).mono (by decide)) fun _ => ?_
  refine .bind (.when (.bind (.firstOrCreate (by decide) _ _) fun _ => .pure ())) fun _ => ?_
  refine .bind (.firstOrCreate (by decide) _ _) fun _ => .bind (.update (by decide) _ _) fun _ => ?_
  refine .bind (.first _ _) fun _ => ?_
  split
  · exact .bind ((configured_writes _ _).mono (by decide)) fun _ =>
      .bind (.update (by decide) _ _) fun _ => .pure _
  · exact .pure _

/-- A history entry writes the history of orders. -/
theorem history_writes (orderId : ℕ) (fromStatus toStatus : OrderStatus) (changedById : Option ℕ)
    (reason : Option String) :
    Writes [.orderStatusHistory] (history orderId fromStatus toStatus changedById reason) :=
  .bind (.create (by decide) _) fun _ => .pure ()

/-- Using up a code writes codes. -/
theorem consumeCredential_writes (e : Env) (credentialId riderId : ℕ) :
    Writes [.orderQrCredential] (consumeCredential e credentialId riderId) :=
  .bind (.updateMany (by decide) _ _) fun _ => .require _ _

/-- A change of the delivery of an order writes deliveries. -/
theorem updateDeliveryOf_writes (orderId : ℕ) (f : Delivery → Delivery) :
    Writes [.delivery] (updateDeliveryOf orderId f) :=
  .bind (.first _ _) fun _ => .bind (.orThrow _ _) fun _ => .update (by decide) _ _

/-- Accepting an offer writes offers. -/
theorem acceptOffer_writes (deliveryId riderId : ℕ) (offerId : Option ℕ) :
    Writes [.deliveryOffer] (acceptOffer deliveryId riderId offerId) := by
  unfold acceptOffer
  split
  · exact .update (by decide) _ _
  · exact .bind (.firstOrCreate (by decide) _ _) fun _ => .update (by decide) _ _

/-- Completing an order writes its status and its rewards. -/
theorem completeOrder_writes (e : Env) (orderId : ℕ) (order : Order) (changedById : Option ℕ)
    (reason : String) :
    Writes rewardedTables (completeOrder e orderId order changedById reason) :=
  .bind (.update (by decide) _ _) fun _ =>
    .bind ((history_writes _ _ _ _ _).mono (by decide)) fun _ =>
    (reward_writes _ _ _).mono (by decide)

/-- A status that the store sets writes orders and their history. -/
theorem writeStatus_writes (id : ℕ) (fromStatus status : OrderStatus) (actorId : ℕ)
    (reason : Option String) :
    Writes statusTables (writeStatus id fromStatus status actorId reason) :=
  .bind (.update (by decide) _ _) fun _ => .bind (.findOrThrow _ _) fun _ =>
    .bind ((history_writes _ _ _ _ _).mono (by decide)) fun _ => .pure _

/-- Completing the packing writes orders and their history. -/
theorem writePacked_writes (id : ℕ) (fromStatus : OrderStatus) (actorId : ℕ) :
    Writes statusTables (writePacked id fromStatus actorId) :=
  .bind (.update (by decide) _ _) fun _ => (history_writes _ _ _ _ _).mono (by decide)

/-- Confirming a pickup writes what a pickup changes. -/
theorem writePickup_writes (e : Env) (id : ℕ) (fromStatus : OrderStatus)
    (riderId credentialId : ℕ) :
    Writes pickupTables (writePickup e id fromStatus riderId credentialId) :=
  .bind ((consumeCredential_writes _ _ _).mono (by decide)) fun _ =>
    .bind (.update (by decide) _ _) fun _ =>
    .bind ((updateDeliveryOf_writes _ _).mono (by decide)) fun _ =>
    (history_writes _ _ _ _ _).mono (by decide)

/-- Confirming a delivery writes what a delivery changes. -/
theorem writeDelivery_writes (e : Env) (id : ℕ) (order : Order)
    (riderId credentialId deliveryId : ℕ) :
    Writes deliveryTables (writeDelivery e id order riderId credentialId deliveryId) :=
  .bind ((consumeCredential_writes _ _ _).mono (by decide)) fun _ =>
    .bind (.update (by decide) _ _) fun _ =>
    .bind ((updateDeliveryOf_writes _ _).mono (by decide)) fun _ =>
    .bind ((Settlements.releaseRiderEarning_writes _ _).mono (by decide)) fun _ =>
    .bind ((history_writes _ _ _ _ _).mono (by decide)) fun _ =>
    (completeOrder_writes _ _ _ _ _).mono (by decide)

/-- The report of a rider writes what a delivery changes. -/
theorem writeProgress_writes (e : Env) (deliveryId : ℕ) (status : DeliveryStatus) (orderId : ℕ)
    (orderStatus : OrderStatus) (riderId : ℕ) (location note : Option String) :
    Writes movementTables
      (writeProgress e deliveryId status orderId orderStatus riderId location note) := by
  refine .bind (.update (by decide) _ _) fun _ => .bind (.create (by decide) _) fun _ => ?_
  split
  · exact .when (.bind (.update (by decide) _ _) fun _ =>
      (history_writes _ _ _ _ _).mono (by decide))
  · exact .pure ()

/-- Claiming a delivery writes what a claim changes. -/
theorem claimDelivery_writes (e : Env) (riderId deliveryId : ℕ) (offerId : Option ℕ) :
    Writes claimTables (claimDelivery e riderId deliveryId offerId) :=
  .bind (.ofExcept _) fun _ => .bind (.find _ _) fun _ => .bind (.orThrow _ _) fun _ =>
    .bind (.require _ _) fun _ => .bind (.findOrThrow _ _) fun _ => .bind (.require _ _) fun _ =>
    .bind (.ofExcept _) fun _ => .bind (.updateMany (by decide) _ _) fun _ =>
    .bind (.require _ _) fun _ => .bind (.updateMany (by decide) _ _) fun _ =>
    .bind (.require _ _) fun _ => .bind ((acceptOffer_writes _ _ _).mono (by decide)) fun _ =>
    .bind (.updateMany (by decide) _ _) fun _ =>
    .bind ((history_writes _ _ _ _ _).mono (by decide)) fun _ =>
    .bind ((Settlements.holdRiderEarning_writes _).mono (by decide)) fun _ => .findOrThrow _ _

/-- A status that the staff set writes what a completion changes. -/
theorem intervene_writes (e : Env) (orderId : ℕ) (status : OrderStatus) (reason : String) :
    Writes rewardedTables (intervene e orderId status reason) := by
  refine .bind (.find _ _) fun _ => .bind (.orThrow _ _) fun _ => .bind (.require _ _) fun _ => ?_
  refine .bind (.require _ _) fun _ => .bind ?_ fun _ => .findOrThrow _ _
  split
  · exact .bind (completeOrder_writes _ _ _ _ _) fun _ => .pure ()
  · exact .bind (.update (by decide) _ _) fun _ => (history_writes _ _ _ _ _).mono (by decide)

end Superstore.Orders

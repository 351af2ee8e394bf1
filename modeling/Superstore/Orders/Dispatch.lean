import Superstore.Orders.Moves

/-!
# Orders on their way

An order, its delivery and the history of its statuses, as far as they go together: how the
transactions that read an order before they write it move the three along.
-/

namespace Superstore

open Relational Relational.Tx
open Payments (setCurrentStatus callOff)

/-- The orders, their deliveries and the history of the orders' statuses. -/
structure Dispatch where
  orders : Table Order
  deliveries : Table Delivery
  history : Table OrderStatusHistory

/-- A delivery is put into a status, for the same order and rider. -/
def Delivery.Restates (status : DeliveryStatus) (f : Delivery → Delivery) : Prop :=
  ∀ d, (f d).status = status ∧ (f d).orderId = d.orderId ∧ (f d).riderId = d.riderId

/-- What a database says of orders on their way. -/
def dispatch (db : Database) : Dispatch := ⟨db .order, db .delivery, db .orderStatusHistory⟩

namespace Dispatch

/-- Put an order into a status and note that in its history. -/
def write (s : Dispatch) (h : OrderStatusHistory) : Dispatch :=
  { s with orders := s.orders.update h.orderId (setCurrentStatus h.toStatus), history := s.history.create h }

/-- Cancel the deliveries of an order. -/
def cancelDeliveries (s : Dispatch) (orderId : ℕ) : Dispatch :=
  let cancelled := s.deliveries.updateMany (fun _ d => d.orderId == orderId) fun d =>
    { d with status := .cancelled }
  { s with deliveries := cancelled }

/-- Assign a delivery to a rider. -/
def assign (s : Dispatch) (deliveryId riderId now : ℕ) : Dispatch :=
  let assigned := s.deliveries.update deliveryId fun d =>
    { d with riderId := some riderId, status := .assigned, assignedAt := some now }
  { s with deliveries := assigned }

/-- Rewrite a delivery. -/
def deliver (s : Dispatch) (deliveryId : ℕ) (f : Delivery → Delivery) : Dispatch :=
  { s with deliveries := s.deliveries.update deliveryId f }

/-- One move by a transaction that reads the order; it may be called off in the statuses `calls`, and
staff may put it into the statuses `sets`. -/
inductive Move (calls sets : OrderStatus → Prop) (s : Dispatch) : Dispatch → Prop
  | place (o : Order) (h : OrderStatusHistory) (ho : o.currentStatus = .orderReceived)
      (hcollected : o.fulfillmentType = .pickup) (hid : h.orderId = s.orders.next) (hfrom : h.fromStatus = none)
      (hto : h.toStatus = .orderReceived) : Move calls sets s ⟨s.orders.create o, s.deliveries, s.history.create h⟩
  | placeForDelivery (o : Order) (h : OrderStatusHistory) (d : Delivery) (ho : o.currentStatus = .orderReceived)
      (hid : h.orderId = s.orders.next) (hfrom : h.fromStatus = none) (hto : h.toStatus = .orderReceived)
      (hd : d.orderId = s.orders.next) (hpending : d.status = .pending) (hfree : d.riderId = none) :
      Move calls sets s ⟨s.orders.create o, s.deliveries.create d, s.history.create h⟩
  | advance (o : Order) (h : OrderStatusHistory) (ho : s.orders.find h.orderId = some o)
      (hfrom : h.fromStatus = some o.currentStatus) (hnext : canTransitionOrder o.currentStatus h.toStatus)
      (hto : h.toStatus = .confirmed ∨ h.toStatus ∈ adminInterventionOrderStatuses ∧ sets h.toStatus) :
      Move calls sets s (s.write h)
  | callOff (o : Order) (h : OrderStatusHistory) (ho : s.orders.find h.orderId = some o)
      (hfrom : h.fromStatus = some o.currentStatus) (hcalls : calls o.currentStatus)
      (hto : h.toStatus = .cancelled) : Move calls sets s ((s.write h).cancelDeliveries h.orderId)
  | claim (o : Order) (d : Delivery) (h : OrderStatusHistory) (deliveryId riderId now : ℕ)
      (hd : s.deliveries.find deliveryId = some d) (hfree : d.riderId = none)
      (hwaits : d.status = .pending ∨ d.status = .offered) (hid : h.orderId = d.orderId)
      (ho : s.orders.find h.orderId = some o) (hready : o.currentStatus = .readyForPickup)
      (hfrom : h.fromStatus = some .readyForPickup) (hto : h.toStatus = .riderAssigned) :
      Move calls sets s ((s.write h).assign deliveryId riderId now)

/-- Any number of moves. -/
abbrev Moves (calls sets : OrderStatus → Prop) : Dispatch → Dispatch → Prop :=
  Relation.ReflTransGen (Move calls sets)

end Dispatch

/-- The orders on their way after the orders are set. -/
@[simp] theorem dispatch_set_order (db : Database) (t : Table Order) :
    dispatch (db.set .order t) = { dispatch db with orders := t } := rfl

/-- The tables of orders on their way. -/
def dispatchTables : List TableName := [.order, .delivery, .orderStatusHistory]

/-- Where these tables are the same, the orders are as far as they were. -/
theorem dispatch_congr {db db' : Database} (h : ∀ n ∈ dispatchTables, db' n = db n) :
    dispatch db' = dispatch db := by
  rw [dispatch, dispatch, h .order (by decide), h .delivery (by decide), h .orderStatusHistory (by decide)]

namespace Orders

/-- A transaction that writes none of these tables. -/
theorem dispatch_of_writes {α : Type} {ns : List TableName} {m : Tx α} (h : Writes ns m)
    (hns : ∀ n ∈ dispatchTables, n ∉ ns) (db : Database) : wp db m fun _ db' => dispatch db' = dispatch db :=
  wp_mono (h db) fun _ _ hsame => dispatch_congr fun n hn => hsame n (hns n hn)

/-- A row of the history of an order. -/
def Notes (h : OrderStatusHistory) (orderId : ℕ) (fromStatus toStatus : OrderStatus) : Prop :=
  h.orderId = orderId ∧ h.fromStatus = some fromStatus ∧ h.toStatus = toStatus

/-- A change of status is noted in the history. -/
theorem history_dispatch (orderId : ℕ) (fromStatus toStatus : OrderStatus) (changedById : Option ℕ)
    (reason : Option String) (db : Database) :
    wp db (history orderId fromStatus toStatus changedById reason) fun _ db' => ∃ h : OrderStatusHistory,
      h.orderId = orderId ∧ h.fromStatus = some fromStatus ∧ h.toStatus = toStatus ∧
        dispatch db' = { dispatch db with history := (dispatch db).history.create h } := by
  rw [history, wp_bind, wp_create, wp_pure]
  exact ⟨_, rfl, rfl, rfl, rfl⟩

/-- Calling an order off cancels it and its deliveries. -/
theorem callOff_dispatch (now : ℕ) (order : Order) (h : OrderStatusHistory) (hto : h.toStatus = .cancelled)
    (db : Database) : wp db (callOff now h.orderId order h)
      fun _ db' => dispatch db' = ((dispatch db).write h).cancelDeliveries h.orderId := by
  have hshelf : Writes [.storeProduct] (order.items.forM Payments.restock) :=
    .forM fun item _ => Payments.restock_writes item
  rw [callOff, wp_bind]
  refine wp_mono (dispatch_of_writes hshelf (by decide) db) fun _ db₁ h₁ => ?_
  rw [wp_bind, wp_update]
  intro _ _
  rw [wp_bind, wp_updateMany, wp_bind]
  refine wp_mono (dispatch_of_writes (.updateMany (List.mem_singleton_self TableName.pickup) _ _) (by decide) _)
    fun _ db₂ h₂ => ?_
  rw [wp_bind]
  refine wp_mono (dispatch_of_writes (.updateMany (List.mem_singleton_self TableName.orderQrCredential) _ _)
    (by decide) _) fun _ db₃ h₃ => ?_
  rw [wp_bind, wp_create, wp_pure]
  change { dispatch db₃ with history := (dispatch db₃).history.create h } = _
  rw [h₃, h₂, ← h₁, Dispatch.write, hto]
  rfl

variable {calls sets : OrderStatus → Prop}

/-- Related by moves, as far as orders are on their way. -/
abbrev Moving (calls sets : OrderStatus → Prop) (db db' : Database) : Prop :=
  Dispatch.Moves calls sets (dispatch db) (dispatch db')

/-- Moving orders along is reflexive and transitive. -/
instance : IsPreorder Database (Moving calls sets) where
  refl _ := .refl
  trans _ _ _ := .trans

/-- Where orders are as far as they were, they have been moved by nothing. -/
theorem moving_of_eq {db db' : Database} (h : dispatch db' = dispatch db) : Moving calls sets db db' := by
  rw [Moving, h]

/-- A transaction that writes none of these tables. -/
theorem moving_of_writes {α : Type} {ns : List TableName} {m : Tx α} (h : Writes ns m)
    (hns : ∀ n ∈ dispatchTables, n ∉ ns) : Within (Moving calls sets) m :=
  fun db => wp_mono (dispatch_of_writes h hns db) fun _ _ => moving_of_eq

/-- Placing an order schedules its delivery, if it is to be delivered. -/
theorem placeOrder_moving (e : Env) (userId : ℕ) (q : Quote) (order : QuoteOrder × ℕ) :
    Within (Moving calls sets) (Checkout.placeOrder e userId q order) := by
  have hreserve : Writes [.storeProduct] (order.1.items.forM Checkout.reserve) :=
    .forM fun item _ => Checkout.reserve_writes item
  refine .bind (moving_of_writes hreserve (by decide)) fun _ db => ?_
  change wp db _ fun _ db' => Moving calls sets db db'
  rw [wp_bind, wp_createUnique]
  intro _
  rw [wp_bind, wp_create]
  split
  · next hcollected =>
    rw [wp_bind, wp_create, wp_pure]
    exact .single (.place _ _ rfl hcollected rfl rfl rfl)
  · rw [wp_bind, wp_create, wp_pure]
    exact .single (.placeForDelivery _ _ _ rfl rfl rfl rfl rfl rfl rfl)

/-- Confirming an order is a move, or leaves it as it is. -/
theorem confirmOrder_moving (e : Env) (userId : ℕ) (a : Allocation) :
    Within (Moving calls sets) (Payments.confirmOrder e userId a) := by
  intro db
  rw [Payments.confirmOrder, wp_bind, wp_findOrThrow]
  intro order horder
  refine Within.after ?_ fun _ => .bind (.of_reads (.require _ _)) fun _ => ?_
  · rw [wp_when]
    refine ⟨fun hreceived => ?_, fun _ => refl_of (Moving calls sets) db⟩
    rw [wp_bind, wp_update]
    intro _ _
    rw [wp_bind, wp_create]
    refine wp_mono (dispatch_of_writes (Settlements.settleOrder_writes e _) (by decide) _) fun _ db' h => ?_
    rw [Moving, h]
    refine .single (.advance order { orderId := a.orderId, fromStatus := some .orderReceived, toStatus := .confirmed
                                     reason := some "Payment or approved financing confirmed." } horder ?_ ?_ ?_)
    · rw [hreceived]
    · rw [hreceived]
      rfl
    · exact .inl rfl
  · exact .bind (moving_of_writes (.firstOrCreate (List.mem_singleton_self _) _ _) (by decide)) fun _ => .pure _

/-- A delivery that is claimed was free, and its order ready for it. -/
theorem claimDelivery_dispatch (e : Env) (riderId deliveryId : ℕ) (offerId : Option ℕ) (db : Database) :
    wp db (claimDelivery e riderId deliveryId offerId) fun _ db' => ∃ d o h,
      (db .delivery).find deliveryId = some d ∧ d.riderId = none ∧ (d.status = .pending ∨ d.status = .offered) ∧
        (db .order).find d.orderId = some o ∧ o.currentStatus = .readyForPickup ∧
        Notes h d.orderId .readyForPickup .riderAssigned ∧
        dispatch db' = ((dispatch db).write h).assign deliveryId riderId e.now := by
  rw [claimDelivery, wp_bind, wp_ofExcept]
  intro _ _
  rw [wp_bind, wp_find, wp_bind, wp_orThrow]
  intro current hcurrent
  rw [wp_bind, wp_require]
  rintro ⟨hfree, hwaits⟩
  rw [wp_bind, wp_findOrThrow]
  intro order horder
  rw [wp_bind, wp_require]
  intro hready
  rw [wp_bind, wp_ofExcept]
  intro _ _
  have hassigned (f : Delivery → Delivery) : (db .delivery).updateMany
      (fun i d => i == deliveryId && d.riderId == none && (d.status == .pending || d.status == .offered)) f =
        (db .delivery).update deliveryId f := by
    refine Table.updateMany_eq_update hcurrent ?_ (fun j d _ hj => ?_) f
    · simpa [hfree] using hwaits
    · rw [Bool.and_eq_true, Bool.and_eq_true, beq_iff_eq] at hj
      exact hj.1.1
  have hready' (f : Order → Order) : (db .order).updateMany
      (fun i o => i == current.orderId && o.currentStatus == .readyForPickup) f =
        (db .order).update current.orderId f := by
    refine Table.updateMany_eq_update horder ?_ (fun j o _ hj => ?_) f
    · simp [hready]
    · rw [Bool.and_eq_true, beq_iff_eq] at hj
      exact hj.1
  rw [wp_bind, wp_updateMany, wp_bind, wp_require]
  intro _
  rw [wp_bind, wp_updateMany, wp_bind, wp_require]
  intro _
  rw [Database.set_of_ne _ _ (by decide), hassigned, hready', wp_bind]
  refine wp_mono (dispatch_of_writes (acceptOffer_writes _ _ _) (by decide) _) fun _ db₁ h₁ => ?_
  rw [wp_bind]
  refine wp_mono (dispatch_of_writes (.updateMany (List.mem_singleton_self TableName.deliveryOffer) _ _)
    (by decide) _) fun _ db₂ h₂ => ?_
  rw [wp_bind]
  refine wp_mono (history_dispatch _ _ _ _ _ db₂) fun _ db₃ hstep => ?_
  obtain ⟨h, hid, hfrom, hto, h₃⟩ := hstep
  rw [wp_bind]
  refine wp_mono (dispatch_of_writes (Settlements.holdRiderEarning_writes _) (by decide) _) fun _ db₄ h₄ => ?_
  refine (wp_findOrThrow _ _ _ _).mpr fun _ _ =>
    ⟨current, order, h, hcurrent, hfree, hwaits, horder, hready, ⟨hid, hready ▸ hfrom, hto⟩, ?_⟩
  rw [h₄, h₃, h₂, h₁, Dispatch.assign, Dispatch.write, hid, hto]
  rfl

/-- Claiming a delivery that is free is a move. -/
theorem claimDelivery_moving (e : Env) (riderId deliveryId : ℕ) (offerId : Option ℕ) :
    Within (Moving calls sets) (claimDelivery e riderId deliveryId offerId) := by
  intro db
  refine wp_mono (claimDelivery_dispatch e riderId deliveryId offerId db) ?_
  rintro _ db' ⟨d, o, h, hd, hfree, hwaits, ho, hready, ⟨hid, hfrom, hto⟩, h₁⟩
  rw [Moving, h₁]
  exact .single (.claim o d h deliveryId riderId e.now hd hfree hwaits hid (hid ▸ ho) hready hfrom hto)

/-- Staff move an order along the table. -/
theorem intervene_dispatch (e : Env) (orderId : ℕ) (status : OrderStatus) (reason : String) (db : Database) :
    wp db (intervene e orderId status reason) fun _ db' => ∃ o h, (db .order).find orderId = some o ∧
      status ∈ adminInterventionOrderStatuses ∧ canTransitionOrder o.currentStatus status ∧
      Notes h orderId o.currentStatus status ∧ dispatch db' = (dispatch db).write h := by
  rw [intervene, wp_bind, wp_find, wp_bind, wp_orThrow]
  intro order horder
  rw [wp_bind, wp_require]
  intro hadmin
  rw [wp_bind, wp_require]
  intro hnext
  rw [wp_bind]
  refine wp_mono (Q := fun _ db₁ => ∃ h, Notes h orderId order.currentStatus status ∧
    dispatch db₁ = (dispatch db).write h) ?_ fun _ db₁ hstep => ?_
  swap
  · obtain ⟨h, hnotes, h₁⟩ := hstep
    exact (wp_findOrThrow _ _ _ _).mpr fun _ _ => ⟨order, h, horder, hadmin, hnext, hnotes, h₁⟩
  split
  · next hcompleted =>
    rw [wp_bind, completeOrder, wp_bind, wp_update]
    intro _ _
    rw [wp_bind]
    refine wp_mono (history_dispatch _ _ _ _ _ _) fun _ db₁ hstep => ?_
    obtain ⟨h, hid, hfrom, hto, h₁⟩ := hstep
    refine wp_mono (dispatch_of_writes (reward_writes _ _ _) (by decide) _) fun _ db₂ h₂ => ?_
    refine (wp_pure _ _ _).mpr ⟨h, ⟨hid, hfrom, hto.trans hcompleted.symm⟩, ?_⟩
    rw [h₂, h₁, Dispatch.write, hid, hto]
    rfl
  · rw [wp_bind, wp_update]
    intro _ _
    refine wp_mono (history_dispatch _ _ _ _ _ _) fun _ db₁ hstep => ?_
    obtain ⟨h, hid, hfrom, hto, h₁⟩ := hstep
    refine ⟨h, ⟨hid, hfrom, hto⟩, ?_⟩
    rw [h₁, Dispatch.write, hid, hto]
    rfl

/-- The intervention of staff is a move. -/
theorem intervene_moving (e : Env) (orderId : ℕ) (status : OrderStatus) (reason : String) (hsets : sets status) :
    Within (Moving calls sets) (intervene e orderId status reason) := by
  intro db
  refine wp_mono (intervene_dispatch e orderId status reason db) ?_
  rintro _ db' ⟨o, h, ho, hadmin, hnext, ⟨rfl, hfrom, rfl⟩, h₁⟩
  rw [Moving, h₁]
  exact .single (.advance o h ho hfrom hnext (.inr ⟨hadmin, hsets⟩))

/-- The transactions that read an order before they write it only make moves. -/
theorem respects_moving : Respects calls sets (Moving calls sets) where
  frame _ _ hsame := moving_of_eq (dispatch_congr fun n hn => hsame n (by revert n; decide))
  placeOrder := placeOrder_moving
  confirmOrder := confirmOrder_moving
  callOff {now orderId order history db} horder hcalls hid hfrom hto := by
    subst hid
    refine wp_mono (callOff_dispatch now order history hto db) fun _ db' h => ?_
    rw [Moving, h]
    exact .single (.callOff order history horder hfrom hcalls hto)
  claimDelivery := claimDelivery_moving
  intervene := intervene_moving

/-! ## Statuses that the caller decides on -/

/-- A customer's cancellation calls a paid order off that is not packed yet. -/
theorem cancel_dispatch (e : Env) (userId id : ℕ) (reason : String) (db : Database) :
    wp db (cancel e userId id reason) fun _ db' => ∃ o h, (db .order).find id = some o ∧ o.userId = userId ∧
      (o.currentStatus = .confirmed ∨ o.currentStatus = .preparing) ∧ Notes h id o.currentStatus .cancelled ∧
      dispatch db' = ((dispatch db).write h).cancelDeliveries id := by
  rw [cancel, wp_bind, wp_find, wp_bind, wp_orThrow]
  intro order horder
  obtain ⟨horder, huser⟩ := Option.filter_eq_some_iff.mp horder
  rw [wp_bind, wp_require]
  intro hstatus
  have hrest {α : Type} {ns : List TableName} {m : Tx α} (h : Writes ns m) (hns : ∀ n ∈ dispatchTables, n ∉ ns) :
      Within (fun db db' => dispatch db' = dispatch db) m := fun db => dispatch_of_writes h hns db
  have hpreorder : IsPreorder Database fun db db' => dispatch db' = dispatch db :=
    { refl := fun _ => rfl, trans := fun _ _ _ h h' => h'.trans h }
  rw [wp_bind]
  refine wp_mono (callOff_dispatch e.now order { orderId := id, fromStatus := some order.currentStatus
                                                 toStatus := .cancelled, changedById := some userId
                                                 reason := some reason } rfl db) fun _ db₁ h₁ => ?_
  refine wp_mono (Q := fun _ db' => dispatch db' = dispatch db₁) ?_ fun _ db₂ h₂ =>
    ⟨order, _, horder, beq_iff_eq.mp huser, hstatus, ⟨rfl, rfl, rfl⟩, h₂.trans h₁⟩
  refine Within.bind (R := fun db db' => dispatch db' = dispatch db) (.of_reads (.query _)) (fun _ => ?_) db₁
  refine .bind (.of_reads (.orThrow _ _)) fun _ => .bind (.of_reads (.query _)) fun _ => ?_
  refine .bind (.when (hrest (Payments.creditWallet_writes _ _ _) (by decide))) fun _ => ?_
  refine .bind (hrest (noteRefund_writes _ _ _ _ _ _ _ _ _) (by decide)) fun _ => ?_
  refine .bind (.when (hrest (syncInTransaction_writes _) (by decide))) fun _ => ?_
  refine .bind (hrest (reverseSettlement_writes _ _) (by decide)) fun _ => ?_
  exact .bind (hrest (.updateMany (List.mem_singleton_self TableName.cashbackReward) _ _) (by decide))
    fun _ => .pure _

/-- The delivery of an order is put into a status. -/
def DeliversOf (orderId : ℕ) (status : DeliveryStatus) (db : Database) (deliveryId : ℕ) (f : Delivery → Delivery) :
    Prop := (∃ d, (db .delivery).first (fun _ d => d.orderId == orderId) = some (deliveryId, d)) ∧
  Delivery.Restates status f

/-- The store moves the order to the status that it names. -/
theorem writeStatus_dispatch (id : ℕ) (fromStatus status : OrderStatus) (actorId : ℕ) (reason : Option String)
    (db : Database) : wp db (writeStatus id fromStatus status actorId reason) fun _ db' => ∃ h,
      Notes h id fromStatus status ∧ dispatch db' = (dispatch db).write h := by
  rw [writeStatus, wp_bind, wp_update]
  intro _ _
  rw [wp_bind, wp_findOrThrow]
  intro updated _
  rw [wp_bind]
  refine wp_mono (history_dispatch _ _ _ _ _ _) fun _ db₁ ⟨h, hid, hfrom, hto, h₁⟩ => ?_
  refine (wp_pure _ _ _).mpr ⟨h, ⟨hid, hfrom, hto⟩, ?_⟩
  rw [h₁, Dispatch.write, hid, hto]
  rfl

/-- Completing the packing moves the order up for pickup. -/
theorem writePacked_dispatch (id : ℕ) (fromStatus : OrderStatus) (actorId : ℕ) (db : Database) :
    wp db (writePacked id fromStatus actorId) fun _ db' => ∃ h,
      Notes h id fromStatus .readyForPickup ∧ dispatch db' = (dispatch db).write h := by
  rw [writePacked, wp_bind, wp_update]
  intro _ _
  refine wp_mono (history_dispatch _ _ _ _ _ _) fun _ db₁ ⟨h, hid, hfrom, hto, h₁⟩ => ⟨h, ⟨hid, hfrom, hto⟩, ?_⟩
  rw [h₁, Dispatch.write, hid, hto]
  rfl

/-- Only the first delivery of an order is rewritten. -/
theorem updateDeliveryOf_dispatch (orderId : ℕ) (f : Delivery → Delivery) (db : Database) :
    wp db (updateDeliveryOf orderId f) fun _ db' => ∃ i d,
      (db .delivery).first (fun _ d => d.orderId == orderId) = some (i, d) ∧
        dispatch db' = (dispatch db).deliver i f := by
  rw [updateDeliveryOf, wp_bind, wp_first, wp_bind, wp_orThrow]
  rintro ⟨i, d⟩ hfirst
  rw [wp_update]
  exact fun _ _ => ⟨i, d, hfirst, rfl⟩

/-- Using up a code moves no order. -/
theorem consumeCredential_dispatch (e : Env) (credentialId riderId : ℕ) (db : Database) :
    wp db (consumeCredential e credentialId riderId)
      fun _ db' => usable e.now credentialId db ∧ dispatch db' = dispatch db :=
  wp_mono (wp_and (consumeCredential_usable e credentialId riderId db)
    (dispatch_of_writes (consumeCredential_writes e credentialId riderId) (by decide) db))
    fun _ _ h => ⟨h.1.1, h.2⟩

/-- Confirming a pickup moves the order and its delivery. -/
theorem writePickup_dispatch (e : Env) (id : ℕ) (fromStatus : OrderStatus) (riderId credentialId : ℕ)
    (db : Database) :
    wp db (writePickup e id fromStatus riderId credentialId) fun _ db' => ∃ h i f,
      usable e.now credentialId db ∧ Notes h id fromStatus .pickedUp ∧ DeliversOf id .pickedUp db i f ∧
        dispatch db' = ((dispatch db).write h).deliver i f := by
  rw [writePickup, wp_bind]
  refine wp_mono (consumeCredential_dispatch e _ _ db) fun _ db₁ hstep => ?_
  obtain ⟨husable, h₁⟩ := hstep
  have hdelivery : db₁ .delivery = db .delivery := congrArg Dispatch.deliveries h₁
  rw [wp_bind, wp_update]
  intro _ _
  rw [wp_bind]
  refine wp_mono (updateDeliveryOf_dispatch _ _ _) fun _ db₂ hstep => ?_
  obtain ⟨i, d, hfirst, h₂⟩ := hstep
  rw [Database.set_of_ne _ _ (by decide), hdelivery] at hfirst
  refine wp_mono (history_dispatch _ _ _ _ _ _) fun _ db₃ hstep => ?_
  obtain ⟨h, hid, hfrom, hto, h₃⟩ := hstep
  refine ⟨h, i, fun d => { d with status := .pickedUp, pickedUpAt := some e.now }, husable, ⟨hid, hfrom, hto⟩,
    ⟨⟨d, hfirst⟩, fun _ => ⟨rfl, rfl, rfl⟩⟩, ?_⟩
  rw [h₃, h₂, ← h₁, Dispatch.write, hid, hto]
  rfl

/-- Confirming a delivery moves the order and its delivery to the end. -/
theorem writeDelivery_dispatch (e : Env) (id : ℕ) (order : Order) (riderId credentialId deliveryId : ℕ)
    (db : Database) : wp db (writeDelivery e id order riderId credentialId deliveryId) fun _ db' => ∃ h h' i f,
      usable e.now credentialId db ∧ Notes h id order.currentStatus .delivered ∧ Notes h' id .delivered .completed ∧
        DeliversOf id .delivered db i f ∧ dispatch db' = (((dispatch db).write h).deliver i f).write h' := by
  rw [writeDelivery, wp_bind]
  refine wp_mono (consumeCredential_dispatch e _ _ db) fun _ db₁ hstep => ?_
  obtain ⟨husable, h₁⟩ := hstep
  have hdelivery : db₁ .delivery = db .delivery := congrArg Dispatch.deliveries h₁
  rw [wp_bind, wp_update]
  intro _ _
  rw [wp_bind]
  refine wp_mono (updateDeliveryOf_dispatch _ _ _) fun _ db₂ hstep => ?_
  obtain ⟨i, d, hfirst, h₂⟩ := hstep
  rw [Database.set_of_ne _ _ (by decide), hdelivery] at hfirst
  rw [wp_bind]
  refine wp_mono (dispatch_of_writes (Settlements.releaseRiderEarning_writes _ _) (by decide) _) fun _ db₃ h₃ => ?_
  rw [wp_bind]
  refine wp_mono (history_dispatch _ _ _ _ _ _) fun _ db₄ hstep => ?_
  obtain ⟨h, hid, hfrom, hto, h₄⟩ := hstep
  rw [completeOrder, wp_bind, wp_update]
  intro _ _
  rw [wp_bind]
  refine wp_mono (history_dispatch _ _ _ _ _ _) fun _ db₅ hstep => ?_
  obtain ⟨h', hid', hfrom', hto', h₅⟩ := hstep
  refine wp_mono (dispatch_of_writes (reward_writes _ _ _) (by decide) _) fun _ db₆ h₆ => ?_
  refine ⟨h, h', i, fun d => { d with status := .delivered, deliveredAt := some e.now }, husable,
    ⟨hid, hfrom, hto⟩, ⟨hid', hfrom', hto'⟩, ⟨⟨d, hfirst⟩, fun _ => ⟨rfl, rfl, rfl⟩⟩, ?_⟩
  have horder : db₄ .order = (dispatch db₄).orders := rfl
  rw [h₆, h₅, dispatch_set_order, horder, h₄, h₃, h₂, ← h₁, Dispatch.write, Dispatch.write, hid, hto, hid', hto']
  rfl

/-- The report of a rider moves the delivery, and its order along with it. -/
theorem writeProgress_dispatch (e : Env) (deliveryId : ℕ) (status : DeliveryStatus) (orderId : ℕ)
    (orderStatus : OrderStatus) (riderId : ℕ) (location note : Option String) (db : Database) :
    wp db (writeProgress e deliveryId status orderId orderStatus riderId location note) fun _ db' => ∃ f,
      Delivery.Restates status f ∧
      ((progressTarget status orderId orderStatus = none ∧ dispatch db' = (dispatch db).deliver deliveryId f) ∨
        ∃ h s, progressTarget status orderId orderStatus = some (orderId, s) ∧ Notes h orderId orderStatus s ∧
          dispatch db' = ((dispatch db).deliver deliveryId f).write h) := by
  have hrestates : Delivery.Restates status fun d => { d with
      status := status, arrivedAt := if status = .arrivedAtCustomer then some e.now else d.arrivedAt } :=
    fun _ => ⟨rfl, rfl, rfl⟩
  rw [writeProgress, wp_bind, wp_update]
  intro _ _
  rw [wp_bind, wp_create, progressTarget]
  cases synchronizedOrderStatus status with
  | none => exact (wp_pure _ _ _).mpr ⟨_, hrestates, .inl ⟨rfl, rfl⟩⟩
  | some s =>
    rw [wp_when]
    refine ⟨fun hne => ?_, fun heq => ⟨_, hrestates, .inl ⟨by simp_all, rfl⟩⟩⟩
    rw [wp_bind, wp_update]
    intro _ _
    refine wp_mono (history_dispatch _ _ _ _ _ _) fun _ db₁ hstep => ?_
    obtain ⟨h, hid, hfrom, hto, h₁⟩ := hstep
    refine ⟨_, hrestates, .inr ⟨h, s, by simp [hne], ⟨hid, hfrom, hto⟩, ?_⟩⟩
    rw [h₁, Dispatch.write, hid, hto]
    rfl

end Orders

end Superstore

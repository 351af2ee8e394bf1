import Superstore.Properties.DeliveryStatus
import Superstore.Requests.Acts

/-!
# Orders and deliveries in step

The status of an order and the one of its delivery are two fields, and some requests write only one of
them. Where neither a rider gives a delivery up nor staff put an order that has not been delivered into
a status of its end, a delivery has arrived exactly if its order has, and is cancelled exactly if its order
is, after any number of requests that are run as a whole.
-/

namespace Superstore

open Interleaving Relational Relational.Tx
open Payments (setCurrentStatus)

/-- A delivery has arrived exactly if its order has, and is cancelled exactly if its order is. -/
def DeliveryStatus.InStep (a : DeliveryStatus) (b : OrderStatus) : Prop :=
  (a = .delivered ↔ b = .delivered ∨ b = .completed) ∧ (a = .cancelled ↔ b = .cancelled)

/-- Whether a delivery is in step with its order can be decided. -/
instance (a : DeliveryStatus) (b : OrderStatus) : Decidable (a.InStep b) := inferInstanceAs (Decidable (_ ∧ _))

/-- An order that has neither arrived nor been called off. -/
def OrderStatus.Underway (b : OrderStatus) : Prop := b ≠ .delivered ∧ b ≠ .completed ∧ b ≠ .cancelled

/-- Whether an order is underway can be decided. -/
instance (b : OrderStatus) : Decidable b.Underway := inferInstanceAs (Decidable (_ ∧ _))

namespace DeliveryStatus.InStep

variable {a c : DeliveryStatus} {b b' : OrderStatus}

/-- Neither of the two is over. -/
theorem of_underway (ha : a ≠ .delivered ∧ a ≠ .cancelled) (hb : b.Underway) : a.InStep b :=
  ⟨iff_of_false ha.1 (not_or_intro hb.1 hb.2.1), iff_of_false ha.2 hb.2.2⟩

/-- A delivery that may still be told a status belongs to an order that is under way. -/
theorem underway (h : a.InStep b) (hc : c ∈ allowedTransitions a) : b.Underway := by
  revert h hc
  cases a <;> cases b <;> cases c <;> decide

/-- An order that is under way stays so, whatever its delivery is like. -/
theorem stays (h : a.InStep b) (hb : b.Underway) (hb' : b'.Underway) : a.InStep b' := by
  refine of_underway ⟨fun ha => ?_, fun ha => hb.2.2 (h.2.mp ha)⟩ hb'
  rcases h.1.mp ha with hdelivered | hcompleted
  · exact hb.1 hdelivered
  · exact hb.2.1 hcompleted

/-- A status that the table lists after another one, of an order that stays under way. -/
theorem next (h : a.InStep b) (hnext : canTransitionOrder b b') (hb' : b'.Underway) : a.InStep b' := by
  revert h hnext hb'
  cases a <;> cases b <;> cases b' <;> decide

end DeliveryStatus.InStep

/-- A status that a store or its packing puts an order into does not end it. -/
theorem underway_of_managed {s : OrderStatus} (h : s ∈ storeManagedOrderStatuses) : s.Underway := by
  revert h
  cases s <;> decide

/-- Staff leave an order under way, or say that it has arrived. -/
theorem underway_of_admin {s : OrderStatus} (h : s ∈ adminInterventionOrderStatuses) :
    s.Underway ∨ s = .delivered ∨ s = .completed := by
  revert h
  cases s <;> decide

namespace Dispatch

/-- Every order that is to be delivered has one delivery, and the two are in step. -/
structure InStep (s : Dispatch) : Prop where
  found : ∀ i d, s.deliveries.find i = some d → ∃ o, s.orders.find d.orderId = some o
  scheduled : ∀ id o, s.orders.find id = some o → o.fulfillmentType = .delivery →
    ∃ i d, s.deliveries.find i = some d ∧ d.orderId = id
  unique : ∀ i j d d', s.deliveries.find i = some d → s.deliveries.find j = some d' → d.orderId = d'.orderId → i = j
  statuses : ∀ i d o, s.deliveries.find i = some d → s.orders.find d.orderId = some o →
    d.status.InStep o.currentStatus

variable {s : Dispatch}

/-- Orders and deliveries that are rewritten, each row on its own, are in step if the rows are. -/
theorem InStep.rewrite (hs : s.InStep) {s' : Dispatch} {p : ℕ → Order → Bool} {g : Order → Order}
    {q : ℕ → Delivery → Bool} {f : Delivery → Delivery} (horders : s'.orders = s.orders.updateMany p g)
    (hdeliveries : s'.deliveries = s.deliveries.updateMany q f)
    (hg : ∀ o, (g o).fulfillmentType = o.fulfillmentType) (hf : ∀ d, (f d).orderId = d.orderId)
    (hstep : ∀ i d o, s.deliveries.find i = some d → s.orders.find d.orderId = some o →
      d.status.InStep o.currentStatus →
      (if q i d then f d else d).status.InStep (if p d.orderId o then g o else o).currentStatus) : s'.InStep := by
  have hid (i : ℕ) (d : Delivery) : (if q i d then f d else d).orderId = d.orderId := by
    split
    · exact hf d
    · rfl
  have hrow {i : ℕ} {d' : Delivery} (hd' : s'.deliveries.find i = some d') :
      ∃ d, s.deliveries.find i = some d ∧ (if q i d then f d else d) = d' := by
    rw [hdeliveries, Table.find_updateMany] at hd'
    exact Option.map_eq_some_iff.mp hd'
  have horder {id : ℕ} {o' : Order} (ho' : s'.orders.find id = some o') :
      ∃ o, s.orders.find id = some o ∧ (if p id o then g o else o) = o' := by
    rw [horders, Table.find_updateMany] at ho'
    exact Option.map_eq_some_iff.mp ho'
  constructor
  · intro i d' hd'
    obtain ⟨d, hd, rfl⟩ := hrow hd'
    obtain ⟨o, ho⟩ := hs.found i d hd
    rw [hid, horders, Table.find_updateMany, ho]
    exact ⟨_, rfl⟩
  · intro id o' ho' hdelivery
    obtain ⟨o, ho, rfl⟩ := horder ho'
    have htype : (if p id o then g o else o).fulfillmentType = o.fulfillmentType := by
      split
      · exact hg o
      · rfl
    obtain ⟨i, d, hd, heq⟩ := hs.scheduled id o ho (htype ▸ hdelivery)
    refine ⟨i, if q i d then f d else d, ?_, (hid i d).trans heq⟩
    rw [hdeliveries, Table.find_updateMany, hd]
    rfl
  · intro i j d₁ d₂ h₁ h₂ heq
    obtain ⟨d, hd, rfl⟩ := hrow h₁
    obtain ⟨d', hd', rfl⟩ := hrow h₂
    rw [hid, hid] at heq
    exact hs.unique i j d d' hd hd' heq
  · intro i d' o' hd' ho'
    obtain ⟨d, hd, rfl⟩ := hrow hd'
    rw [hid] at ho'
    obtain ⟨o, ho, rfl⟩ := horder ho'
    exact hstep i d o hd ho (hs.statuses i d o hd ho)

/-- An order changes its status while its delivery keeps the one it has. -/
theorem InStep.write (hs : s.InStep) {h : OrderStatusHistory} {o : Order} (ho : s.orders.find h.orderId = some o)
    (hstep : ∀ i d, s.deliveries.find i = some d → d.orderId = h.orderId → d.status.InStep o.currentStatus →
      d.status.InStep h.toStatus) : (s.write h).InStep := by
  refine hs.rewrite (p := fun i _ => i == h.orderId) (g := setCurrentStatus h.toStatus) (q := fun _ _ => false)
    (f := id) rfl ?_ (fun _ => rfl) (fun _ => rfl) fun i d o' hd ho' hin => ?_
  · exact (Table.updateMany_false _ _).symm
  · by_cases hid : d.orderId = h.orderId
    · rw [hid] at ho'
      obtain rfl := Option.some.inj (ho.symm.trans ho')
      simpa [hid, setCurrentStatus] using hstep i d hd hid hin
    · simpa [hid] using hin

/-- A delivery changes its status while its order keeps the one it has. -/
theorem InStep.deliver (hs : s.InStep) {i : ℕ} {status : DeliveryStatus} {f : Delivery → Delivery}
    (hf : Delivery.Restates status f)
    (hstep : ∀ d o, s.deliveries.find i = some d → s.orders.find d.orderId = some o →
      d.status.InStep o.currentStatus → status.InStep o.currentStatus) : (s.deliver i f).InStep := by
  refine hs.rewrite (p := fun _ _ => false) (g := id) (q := fun j _ => j == i) (f := f) ?_ rfl (fun _ => rfl)
    (fun d => (hf d).2.1) fun j d o hd ho hin => ?_
  · exact (Table.updateMany_false _ _).symm
  · by_cases hj : j = i
    · subst hj
      simpa [(hf d).1] using hstep d o hd ho hin
    · simpa [hj] using hin

/-- An order and its delivery change their statuses together. -/
theorem InStep.pair (hs : s.InStep) {id i : ℕ} {d : Delivery} {status : DeliveryStatus} {b : OrderStatus}
    {f : Delivery → Delivery} (hd : s.deliveries.find i = some d) (hid : d.orderId = id)
    (hf : ∀ d, (f d).status = status ∧ (f d).orderId = d.orderId) (hin : status.InStep b) {s' : Dispatch}
    (horders : s'.orders = s.orders.update id (setCurrentStatus b))
    (hdeliveries : s'.deliveries = s.deliveries.update i f) : s'.InStep := by
  refine hs.rewrite horders hdeliveries (fun _ => by rfl) (fun d => (hf d).2) fun j d' o hd' ho hin' => ?_
  by_cases hj : j = i
  · subst hj
    obtain rfl := Option.some.inj (hd.symm.trans hd')
    simpa [hid, (hf d).1, setCurrentStatus] using hin
  · have hne : d'.orderId ≠ id := fun heq => hj (hs.unique j i d' d hd' hd (heq.trans hid.symm))
    simpa [hj, hne] using hin'

/-- A new order that nobody delivers. -/
theorem InStep.place (hs : s.InStep) {o : Order} (hcollected : o.fulfillmentType ≠ .delivery)
    {history : Table OrderStatusHistory} : InStep ⟨s.orders.create o, s.deliveries, history⟩ where
  found i d hd := by
    obtain ⟨o', ho'⟩ := hs.found i d hd
    exact ⟨o', Table.find_create_of_find o ho'⟩
  scheduled id o' ho' hdelivery := by
    rw [Table.find_create] at ho'
    split at ho'
    · obtain rfl := Option.some.inj ho'
      exact absurd hdelivery hcollected
    · exact hs.scheduled id o' ho' hdelivery
  unique := hs.unique
  statuses i d o' hd ho' := by
    obtain ⟨o'', ho''⟩ := hs.found i d hd
    obtain rfl := Option.some.inj ((Table.find_create_of_find o ho'').symm.trans ho')
    exact hs.statuses i d o'' hd ho''

/-- A new order together with its delivery. -/
theorem InStep.placeForDelivery (hs : s.InStep) {o : Order} {d : Delivery} (hd : d.orderId = s.orders.next)
    (hin : d.status.InStep o.currentStatus) {history : Table OrderStatusHistory} :
    InStep ⟨s.orders.create o, s.deliveries.create d, history⟩ := by
  have hplaced {i : ℕ} {d' : Delivery} (hd' : (s.deliveries.create d).find i = some d') :
      (i = s.deliveries.next ∧ d' = d) ∨ s.deliveries.find i = some d' ∧ d'.orderId ≠ s.orders.next := by
    rw [Table.find_create] at hd'
    split at hd'
    · next heq => exact .inl ⟨heq, (Option.some.inj hd').symm⟩
    · obtain ⟨o', ho'⟩ := hs.found i d' hd'
      exact .inr ⟨hd', (Table.lt_next ho').ne⟩
  constructor
  · intro i d' hd'
    rcases hplaced hd' with ⟨-, rfl⟩ | ⟨hold, -⟩
    · exact ⟨o, hd ▸ Table.find_create_self _ o⟩
    · obtain ⟨o', ho'⟩ := hs.found i d' hold
      exact ⟨o', Table.find_create_of_find o ho'⟩
  · intro id o' ho' hdelivery
    rw [Table.find_create] at ho'
    split at ho'
    · next heq => exact ⟨s.deliveries.next, d, Table.find_create_self _ d, hd.trans heq.symm⟩
    · obtain ⟨i, d', hd', hid⟩ := hs.scheduled id o' ho' hdelivery
      exact ⟨i, d', Table.find_create_of_find d hd', hid⟩
  · intro i j d₁ d₂ h₁ h₂ heq
    rcases hplaced h₁ with ⟨rfl, rfl⟩ | ⟨hold, hne⟩ <;> rcases hplaced h₂ with ⟨rfl, rfl⟩ | ⟨hold', hne'⟩
    · rfl
    · exact absurd (heq.symm.trans hd) hne'
    · exact absurd (heq.trans hd) hne
    · exact hs.unique i j d₁ d₂ hold hold' heq
  · intro i d' o' hd' ho'
    rcases hplaced hd' with ⟨-, rfl⟩ | ⟨hold, hne⟩
    · rw [hd, Table.find_create_self] at ho'
      exact Option.some.inj ho' ▸ hin
    · rw [Table.find_create, if_neg hne] at ho'
      exact hs.statuses i d' o' hold ho'

/-- A move keeps orders and deliveries in step. -/
theorem InStep.move {s' : Dispatch} (hs : s.InStep) (h : Move OrderStatus.Open (fun _ => False) s s') :
    s'.InStep := by
  cases h with
  | place o h ho hcollected hid hfrom hto => exact hs.place (by rw [hcollected]; exact FulfillmentType.noConfusion)
  | placeForDelivery o h d ho hid hfrom hto hd hpending hfree =>
    exact hs.placeForDelivery hd (by rw [hpending, ho]; decide)
  | advance o h ho hfrom hnext hto =>
    refine hs.write ho fun i d hd hid hin => hin.next hnext ?_
    rcases hto with hto | hto
    · rw [hto]
      decide
    · exact hto.2.elim
  | callOff o h ho hfrom hcalls hto =>
    refine hs.rewrite (p := fun i _ => i == h.orderId) (g := setCurrentStatus h.toStatus)
      (q := fun _ d => d.orderId == h.orderId) (f := fun d => { d with status := .cancelled })
      rfl rfl (fun _ => rfl) (fun _ => rfl) fun i d o' hd ho' hin => ?_
    by_cases hid : d.orderId = h.orderId
    · simp [hid, hto, setCurrentStatus, DeliveryStatus.InStep]
    · simpa [hid] using hin
  | claim o d h deliveryId riderId now hd hfree hwaits hid ho hready hfrom hto =>
    have hassigned : DeliveryStatus.assigned.InStep h.toStatus := by
      rw [hto]
      decide
    exact hs.pair hd hid.symm (f := fun d => { d with
      riderId := some riderId, status := .assigned, assignedAt := some now })
        (fun _ => ⟨rfl, rfl⟩) hassigned rfl rfl

/-- Any number of moves. -/
theorem InStep.moves {s' : Dispatch} (hs : s.InStep) (h : Moves OrderStatus.Open (fun _ => False) s s') :
    s'.InStep := by
  induction h with
  | refl => exact hs
  | tail _ hmove ih => exact ih.move hmove

end Dispatch

/-! ## Whole requests -/

/-- A request is neither a rider's report that gives a delivery up, nor one of staff that an order has
arrived whose delivery has not. -/
structure KeepsStep (p : Request Unit) (w : World) : Prop where
  kept : ∀ riderId i location note d, p = Orders.updateStatus riderId i .cancelled location note →
    (w.db .delivery).find i = some d → d.riderId = some riderId → .cancelled ∉ allowedTransitions d.status
  arrived : ∀ id status reason o i d, p = Orders.updateOrderStatus id status reason →
    status = .delivered ∨ status = .completed → (w.db .order).find id = some o →
    canTransitionOrder o.currentStatus status → (w.db .delivery).find i = some d → d.orderId = id →
    d.status = .delivered

/-- Such a request keeps orders and deliveries in step. -/
theorem Dispatch.InStep.act {p : Request Unit} {w : World} {s' : Dispatch} (hs : (dispatch w.db).InStep)
    (hkeeps : KeepsStep p w) (h : (dispatch w.db).Act p s') : s'.InStep := by
  cases h with
  | moves h => exact hs.moves h
  | setStatus actorId reason o h ho hfrom hmanaged hnext =>
    exact hs.write ho fun _ _ _ _ hin => hin.next hnext (underway_of_managed hmanaged)
  | completePacking actorId storeId o h ho hfrom hpaid hto =>
    refine hs.write ho fun _ _ _ _ hin => hin.stays ?_ (by rw [hto]; decide)
    rcases hpaid with hpaid | hpaid <;> rw [hpaid] <;> decide
  | confirmPickup riderId token o d h i f ho hfrom hready hto hfirst hf =>
    obtain ⟨hd, hid⟩ := Table.find_of_first hfirst
    refine hs.pair hd (beq_iff_eq.mp hid) (fun d => ⟨(hf d).1, (hf d).2.1⟩) (b := h.toStatus) ?_ rfl rfl
    rw [hto]
    decide
  | confirmDelivery riderId token o d h h' i f ho hfrom hout hto hfirst hf hid' hfrom' hto' =>
    obtain ⟨hd, hid⟩ := Table.find_of_first hfirst
    refine hs.pair hd (beq_iff_eq.mp hid) (fun d => ⟨(hf d).1, (hf d).2.1⟩) (b := h'.toStatus) ?_ ?_ rfl
    · rw [hto']
      decide
    · change ((dispatch w.db).orders.update _ _).update _ _ = _
      rw [hid', Table.update_update]
      rfl
  | updateStatus riderId status location note o d i f hd hrider hlisted hpicked hdelivered ho hf =>
    refine hs.deliver hf fun d' o' hd' ho' hin => ?_
    obtain rfl := Option.some.inj (hd.symm.trans hd')
    refine .of_underway ⟨hdelivered, ?_⟩ (hin.underway hlisted)
    rintro rfl
    exact hkeeps.kept riderId i location note d rfl hd hrider hlisted
  | moveOut riderId status location note o d h i f hd hrider hlisted hpicked hdelivered hopen hid ho hfrom
      hnext hto hf =>
    refine hs.pair hd hid.symm (fun d => ⟨(hf d).1, (hf d).2.1⟩) (b := h.toStatus) ?_ rfl rfl
    rw [hto]
    exact .of_underway ⟨hdelivered, hopen⟩ (by decide)
  | updateOrderStatus reason o h ho hfrom hadmin hnext =>
    refine hs.write ho fun i d hd hid hin => ?_
    rcases underway_of_admin hadmin with hunderway | harrived
    · exact hin.next hnext hunderway
    · have hdelivered := hkeeps.arrived h.orderId h.toStatus reason o i d rfl harrived ho hnext hd hid
      rw [hdelivered]
      rcases harrived with hto | hto <;> rw [hto] <;> decide

/-- A delivery that nobody has, of an order that is ready. -/
def Delivery.Claimable (d : Delivery) (o : Order) : Prop :=
  d.riderId = none ∧ (d.status = .pending ∨ d.status = .offered) ∧ o.currentStatus = .readyForPickup

/-- After any number of requests that are run as a whole, none of which gives a delivery up or ends an order
that has not been delivered: an order that is to be delivered has one delivery, which has arrived exactly
if the order has, is cancelled with it, and does not leave it behind by being cancelled alone. -/
theorem delivery_in_step {w w' : World} (hw : (dispatch w.db).InStep) (hrun : dispatching.Serial KeepsStep w w') :
    ∀ id o, (w'.db .order).find id = some o → o.fulfillmentType = .delivery →
      ∃ i d, (∀ j d', (w'.db .delivery).find j = some d' ∧ d'.orderId = id ↔ j = i ∧ d' = d) ∧
        (d.status = .delivered ↔ o.currentStatus = .delivered ∨ o.currentStatus = .completed) ∧
        (o.currentStatus = .cancelled → d.status = .cancelled) ∧
        (d.status = .cancelled → o.currentStatus = .cancelled ∨ d.Claimable o) := by
  have hs : (dispatch w'.db).InStep := by
    refine hrun.keeps (fun w => (dispatch w.db).InStep) hw fun s s' hin hturn => ?_
    cases hturn with
    | request hp ha h => exact hin.act ha (hp.acts h)
    | background h =>
      have hsame : dispatch s'.db = { dispatch s.db with history := s'.db .orderStatusHistory } := by
        rw [dispatch, h.owned .order (by decide), h.deliveries]
        rfl
      rw [hsame]
      exact ⟨hin.found, hin.scheduled, hin.unique, hin.statuses⟩
  intro id o ho hdelivery
  obtain ⟨i, d, hd, rfl⟩ := hs.scheduled id o ho hdelivery
  obtain ⟨hdelivered, hcancelled⟩ := hs.statuses i d o hd ho
  refine ⟨i, d, fun j d' => ⟨fun hfound => ?_, ?_⟩, hdelivered, hcancelled.mpr, fun h => .inl (hcancelled.mp h)⟩
  · obtain ⟨hd', hid⟩ := hfound
    obtain rfl := hs.unique j i d' d hd' hd hid
    exact ⟨rfl, Option.some.inj (hd'.symm.trans hd)⟩
  · rintro ⟨rfl, rfl⟩
    exact ⟨hd, rfl⟩

/-! ## A cancelled delivery of an order that is under way -/

/-- One order and its delivery are in step if their statuses are. -/
theorem inStep_single {db : Database} {o : Order} {d : Delivery} (horder : db .order = Table.empty.create o)
    (hdelivery : db .delivery = Table.empty.create d) (hd : d.orderId = 1) (h : d.status.InStep o.currentStatus) :
    (dispatch db).InStep := by
  have hempty : Dispatch.InStep ⟨Table.empty, Table.empty, Table.empty⟩ :=
    { found := fun _ _ hd => by simp at hd
      scheduled := fun _ _ ho => by simp at ho
      unique := fun _ _ _ _ hd => by simp at hd
      statuses := fun _ _ _ hd => by simp at hd }
  rw [dispatch, horder, hdelivery]
  exact hempty.placeForDelivery hd h

/-- The rider of the order has given its delivery up. -/
def givenUp : World :=
  ((Orders.updateStatus 3 1 .cancelled none none).runAlone machine { now := 1 } assignedDelivery).2

/-- A rider's report can leave an order assigned to a delivery that is cancelled. -/
theorem delivery_can_be_out_of_step :
    ¬∀ w w' : World, (dispatch w.db).InStep → dispatching.Serial (fun _ _ => True) w w' →
      ∀ id o i d, (w'.db .order).find id = some o → (w'.db .delivery).find i = some d → d.orderId = id →
        d.status = .cancelled → o.currentStatus = .cancelled ∨ d.Claimable o := by
  intro h
  have hrun : dispatching.Serial (fun _ _ => True) assignedDelivery givenUp :=
    dispatching.serial_runAlone { now := 1 } (.status (.updateStatus 3 1 .cancelled none none)) trivial
  have horder : ((givenUp.db .order).find 1).map (·.currentStatus) = some .riderAssigned := by decide +kernel
  have hdelivery : ((givenUp.db .delivery).find 1).map (fun d => (d.orderId, d.status)) = some (1, .cancelled) := by
    decide +kernel
  obtain ⟨o, ho, hassigned⟩ := Option.map_eq_some_iff.mp horder
  obtain ⟨d, hd, heq⟩ := Option.map_eq_some_iff.mp hdelivery
  obtain ⟨hid, hcancelled⟩ := Prod.mk.inj heq
  rcases h _ _ (inStep_single rfl rfl rfl (by decide)) hrun 1 o 1 d ho hd hid hcancelled with hover | hclaimable
  · exact absurd (hassigned.symm.trans hover) (by decide)
  · exact absurd (hassigned.symm.trans hclaimable.2.2) (by decide)

/-- An order that waits for a rider. -/
def waitingDelivery : World where
  db := (Database.empty.set .order (Table.empty.create
      { orderNumber := "A-1", userId := 1, storeId := 1, fulfillmentType := .delivery
        currentStatus := .readyForPickup, subtotal := 100, total := 100
        items := [⟨0, 1, 1, none, 2, 50, 100⟩] })).set .delivery (Table.empty.create { orderId := 1 })

/-- A rider has claimed the delivery. -/
def claimedDelivery : World := ((Orders.claim 3 1 none).runAlone machine { now := 1 } waitingDelivery).2

/-- Its delivery is found, and not cancelled. -/
theorem delivery_in_step_claimed :
    ∃ o d, (claimedDelivery.db .order).find 1 = some o ∧ (claimedDelivery.db .delivery).find 1 = some d ∧
      (d.status = .delivered ↔ o.currentStatus = .delivered ∨ o.currentStatus = .completed) ∧
      (d.status = .cancelled → o.currentStatus = .cancelled ∨ d.Claimable o) := by
  have hkeeps : KeepsStep (Orders.claim 3 1 none) waitingDelivery := by
    constructor
    · intro riderId i location note d _ hd hrider
      obtain ⟨-, rfl⟩ := Table.eq_of_find_single hd
      cases hrider
    · intro id status reason o i d _ hstatus ho hnext
      obtain ⟨-, rfl⟩ := Table.eq_of_find_single ho
      rcases hstatus with rfl | rfl <;> exact absurd hnext (by decide)
  have hrun : dispatching.Serial KeepsStep waitingDelivery claimedDelivery :=
    dispatching.serial_runAlone { now := 1 } (.status (.claim 3 1)) hkeeps
  have horder : ((claimedDelivery.db .order).find 1).map (·.fulfillmentType) = some .delivery := by decide +kernel
  have hdelivery : ((claimedDelivery.db .delivery).find 1).map (·.orderId) = some 1 := by decide +kernel
  obtain ⟨o, ho, htype⟩ := Option.map_eq_some_iff.mp horder
  obtain ⟨d₁, hd₁, hid⟩ := Option.map_eq_some_iff.mp hdelivery
  obtain ⟨i, d, honly, hdelivered, -, hcancelled⟩ :=
    delivery_in_step (inStep_single rfl rfl rfl (by decide)) hrun 1 o ho htype
  obtain ⟨rfl, rfl⟩ := (honly 1 d₁).mp ⟨hd₁, hid⟩
  exact ⟨o, d₁, ho, hd₁, hdelivered, hcancelled⟩

end Superstore

import Mathlib.Data.List.Chain
import Superstore.Requests.Acts

/-!
# The history of an order

Whoever writes the status of an order notes the change. Requests that are run as a whole note the status
that they have found, so that the notes of an order lead from its first status to its current one, along
the table or past the preparation that packing may skip.
-/

namespace Superstore

open Interleaving Relational

/-- The notes on an order, the earliest first. -/
def Dispatch.notes (s : Dispatch) (orderId : ℕ) : List OrderStatusHistory :=
  (s.history.many fun _ h => h.orderId == orderId).map (·.2)

/-- Each note starts from the status that the one before it ends in, the last one ends in `status`, and the
changes are listed. -/
structure Leads (listed : OrderStatus → OrderStatus → Prop) (notes : List OrderStatusHistory)
    (status : OrderStatus) :
    Prop where
  linked : notes.IsChain fun h h' => h'.fromStatus = some h.toStatus
  last : notes.getLast?.map (·.toStatus) = some status
  changes : ∀ h ∈ notes, ∀ a, h.fromStatus = some a → listed a h.toStatus

/-- A status and one that may follow it, by the table or by packing an order that nobody has begun to prepare. -/
def OrderStatus.Next (a b : OrderStatus) : Prop := canTransitionOrder a b ∨ a = .confirmed ∧ b = .readyForPickup

/-- Whether a status comes next can be decided. -/
instance (a b : OrderStatus) : Decidable (a.Next b) := inferInstanceAs (Decidable (_ ∨ _))

section Leads

variable {listed : OrderStatus → OrderStatus → Prop} {notes : List OrderStatusHistory} {status : OrderStatus}

/-- The first note of an order. -/
theorem Leads.single {h : OrderStatusHistory} (hfrom : h.fromStatus = none) : Leads listed [h] h.toStatus where
  linked := List.isChain_singleton h
  last := rfl
  changes h' hmem a ha := by
    rw [List.mem_singleton.mp hmem, hfrom] at ha
    cases ha

/-- One more note that starts from the current status. -/
theorem Leads.concat (hn : Leads listed notes status) {h : OrderStatusHistory} (hfrom : h.fromStatus = some status)
    (hlisted : listed status h.toStatus) : Leads listed (notes ++ [h]) h.toStatus where
  linked := by
    refine hn.linked.append (List.isChain_singleton h) fun h₁ hlast h₂ hmem => ?_
    obtain ⟨h₁', hlast', hto⟩ := Option.map_eq_some_iff.mp hn.last
    obtain rfl := Option.some.inj (hlast'.symm.trans hlast)
    obtain rfl : h = h₂ := by simpa using hmem
    rw [hfrom, hto]
  last := by simp
  changes h' hmem a ha := by
    rcases List.mem_append.mp hmem with hold | hnew
    · exact hn.changes h' hold a ha
    · obtain rfl := List.mem_singleton.mp hnew
      obtain rfl := Option.some.inj (hfrom.symm.trans ha)
      exact hlisted

end Leads

namespace Dispatch

/-- Every note is about an order, and the notes of each order lead to its current status. -/
structure Noted (listed : OrderStatus → OrderStatus → Prop) (s : Dispatch) : Prop where
  found : ∀ i h, s.history.find i = some h → ∃ o, s.orders.find h.orderId = some o
  leads : ∀ id o, s.orders.find id = some o → Leads listed (s.notes id) o.currentStatus

variable {s : Dispatch} {listed : OrderStatus → OrderStatus → Prop}

/-- The notes after one more is made. -/
theorem notes_create {s' : Dispatch} {h : OrderStatusHistory}
    (hhistory : s'.history = s.history.create h) (id : ℕ) :
    s'.notes id = s.notes id ++ if h.orderId = id then [h] else [] := by
  rw [Dispatch.notes, hhistory, Table.many_create, List.map_append, Dispatch.notes]
  by_cases hid : h.orderId = id <;> simp [hid]

/-- An order that is put into a status that may follow its own, with a note of that. -/
theorem Noted.write (hs : s.Noted listed) {h : OrderStatusHistory} {o : Order}
    (ho : s.orders.find h.orderId = some o)
    (hfrom : h.fromStatus = some o.currentStatus) (hnext : listed o.currentStatus h.toStatus) :
    (s.write h).Noted listed := by
  constructor
  · intro i h' hh'
    change (s.history.create h).find i = some h' at hh'
    change ∃ o, (s.orders.update _ _).find _ = some o
    have hold : ∃ o', s.orders.find h'.orderId = some o' := by
      rw [Table.find_create] at hh'
      split at hh'
      · obtain rfl := Option.some.inj hh'
        exact ⟨o, ho⟩
      · exact hs.found i h' hh'
    obtain ⟨o', ho'⟩ := hold
    exact ⟨_, (Table.find_updateMany _ _ _ _).trans (congrArg _ ho')⟩
  · intro id o' ho'
    rw [notes_create (s := s) rfl]
    change (s.orders.update _ _).find id = some o' at ho'
    by_cases hid : h.orderId = id
    · subst hid
      rw [Table.find_update_self, ho] at ho'
      obtain rfl := Option.some.inj ho'
      rw [if_pos rfl]
      exact (hs.leads _ o ho).concat hfrom hnext
    · rw [Table.find_update_of_ne _ _ (Ne.symm hid)] at ho'
      rw [if_neg hid, List.append_nil]
      exact hs.leads id o' ho'

/-- A new order with its first note. -/
theorem Noted.place (hs : s.Noted listed) {o : Order} {h : OrderStatusHistory} (hid : h.orderId = s.orders.next)
    (hfrom : h.fromStatus = none) (hto : h.toStatus = o.currentStatus) {deliveries : Table Delivery} :
    Noted listed ⟨s.orders.create o, deliveries, s.history.create h⟩ := by
  have hnone : s.notes s.orders.next = [] := by
    refine List.map_eq_nil_iff.mpr (List.eq_nil_iff_forall_not_mem.mpr fun r hr => ?_)
    obtain ⟨hfind, hr⟩ := Table.mem_many.mp hr
    obtain ⟨o', ho'⟩ := hs.found r.1 r.2 hfind
    exact (Table.lt_next ho').ne (beq_iff_eq.mp hr)
  constructor
  · intro i h' hh'
    rw [Table.find_create] at hh'
    split at hh'
    · obtain rfl := Option.some.inj hh'
      exact ⟨o, hid ▸ Table.find_create_self _ o⟩
    · obtain ⟨o', ho'⟩ := hs.found i h' hh'
      exact ⟨o', Table.find_create_of_find o ho'⟩
  · intro id o' ho'
    rw [notes_create (s := s) rfl, hid]
    rw [Table.find_create] at ho'
    split at ho'
    · next heq =>
      obtain rfl := Option.some.inj ho'
      rw [if_pos heq.symm, heq, hnone, List.nil_append, ← hto]
      exact .single hfrom
    · next hne =>
      rw [if_neg (Ne.symm hne), List.append_nil]
      exact hs.leads id o' ho'

/-- Deliveries are not noted. -/
theorem Noted.deliveries (hs : s.Noted listed) {s' : Dispatch} (horders : s'.orders = s.orders)
    (hhistory : s'.history = s.history) : s'.Noted listed := by
  obtain ⟨hfound, hleads⟩ := hs
  constructor
  · rw [horders, hhistory]
    exact hfound
  · intro id o ho
    rw [Dispatch.notes, hhistory]
    exact hleads id o (horders ▸ ho)

/-- A move is noted. -/
theorem Noted.move {s' : Dispatch} (hs : s.Noted OrderStatus.Next)
    (h : Move OrderStatus.Open (fun _ => False) s s') : s'.Noted OrderStatus.Next := by
  cases h with
  | place o h ho hcollected hid hfrom hto => exact hs.place hid hfrom (hto.trans ho.symm)
  | placeForDelivery o h d ho hid hfrom hto hd hpending hfree => exact hs.place hid hfrom (hto.trans ho.symm)
  | advance o h ho hfrom hnext hto => exact hs.write ho hfrom (.inl hnext)
  | callOff o h ho hfrom hcalls hto =>
    exact (hs.write ho hfrom (.inl (hto ▸ hcalls.canTransition))).deliveries rfl rfl
  | claim o d h deliveryId riderId now hd hfree hwaits hid ho hready hfrom hto =>
    refine (hs.write ho (hready ▸ hfrom) ?_).deliveries rfl rfl
    rw [hready, hto]
    decide

/-- Whatever a request does to orders is noted. -/
theorem Noted.act {p : Request Unit} {s' : Dispatch} (hs : s.Noted OrderStatus.Next) (h : s.Act p s') :
    s'.Noted OrderStatus.Next := by
  cases h with
  | moves h =>
    induction h with
    | refl => exact hs
    | tail _ hmove ih => exact ih.move hmove
  | setStatus actorId reason o h ho hfrom hmanaged hnext => exact hs.write ho hfrom (.inl hnext)
  | completePacking actorId storeId o h ho hfrom hpaid hto =>
    refine hs.write ho hfrom ?_
    rw [hto]
    rcases hpaid with hpaid | hpaid <;> rw [hpaid] <;> decide
  | confirmPickup riderId token o d h i f ho hfrom hready hto hfirst hf =>
    refine (hs.write ho hfrom ?_).deliveries rfl rfl
    rw [hto]
    rcases hready with hready | hready <;> rw [hready] <;> decide
  | confirmDelivery riderId token o d h h' i f ho hfrom hout hto hfirst hf hid' hfrom' hto' =>
    have hdelivered : (s.write h).Noted OrderStatus.Next := hs.write ho hfrom (by rw [hout, hto]; decide)
    have ho' : (s.write h).orders.find h'.orderId = some (Payments.setCurrentStatus h.toStatus o) := by
      rw [hid']
      exact (Table.find_update_self _ _ _).trans (congrArg _ ho)
    have hnotes : ((s.write h).deliver i f).Noted OrderStatus.Next := hdelivered.deliveries rfl rfl
    refine hnotes.write ho' ?_ ?_
    · rw [hfrom']
      exact congrArg some hto.symm
    · rw [hto']
      change h.toStatus.Next _
      rw [hto]
      decide
  | updateStatus riderId status location note o d i f hd hrider hlisted hpicked hdelivered ho hf =>
    exact hs.deliveries rfl rfl
  | moveOut riderId status location note o d h i f hd hrider hlisted hpicked hdelivered hopen hid ho hfrom
      hnext hto hf =>
    exact (hs.write ho hfrom (.inl (hto ▸ hnext))).deliveries rfl rfl
  | updateOrderStatus reason o h ho hfrom hadmin hnext => exact hs.write ho hfrom (.inl hnext)

end Dispatch

/-! ## Runs -/

/-- A change made outside of the requests that leaves the history alone as well. -/
structure HistoryChange (w w' : World) : Prop extends OtherChange w w' where
  history : w'.db .orderStatusHistory = w.db .orderStatusHistory

/-- The store, where nobody else writes the history of orders. -/
def recording : System Op Error World Env := { machine with starts := StoreRequest, background := HistoryChange }

/-- After any number of requests that are run as a whole, the notes on each order form a chain that ends in
its current status, and each change follows the table or takes a confirmed order to its pick-up. -/
theorem history_leads {w w' : World} (hw : (dispatch w.db).Noted OrderStatus.Next)
    (hrun : recording.Serial (fun _ _ => True) w w') :
    ∀ id o, (w'.db .order).find id = some o →
      Leads OrderStatus.Next ((dispatch w'.db).notes id) o.currentStatus := by
  have hs : (dispatch w'.db).Noted OrderStatus.Next := by
    refine hrun.keeps (fun w => (dispatch w.db).Noted OrderStatus.Next) hw fun s s' hin hturn => ?_
    cases hturn with
    | request hp ha h => exact hin.act (hp.acts h)
    | background h => exact hin.deliveries (h.owned .order (by decide)) h.history
  exact hs.leads

/-- An order that has been paid for, and whose only line has been scanned by its store. -/
def unpreparedOrder : World where
  db := (((Database.empty.set .order (Table.empty.create
      { orderNumber := "A-1", userId := 1, storeId := 1, fulfillmentType := .pickup
        currentStatus := .confirmed, subtotal := 100, total := 100
        items := [⟨0, 1, 1, none, 2, 50, 100⟩] })).set .orderStatusHistory
      ((Table.empty.create { orderId := 1, toStatus := .orderReceived }).create
        { orderId := 1, fromStatus := some .orderReceived, toStatus := .confirmed })).set .orderItemScan
      (Table.empty.create { orderId := 1, orderItemId := 0, phase := "PACKING", quantity := 2 })).set .store
      (Table.empty.create { ownerUserId := 2 })

/-- Its store has packed it. -/
def packedUnprepared : World := ((Orders.completePacking 2 1 1).runAlone machine { now := 1 } unpreparedOrder).2

/-- The two notes lead to the order's status. -/
theorem unpreparedOrder_noted {listed : OrderStatus → OrderStatus → Prop} (h : listed .orderReceived .confirmed) :
    (dispatch unpreparedOrder.db).Noted listed := by
  have hreceived : Leads listed [{ orderId := 1, toStatus := .orderReceived }] .orderReceived := .single rfl
  constructor
  · intro i h' hh'
    change ((Table.empty.create _).create _).find i = some h' at hh'
    rw [Table.find_create] at hh'
    split at hh'
    · obtain rfl := Option.some.inj hh'
      exact ⟨_, rfl⟩
    · obtain ⟨-, rfl⟩ := Table.eq_of_find_single hh'
      exact ⟨_, rfl⟩
  · intro id o ho
    obtain ⟨rfl, rfl⟩ := Table.eq_of_find_single ho
    exact hreceived.concat (h := { orderId := 1, fromStatus := some .orderReceived, toStatus := .confirmed }) rfl h

/-- The packing of the order, run as a whole. -/
theorem packedUnprepared_serial : recording.Serial (fun _ _ => True) unpreparedOrder packedUnprepared :=
  recording.serial_runAlone { now := 1 } (.status (.completePacking 2 1 1)) trivial

/-- Packing can take an order past its preparation, which the table does not list. -/
theorem packing_can_skip_preparation :
    ¬∀ w w' : World, (dispatch w.db).Noted (fun a b => canTransitionOrder a b) →
      recording.Serial (fun _ _ => True) w w' → ∀ id o, (w'.db .order).find id = some o →
        Leads (fun a b => canTransitionOrder a b) ((dispatch w'.db).notes id) o.currentStatus := by
  intro h
  have hfind : ((packedUnprepared.db .order).find 1).isSome := by decide +kernel
  have hnoted : (some .confirmed, .readyForPickup) ∈
      ((dispatch packedUnprepared.db).notes 1).map fun h => (h.fromStatus, h.toStatus) := by decide +kernel
  obtain ⟨o, ho⟩ := Option.isSome_iff_exists.mp hfind
  obtain ⟨n, hmem, heq⟩ := List.mem_map.mp hnoted
  obtain ⟨hfrom, hto⟩ := Prod.mk.inj heq
  have hlisted := (h _ _ (unpreparedOrder_noted (by decide)) packedUnprepared_serial 1 o ho).changes n hmem
    .confirmed hfrom
  rw [hto] at hlisted
  exact absurd hlisted (by decide)

/-- The three notes on the packed order lead to its pick-up. -/
theorem history_leads_packing :
    ∃ o, (packedUnprepared.db .order).find 1 = some o ∧
      Leads OrderStatus.Next ((dispatch packedUnprepared.db).notes 1) o.currentStatus := by
  have hfind : ((packedUnprepared.db .order).find 1).isSome := by decide +kernel
  obtain ⟨o, ho⟩ := Option.isSome_iff_exists.mp hfind
  exact ⟨o, ho, history_leads (unpreparedOrder_noted (by decide)) packedUnprepared_serial 1 o ho⟩

end Superstore

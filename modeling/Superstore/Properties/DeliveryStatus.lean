import Superstore.Orders.Dispatch
import Superstore.Requests.Checked
import Superstore.Requests.Ready

/-!
# The statuses of a delivery

A table lists the statuses that may follow each status of a delivery. Claims of deliveries and the
release of unpaid orders keep to it whatever is interleaved. The other writers check a status that
they have read before, or the status of the order instead, and may find the delivery in one from
which theirs is not listed.
-/

namespace Superstore

open Interleaving Relational Relational.Tx
open Orders (DeliversOf Notes progressTarget)
open Payments (setCurrentStatus)

/-- A status is kept, or followed by one that the table lists. -/
def DeliveryStatus.Follows (a b : DeliveryStatus) : Prop := a = b ∨ b ∈ allowedTransitions a

/-- Whether a status may follow another one can be decided. -/
instance (a b : DeliveryStatus) : Decidable (a.Follows b) := inferInstanceAs (Decidable (_ ∨ _))

/-- A delivery that has not been picked up can be cancelled. -/
abbrev DeliveryStatus.Cancellable (a : DeliveryStatus) : Prop := a.Follows .cancelled

/-- A status of a delivery that has not been picked up, and one that it may get without a rider's report. -/
def DeliveryStatus.Early (a b : DeliveryStatus) : Prop :=
  a = b ∨ ((a = .pending ∨ a = .offered) ∧ b = .assigned) ∨ (a.Cancellable ∧ b = .cancelled)

/-- A delivery that stays early follows the table. -/
theorem DeliveryStatus.Early.follows {a b : DeliveryStatus} (h : a.Early b) : a.Follows b := by
  rcases h with rfl | ⟨rfl | rfl, rfl⟩ | ⟨h, rfl⟩
  · exact .inl rfl
  · decide
  · decide
  · exact h

/-- Statuses that stay early compose. -/
theorem DeliveryStatus.Early.trans {a b c : DeliveryStatus} (h : a.Early b) (h' : b.Early c) : a.Early c := by
  rcases h with rfl | ⟨hfree, rfl⟩ | ⟨hopen, rfl⟩
  · exact h'
  · rcases h' with rfl | ⟨hfree', -⟩ | ⟨-, rfl⟩
    · exact .inr (.inl ⟨hfree, rfl⟩)
    · exact absurd hfree' (by decide)
    · exact .inr (.inr ⟨by rcases hfree with rfl | rfl <;> decide, rfl⟩)
  · rcases h' with rfl | ⟨hfree', -⟩ | ⟨-, rfl⟩
    · exact .inr (.inr ⟨hopen, rfl⟩)
    · exact absurd hfree' (by decide)
    · exact .inr (.inr ⟨hopen, rfl⟩)

/-- A delivery stays with its order, and its status early. -/
def Delivery.Early (d d' : Delivery) : Prop := d'.orderId = d.orderId ∧ d.status.Early d'.status

/-- Staying early is reflexive and transitive. -/
instance : IsPreorder Delivery Delivery.Early where
  refl _ := ⟨rfl, .inl rfl⟩
  trans _ _ _ h h' := ⟨h'.1.trans h.1, h.2.trans h'.2⟩

/-- A delivery stays with its order, and its status follows the table in one step. -/
def Delivery.Follows (d d' : Delivery) : Prop := d'.orderId = d.orderId ∧ d.status.Follows d'.status

namespace Dispatch

/-- Every delivery belongs to an order, and nobody has picked up what belongs to an unpaid one. -/
structure Awaiting (s : Dispatch) : Prop where
  found : ∀ i d, s.deliveries.find i = some d → ∃ o, s.orders.find d.orderId = some o
  received : ∀ i d o, s.deliveries.find i = some d → s.orders.find d.orderId = some o →
    o.currentStatus = .orderReceived → d.status.Cancellable

variable {s : Dispatch}

/-- Whether deliveries are awaited depends on orders and deliveries alone. -/
theorem Awaiting.congr {s' : Dispatch} (hs : s.Awaiting) (horders : s'.orders = s.orders)
    (hdeliveries : s'.deliveries = s.deliveries) : s'.Awaiting where
  found := by
    rw [horders, hdeliveries]
    exact hs.found
  received := by
    rw [horders, hdeliveries]
    exact hs.received

/-- Moving an order on from its first status. -/
theorem Awaiting.write (hs : s.Awaiting) {h : OrderStatusHistory} (hto : h.toStatus ≠ .orderReceived) :
    (s.write h).Awaiting := by
  have hback (i : ℕ) (o' : Order) (ho' : (s.write h).orders.find i = some o')
      (hreceived : o'.currentStatus = .orderReceived) : s.orders.find i = some o' := by
    rw [Dispatch.write, Table.find_update] at ho'
    split at ho'
    · obtain ⟨o, -, rfl⟩ := Option.map_eq_some_iff.mp ho'
      exact absurd hreceived hto
    · exact ho'
  constructor
  · intro i d hd
    obtain ⟨o, ho⟩ := hs.found i d hd
    change ∃ o, (s.orders.update _ _).find _ = some o
    rw [Table.find_update]
    split
    · next heq => exact ⟨_, by rw [ho]; rfl⟩
    · exact ⟨o, ho⟩
  · intro i d o' hd ho' hreceived
    exact hs.received i d o' hd (hback _ _ ho' hreceived) hreceived

/-- Deliveries that are rewritten stay with their orders, and can be cancelled, or are those of orders
that are under way. -/
theorem Awaiting.rewrite (hs : s.Awaiting) {p : ℕ → Delivery → Bool} {f : Delivery → Delivery}
    (hid : ∀ d, (f d).orderId = d.orderId)
    (hstatus : ∀ i d o, s.deliveries.find i = some d → p i d → s.orders.find d.orderId = some o →
      o.currentStatus = .orderReceived → (f d).status.Cancellable) :
    Awaiting { s with deliveries := s.deliveries.updateMany p f } := by
  constructor
  · intro i d' hd'
    rw [Table.find_updateMany] at hd'
    obtain ⟨d, hd, rfl⟩ := Option.map_eq_some_iff.mp hd'
    obtain ⟨o, ho⟩ := hs.found i d hd
    refine ⟨o, ?_⟩
    dsimp only
    split
    · rwa [hid]
    · exact ho
  · intro i d' o hd' ho hreceived
    rw [Table.find_updateMany] at hd'
    obtain ⟨d, hd, rfl⟩ := Option.map_eq_some_iff.mp hd'
    dsimp only at ho ⊢
    split at ho
    · next hp =>
      rw [hid] at ho
      rw [if_pos hp]
      exact hstatus i d o hd hp ho hreceived
    · next hp =>
      rw [if_neg hp]
      exact hs.received i d o hd ho hreceived

/-- A move that calls off unpaid orders only changes deliveries early. -/
theorem Move.early {sets : OrderStatus → Prop} {s' : Dispatch} (h : Move (· = .orderReceived) sets s s')
    (hs : s.Awaiting) :
    s'.Awaiting ∧ s.deliveries.Evolves Delivery.Early s'.deliveries := by
  cases h with
  | place o h ho hcollected hid hfrom hto =>
    refine ⟨⟨fun i d hd => ?_, fun i d o' hd ho' hreceived => ?_⟩, .refl _⟩
    · obtain ⟨o', ho'⟩ := hs.found i d hd
      exact ⟨o', Table.find_create_of_find o ho'⟩
    · obtain ⟨o'', ho''⟩ := hs.found i d hd
      obtain rfl := Option.some.inj ((Table.find_create_of_find o ho'').symm.trans ho')
      exact hs.received i d o'' hd ho'' hreceived
  | placeForDelivery o h d ho hid hfrom hto hd hpending hfree =>
    refine ⟨⟨fun i d' hd' => ?_, fun i d' o' hd' ho' hreceived => ?_⟩, .create _ d⟩ <;>
      rw [Table.find_create] at hd' <;> split at hd'
    · obtain rfl := Option.some.inj hd'
      exact ⟨o, hd ▸ Table.find_create_self _ o⟩
    · obtain ⟨o', ho'⟩ := hs.found i d' hd'
      exact ⟨o', Table.find_create_of_find o ho'⟩
    · obtain rfl := Option.some.inj hd'
      rw [hpending]
      decide
    · obtain ⟨o'', ho''⟩ := hs.found i d' hd'
      obtain rfl := Option.some.inj ((Table.find_create_of_find o ho'').symm.trans ho')
      exact hs.received i d' o'' hd' ho'' hreceived
  | advance o h ho hfrom hnext hto =>
    refine ⟨hs.write ?_, .refl _⟩
    rcases hto with hto | hto
    · rw [hto]
      decide
    · exact (managed_not_financial (.inr hto.1)).1
  | callOff o h ho hfrom hcalls hto =>
    constructor
    · exact (hs.write (by rw [hto]; decide)).rewrite (fun _ => rfl) fun _ _ _ _ _ _ _ => .inl rfl
    · refine .updateMany fun i d hd hp => ⟨rfl, .inr (.inr ⟨?_, rfl⟩)⟩
      rw [← beq_iff_eq.mp hp] at ho
      exact hs.received i d o hd ho hcalls
  | claim o d h deliveryId riderId now hd hfree hwaits hid ho hready hfrom hto =>
    constructor
    · exact (hs.write (by rw [hto]; decide)).rewrite (fun _ => rfl)
        fun _ _ _ _ _ _ _ => (show DeliveryStatus.assigned.Cancellable by decide)
    · refine .update fun d' hd' => ⟨rfl, .inr (.inl ⟨?_, rfl⟩)⟩
      obtain rfl := Option.some.inj (hd.symm.trans hd')
      exact hwaits

/-- Any number of such moves. -/
theorem Moves.early {sets : OrderStatus → Prop} {s' : Dispatch} (h : Moves (· = .orderReceived) sets s s')
    (hs : s.Awaiting) :
    s'.Awaiting ∧ s.deliveries.Evolves Delivery.Early s'.deliveries := by
  induction h with
  | refl => exact ⟨hs, .refl _⟩
  | tail _ hmove ih =>
    obtain ⟨hnext, hevolves⟩ := hmove.early ih.1
    exact ⟨hnext, ih.2.trans hevolves⟩

end Dispatch

/-! ## Operations -/

/-- The deliveries that an operation is going to put into a status without having read theirs. -/
def Op.delivers : {α : Type} → Op α → Env → Database → List (ℕ × DeliveryStatus)
  | _, .writePickup id _ _ credentialId, e, db =>
    if Orders.usable e.now credentialId db then
      (((db .delivery).first fun _ d => d.orderId == id).map fun r => (r.1, .pickedUp)).toList
    else []
  | _, .writeDelivery id _ _ credentialId _, e, db =>
    if Orders.usable e.now credentialId db then
      (((db .delivery).first fun _ d => d.orderId == id).map fun r => (r.1, .delivered)).toList
    else []
  | _, .writeProgress deliveryId status _ _ _ _ _, _, _ => [(deliveryId, status)]
  | _, .cancelOrder userId id _, _, db =>
    if ((db .order).find id).any fun o =>
        o.userId == userId && (o.currentStatus == .confirmed || o.currentStatus == .preparing) then
      ((db .delivery).many fun _ d => d.orderId == id).map fun r => (r.1, .cancelled)
    else []
  | _, _, _, _ => []

/-- Each of these deliveries has a status that the new one may follow. -/
def Op.followsTable {α : Type} (op : Op α) (e : Env) (db : Database) : Bool :=
  (op.delivers e db).all fun t => ((db .delivery).find t.1).all fun d => decide (d.status.Follows t.2)

/-- A delivery that an operation puts into a status follows the table. -/
theorem follows_of_mem {α : Type} {op : Op α} {e : Env} {db : Database} (h : op.followsTable e db)
    {t : ℕ × DeliveryStatus} (ht : t ∈ op.delivers e db) {d : Delivery} (hd : (db .delivery).find t.1 = some d) :
    d.status.Follows t.2 := by
  have hall := List.all_eq_true.mp h t ht
  rw [hd] at hall
  exact of_decide_eq_true hall

/-- What a request has made sure of before an operation that writes a status it was told. -/
def Op.StatusGrounded : {α : Type} → Op α → Database → Prop
  | _, .writeStatus _ _ status _ _, _ => status ≠ .orderReceived
  | _, .writeProgress deliveryId status _ _ _ _ _, db => status.Cancellable ∨
    ∃ d, (db .delivery).find deliveryId = some d ∧
      ∃ o, (db .order).find d.orderId = some o ∧ o.currentStatus ≠ .orderReceived
  | _, _, _ => True

/-- Whether an operation is told a status that a request has to have looked at. -/
def Op.needsStatus : {α : Type} → Op α → Bool
  | _, .writeStatus _ _ _ _ _ => true
  | _, .writeProgress _ _ _ _ _ _ _ => true
  | _, _ => false

/-- Other operations need nothing. -/
theorem Op.StatusGrounded.of_not {α : Type} {op : Op α} (h : op.needsStatus = false) (db : Database) :
    op.StatusGrounded db := by
  cases op <;> first | exact trivial | cases h

/-- Deliveries change along the table. -/
def ListedChanges (db db' : Database) : Prop := (db .delivery).Evolves Delivery.Follows (db' .delivery)

/-- Deliveries that stay change along the table. -/
theorem ListedChanges.of_eq {db db' : Database} (h : db' .delivery = db .delivery) : ListedChanges db db' := by
  intro i d hd
  exact ⟨d, by rw [h]; exact hd, rfl, .inl rfl⟩

/-- A delivery that is put into a status it may get. -/
theorem ListedChanges.deliver {db db' : Database} {i : ℕ} {status : DeliveryStatus} {f : Delivery → Delivery}
    (hf : Delivery.Restates status f) (h : db' .delivery = (db .delivery).update i f)
    (hfollows : ∀ d, (db .delivery).find i = some d → d.status.Follows status) : ListedChanges db db' := by
  intro j d hd
  rw [h, Table.find_update]
  split
  · next heq =>
    subst heq
    exact ⟨f d, by rw [hd]; rfl, (hf d).2.1, (hf d).1 ▸ hfollows d hd⟩
  · exact ⟨d, hd, rfl, .inl rfl⟩

/-- A change that is a known rewriting of what a database says of orders on their way. -/
theorem ListedChanges.of_dispatch {db db' : Database} {i : ℕ} {status : DeliveryStatus} {f : Delivery → Delivery}
    (hf : Delivery.Restates status f) {s : Dispatch} (h : dispatch db' = s)
    (hs : s.deliveries = (db .delivery).update i f)
    (hfollows : ∀ d, (db .delivery).find i = some d → d.status.Follows status) : ListedChanges db db' :=
  .deliver hf ((congrArg Dispatch.deliveries h).trans hs) hfollows

/-- Putting the delivery of an order into a status, once the order has been moved on. -/
theorem Dispatch.Awaiting.deliver {s : Dispatch} (hs : s.Awaiting) {i : ℕ} {status : DeliveryStatus}
    {f : Delivery → Delivery} (hf : Delivery.Restates status f)
    (hstatus : ∀ d o, s.deliveries.find i = some d → s.orders.find d.orderId = some o →
      o.currentStatus = .orderReceived → status.Cancellable) : (s.deliver i f).Awaiting := by
  refine hs.rewrite (fun d => (hf d).2.1) fun j d o hd hp ho hreceived => ?_
  rw [(hf d).1]
  rw [beq_iff_eq.mp hp] at hd
  exact hstatus d o hd ho hreceived

/-- Every operation keeps to the table where the deliveries that it is told about do, and nobody picks
up what is unpaid. -/
theorem exec_listed {α : Type} {op : Op α} {e : Env} {w : World} (hw : (dispatch w.db).Awaiting)
    (hknown : op.StatusGrounded w.db) (hfollows : op.followsTable e w.db) :
    (dispatch (op.exec e w).2.db).Awaiting ∧ ListedChanges w.db (op.exec e w).2.db := by
  by_cases hwrites : ∃ n ∈ dispatchTables, n ∈ op.writes
  swap
  · have hsame (n : TableName) (hn : n ∈ dispatchTables) : (op.exec e w).2.db n = w.db n :=
      exec_frame op e w n fun hmem => hwrites ⟨n, hn, hmem⟩
    rw [dispatch_congr hsame]
    exact ⟨hw, .of_eq (hsame _ (by decide))⟩
  by_cases hchecked : op.checked = true ∧ op.calls .confirmed = false
  · have hmoves : Orders.Moving (· = .orderReceived) (fun _ => True) w.db (op.exec e w).2.db :=
      Orders.respects_moving.exec hchecked.1 (Op.received_of_calls hchecked.2) (fun _ _ => trivial) e w
    obtain ⟨hnext, hevolves⟩ := hmoves.early hw
    exact ⟨hnext, hevolves.mono fun _ _ h => ⟨h.1, h.2.follows⟩⟩
  have hrun {α : Type} {op : Op α} {m : Env → Tx α} (hop : op.transaction = some m)
      (hm : wp w.db (m e) fun _ db => (dispatch db).Awaiting ∧ ListedChanges w.db db) :
      (dispatch (op.exec e w).2.db).Awaiting ∧ ListedChanges w.db (op.exec e w).2.db :=
    exec_transaction hop (Φ := fun w' => (dispatch w'.db).Awaiting ∧ ListedChanges w.db w'.db)
      ⟨hw, .of_eq rfl⟩ hm
  have hmem {α : Type} {op : Op α} (hfollows : op.followsTable e w.db) {i : ℕ} {status : DeliveryStatus}
      (ht : (i, status) ∈ op.delivers e w.db) (d : Delivery) (hd : (w.db .delivery).find i = some d) :
      d.status.Follows status := follows_of_mem hfollows ht hd
  cases op <;> dsimp only [Op.writes] at hwrites <;>
    first
    | exact absurd hwrites (by decide)
    | exact absurd ⟨rfl, rfl⟩ hchecked
    | clear hwrites hchecked
  case cancelOrder userId id reason =>
    refine hrun rfl (wp_mono (Orders.cancel_dispatch e userId id reason w.db) ?_)
    rintro _ db ⟨o, h, ho, huser, hstatus, ⟨rfl, -, hto⟩, hdb⟩
    constructor
    · rw [hdb]
      exact (hw.write (by rw [hto]; decide)).rewrite (fun _ => rfl) fun _ _ _ _ _ _ _ => .inl rfl
    · have hdelivery : db .delivery = _ := congrArg Dispatch.deliveries hdb
      rw [ListedChanges, hdelivery]
      intro i d hd
      refine ⟨_, (Table.find_updateMany _ _ _ _).trans (congrArg _ hd), ?_⟩
      dsimp only
      split
      · next hp =>
        refine ⟨rfl, hmem hfollows ?_ d hd⟩
        rw [Op.delivers, if_pos (by simpa [ho, huser] using hstatus)]
        exact List.mem_map.mpr ⟨(i, d), Table.mem_many.mpr ⟨hd, hp⟩, rfl⟩
      · exact ⟨rfl, .inl rfl⟩
  case writeStatus id fromStatus status actorId reason =>
    refine hrun rfl (wp_mono (Orders.writeStatus_dispatch id fromStatus status actorId reason w.db) ?_)
    rintro _ db ⟨h, ⟨-, -, hto⟩, hdb⟩
    refine ⟨hdb ▸ hw.write (hto ▸ hknown), .of_eq (congrArg Dispatch.deliveries hdb)⟩
  case writePacked id fromStatus actorId =>
    refine hrun rfl (wp_mono (Orders.writePacked_dispatch id fromStatus actorId w.db) ?_)
    rintro _ db ⟨h, ⟨-, -, hto⟩, hdb⟩
    refine ⟨hdb ▸ hw.write (by rw [hto]; decide), .of_eq (congrArg Dispatch.deliveries hdb)⟩
  case writePickup id fromStatus riderId credentialId =>
    refine hrun rfl (wp_mono (Orders.writePickup_dispatch e id fromStatus riderId credentialId w.db) ?_)
    rintro _ db ⟨h, i, f, husable, ⟨rfl, -, hto⟩, ⟨⟨d, hfirst⟩, hf⟩, hdb⟩
    obtain ⟨hd, hid⟩ := Table.find_of_first hfirst
    constructor
    · rw [hdb]
      refine (hw.write (by rw [hto]; decide)).deliver hf fun d' o hd' ho hreceived => ?_
      obtain rfl := Option.some.inj (hd.symm.trans hd')
      rw [Dispatch.write, beq_iff_eq.mp hid, Table.find_update_self] at ho
      obtain ⟨o', -, rfl⟩ := Option.map_eq_some_iff.mp ho
      exact absurd (hto.symm.trans hreceived) (by decide)
    · refine .of_dispatch hf hdb rfl (hmem hfollows ?_)
      rw [Op.delivers, if_pos husable, hfirst]
      exact List.mem_singleton_self _
  case writeDelivery id order riderId credentialId deliveryId =>
    refine hrun rfl (wp_mono (Orders.writeDelivery_dispatch e id order riderId credentialId deliveryId w.db) ?_)
    rintro _ db ⟨h, h', i, f, husable, ⟨rfl, -, hto⟩, ⟨hid', -, hto'⟩, ⟨⟨d, hfirst⟩, hf⟩, hdb⟩
    obtain ⟨hd, hid⟩ := Table.find_of_first hfirst
    constructor
    · rw [hdb]
      refine ((hw.write (by rw [hto]; decide)).deliver hf fun d' o hd' ho hreceived => ?_).write
        (by rw [hto']; decide)
      obtain rfl := Option.some.inj (hd.symm.trans hd')
      rw [Dispatch.write, beq_iff_eq.mp hid, Table.find_update_self] at ho
      obtain ⟨o', -, rfl⟩ := Option.map_eq_some_iff.mp ho
      exact absurd (hto.symm.trans hreceived) (by decide)
    · refine .of_dispatch hf hdb rfl (hmem hfollows ?_)
      rw [Op.delivers, if_pos husable, hfirst]
      exact List.mem_singleton_self _
  case writeProgress deliveryId status orderId orderStatus riderId location note =>
    refine hrun rfl (wp_mono (Orders.writeProgress_dispatch e deliveryId status orderId orderStatus riderId
      location note w.db) ?_)
    rintro _ db ⟨f, hf, hcases⟩
    have hdelivered : ((dispatch w.db).deliver deliveryId f).Awaiting := by
      refine hw.deliver hf fun d o hd ho hreceived => ?_
      rcases hknown with hopen | ⟨d', hd', o', ho', hstarted⟩
      · exact hopen
      · obtain rfl := Option.some.inj (hd.symm.trans hd')
        obtain rfl := Option.some.inj (ho.symm.trans ho')
        exact absurd hreceived hstarted
    have hlisted := hmem hfollows (List.mem_singleton_self (deliveryId, status))
    rcases hcases with ⟨-, hdb⟩ | ⟨h, s, htarget, ⟨-, -, hto⟩, hdb⟩
    · exact ⟨hdb ▸ hdelivered, .of_dispatch hf hdb rfl hlisted⟩
    · refine ⟨hdb ▸ hdelivered.write ?_, .of_dispatch hf hdb rfl hlisted⟩
      rw [hto, (Orders.progressTarget_eq_some htarget).2.2.2]
      decide

/-! ## Runs -/

/-- An order does not come back to its first status. -/
def Order.Leaves (o o' : Order) : Prop := o.currentStatus ≠ .orderReceived → o'.currentStatus ≠ .orderReceived

/-- Leaving the first status is reflexive and transitive. -/
instance : IsPreorder Order Order.Leaves where
  refl _ := id
  trans _ _ _ h h' := h' ∘ h

/-- A delivery stays with its order, and its status follows the table. -/
def Delivery.Proceeds (d d' : Delivery) : Prop :=
  d'.orderId = d.orderId ∧ Relation.ReflTransGen (fun a b => b ∈ allowedTransitions a) d.status d'.status

/-- Proceeding along the table is reflexive and transitive. -/
instance : IsPreorder Delivery Delivery.Proceeds where
  refl _ := ⟨rfl, .refl⟩
  trans _ _ _ h h' := ⟨h'.1.trans h.1, h.2.trans h'.2⟩

/-- A step along the table proceeds along it. -/
theorem Delivery.Follows.proceeds {d d' : Delivery} (h : d.Follows d') : d.Proceeds d' := by
  refine ⟨h.1, ?_⟩
  rcases h.2 with heq | hnext
  · rw [heq]
  · exact .single hnext

/-- A status that the table does not let a delivery leave. -/
def DeliveryStatus.Final (a : DeliveryStatus) : Prop := a = .delivered ∨ a = .failed ∨ a = .cancelled

/-- A delivery whose status is final keeps it. -/
theorem Delivery.Proceeds.final {d d' : Delivery} (h : d.Proceeds d') (hd : d.status.Final) :
    d'.status = d.status := by
  rcases Relation.ReflTransGen.cases_head h.2 with heq | ⟨s, hs, -⟩
  · exact heq.symm
  · have hnone : allowedTransitions d.status = [] := by
      rcases hd with hd | hd | hd <;> rw [hd] <;> rfl
    rw [hnone] at hs
    cases hs

/-- A change made outside of the requests that leaves deliveries alone as well. -/
structure DeliveryChange (w w' : World) : Prop extends OtherChange w w' where
  deliveries : w'.db .delivery = w.db .delivery

/-- The store, where nobody else writes deliveries. -/
def dispatching : System Op Error World Env :=
  { machine with starts := StoreRequest, background := DeliveryChange }

/-- What is kept of deliveries where those that are told a status follow the table. -/
def deliveryStatuses : Contract Op World Env where
  inv w := (dispatch w.db).Awaiting
  guar w w' := (w.db .order).Evolves Order.Leaves (w'.db .order) ∧
    (w.db .delivery).Evolves Delivery.Proceeds (w'.db .delivery)
  known op w := op.StatusGrounded w.db
  allowed op e w := e.fails || op.followsTable e w.db
  refl _ := ⟨.refl _, .refl _⟩
  trans h h' := ⟨h.1.trans h'.1, h.2.trans h'.2⟩

/-- The status that an order is overwritten with is not its first one. -/
theorem Op.StatusGrounded.overwrites {α : Type} {op : Op α} {w : World} (h : op.StatusGrounded w.db) (e : Env)
    {t : ℕ × OrderStatus} (ht : op.overwrites e w = some t) : t.2 ≠ .orderReceived := by
  cases op <;> try cases ht
  case writeStatus => exact h
  case writePacked => exact OrderStatus.noConfusion
  case writePickup =>
    simp only [Op.overwrites, Option.ite_none_right_eq_some, Option.some.injEq] at ht
    rw [← ht.2]
    exact OrderStatus.noConfusion
  case writeDelivery =>
    simp only [Op.overwrites, Option.ite_none_right_eq_some, Option.some.injEq] at ht
    rw [← ht.2]
    exact OrderStatus.noConfusion
  case writeProgress =>
    obtain ⟨id, s⟩ := t
    rw [(Orders.progressTarget_eq_some ht).2.2.2]
    exact OrderStatus.noConfusion

/-- No operation takes an order back to its first status. -/
theorem exec_leaves {α : Type} {op : Op α} {e : Env} {w : World} (hknown : op.StatusGrounded w.db) :
    (w.db .order).Evolves Order.Leaves ((op.exec e w).2.db .order) := by
  rcases exec_orders op e w with hmoves | hput
  · refine hmoves.mono fun o o' h hleft => ?_
    rcases Relation.ReflTransGen.cases_tail h.2 with heq | ⟨s, -, hs⟩
    · rwa [heq]
    · intro hback
      rw [hback] at hs
      revert hs
      cases s <;> decide
  · rw [hput]
    cases ht : op.overwrites e w with
    | none => exact .refl _
    | some t => exact .update fun o _ _ => hknown.overwrites e ht

/-- Every operation keeps deliveries on the table. -/
theorem deliveryStatuses_safe {α : Type} (op : Op α) : deliveryStatuses.Safe machine op := by
  intro e w hinv hknown hallowed
  by_cases hfails : e.fails = true
  · have hsame : (machine.exec op e w).2.db = w.db := exec_fails_db hfails
    change (dispatch (machine.exec op e w).2.db).Awaiting ∧ _
    exact ⟨hsame ▸ hinv, .of_eq (congrFun hsame _), .of_eq (congrFun hsame _)⟩
  · have hfollows := (Bool.or_eq_true_iff.mp hallowed).resolve_left hfails
    obtain ⟨hnext, hlisted⟩ := exec_listed hinv hknown hfollows
    exact ⟨hnext, exec_leaves hknown, hlisted.mono fun _ _ => Delivery.Follows.proceeds⟩

/-- What a rider reports of a delivery of an unpaid order is that it is off. -/
theorem DeliveryStatus.Cancellable.next {a b : DeliveryStatus} (ha : a.Cancellable) (hb : b ∈ allowedTransitions a)
    (hpicked : b ≠ .pickedUp) (hdelivered : b ≠ .delivered) : b.Cancellable := by
  revert ha hb hpicked hdelivered
  cases a <;> cases b <;> decide

namespace Orders

/-- A rider's report knows that the order of the delivery is under way, or that it is called off. -/
theorem updateStatus_grounded (riderId deliveryId : ℕ) (status : DeliveryStatus) (location note : Option String)
    (w : World) : deliveryStatuses.Ready machine (updateStatus riderId deliveryId status location note) w := by
  refine ready_selectOrThrow (fun _ => trivial) fun w₁ r _ hinv hr => ?_
  simp only [deliveryWithOrder, Option.bind_eq_bind, Option.bind_eq_some_iff, Option.pure_def,
    Option.some.injEq] at hr
  obtain ⟨d, hd, o, ho, rfl⟩ := hr
  refine ready_check fun _ => ready_check fun hnext => ready_check fun hpicked => ready_check fun hdelivered => ?_
  refine ready_check fun _ => .call fun w₂ ⟨horders, hdeliveries⟩ _ => ?_
  by_cases hreceived : o.currentStatus = .orderReceived
  · exact .inl ((hinv.received deliveryId d o hd ho hreceived).next hnext hpicked hdelivered)
  · obtain ⟨d', hd', hproceeds⟩ := hdeliveries deliveryId d hd
    obtain ⟨o', ho', hleaves⟩ := horders d.orderId o ho
    exact .inr ⟨d', hd', o', hproceeds.1.symm ▸ ho', hleaves hreceived⟩

end Orders

/-- Requests that write a status have made sure of what the order needs. -/
theorem StatusRequest.grounded {p : Request Unit} (h : StatusRequest p) (w : World) :
    deliveryStatuses.Ready machine p w := by
  have hcall {α : Type} {op : Op α} (hop : op.needsStatus = false) (w : World) :
      deliveryStatuses.Ready machine (call op) w := .call fun w _ _ => .of_not hop w.db
  have hclaim (riderId deliveryId : ℕ) (offerId : Option ℕ) (w : World) :
      deliveryStatuses.Ready machine (Orders.claim riderId deliveryId offerId) w :=
    .bind (hcall rfl w) fun _ w => hcall rfl w
  cases h with
  | setStatus actorId id status reason =>
    refine .bind (hcall rfl w) fun _ w => ready_check fun _ => ready_check fun _ => ready_check fun hmanaged => ?_
    refine ready_check fun _ => .then (fun _ _ _ => (managed_not_financial (.inl hmanaged)).1) fun _ w _ _ => ?_
    exact .bind (hcall rfl w) fun _ w => ready_onlyIf fun _ => hcall rfl w
  | completePacking actorId storeId id =>
    refine .bind (hcall rfl w) fun _ w => .bind (hcall rfl w) fun _ w => ready_check fun _ => ?_
    refine .bind (hcall rfl w) fun _ w => ready_check fun _ => .bind (hcall rfl w) fun _ w =>
      ready_check fun _ => ?_
    exact .bind (hcall rfl w) fun _ w => .bind (hcall rfl w) fun _ w => hcall rfl w
  | confirmPickup riderId id token =>
    refine .bind (hcall rfl w) fun _ w => .bind (hcall rfl w) fun _ w => .bind (hcall rfl w) fun _ w => ?_
    refine .bind (hcall rfl w) fun _ w => .bind (hcall rfl w) fun _ w => ?_
    exact ready_check fun _ => ready_check fun _ => hcall rfl w
  | confirmDelivery riderId id token =>
    refine .bind (hcall rfl w) fun _ w => .bind (hcall rfl w) fun _ w => .bind (hcall rfl w) fun _ w => ?_
    refine ready_check fun _ => .bind (hcall rfl w) fun _ w => .bind (hcall rfl w) fun _ w => ?_
    exact ready_onlyIf fun _ => hcall rfl w
  | updateStatus riderId deliveryId status location note => exact Orders.updateStatus_grounded _ _ _ _ _ w
  | claim riderId deliveryId => exact hclaim _ _ _ w
  | accept riderId offerId => exact .bind (hcall rfl w) fun _ w => hclaim _ _ _ w
  | updateOrderStatus id status reason =>
    exact .bind (hcall rfl w) fun _ w => .bind (hcall rfl w) fun _ w => ready_onlyIf fun _ => hcall rfl w

/-- A program that writes no status it was told. -/
theorem Uses.grounded {α : Type} {ks : List OpKind} {p : Request α} (h : Uses ks p) (hks : .status ∉ ks)
    (w : World) : deliveryStatuses.Ready machine p w := by
  refine Contract.informed_of_all (h.imp fun _ op hop w => Op.StatusGrounded.of_not ?_ w.db) w
  cases op <;> first | rfl | exact absurd hop hks

/-- The requests of riders and stores keep deliveries on the table. -/
theorem deliveryStatuses_holds : deliveryStatuses.Holds dispatching where
  starts {p} h w _ := by
    cases h with
    | payment h => exact h.uses.grounded (by decide) w
    | refund h => exact h.uses.grounded (by decide) w
    | status h => exact h.grounded w
  performs op := deliveryStatuses_safe op
  background {w w'} h hinv := by
    have horder : w'.db .order = w.db .order := h.owned .order (by decide)
    exact ⟨hinv.congr horder h.deliveries, .of_eq horder, .of_eq h.deliveries⟩

/-- In every run in which whoever writes a status that was checked before finds the delivery in one that
it may follow: each step changes deliveries along the table only, and a delivery that has been delivered,
has failed or is cancelled stays so. -/
theorem delivery_status_listed {w : World} (hw : (dispatch w.db).Awaiting) {c c' : Config Op Error World}
    (hrun : dispatching.Run (fun op e c => e.fails || op.followsTable e c.world.db) ⟨w, []⟩ c) :
    (dispatching.Step (fun op e c => e.fails || op.followsTable e c.world.db) c c' →
      ListedChanges c.world.db c'.world.db) ∧
    (dispatching.Run (fun op e c => e.fails || op.followsTable e c.world.db) c c' →
      ∀ i d, (c.world.db .delivery).find i = some d → d.status.Final →
        ∃ d', (c'.world.db .delivery).find i = some d' ∧ d'.status = d.status) := by
  have hsound : deliveryStatuses.Sound dispatching ⟨w, []⟩ := ⟨hw, by simp⟩
  obtain ⟨⟨hinv, hready⟩, -⟩ := deliveryStatuses_holds.run hsound hrun
  constructor
  · intro hstep
    cases hstep with
    | start hp => exact .of_eq rfl
    | @perform _ _ op _ e hi ha =>
      rcases Bool.or_eq_true_iff.mp ha with hfails | hfollows
      · exact .of_eq (congrFun (exec_fails_db hfails) _)
      · have hknown := (hready _ (List.mem_of_getElem? hi) e c.world (deliveryStatuses.refl _) hinv ha).1
        exact (exec_listed hinv hknown hfollows).2
    | fork hi => exact .of_eq rfl
    | finish hi => exact .of_eq rfl
    | background hs => exact .of_eq hs.deliveries
  · intro hrun' i d hd hfinal
    obtain ⟨-, -, hdeliveries⟩ := deliveryStatuses_holds.run ⟨hinv, hready⟩ hrun'
    obtain ⟨d', hd', hproceeds⟩ := hdeliveries i d hd
    exact ⟨d', hd', hproceeds.final hfinal⟩

/-! ## A cancelled delivery that is picked up -/

/-- An order that a rider is about to pick up: its only line has been scanned and its credential issued. -/
def assignedDelivery : World where
  db := ((((Database.empty.set .order (Table.empty.create
      { orderNumber := "A-1", userId := 1, storeId := 1, fulfillmentType := .delivery
        currentStatus := .riderAssigned, subtotal := 100, total := 100
        items := [⟨0, 1, 1, none, 2, 50, 100⟩] })).set .delivery (Table.empty.create
      { orderId := 1, riderId := some 3, status := .assigned })).set .orderItemScan (Table.empty.create
      { orderId := 1, orderItemId := 0, phase := "RIDER_PICKUP", quantity := 2 })).set .orderQrCredential
      (Table.empty.create { orderId := 1, purpose := "RIDER_PICKUP", token := "t", expiresAt := 100 }))

/-- Nothing of the order is unpaid. -/
theorem assignedDelivery_awaiting : (dispatch assignedDelivery.db).Awaiting where
  found i d hd := by
    change (Table.empty.create _).find i = some d at hd
    rw [Table.find_create] at hd
    split at hd
    · obtain rfl := Option.some.inj hd
      exact ⟨_, rfl⟩
    · cases hd
  received i d o hd ho hreceived := by
    change (Table.empty.create _).find _ = some o at ho
    rw [Table.find_create] at ho
    split at ho
    · obtain rfl := Option.some.inj ho
      cases hreceived
    · cases ho

/-- The rider gives the delivery up, and picks the order up nevertheless. -/
def cancelAndPickUp : List (Request Unit) :=
  [Orders.updateStatus 3 1 .cancelled none none, Orders.confirmPickup 3 1 "t"]

/-- The delivery is given up. -/
def riderCancels : List (ℕ × Env) := List.replicate 2 (0, { now := 1 })

/-- The pick-up looks at the status of the order only. -/
def riderPicksUp : List (ℕ × Env) := List.replicate 6 (1, { now := 2 })

/-- The status of a delivery. -/
def deliveryStatus (c : Config Op Error World) (id : ℕ) : Option DeliveryStatus :=
  ((c.world.db .delivery).find id).map (·.status)

/-- A cancelled delivery is picked up, by requests that are made one after the other. -/
theorem cancelled_delivery_can_go_on :
    ¬∀ (w : World) (c c' : Config Op Error World), (dispatch w.db).Awaiting →
      dispatching.Run System.anyOp ⟨w, []⟩ c → dispatching.Run System.anyOp c c' →
      ∀ i s, deliveryStatus c i = some s → s.Final → deliveryStatus c' i = some s := by
  intro h
  have hstarts : ∀ p ∈ cancelAndPickUp, dispatching.starts p := by
    intro p hp
    rcases List.mem_pair.mp hp with rfl | rfl
    · exact .status (.updateStatus 3 1 .cancelled none none)
    · exact .status (.confirmPickup 3 1 "t")
  have hstays := h assignedDelivery _ _ assignedDelivery_awaiting (dispatching.schedule_run hstarts riderCancels)
    (dispatching.follow_run _ riderPicksUp) 1 .cancelled (by decide +kernel) (.inr (.inr rfl))
  revert hstays
  decide +kernel

/-- The rider gives the delivery up, and reports a failure afterwards. -/
def cancelAndFail : List (Request Unit) :=
  [Orders.updateStatus 3 1 .cancelled none none, Orders.updateStatus 3 1 .failed none none]

/-- The delivery stays cancelled when the second report is refused. -/
theorem delivery_status_listed_refused :
    deliveryStatus (dispatching.follow (dispatching.follow ⟨assignedDelivery, cancelAndFail⟩ riderCancels)
      [(1, { now := 2 })]) 1 = some .cancelled := by
  have hstarts : ∀ p ∈ cancelAndFail, dispatching.starts p := by
    intro p hp
    rcases List.mem_pair.mp hp with rfl | rfl
    · exact .status (.updateStatus 3 1 .cancelled none none)
    · exact .status (.updateStatus 3 1 .failed none none)
  have hallows : dispatching.allows (fun op e c => e.fails || op.followsTable e c.world.db)
      ⟨assignedDelivery, cancelAndFail⟩ riderCancels := by decide +kernel
  have hallows' : dispatching.allows (fun op e c => e.fails || op.followsTable e c.world.db)
      (dispatching.follow ⟨assignedDelivery, cancelAndFail⟩ riderCancels) [(1, { now := 2 })] := by decide +kernel
  have hcancelled : deliveryStatus (dispatching.follow ⟨assignedDelivery, cancelAndFail⟩ riderCancels) 1 =
      some .cancelled := by decide +kernel
  obtain ⟨d, hd, hs⟩ := Option.map_eq_some_iff.mp hcancelled
  obtain ⟨d', hd', hs'⟩ := (delivery_status_listed assignedDelivery_awaiting
    ((dispatching.start_all_run hstarts).trans (dispatching.follow_run_of hallows))).2
    (dispatching.follow_run_of hallows') 1 d hd (.inr (.inr hs))
  exact Option.map_eq_some_iff.mpr ⟨d', hd', hs'.trans hs⟩

end Superstore

import Superstore.Orders.Dispatch
import Superstore.Requests.Checked

/-!
# What whole requests do to orders on their way

A request of a store, a rider or a member of staff that nothing comes in between finds what it writes
the way it has read it. So much of what it checks holds of the orders and deliveries it changes.
-/

namespace Superstore

open Interleaving Relational.Tx
open Orders (DeliversOf Moving Notes)

namespace Dispatch

variable {s : Dispatch}

/-- What a request changes by being run as a whole, together with what it has found. -/
inductive Act (s : Dispatch) : Request Unit → Dispatch → Prop
  | moves {p : Request Unit} {s' : Dispatch} (h : Moves OrderStatus.Open (fun _ => False) s s') : Act s p s'
  | setStatus (actorId : ℕ) (reason : Option String) (o : Order) (h : OrderStatusHistory)
      (ho : s.orders.find h.orderId = some o) (hfrom : h.fromStatus = some o.currentStatus)
      (hmanaged : h.toStatus ∈ storeManagedOrderStatuses)
      (hnext : canTransitionOrder o.currentStatus h.toStatus) :
      Act s (Orders.setStatus actorId h.orderId h.toStatus reason) (s.write h)
  | completePacking (actorId storeId : ℕ) (o : Order) (h : OrderStatusHistory)
      (ho : s.orders.find h.orderId = some o) (hfrom : h.fromStatus = some o.currentStatus)
      (hpaid : o.currentStatus = .confirmed ∨ o.currentStatus = .preparing) (hto : h.toStatus = .readyForPickup) :
      Act s (Orders.completePacking actorId storeId h.orderId) (s.write h)
  | confirmPickup (riderId : ℕ) (token : String) (o : Order) (d : Delivery) (h : OrderStatusHistory) (i : ℕ)
      (f : Delivery → Delivery) (ho : s.orders.find h.orderId = some o)
      (hfrom : h.fromStatus = some o.currentStatus)
      (hready : o.currentStatus = .readyForPickup ∨ o.currentStatus = .riderAssigned) (hto : h.toStatus = .pickedUp)
      (hd : s.deliveries.first (fun _ d => d.orderId == h.orderId) = some (i, d))
      (hf : Delivery.Restates .pickedUp f) :
      Act s (Orders.confirmPickup riderId h.orderId token) ((s.write h).deliver i f)
  | confirmDelivery (riderId : ℕ) (token : String) (o : Order) (d : Delivery) (h h' : OrderStatusHistory) (i : ℕ)
      (f : Delivery → Delivery) (ho : s.orders.find h.orderId = some o)
      (hfrom : h.fromStatus = some o.currentStatus)
      (hout : o.currentStatus = .outForDelivery) (hto : h.toStatus = .delivered)
      (hd : s.deliveries.first (fun _ d => d.orderId == h.orderId) = some (i, d))
      (hf : Delivery.Restates .delivered f)
      (hid' : h'.orderId = h.orderId) (hfrom' : h'.fromStatus = some .delivered) (hto' : h'.toStatus = .completed) :
      Act s (Orders.confirmDelivery riderId h.orderId token) (((s.write h).deliver i f).write h')
  | updateStatus (riderId : ℕ) (status : DeliveryStatus) (location note : Option String) (o : Order) (d : Delivery)
      (i : ℕ) (f : Delivery → Delivery) (hd : s.deliveries.find i = some d) (hrider : d.riderId = some riderId)
      (hlisted : status ∈ allowedTransitions d.status) (hpicked : status ≠ .pickedUp)
      (hdelivered : status ≠ .delivered)
      (ho : s.orders.find d.orderId = some o) (hf : Delivery.Restates status f) :
      Act s (Orders.updateStatus riderId i status location note) (s.deliver i f)
  | moveOut (riderId : ℕ) (status : DeliveryStatus) (location note : Option String) (o : Order) (d : Delivery)
      (h : OrderStatusHistory) (i : ℕ) (f : Delivery → Delivery) (hd : s.deliveries.find i = some d)
      (hrider : d.riderId = some riderId) (hlisted : status ∈ allowedTransitions d.status)
      (hpicked : status ≠ .pickedUp) (hdelivered : status ≠ .delivered) (hopen : status ≠ .cancelled)
      (hid : h.orderId = d.orderId) (ho : s.orders.find h.orderId = some o)
      (hfrom : h.fromStatus = some o.currentStatus) (hnext : canTransitionOrder o.currentStatus .outForDelivery)
      (hto : h.toStatus = .outForDelivery) (hf : Delivery.Restates status f) :
      Act s (Orders.updateStatus riderId i status location note) ((s.deliver i f).write h)
  | updateOrderStatus (reason : String) (o : Order) (h : OrderStatusHistory)
      (ho : s.orders.find h.orderId = some o) (hfrom : h.fromStatus = some o.currentStatus)
      (hadmin : h.toStatus ∈ adminInterventionOrderStatuses)
      (hnext : canTransitionOrder o.currentStatus h.toStatus) :
      Act s (Orders.updateOrderStatus h.orderId h.toStatus reason) (s.write h)

end Dispatch

/-- Between two states of the world a request has acted, or left the orders on their way as they were;
it acts from one state only. -/
def Acts (s : Dispatch) (p : Request Unit) (w w' : World) : Prop :=
  dispatch w'.db = dispatch w.db ∨ dispatch w.db = s ∧ s.Act p (dispatch w'.db)

/-- Acting on orders, as one request does, is reflexive and transitive. -/
instance (s : Dispatch) (p : Request Unit) : IsPreorder World (Acts s p) where
  refl _ := .inl rfl
  trans w w₁ w' h h' := by
    rcases h with hsame | ⟨hs, hact⟩
    · rwa [Acts, ← hsame]
    · rcases h' with hsame' | ⟨hs', hact'⟩
      · exact .inr ⟨hs, hsame'.symm ▸ hact⟩
      · exact .inr ⟨hs, hact'⟩

/-- An operation that writes none of the tables of orders on their way. -/
def Op.aside {α : Type} (op : Op α) : Prop := ∀ n ∈ dispatchTables, n ∉ op.writes

/-- An operation aside from orders does nothing that a request is asked about. -/
theorem acts_of_aside {α : Type} {op : Op α} (hop : op.aside) (s : Dispatch) (p : Request Unit)
    (e : Env) (w : World) :
    Acts s p w (op.exec e w).2 := .inl (dispatch_congr fun n hn => exec_frame op e w n (hop n hn))

/-- What a program does after its act leaves the orders on their way as they are. -/
theorem acts_of_all {α : Type} {q : Request α} (h : q.All fun _ op => op.aside) (s : Dispatch) (p : Request Unit)
    (w : World) : q.Within machine (Acts s p) w :=
  Prog.All.within (h.imp fun _ _ hop e w => acts_of_aside hop s p e w) w

/-- An operation that fails, or does to the orders on their way what a request may do. -/
theorem acts_of_transaction {α : Type} {op : Op α} {m : Env → Tx α} (hop : op.transaction = some m)
    {p : Request Unit} {e : Env} {w : World} (h : wp w.db (m e) fun _ db' => (dispatch w.db).Act p (dispatch db')) :
    Acts (dispatch w.db) p w (op.exec e w).2 :=
  exec_transaction hop (Φ := fun w' => Acts (dispatch w.db) p w w') (.inl rfl) (wp_mono h fun _ _ hact =>
    .inr ⟨rfl, hact⟩)

/-- Notifications are not about orders on their way. -/
theorem notify_aside : Prog.All (fun _ op => op.aside) (call .notify : Request Unit) :=
  Prog.all_call _ |>.mpr fun _ _ => List.not_mem_nil

/-- A notification that is sent under a condition. -/
theorem onlyIf_notify_aside (c : Prop) [Decidable c] :
    Prog.All (fun _ op => op.aside) (onlyIf c (call .notify) : Request Unit) := by
  unfold onlyIf
  split
  · exact notify_aside
  · trivial

namespace Orders

/-- A status that the store sets is one of its acts. -/
theorem setStatus_acts (actorId id : ℕ) (status : OrderStatus) (reason : Option String) (w : World) :
    (setStatus actorId id status reason).Within machine
      (Acts (dispatch w.db) (setStatus actorId id status reason)) w := by
  refine within_selectOrThrow fun r hr => ?_
  obtain ⟨o, ho, rfl⟩ := Option.map_eq_some_iff.mp hr
  refine within_check fun _ => within_check fun _ => within_check fun hmanaged => within_check fun hnext => ?_
  refine .call_bind (fun e => ?_) fun updated w₁ => ?_
  · refine acts_of_transaction rfl (wp_mono (writeStatus_dispatch id o.currentStatus status actorId reason w.db) ?_)
    rintro _ db' ⟨h, ⟨rfl, hfrom, rfl⟩, hdb⟩
    rw [hdb]
    exact .setStatus actorId reason o h ho hfrom hmanaged hnext
  · exact acts_of_all (.bind notify_aside fun _ => onlyIf_notify_aside _) _ _ w₁

/-- Completing the packing is one of its acts. -/
theorem completePacking_acts (actorId storeId id : ℕ) (w : World) :
    (completePacking actorId storeId id).Within machine
      (Acts (dispatch w.db) (completePacking actorId storeId id)) w := by
  refine within_selectOrThrow fun _ _ => within_select <| within_check fun _ => ?_
  refine within_select <| within_check fun _ => within_selectOrThrow fun o ho => within_check fun hpaid => ?_
  refine .call_bind (fun e => ?_) fun _ w₁ => ?_
  · refine acts_of_transaction rfl (wp_mono (writePacked_dispatch id o.currentStatus actorId w.db) ?_)
    rintro _ db' ⟨h, ⟨rfl, hfrom, hto⟩, hdb⟩
    rw [hdb]
    exact .completePacking actorId storeId o h ho hfrom hpaid hto
  · exact acts_of_all (.bind notify_aside fun _ => notify_aside) _ _ w₁

/-- Confirming a pickup is one of its acts. -/
theorem confirmPickup_acts (riderId id : ℕ) (token : String) (w : World) :
    (confirmPickup riderId id token).Within machine (Acts (dispatch w.db) (confirmPickup riderId id token)) w := by
  refine within_selectOrThrow fun r hr => within_now fun now => within_read fun credentialId _ => ?_
  refine within_selectOrThrow fun _ _ => within_select <| within_check fun _ => within_check fun hready e => ?_
  have ho := find_of_riderOrder hr
  refine acts_of_transaction rfl
    (wp_mono (writePickup_dispatch e id r.1.currentStatus riderId credentialId w.db) ?_)
  rintro _ db' ⟨h, i, f, -, ⟨rfl, hfrom, hto⟩, ⟨⟨d, hfirst⟩, hf⟩, hdb⟩
  rw [hdb]
  exact .confirmPickup riderId token r.1 d h i f ho hfrom hready hto hfirst hf

/-- Confirming a delivery is one of its acts. -/
theorem confirmDelivery_acts (riderId id : ℕ) (token : String) (w : World) :
    (confirmDelivery riderId id token).Within machine
    (Acts (dispatch w.db) (confirmDelivery riderId id token)) w := by
  refine within_selectOrThrow fun r hr => within_now fun now => within_read fun credentialId _ => ?_
  have ho := find_of_riderOrder hr
  refine within_check fun hout => .call_bind (fun e => ?_) fun _ w₁ => ?_
  · refine acts_of_transaction rfl
      (wp_mono (writeDelivery_dispatch e id r.1 riderId credentialId r.2 w.db) ?_)
    rintro _ db' ⟨h, h', i, f, -, ⟨rfl, hfrom, hto⟩, ⟨hid', hfrom', hto'⟩, ⟨⟨d, hfirst⟩, hf⟩, hdb⟩
    rw [hdb]
    exact .confirmDelivery riderId token r.1 d h h' i f ho hfrom hout hto hfirst hf hid' hfrom' hto'
  · exact acts_of_all (.bind notify_aside fun _ => onlyIf_notify_aside _) _ _ w₁

/-- A status that the rider reports is one of its acts. -/
theorem updateStatus_acts (riderId deliveryId : ℕ) (status : DeliveryStatus) (location note : Option String)
    (w : World) : (updateStatus riderId deliveryId status location note).Within machine
      (Acts (dispatch w.db) (updateStatus riderId deliveryId status location note)) w := by
  refine within_selectOrThrow fun r hr => ?_
  simp only [deliveryWithOrder, Option.bind_eq_bind, Option.bind_eq_some_iff, Option.pure_def,
    Option.some.injEq] at hr
  obtain ⟨d, hd, o, ho, rfl⟩ := hr
  refine within_check fun hrider => within_check fun hlisted => within_check fun hpicked => ?_
  refine within_check fun hdelivered => within_check fun hnext e => ?_
  refine acts_of_transaction rfl (wp_mono (writeProgress_dispatch e deliveryId status d.orderId o.currentStatus
    riderId location note w.db) ?_)
  rintro _ db' ⟨f, hf, ⟨-, hdb⟩ | ⟨h, s, htarget, ⟨hid, hfrom, rfl⟩, hdb⟩⟩
  · rw [hdb]
    exact .updateStatus riderId status location note o d deliveryId f hd hrider hlisted hpicked hdelivered ho hf
  · obtain ⟨hsync, hne, -, hto⟩ := progressTarget_eq_some htarget
    rw [hsync, Option.all_some, Bool.or_eq_true, beq_iff_eq] at hnext
    have hopen : status ≠ .cancelled := by
      rintro rfl
      cases hsync
    rw [hdb]
    exact .moveOut riderId status location note o d h deliveryId f hd hrider hlisted hpicked hdelivered hopen hid
      (hid.symm ▸ ho) hfrom (hto ▸ hnext.resolve_left hne) hto hf

/-- An operation that reads the orders it writes, and is not an intervention, makes moves. -/
theorem acts_of_checked {α : Type} {op : Op α} (hchecked : op.checked) (hsets : ∀ s, op.sets s = false)
    (p : Request Unit) (e : Env) (w : World) : Acts (dispatch w.db) p w (op.exec e w).2 :=
  .inr ⟨rfl, .moves (respects_moving.exec hchecked op.open_of_calls
    (fun s hs => absurd hs (by rw [hsets]; decide)) e w)⟩

/-- Claiming a delivery is one of its acts. -/
theorem claim_acts (riderId deliveryId : ℕ) (offerId : Option ℕ) (p : Request Unit) (w : World) :
    (claim riderId deliveryId offerId).Within machine (Acts (dispatch w.db) p) w :=
  .call_bind (fun e => acts_of_checked rfl (fun _ => rfl) p e w) fun _ w₁ => acts_of_all notify_aside _ _ w₁

/-- A status that the staff set is one of its acts. -/
theorem updateOrderStatus_acts (id : ℕ) (status : OrderStatus) (reason : String) (w : World) :
    (updateOrderStatus id status reason).Within machine
      (Acts (dispatch w.db) (updateOrderStatus id status reason)) w := by
  refine .call_bind (fun e => ?_) fun _ w₁ => ?_
  · refine acts_of_transaction rfl (wp_mono (intervene_dispatch e id status reason w.db) ?_)
    rintro _ db' ⟨o, h, ho, hadmin, hnext, ⟨rfl, hfrom, rfl⟩, hdb⟩
    rw [hdb]
    exact .updateOrderStatus reason o h ho hfrom hadmin hnext
  · exact acts_of_all (.bind notify_aside fun _ => onlyIf_notify_aside _) _ _ w₁

end Orders

/-- A status request acts on the orders as it finds them. -/
theorem StatusRequest.within_acts {p : Request Unit} (h : StatusRequest p) (w : World) :
    p.Within machine (Acts (dispatch w.db) p) w := by
  cases h with
  | setStatus actorId id status reason => exact Orders.setStatus_acts _ _ _ _ w
  | completePacking actorId storeId id => exact Orders.completePacking_acts _ _ _ w
  | confirmPickup riderId id token => exact Orders.confirmPickup_acts _ _ _ w
  | confirmDelivery riderId id token => exact Orders.confirmDelivery_acts _ _ _ w
  | updateStatus riderId deliveryId status location note => exact Orders.updateStatus_acts _ _ _ _ _ w
  | claim riderId deliveryId => exact Orders.claim_acts _ _ _ _ w
  | accept riderId offerId => exact within_selectOrThrow fun _ _ => Orders.claim_acts _ _ _ _ w
  | updateOrderStatus id status reason => exact Orders.updateOrderStatus_acts _ _ _ w

/-- A program about payments or refunds makes moves only. -/
theorem Uses.moving {α : Type} {ks : List OpKind} {p : Request α} (h : Uses ks p)
    (hks : ∀ k ∈ OpKind.progress :: uncheckedKinds, k ∉ ks) (w : World) :
    p.Within machine (fun w w' => Moving OrderStatus.Open (fun _ => False) w.db w'.db) w := by
  have hpreorder : IsPreorder World fun w w' => Moving OrderStatus.Open (fun _ => False) w.db w'.db :=
    { refl := fun _ => .refl, trans := fun _ _ _ => .trans }
  refine Prog.All.within (h.imp fun _ op hop e w => ?_) w
  have hchecked : op.checked := by
    cases op <;> first | rfl | exact absurd hop (hks _ (by dsimp only [Op.kind]; decide))
  have hsets (s : OrderStatus) (hs : op.sets s) : False := by
    cases op <;> first | cases hs | exact absurd hop (hks _ (by dsimp only [Op.kind]; decide))
  exact Orders.respects_moving.exec hchecked op.open_of_calls hsets e w

/-- Whatever request is run as a whole: it acts on the orders as it finds them. -/
theorem StoreRequest.acts {p : Request Unit} (h : StoreRequest p) {w w' : World} {r : Except Error Unit}
    (hrun : p.Alone machine w r w') : (dispatch w.db).Act p (dispatch w'.db) := by
  cases h with
  | payment h => exact .moves ((Prog.wpAlone_iff _ _ _ _).mp (h.uses.moving (by decide) w) r w' hrun)
  | refund h => exact .moves ((Prog.wpAlone_iff _ _ _ _).mp (h.uses.moving (by decide) w) r w' hrun)
  | status h =>
    rcases (Prog.wpAlone_iff _ _ _ _).mp (h.within_acts w) r w' hrun with hsame | ⟨-, hact⟩
    · rw [hsame]
      exact .moves .refl
    · exact hact

end Superstore

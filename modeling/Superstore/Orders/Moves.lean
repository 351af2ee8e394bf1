import Mathlib.Logic.Relation
import Superstore.Checkout.Bnpl
import Superstore.Orders.Transactions
import Superstore.Payments.Klump

/-!
# How transactions move orders

Every transaction that reads an order before it writes its status follows the table of
transitions, and changes nothing else of the order. Five transactions are told by their
caller which status to write; they put the order into it whatever its status is by then.
-/

namespace Superstore

open Relational.Tx
open Payments (setCurrentStatus callOff)

/-- An order after any number of the table's transitions. -/
def Order.Moves (o o' : Order) : Prop :=
  o' = setCurrentStatus o'.currentStatus o ∧
    Relation.ReflTransGen (fun a b => canTransitionOrder a b) o.currentStatus o'.currentStatus

/-- Moving along the statuses of an order is reflexive and transitive. -/
instance : IsPreorder Order Order.Moves where
  refl _ := ⟨rfl, .refl⟩
  trans a b c hab hbc := by
    refine ⟨?_, hab.2.trans hbc.2⟩
    rw [hbc.1, hab.1]
    rfl

/-- One transition of the table. -/
theorem Order.Moves.single {o : Order} {s : OrderStatus} (h : canTransitionOrder o.currentStatus s) :
    o.Moves (setCurrentStatus s o) :=
  ⟨rfl, .single h⟩

/-- No transition leaves a terminal status. -/
theorem Order.Moves.terminal {o o' : Order} (h : o.Moves o') (ho : o.currentStatus.Terminal) :
    o'.currentStatus = o.currentStatus := by
  rcases Relation.ReflTransGen.cases_head h.2 with heq | ⟨s, hs, -⟩
  · exact heq.symm
  · exact absurd ho (not_terminal_of_canTransition hs)

/-- The orders move along the table. -/
def OrdersMove (db db' : Database) : Prop := (db .order).Evolves Order.Moves (db' .order)

/-- Moving orders along is reflexive and transitive. -/
instance : IsPreorder Database OrdersMove where
  refl db := .refl (db .order)
  trans _ _ _ := .trans

namespace Orders

/-! ## Statuses that the caller decides on -/

/-- The orders after one of them, or none, is put into a status whatever it was before. -/
def putStatus (target : Option (ℕ × OrderStatus)) (orders : Relational.Table Order) :
    Relational.Table Order :=
  target.elim orders fun x => orders.update x.1 (setCurrentStatus x.2)

/-- The last of two statuses is the one that an order is left in. -/
theorem putStatus_putStatus (id : ℕ) (s s' : OrderStatus) (orders : Relational.Table Order) :
    putStatus (some (id, s')) (putStatus (some (id, s)) orders) = putStatus (some (id, s')) orders :=
  Relational.Table.update_update orders id (setCurrentStatus s) (setCurrentStatus s')

/-- An update of the order, followed by writes to other tables. -/
theorem puts_update {id : ℕ} {s : OrderStatus} {α : Type} {f : Unit → Tx α} (db : Database)
    {ns : List TableName} (hf : ∀ u, Writes ns (f u)) (hns : TableName.order ∉ ns) :
    wp db (update .order id (setCurrentStatus s) >>= f)
      fun _ db' => db' .order = putStatus (some (id, s)) (db .order) := by
  rw [wp_bind, wp_update]
  exact fun _ _ => wp_mono (hf () _) fun _ db' h => h .order hns

/-- The store puts the order into the status that it names. -/
theorem writeStatus_puts (id : ℕ) (fromStatus status : OrderStatus) (actorId : ℕ)
    (reason : Option String) (db : Database) :
    wp db (writeStatus id fromStatus status actorId reason)
      fun _ db' => db' .order = putStatus (some (id, status)) (db .order) :=
  puts_update db (fun _ => .bind (.findOrThrow _ _) fun _ =>
    .bind (history_writes _ _ _ _ _) fun _ => .pure _) (by decide)

/-- Completing the packing puts the order up for pickup. -/
theorem writePacked_puts (id : ℕ) (fromStatus : OrderStatus) (actorId : ℕ) (db : Database) :
    wp db (writePacked id fromStatus actorId)
      fun _ db' => db' .order = putStatus (some (id, .readyForPickup)) (db .order) :=
  puts_update db (fun _ => history_writes _ _ _ _ _) (by decide)

/-- A hand-over credential that can still be used. -/
def usable (now credentialId : ℕ) (db : Database) : Bool :=
  ((db .orderQrCredential).find credentialId).any fun c =>
    c.status == "ACTIVE" && decide (now < c.expiresAt)

/-- Only a credential that can still be used is used up, and no order is touched. -/
theorem consumeCredential_usable (e : Env) (credentialId riderId : ℕ) (db : Database) :
    wp db (consumeCredential e credentialId riderId)
      fun _ db' => usable e.now credentialId db ∧ db' .order = db .order := by
  refine wp_and ?_ (wp_mono (consumeCredential_writes e credentialId riderId db)
    fun _ _ h => h .order (by decide))
  rw [consumeCredential, wp_bind, wp_updateMany, wp_require]
  intro hcount
  obtain ⟨c, hc⟩ := List.exists_mem_of_length_pos (Nat.pos_of_ne_zero hcount)
  obtain ⟨hfind, hp⟩ := Relational.Table.mem_many.mp hc
  simp only [Bool.and_eq_true, beq_iff_eq] at hp
  rw [usable, ← hp.1.1, hfind]
  simpa using ⟨hp.1.2, by simpa using hp.2⟩

/-- Confirming a pickup puts the order into the hands of the rider. -/
theorem writePickup_puts (e : Env) (id : ℕ) (fromStatus : OrderStatus)
    (riderId credentialId : ℕ) (db : Database) :
    wp db (writePickup e id fromStatus riderId credentialId) fun _ db' =>
      usable e.now credentialId db ∧ db' .order = putStatus (some (id, .pickedUp)) (db .order) := by
  rw [writePickup, wp_bind]
  refine wp_mono (consumeCredential_usable e _ _ db) fun _ db₁ ⟨husable, hsame⟩ => ?_
  have hns : TableName.order ∉ [TableName.delivery, .orderStatusHistory] := by decide
  refine wp_mono (puts_update db₁ (fun _ => ?_) hns) fun _ _ h => ⟨husable, hsame ▸ h⟩
  exact .bind ((updateDeliveryOf_writes _ _).mono (by decide)) fun _ =>
    (history_writes _ _ _ _ _).mono (by decide)

/-- A completed order has been completed whatever it was before. -/
theorem completeOrder_puts (e : Env) (orderId : ℕ) (order : Order) (changedById : Option ℕ)
    (reason : String) (db : Database) :
    wp db (completeOrder e orderId order changedById reason)
      fun _ db' => db' .order = putStatus (some (orderId, .completed)) (db .order) := by
  have hns : TableName.order ∉ .orderStatusHistory :: rewardTables := by decide
  exact puts_update db (fun _ => .bind ((history_writes _ _ _ _ _).mono (by decide)) fun _ =>
    (reward_writes _ _ _).mono (by decide)) hns

/-- Confirming a delivery leaves the order completed. -/
theorem writeDelivery_puts (e : Env) (id : ℕ) (order : Order)
    (riderId credentialId deliveryId : ℕ) (db : Database) :
    wp db (writeDelivery e id order riderId credentialId deliveryId) fun _ db' =>
      usable e.now credentialId db ∧ db' .order = putStatus (some (id, .completed)) (db .order) := by
  rw [writeDelivery, wp_bind]
  refine wp_mono (consumeCredential_usable e _ _ db) fun _ db₁ ⟨husable, hsame⟩ => ?_
  rw [wp_bind, wp_update]
  intro _ _
  rw [wp_bind]
  refine wp_mono (updateDeliveryOf_writes _ _ _) fun _ db₂ h₂ => ?_
  rw [wp_bind]
  refine wp_mono (Settlements.releaseRiderEarning_writes _ _ _) fun _ db₃ h₃ => ?_
  rw [wp_bind]
  refine wp_mono (history_writes _ _ _ _ _ _) fun _ db₄ h₄ => ?_
  refine wp_mono (completeOrder_puts e id _ _ _ db₄) fun _ db₅ h₅ => ⟨husable, ?_⟩
  have hdelivered : db₄ .order = putStatus (some (id, .delivered)) (db .order) := by
    rw [h₄ .order (by decide), h₃ .order (by decide), h₂ .order (by decide), ← hsame]
    rfl
  rw [h₅, hdelivered, putStatus_putStatus]

/-- The status that a rider's progress writes to the order, unless the order has it already. -/
def progressTarget (status : DeliveryStatus) (orderId : ℕ) (orderStatus : OrderStatus) :
    Option (ℕ × OrderStatus) :=
  ((synchronizedOrderStatus status).filter (orderStatus ≠ ·)).map fun s => (orderId, s)

/-- A rider's progress takes the order out for delivery, or leaves it alone. -/
theorem progressTarget_eq_some {status : DeliveryStatus} {orderId id : ℕ}
    {orderStatus s : OrderStatus} (h : progressTarget status orderId orderStatus = some (id, s)) :
    synchronizedOrderStatus status = some s ∧ orderStatus ≠ s ∧ id = orderId ∧
      s = .outForDelivery := by
  simp only [progressTarget, Option.map_eq_some_iff, Option.filter_eq_some_iff,
    decide_eq_true_eq, Prod.mk.injEq] at h
  obtain ⟨s, ⟨hs, hne⟩, rfl, rfl⟩ := h
  refine ⟨hs, hne, rfl, ?_⟩
  rw [synchronizedOrderStatus] at hs
  split at hs
  · exact (Option.some.inj hs).symm
  · cases hs

/-- The report of a rider puts the order into the status that goes with it. -/
theorem writeProgress_puts (e : Env) (deliveryId : ℕ) (status : DeliveryStatus) (orderId : ℕ)
    (orderStatus : OrderStatus) (riderId : ℕ) (location note : Option String) (db : Database) :
    wp db (writeProgress e deliveryId status orderId orderStatus riderId location note)
      fun _ db' => db' .order = putStatus (progressTarget status orderId orderStatus) (db .order) := by
  rw [writeProgress, wp_bind, wp_update]
  intro _ _
  rw [wp_bind, wp_create, progressTarget]
  cases synchronizedOrderStatus status with
  | none => exact (wp_pure _ _ _).mpr rfl
  | some s =>
    rw [wp_when]
    refine ⟨fun hne => ?_, fun heq => ?_⟩
    · have htarget : (some s).filter (orderStatus ≠ ·) = some s := by simp [hne]
      rw [htarget]
      exact wp_mono (puts_update _ (fun _ => history_writes _ _ _ _ _) (by decide))
        fun _ _ h => h
    · have htarget : (some s).filter (orderStatus ≠ ·) = none := by simp_all
      rw [htarget]
      rfl

/-- The claim of a delivery meets an order that is ready, and assigns it. -/
theorem claimDelivery_puts (e : Env) (riderId deliveryId : ℕ) (offerId : Option ℕ) (db : Database) :
    wp db (claimDelivery e riderId deliveryId offerId) fun _ db' => ∃ id o,
      (db .order).find id = some o ∧ o.currentStatus = .readyForPickup ∧
      db' .order = putStatus (some (id, .riderAssigned)) (db .order) := by
  rw [claimDelivery, wp_bind, wp_ofExcept]
  intro _ _
  rw [wp_bind, wp_find, wp_bind, wp_orThrow]
  intro current _
  rw [wp_bind, wp_require]
  intro _
  rw [wp_bind, wp_findOrThrow]
  intro order horder
  rw [wp_bind, wp_require]
  intro hready
  rw [wp_bind, wp_ofExcept]
  intro _ _
  rw [wp_bind]
  refine wp_mono (Writes.updateMany (List.mem_singleton_self .delivery) _ _ db)
    fun _ db₁ hsame => ?_
  have horder₁ : db₁ .order = db .order := hsame _ (by decide)
  rw [wp_bind, wp_require]
  intro _
  rw [wp_bind, wp_updateMany, wp_bind, wp_require]
  intro _
  have hrest : Writes ([.deliveryOffer, .orderStatusHistory] ++ Settlements.riderTables) (do
      acceptOffer deliveryId riderId offerId
      let _ ← updateMany .deliveryOffer
        (fun _ o => o.deliveryId == deliveryId && o.riderId != riderId && o.status == "PENDING")
        fun o => { o with status := "EXPIRED" }
      history current.orderId order.currentStatus .riderAssigned (some riderId)
        (some "Rider claimed the available delivery job.")
      Settlements.holdRiderEarning deliveryId
      findOrThrow .delivery deliveryId) :=
    .bind ((acceptOffer_writes _ _ _).mono (by decide)) fun _ =>
      .bind (.updateMany (by decide) _ _) fun _ =>
      .bind ((history_writes _ _ _ _ _).mono (by decide)) fun _ =>
      .bind ((Settlements.holdRiderEarning_writes _).mono (by decide)) fun _ => .findOrThrow _ _
  refine wp_mono (hrest _) fun _ db' hsame' => ⟨current.orderId, order, horder, hready, ?_⟩
  rw [hsame' _ (by decide), Relational.Database.set_self, horder₁]
  refine Relational.Table.updateMany_eq_update horder ?_ ?_ _
  · simp [hready]
  · intro j o _ hj
    rw [Bool.and_eq_true, beq_iff_eq] at hj
    exact hj.1

/-- Staff move an order along the table only, and neither confirm nor cancel it. -/
theorem intervene_puts (e : Env) (orderId : ℕ) (status : OrderStatus) (reason : String)
    (db : Database) :
    wp db (intervene e orderId status reason) fun _ db' => ∃ o,
      (db .order).find orderId = some o ∧ status ∈ adminInterventionOrderStatuses ∧
      canTransitionOrder o.currentStatus status ∧
      db' .order = putStatus (some (orderId, status)) (db .order) := by
  rw [intervene, wp_bind, wp_find, wp_bind, wp_orThrow]
  intro order horder
  rw [wp_bind, wp_require]
  intro hadmin
  rw [wp_bind, wp_require]
  intro hnext
  refine wp_mono (Q := fun _ db' => db' .order = putStatus (some (orderId, status)) (db .order)) ?_
    fun _ _ hput => ⟨order, horder, hadmin, hnext, hput⟩
  have hread (db₁ : Database) (h : db₁ .order = putStatus (some (orderId, status)) (db .order)) :
      wp db₁ (findOrThrow .order orderId)
        fun _ db' => db' .order = putStatus (some (orderId, status)) (db .order) :=
    (wp_findOrThrow _ _ _ _).mpr fun _ _ => h
  rw [wp_bind]
  split
  · next hcompleted =>
    subst hcompleted
    rw [wp_bind]
    exact wp_mono (completeOrder_puts e _ _ _ _ db) fun _ db₁ h => (wp_pure _ _ _).mpr (hread db₁ h)
  · exact wp_mono (puts_update db (fun _ => history_writes _ _ _ _ _) (by decide)) fun _ => hread

/-! ## Relations that the transactions respect -/

/-- The tables of orders and of what is issued, scheduled and held for them. -/
def goodsTables : List TableName :=
  [.order, .storeProduct, .delivery, .orderQrCredential, .orderStatusHistory, .riderEarning, .riderProfile]

/-- A relation between databases that is about these tables only, and that is kept by the ways in
which transactions write them: placing an order, confirming it, calling it off in the statuses `calls`,
assigning its delivery, and the intervention of staff to put it into one of the statuses `sets`. -/
structure Respects (calls sets : OrderStatus → Prop) (R : Database → Database → Prop) : Prop where
  frame : ∀ db db', (∀ n ∈ goodsTables, db' n = db n) → R db db'
  placeOrder : ∀ (e : Env) (userId : ℕ) (q : Quote) (order : QuoteOrder × ℕ),
    Within R (Checkout.placeOrder e userId q order)
  confirmOrder : ∀ (e : Env) (userId : ℕ) (a : Allocation), Within R (Payments.confirmOrder e userId a)
  callOff : ∀ {now orderId : ℕ} {order : Order} {history : OrderStatusHistory} {db : Database},
    (db .order).find orderId = some order → calls order.currentStatus →
    history.orderId = orderId → history.fromStatus = some order.currentStatus →
    history.toStatus = .cancelled → wp db (callOff now orderId order history) fun _ db' => R db db'
  claimDelivery : ∀ (e : Env) (riderId deliveryId : ℕ) (offerId : Option ℕ),
    Within R (Orders.claimDelivery e riderId deliveryId offerId)
  intervene : ∀ (e : Env) (orderId : ℕ) (status : OrderStatus) (reason : String), sets status →
    Within R (Orders.intervene e orderId status reason)

namespace Respects

variable {calls sets : OrderStatus → Prop}

/-- Two relations are respected together. -/
theorem and {R S : Database → Database → Prop} (hR : Respects calls sets R) (hS : Respects calls sets S) :
    Respects calls sets fun db db' => R db db' ∧ S db db' where
  frame db db' hsame := ⟨hR.frame db db' hsame, hS.frame db db' hsame⟩
  placeOrder e userId q order db :=
    wp_and (hR.placeOrder e userId q order db) (hS.placeOrder e userId q order db)
  confirmOrder e userId a db := wp_and (hR.confirmOrder e userId a db) (hS.confirmOrder e userId a db)
  callOff horder h hid hfrom hto :=
    wp_and (hR.callOff horder h hid hfrom hto) (hS.callOff horder h hid hfrom hto)
  claimDelivery e riderId deliveryId offerId db :=
    wp_and (hR.claimDelivery e riderId deliveryId offerId db) (hS.claimDelivery e riderId deliveryId offerId db)
  intervene e orderId status reason hsets db :=
    wp_and (hR.intervene e orderId status reason hsets db) (hS.intervene e orderId status reason hsets db)

/-- What is respected may be weakened. -/
theorem mono {R S : Database → Database → Prop} (hR : Respects calls sets R)
    (h : ∀ db db', R db db' → S db db') : Respects calls sets S where
  frame db db' hsame := h _ _ (hR.frame db db' hsame)
  placeOrder e userId q order db := wp_mono (hR.placeOrder e userId q order db) fun _ _ => h _ _
  confirmOrder e userId a db := wp_mono (hR.confirmOrder e userId a db) fun _ _ => h _ _
  callOff horder hs hid hfrom hto := wp_mono (hR.callOff horder hs hid hfrom hto) fun _ _ => h _ _
  claimDelivery e riderId deliveryId offerId db :=
    wp_mono (hR.claimDelivery e riderId deliveryId offerId db) fun _ _ => h _ _
  intervene e orderId status reason hsets db :=
    wp_mono (hR.intervene e orderId status reason hsets db) fun _ _ => h _ _

variable {R : Database → Database → Prop} [IsPreorder Database R] (h : Respects calls sets R)

include h

omit [IsPreorder Database R] in
/-- A transaction that writes none of these tables. -/
theorem of_writes {α : Type} {ns : List TableName} {m : Tx α} (hm : Writes ns m)
    (hns : ∀ n ∈ goodsTables, n ∉ ns) : Within R m :=
  .of_writes hm fun db db' hsame => h.frame db db' fun n hn => hsame n (hns n hn)

/-- Finishing a group confirms the orders that were received. -/
theorem completeGroup (e : Env) (id : ℕ) : Within R (Payments.completeGroup e id) := by
  refine .bind (.of_reads (.findOrThrow _ _)) fun group => .when ?_
  refine .bind (.of_reads (.require _ _)) fun _ => ?_
  refine .bind (.forM fun a _ => h.confirmOrder e _ a) fun _ => ?_
  refine .bind (h.of_writes (Cart.consume_writes _ _ _) (by decide)) fun _ => ?_
  exact h.of_writes (.update (List.mem_singleton_self _) _ _) (by decide)

omit [IsPreorder Database R] in

/-- Releasing an order is respected. -/
theorem releaseOrder (hcalls : calls .orderReceived) (e : Env) (a : Allocation) :
    Within R (Payments.releaseOrder e a) := by
  intro db
  rw [Payments.releaseOrder, wp_bind, wp_findOrThrow]
  intro order horder
  rw [wp_bind, wp_require]
  intro hreceived
  exact h.callOff horder (by rw [hreceived]; exact hcalls) rfl (by rw [hreceived]) rfl

/-- Giving up a group cancels its orders, which were all received. -/
theorem failGroup (hcalls : calls .orderReceived) (e : Env) (id : ℕ) : Within R (Payments.failGroup e id) := by
  refine .bind (.of_reads (.findOrThrow _ _)) fun group => .when ?_
  refine .bind (.of_reads (.require _ _)) fun _ => ?_
  exact .bind (.forM fun a _ => h.releaseOrder hcalls e a) fun _ =>
    h.of_writes (.update (List.mem_singleton_self _) _ _) (by decide)

/-- Finishing a payment is respected. -/
theorem finalizePayment (hcalls : calls .orderReceived) (e : Env) (paymentId : ℕ) (groups : List (ℕ × ℕ))
    (success : Bool) : Within R (Payments.finalizePayment e paymentId groups success) := by
  have hlock : Writes Cart.tables (groups.forM fun g => do let _ ← Cart.lock g.2; pure ()) :=
    .forM fun g _ => .bind (Cart.lock_writes _) fun _ => .pure ()
  have hpayment (f : Payment → Payment) : Within R (update .payment paymentId f) :=
    h.of_writes (.update (List.mem_singleton_self _) _ _) (by decide)
  refine .bind (h.of_writes hlock (by decide)) fun _ => ?_
  refine .bind (.of_reads (.findOrThrow _ _)) fun current => ?_
  split
  · exact .pure _
  · split
    · split
      · exact h.of_writes (Payments.acceptLatePayment_writes e _) (by decide)
      · exact .pure _
    · split
      · exact .bind (hpayment _) fun _ => .bind (.forM fun g _ => h.completeGroup e g.1) fun _ =>
          .pure _
      · exact .bind (hpayment _) fun _ => .bind (.forM fun g _ => h.failGroup hcalls e g.1) fun _ => .pure _

/-- Completing groups that were left over is respected. -/
theorem completeIncomplete (e : Env) (groups : List (ℕ × ℕ)) :
    Within R (Payments.completeIncomplete e groups) :=
  .forM fun g _ => .bind (h.of_writes (Cart.lock_writes g.2) (by decide)) fun _ =>
    h.completeGroup e g.1

/-- Cancelling a group is respected. -/
theorem cancelGroup (hcalls : calls .orderReceived) (e : Env) (userId id : ℕ) :
    Within R (Payments.cancelGroup e userId id) :=
  .bind (h.of_writes (Cart.lock_writes userId) (by decide)) fun _ =>
    .bind (.of_reads (.find _ _)) fun _ => .bind (.of_reads (.orThrow _ _)) fun _ =>
    .bind (.of_reads (.query _)) fun _ => .bind (.of_reads (.require _ _)) fun _ =>
    .when (.bind (h.of_writes (Payments.failPayment_writes _) (by decide)) fun _ =>
      h.failGroup hcalls e id)

/-- Completing a transaction of Klump is respected. -/
theorem completeTransaction (e : Env) (id : ℕ) (transaction : KlumpTransaction)
    (providerReference : String) :
    Within R (Klump.completeTransaction e id transaction providerReference) :=
  .bind (.of_reads (.findOrThrow _ _)) fun _ => .bind (.of_reads (.require _ _)) fun _ =>
    .bind (.when (.bind (h.of_writes (.update (List.mem_singleton_self _) _ _) (by decide)) fun _ =>
      h.completeGroup e _)) fun _ =>
    h.of_writes (.update (List.mem_singleton_self _) _ _) (by decide)

/-- Paying at once is respected. -/
theorem payAtOnce (e : Env) (userId groupId : ℕ) (q : Quote) (method : PaymentMethod)
    (credit : Option Checkout.Credit) :
    Within R (Checkout.payAtOnce e userId groupId q method credit) :=
  .bind (.when (h.of_writes (Checkout.debitWallet_writes _ _ _) (by decide))) fun _ =>
    .bind (h.of_writes (.createUnique (List.mem_singleton_self _) _ _) (by decide))
      fun _ =>
    .bind (h.of_writes (.update (List.mem_singleton_self _) _ _) (by decide)) fun _ =>
    h.completeGroup e groupId

/-- Placing a checkout is respected. -/
theorem placeCheckout (e : Env) (userId cartId : ℕ) (input : CreateCheckoutDto) (q : Quote)
    (credit : Option Checkout.Credit) :
    Within R (Checkout.placeCheckout e userId cartId input q credit) :=
  .bind (.mapM fun order _ => h.placeOrder e userId q order) fun _ =>
    .bind (.of_reads (.ofExcept _)) fun _ =>
    .bind (h.of_writes (.createUnique (List.mem_singleton_self _) _ _) (by decide))
      fun _ =>
    .bind (.when (h.payAtOnce _ _ _ _ _ _)) fun _ => .pure _

/-- A checkout adds orders, and confirms them where it is paid at once. -/
theorem createInTransaction (e : Env) (userId : ℕ) (input : CreateCheckoutDto)
    (credit : Option Checkout.Credit) :
    Within R (Checkout.createInTransaction e userId input credit) := by
  refine .bind (h.of_writes (Cart.lock_writes userId) (by decide)) fun cart => ?_
  refine .bind (.of_reads (.require _ _)) fun _ => .bind (.of_reads (.first _ _)) fun pending => ?_
  cases pending with
  | some pending => exact .bind (.of_reads (.require _ _)) fun _ => .pure _
  | none =>
    refine .bind (.of_reads (.query _)) fun _ => .bind (.of_reads (.ofExcept _)) fun q => ?_
    refine .bind (.of_reads (.require _ _)) fun _ => ?_
    exact .bind (h.placeCheckout _ _ _ _ _ _) fun _ =>
      .bind (.of_reads (.findOrThrow _ _)) fun _ => .pure _

/-- Confirming an application is respected. -/
theorem confirm (e : Env) (userId id : ℕ) : Within R (Checkout.confirm e userId id) := by
  refine .bind (.of_reads (.find _ _)) fun _ => .bind (.of_reads (.orThrow _ _)) fun app => ?_
  split
  · exact .pure _
  · refine .bind (.of_reads (.require _ _)) fun _ => .bind (.of_reads (.findOrThrow _ _)) fun _ => ?_
    refine .bind (.of_reads (.require _ _)) fun _ => ?_
    refine .bind (h.createInTransaction _ _ _ _) fun _ => ?_
    refine .bind (h.of_writes (.update (List.mem_singleton_self _) _ _) (by decide))
      fun _ => ?_
    exact .bind (h.of_writes (Checkout.createInstallments_writes _ _) (by decide))
      fun _ => .pure _

/-- A customer's cancellation meets an order that is confirmed or being prepared. -/
theorem cancel (hconfirmed : calls .confirmed) (hpreparing : calls .preparing) (e : Env) (userId id : ℕ)
    (reason : String) : Within R (Orders.cancel e userId id reason) := by
  intro db
  rw [Orders.cancel, wp_bind, wp_find, wp_bind, wp_orThrow]
  intro order horder
  obtain ⟨horder, -⟩ := Option.filter_eq_some_iff.mp horder
  rw [wp_bind, wp_require]
  intro hstatus
  refine Within.after (h.callOff horder ?_ rfl rfl rfl) fun _ => ?_
  · rcases hstatus with hs | hs <;> rw [hs]
    exacts [hconfirmed, hpreparing]
  · refine .bind (.of_reads (.query _)) fun _ => .bind (.of_reads (.orThrow _ _)) fun _ => ?_
    refine .bind (.of_reads (.query _)) fun _ => ?_
    refine .bind (.when (h.of_writes (Payments.creditWallet_writes _ _ _) (by decide)))
      fun _ => ?_
    refine .bind (h.of_writes (noteRefund_writes _ _ _ _ _ _ _ _ _) (by decide))
      fun _ => ?_
    refine .bind (.when (h.of_writes (syncInTransaction_writes _) (by decide)))
      fun _ => ?_
    refine .bind (h.of_writes (reverseSettlement_writes _ _) (by decide)) fun _ => ?_
    exact .bind (h.of_writes (.updateMany (List.mem_singleton_self _) _ _) (by decide))
      fun _ => .pure _

end Respects

/-! ## Relations about orders and stock -/

section OfMoves

variable {R : Database → Database → Prop} [IsPreorder Database R]
  (hframe : ∀ db db', db' .order = db .order → db' .storeProduct = db .storeProduct → R db db')
  (hmove : ∀ {db : Database} {id : ℕ} {order : Order} {status : OrderStatus},
    (db .order).find id = some order → canTransitionOrder order.currentStatus status →
    status ≠ .cancelled → R db (db.set .order ((db .order).update id (setCurrentStatus status))))

include hframe hmove

/-- A transition of the table, by an operation that writes no stock. -/
theorem within_of_puts {α : Type} {m : Tx α} {db : Database} (hwrites : Writes progressTables m)
    (hputs : wp db m fun _ db' => ∃ id o s, (db .order).find id = some o ∧
      canTransitionOrder o.currentStatus s ∧ s ≠ .cancelled ∧
      db' .order = putStatus (some (id, s)) (db .order)) : wp db m fun _ db' => R db db' := by
  refine wp_mono (wp_and (hwrites db) hputs) fun _ db' ⟨hsame, id, o, s, ho, hnext, hs, hput⟩ => ?_
  refine trans_of R (hmove ho hnext hs) (hframe _ db' ?_ ?_)
  · rw [hput, Relational.Database.set_self]
    rfl
  · rw [hsame _ (by decide), Relational.Database.set_of_ne _ _ (by decide)]

/-- Confirming an order is respected. -/
theorem within_confirmOrder (e : Env) (userId : ℕ) (a : Allocation) :
    Within R (Payments.confirmOrder e userId a) := by
  intro db
  have hwrites {α : Type} {ns : List TableName} {m : Tx α} (hm : Writes ns m)
      (horder : TableName.order ∉ ns) (hstock : TableName.storeProduct ∉ ns) : Within R m :=
    .of_writes hm fun db db' hsame => hframe db db' (hsame _ horder) (hsame _ hstock)
  rw [Payments.confirmOrder, wp_bind, wp_findOrThrow]
  intro order horder
  refine Within.after ?_ fun _ => .bind (.of_reads (.require _ _)) fun _ => ?_
  · rw [wp_when]
    refine ⟨fun hreceived => Within.after ?_ fun _ => ?_, fun _ => refl_of R db⟩
    · rw [wp_update]
      exact fun _ _ => hmove horder (by rw [hreceived]; decide) (by decide)
    · refine .bind (hwrites (.create (List.mem_singleton_self _) _) (by decide) (by decide)) fun _ => ?_
      exact hwrites (Settlements.settleOrder_writes e _) (by decide) (by decide)
  · exact .bind (hwrites (.firstOrCreate (List.mem_singleton_self _) _ _) (by decide) (by decide))
      fun _ => .pure _

/-- A relation about orders and stock is respected where it is kept by a transition of the table, by
calling an order off and by placing one. -/
theorem respects_of_moves
    (hcallOff : ∀ {now orderId : ℕ} {order : Order} {history : OrderStatusHistory} {db : Database},
      (db .order).find orderId = some order → canTransitionOrder order.currentStatus .cancelled →
      wp db (callOff now orderId order history) fun _ db' => R db db')
    (hplace : ∀ (e : Env) (userId : ℕ) (q : Quote) (order : QuoteOrder × ℕ),
      Within R (Checkout.placeOrder e userId q order)) : Respects OrderStatus.Open (fun _ => True) R where
  frame db db' hsame := hframe db db' (hsame _ (by decide)) (hsame _ (by decide))
  placeOrder := hplace
  confirmOrder := within_confirmOrder hframe hmove
  callOff horder h _ _ _ := hcallOff horder h.canTransition
  claimDelivery e riderId deliveryId offerId db := by
    refine within_of_puts hframe hmove ((claimDelivery_writes e _ _ _).mono (by decide))
      (wp_mono (claimDelivery_puts e _ _ _ db) ?_)
    rintro _ _ ⟨id, o, ho, hready, hput⟩
    exact ⟨id, o, _, ho, by rw [hready]; decide, by decide, hput⟩
  intervene e orderId status reason _ db := by
    refine within_of_puts hframe hmove ((intervene_writes e _ _ _).mono (by decide))
      (wp_mono (intervene_puts e _ _ _ db) ?_)
    rintro _ _ ⟨o, ho, hadmin, hnext, hput⟩
    exact ⟨orderId, o, status, ho, hnext, (managed_not_financial (.inr hadmin)).2.2, hput⟩

end OfMoves

/-- Calling off an order that may be cancelled is a transition of the table. -/
theorem callOff_moves {now orderId : ℕ} {order : Order} {history : OrderStatusHistory}
    {db : Database} (horder : (db .order).find orderId = some order)
    (h : canTransitionOrder order.currentStatus .cancelled) :
    wp db (callOff now orderId order history) fun _ db' => OrdersMove db db' := by
  have hshelf : Writes [.storeProduct] (order.items.forM Payments.restock) :=
    .forM fun item _ => Payments.restock_writes item
  rw [callOff, wp_bind]
  refine wp_mono (hshelf db) fun _ db₁ hsame => ?_
  have horder₁ : db₁ .order = db .order := hsame .order (by decide)
  refine wp_mono (Q := fun _ db' => (db₁ .order).Evolves Order.Moves (db' .order)) ?_
    fun _ db' h' => by rwa [OrdersMove, ← horder₁]
  refine Evolves.after (Evolves.update_of_find fun o ho => ?_) fun _ => ?_
  · obtain rfl : order = o := Option.some.inj (horder.symm.trans (horder₁ ▸ ho))
    exact .single h
  · refine .bind (.updateMany_of_ne (by decide) _ _) fun _ => ?_
    refine .bind (.updateMany_of_ne (by decide) _ _) fun _ => ?_
    refine .bind (.updateMany_of_ne (by decide) _ _) fun _ => ?_
    exact .bind (.create_of_ne (by decide) _) fun _ => .pure _

/-- Placing an order moves no other order. -/
theorem placeOrder_moves (e : Env) (userId : ℕ) (q : Quote) (order : QuoteOrder × ℕ) :
    Evolves .order Order.Moves (Checkout.placeOrder e userId q order) := by
  refine .bind (.forM fun item _ => .bind (.of_reads (.query _)) fun _ =>
    .bind (.updateMany_of_ne (by decide) _ _) fun _ => .of_reads (.require _ _)) fun _ => ?_
  refine .bind (.createUnique _ _) fun _ => .bind (.create_of_ne (by decide) _) fun _ => ?_
  split
  · exact .bind (.create_of_ne (by decide) _) fun _ => .pure _
  · exact .bind (.create_of_ne (by decide) _) fun _ => .pure _

/-- The transactions that read an order before they write it move it along the table. -/
theorem respects_ordersMove : Respects OrderStatus.Open (fun _ => True) OrdersMove := by
  refine respects_of_moves (fun _ _ horder _ => ?_) (fun horder h _ => ?_) callOff_moves placeOrder_moves
  · rw [OrdersMove, horder]
    exact .refl _
  · rw [OrdersMove, Relational.Database.set_self]
    refine .update fun o ho => ?_
    obtain rfl := Option.some.inj (horder.symm.trans ho)
    exact .single h

end Orders

end Superstore

import Superstore.Books.Requests
import Superstore.Relational.Errors

/-!
# No unpaid fulfilment

Whatever is interleaved, an order that has left its first status without being cancelled
belongs to a paid group, and the orders of a group that is still open wait in their first
status. So neither end of a checkout meets an order that it cannot take along.
-/

namespace Superstore

open Interleaving Relational.Tx

/-- A store before its first checkout: none of the tables that requests own has a row. -/
def Fresh (w : World) : Prop := ∀ n ∈ ownedTables, ∀ i, (w.db n).find i = none

/-- The books of a store before its first checkout are consistent. -/
theorem Fresh.consistent {w : World} (h : Fresh w) : Consistent (books w.db) := by
  have horder (k : ℕ) : (books w.db).order k = none := by simp [books, h .order (by decide) k]
  have hgroup (i : ℕ) : (books w.db).group i = none := by
    simp [books, h .checkoutPaymentGroup (by decide) i]
  have hklump (k : ℕ) : (books w.db).klump k = none := by
    simp [books, h .klumpTransaction (by decide) k]
  have hrefund (k : ℕ) : (books w.db).refund k = none := by simp [books, h .refund (by decide) k]
  constructor <;> intros <;> simp_all

namespace Payments

/-- The error of a completion that meets a cancelled order. -/
abbrev cancelledOrder : Error := .conflict "Cancelled order cannot be finalized as paid."

/-- The error of a release that meets an order that is under way. -/
abbrev startedOrder : Error := .conflict "Order cannot be released automatically."

/-- The orders that are still to come have the status that every order begins with. -/
def Waiting (as : List Allocation) (db : Database) : Prop :=
  (as.map Allocation.orderId).Nodup ∧ ∀ a ∈ as, (books db).orderStatus a.orderId = .orderReceived

/-- Orders still wait when only another one has been written. -/
theorem Waiting.rest {a : Allocation} {as : List Allocation} {db db' : Database}
    (h : Waiting (a :: as) db)
    (hother : ∀ i, i ≠ a.orderId → (books db').orderStatus i = (books db).orderStatus i) : Waiting as db' := by
  obtain ⟨hnodup, hwait⟩ := h
  rw [List.map_cons, List.nodup_cons] at hnodup
  refine ⟨hnodup.2, fun b hb => ?_⟩
  have hne : b.orderId ≠ a.orderId := fun heq => hnodup.1 (heq ▸ List.mem_map_of_mem hb)
  rw [hother _ hne]
  exact hwait b (List.mem_cons_of_mem _ hb)

/-- An order that waits has been received. -/
theorem Waiting.received {a : Allocation} {as : List Allocation} {db : Database} {o : Order}
    (h : Waiting (a :: as) db) (ho : (db .order).find a.orderId = some o) :
    o.currentStatus = .orderReceived :=
  (books_order ho).2.symm.trans (h.2 a List.mem_cons_self)

/-! ## Completing a group -/

/-- Money is refused with a message of its own. -/
theorem money_ne (value : ℚ) (m : String) : money value ≠ .error (.conflict m) := by
  unfold money
  split <;> exact fun h => by cases h

/-- Reading a rate never fails with a conflict. -/
theorem getRate_spares (e : Env) (key : String) (m : String) :
    Spares (.conflict m) (Settlements.getRate e key) := by
  refine .bind (.query _) fun row => .bind (.ofExcept ?_) fun _ => ?_
  · split <;> exact fun h => by cases h
  · exact .bind (.require _ fun h => by cases h) fun _ => .pure _

/-- Holding a fee never fails with a conflict. -/
theorem holdRiderEarning_spares (deliveryId : ℕ) (m : String) :
    Spares (.conflict m) (Settlements.holdRiderEarning deliveryId) := by
  refine .bind (.query _) fun delivery => ?_
  split
  · refine .bind (.findOrThrow _ _ fun h => by cases h) fun order => .bind (.query _) fun _ => ?_
    refine .bind (.query _) fun _ => .bind (.query _) fun profile => ?_
    cases profile with
    | none => exact .pure ()
    | some profile =>
      exact .when (.bind (.firstOrCreate _ _ _) fun _ => .bind (.create _ _) fun _ =>
        .bind (.createUnique _ _ _ fun h => by cases h) fun _ => .pure ())
  · exact .pure ()

/-- A settlement never fails with a conflict. -/
theorem settleOrder_spares (e : Env) (orderId : ℕ) (m : String) :
    Spares (.conflict m) (Settlements.settleOrder e orderId) := by
  refine .bind (.findOrThrow _ _ fun h => by cases h) fun order => .bind (.query _) fun _ => .when ?_
  refine .bind (getRate_spares e _ m) fun _ => .bind (getRate_spares e _ m) fun _ => ?_
  refine .bind (getRate_spares e _ m) fun _ => .bind (.require _ fun h => by cases h) fun _ => ?_
  refine .bind (.ofExcept (money_ne _ m)) fun _ => .bind (.ofExcept (money_ne _ m)) fun _ => ?_
  refine .bind (.ofExcept (money_ne _ m)) fun _ => .bind (.require _ fun h => by cases h) fun _ => ?_
  refine .bind (.firstOrCreate _ _ _) fun _ => .bind (.createUnique _ _ _ fun h => by cases h) fun _ => ?_
  refine .bind (.update _ _ _ fun h => by cases h) fun _ => .bind (.query _) fun delivery => ?_
  cases delivery with
  | none => exact .pure ()
  | some delivery => exact holdRiderEarning_spares _ m

/-- Consuming a cart never fails with a conflict. -/
theorem consume_spares (userId now : ℕ) (snapshot : List CartSnapshotLine) (m : String) :
    Spares (.conflict m) (Cart.consume userId now snapshot) := by
  have hupdate (n : TableName) (i : ℕ) (f : Row n → Row n) : Spares (.conflict m) (update n i f) :=
    .update _ _ _ fun h => by cases h
  refine .bind (.query _) fun active => ?_
  cases active with
  | none => exact .pure ()
  | some cart =>
    refine .bind (.forM fun line => .bind (.query _) fun item => ?_) fun _ => ?_
    · cases item with
      | none => exact .pure ()
      | some item =>
        dsimp only
        split
        · exact .pure ()
        · split
          · exact .deleteMany _ _
          · exact hupdate _ _ _
    · refine .bind (.bind (.query _) fun _ => hupdate _ _ _) fun _ =>
        .bind (.bind (.query _) fun applied => ?_) fun _ =>
        .bind (.query _) fun applied => ?_
      · cases applied with
        | none => exact .pure ()
        | some applied => exact .bind (.updateMany _ _ _) fun _ => .deleteMany _ _
      · cases applied with
        | none => exact .pure ()
        | some applied => exact .bind (hupdate _ _ _) fun _ => .deleteMany _ _

/-- Waiting orders are confirmed without meeting a cancelled one. -/
theorem confirmOrders_avoid (e : Env) (userId : ℕ) (as : List Allocation) {db : Database}
    (h : Waiting as db) : Avoids cancelledOrder db (as.forM (confirmOrder e userId)) := by
  refine .forM (P := Waiting) (fun a as db hwait => ⟨?_, ?_⟩) as h
  · refine .bind (Spares.findOrThrow _ _ (fun h => by cases h) db) ((wp_findOrThrow _ _ _ _).mpr fun o ho => ?_)
    refine .bind (Spares.when (.bind (.update _ _ _ fun h => by cases h) fun _ => .bind (.create _ _) fun _ =>
      settleOrder_spares e _ _) db) fun _ db' _ => ?_
    refine .bind (.require fun hcancelled => absurd ?_ hcancelled) fun _ db' _ => ?_
    · rw [hwait.received ho]
      decide
    · exact Spares.bind (.firstOrCreate _ _ _) (fun _ => .pure _) db'
  · refine wp_mono (confirmOrder_confirms e userId a db) fun _ db' hconfirms => hwait.rest fun i hi => ?_
    rw [hconfirms.books]
    exact if_neg fun hmem => hi (List.mem_singleton.mp hmem.1)

/-- A group whose orders wait is completed without meeting a cancelled order. -/
theorem completeGroup_avoids (e : Env) {id : ℕ} {g : CheckoutPaymentGroup} {db : Database}
    (hg : (db .checkoutPaymentGroup).find id = some g)
    (h : g.status ≠ .failed → Waiting g.allocations db) :
    Avoids cancelledOrder db (completeGroup e id) := by
  refine .bind (Spares.findOrThrow _ _ (fun h => by cases h) db) ((wp_findOrThrow _ _ _ _).mpr fun g' hg' => ?_)
  obtain rfl := Option.some.inj (hg.symm.trans hg')
  refine .when fun _ => .bind (.require fun _ => by decide) ((wp_require _ _ _ _).mpr fun hopen => ?_)
  refine .bind (confirmOrders_avoid e g.userId g.allocations (h hopen)) fun _ db' _ => ?_
  exact Spares.bind (consume_spares _ _ _ _) (fun _ => .update _ _ _ fun h => by cases h) db'

/-! ## Releasing a group -/

/-- Calling an order off never fails with a conflict. -/
theorem callOff_spares (now orderId : ℕ) (order : Order) (history : OrderStatusHistory) (m : String) :
    Spares (.conflict m) (callOff now orderId order history) := by
  refine .bind (.forM fun _ => .update _ _ _ fun h => by cases h) fun _ => ?_
  refine .bind (.update _ _ _ fun h => by cases h) fun _ => .bind (.updateMany _ _ _) fun _ => ?_
  exact .bind (.updateMany _ _ _) fun _ => .bind (.updateMany _ _ _) fun _ => .bind (.create _ _) fun _ => .pure _

/-- Waiting orders are released without meeting one that is under way. -/
theorem releaseOrders_avoid (e : Env) (as : List Allocation) {db : Database} (h : Waiting as db) :
    Avoids startedOrder db (as.forM (releaseOrder e)) := by
  refine .forM (P := Waiting) (fun a as db hwait => ⟨?_, ?_⟩) as h
  · refine .bind (Spares.findOrThrow _ _ (fun h => by cases h) db) ((wp_findOrThrow _ _ _ _).mpr fun o ho => ?_)
    refine .bind (.require fun hstarted => absurd (hwait.received ho) hstarted) fun _ db' _ => ?_
    exact callOff_spares _ _ _ _ _ db'
  · rw [releaseOrder, wp_bind, wp_findOrThrow]
    intro o ho
    rw [wp_bind, wp_require]
    intro _
    refine wp_mono (callOff_books ho) fun _ db' hbooks => hwait.rest fun i hi => ?_
    rw [hbooks]
    exact Function.update_of_ne hi _ _

/-- A group whose orders wait is released without meeting one that is under way. -/
theorem failGroup_avoids (e : Env) {id : ℕ} {g : CheckoutPaymentGroup} {db : Database}
    (hg : (db .checkoutPaymentGroup).find id = some g)
    (h : g.status ≠ .failed → g.status ≠ .paid → Waiting g.allocations db) :
    Avoids startedOrder db (failGroup e id) := by
  refine .bind (Spares.findOrThrow _ _ (fun h => by cases h) db) ((wp_findOrThrow _ _ _ _).mpr fun g' hg' => ?_)
  obtain rfl := Option.some.inj (hg.symm.trans hg')
  refine .when fun hopen => .bind (.require fun _ => by decide) ((wp_require _ _ _ _).mpr fun hpaid => ?_)
  refine .bind (releaseOrders_avoid e g.allocations (h hopen hpaid)) fun _ db' _ => ?_
  exact Spares.update _ _ _ (fun h => by cases h) db'

end Payments

/-! ## All runs -/

/-- In consistent books the orders of an open group wait. -/
theorem Consistent.waiting {db : Database} (hB : Consistent (books db)) {i : ℕ}
    {g : CheckoutPaymentGroup} (hg : (db .checkoutPaymentGroup).find i = some g)
    (hpaid : g.status ≠ .paid) (hfailed : g.status ≠ .failed) : Payments.Waiting g.allocations db := by
  obtain ⟨hterms, hstatus⟩ := books_group hg
  refine ⟨g.orders_nodup, fun a ha => (hB.agree i _ hterms a ha).received ?_ ?_⟩ <;> rwa [hstatus]

/-- In every state that the store reaches from its first day on, whatever is interleaved: an order
that is neither in its first status nor cancelled belongs to a paid group; the orders of a pending
or processing group are in their first status; and so a group that has not been paid is neither
completed nor released into the conflict of an order that is in the way, wherever in a transaction
that has not written orders and groups yet. -/
theorem no_unpaid_fulfilment {w : World} (hw : Fresh w) {c : Config Op Error World}
    (hrun : store.Run System.anyOp ⟨w, []⟩ c) :
    (∀ k o, (c.world.db .order).find k = some o → o.currentStatus ≠ .orderReceived →
      o.currentStatus ≠ .cancelled → ∃ i g, (c.world.db .checkoutPaymentGroup).find i = some g ∧
        k ∈ g.allocations.map Allocation.orderId ∧ g.status = .paid) ∧
    (∀ i g, (c.world.db .checkoutPaymentGroup).find i = some g →
      g.status = .pending ∨ g.status = .processing → ∀ a ∈ g.allocations,
        ∃ o, (c.world.db .order).find a.orderId = some o ∧ o.currentStatus = .orderReceived) ∧
    ∀ i g, (c.world.db .checkoutPaymentGroup).find i = some g → g.status ≠ .paid →
      ∀ e db, db .order = c.world.db .order →
        db .checkoutPaymentGroup = c.world.db .checkoutPaymentGroup →
        Payments.completeGroup e i db ≠ .error Payments.cancelledOrder ∧
          Payments.failGroup e i db ≠ .error Payments.startedOrder := by
  have hrun' : store.Run (fun op e c => (bookkeeping False).allowed op e c.world) ⟨w, []⟩ c :=
    System.Run.mono store hrun fun _ _ _ _ h => h.elim
  have hB : Consistent (books c.world.db) :=
    (bookkeeping_holds.run (c := ⟨w, []⟩) ⟨hw.consistent, by simp⟩ hrun').1.1
  refine ⟨fun k o ho hreceived hcancelled => ?_, fun i g hg hopen a ha =>
    ?_, fun i g hg hpaid e db horder hgroup => ?_⟩
  · obtain ⟨i, g, hg, hpaid, hk⟩ := orderPaid_of_find hB ho hreceived hcancelled
    obtain ⟨g', hg', rfl⟩ := find_of_books_group hg
    exact ⟨i, g', hg', hk, (books_group hg').2.symm.trans hpaid⟩
  · have hstatus : (books c.world.db).orderStatus a.orderId = .orderReceived :=
      (hB.waiting hg (by rcases hopen with h | h <;> rw [h] <;> decide)
        (by rcases hopen with h | h <;> rw [h] <;> decide)).2 a ha
    obtain ⟨n, hn⟩ := Option.isSome_iff_exists.mp (hB.placed i _ (books_group hg).1 a ha)
    obtain ⟨o, ho, -⟩ := Option.map_eq_some_iff.mp hn
    exact ⟨o, ho, (books_order ho).2.symm.trans hstatus⟩
  · rw [← hgroup] at hg
    have hwait (hfailed : g.status ≠ .failed) : Payments.Waiting g.allocations db := by
      have hwait := hB.waiting (hgroup ▸ hg) hpaid hfailed
      refine ⟨hwait.1, fun a ha => ?_⟩
      rw [← hwait.2 a ha]
      change (((db .order).find _).map _).getD _ = (((c.world.db .order).find _).map _).getD _
      rw [horder]
    exact ⟨Payments.completeGroup_avoids e hg hwait, Payments.failGroup_avoids e hg fun h _ => hwait h⟩

/-- A store with one offer of two units, a customer with the price of one unit in a wallet and one
unit in a cart. -/
def shop : World where
  db := (((((((Database.empty.set .user (Relational.Table.empty.create { email := "c@x" })).set
      .store (Relational.Table.empty.create { ownerUserId := 2, isActive := true })).set
      .product (Relational.Table.empty.create { name := "Rice" })).set
      .storeProduct (Relational.Table.empty.create
        { storeId := 1, productId := 1, price := 50, stockQuantity := 2 })).set
      .pickupStation (Relational.Table.empty.create
        { name := "Ikeja", address := "1 Allen", state := "Lagos", city := "Ikeja", phone := "1" })).set
      .cart (Relational.Table.empty.create { userId := 1, subtotal := 50, totalItems := 1 })).set
      .cartItem (Relational.Table.empty.create
        { cartId := 1, storeProductId := 1, quantity := 1, unitPrice := 50 })).set
      .wallet (Relational.Table.empty.create { userId := 1, balance := 50 })

/-- Nothing has happened in the shop yet. -/
theorem fresh_shop : Fresh shop := by
  intro n hn i
  simp only [ownedTables, List.mem_cons, List.not_mem_nil, or_false] at hn
  rcases hn with rfl | rfl | rfl | rfl | rfl <;> rfl

/-- The request for a pickup that is paid out of the wallet. -/
def walletPickup : CreateCheckoutDto :=
  { fulfillmentType := some .pickup, pickupStationId := some 1, paymentMethod := some .wallet }

/-- The customer buys the unit. -/
def bought : Config Op Error World :=
  store.follow ⟨shop, [discard (Checkout.create 1 walletPickup)]⟩
    (List.replicate 4 (0, { now := 1, orderNumber := fun _ => "A-1" }))

/-- The order of a wallet checkout is under way, and its group is paid. -/
theorem no_unpaid_fulfilment_bought :
    ∃ i g, (bought.world.db .checkoutPaymentGroup).find i = some g ∧
      1 ∈ g.allocations.map Allocation.orderId ∧ g.status = .paid := by
  have hstarts : ∀ p ∈ [discard (Checkout.create 1 walletPickup)], store.starts p := by
    intro p hp
    rw [List.mem_singleton.mp hp]
    exact .payment (.create 1 walletPickup)
  have hrun := store.schedule_run (s := shop) hstarts
    (List.replicate 4 (0, { now := 1, orderNumber := fun _ => "A-1" }))
  have hstatus : ((bought.world.db .order).find 1).map (·.currentStatus) = some .confirmed := by
    decide +kernel
  obtain ⟨o, ho, hconfirmed⟩ := Option.map_eq_some_iff.mp hstatus
  exact (no_unpaid_fulfilment fresh_shop hrun).1 1 o ho (by rw [hconfirmed]; decide)
    (by rw [hconfirmed]; decide)

end Superstore

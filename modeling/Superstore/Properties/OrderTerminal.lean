import Superstore.Requests.Checked

/-!
# Completed and cancelled orders

An order that is completed or cancelled should keep its status. The transactions that read
the order themselves see to it. Those that are told the status by their caller do not: the
order may have been cancelled after the caller has read it.

The order keeps its status in every run in which none of the latter meets an order that is
over.
-/

namespace Superstore

open Interleaving Relational.Tx
open Orders (respects_ordersMove)
open Payments (setCurrentStatus)

/-- A completed or cancelled order keeps its status. -/
def Order.Stays (o o' : Order) : Prop :=
  o.currentStatus.Terminal → o'.currentStatus = o.currentStatus

/-- Staying over is reflexive and transitive. -/
instance : IsPreorder Order Order.Stays where
  refl _ _ := rfl
  trans a b c hab hbc ha := by
    have hb := hab ha
    exact (hbc (hb ▸ ha)).trans hb

/-- An order that is over is not about to be overwritten with another status. -/
def Op.sparesTerminal {α : Type} (op : Op α) (e : Env) (w : World) : Bool :=
  e.fails || (op.overwrites e w).all fun target =>
    ((w.db .order).find target.1).all fun o =>
      !decide o.currentStatus.Terminal || o.currentStatus == target.2

/-- Completed and cancelled orders stay as they are, as far as they are spared. -/
def terminalOrders : Contract Op World Env where
  inv _ := True
  guar w w' := (w.db .order).Evolves Order.Stays (w'.db .order)
  known _ _ := True
  allowed op e w := op.sparesTerminal e w
  refl _ := .refl _
  trans := .trans

/-- Orders that are spared stay as they are where one order is put into a status. -/
theorem stays_of_putStatus {target : Option (ℕ × OrderStatus)} {orders : Relational.Table Order}
    (hspares : target.all fun x => (orders.find x.1).all fun o =>
      !decide o.currentStatus.Terminal || o.currentStatus == x.2) :
    orders.Evolves Order.Stays (Orders.putStatus target orders) := by
  cases target with
  | none => exact .refl _
  | some x =>
    refine .update fun o ho hterminal => ?_
    simp only [Option.all_some, ho, hterminal, decide_true, Bool.not_true, Bool.false_or,
      beq_iff_eq] at hspares
    exact hspares.symm

/-- Every operation keeps the orders that are over, if they are spared. -/
theorem terminalOrders_safe {α : Type} (op : Op α) : terminalOrders.Safe machine op := by
  refine fun e w _ _ hspares => ⟨trivial, ?_⟩
  change (w.db .order).Evolves Order.Stays ((op.exec e w).2.db .order)
  rcases Bool.or_eq_true_iff.mp hspares with hfails | hspares
  · rw [exec_fails_db hfails]
    exact .refl _
  · rcases exec_orders op e w with hmoves | hput
    · exact hmoves.mono fun _ _ => Order.Moves.terminal
    · rw [hput]
      exact stays_of_putStatus hspares

/-- The requests of a store keep what is over. -/
theorem terminalOrders_holds : terminalOrders.Holds store where
  starts _ s _ := Contract.informed_of_forall (fun _ _ => trivial) _ s
  performs op := terminalOrders_safe op
  background {w w'} h _ := by
    refine ⟨trivial, ?_⟩
    change (w.db .order).Evolves _ _
    rw [h.owned .order (by decide)]
    exact .refl _

/-- In every run that overwrites no completed or cancelled order, such an order keeps its status. -/
theorem terminal_order_stays {c c' : Config Op Error World}
    (hrun : store.Run (fun op e c => op.sparesTerminal e c.world) c c') {i : ℕ} {o : Order}
    (ho : (c.world.db .order).find i = some o) (hterminal : o.currentStatus.Terminal) :
    ∃ o', (c'.world.db .order).find i = some o' ∧ o'.currentStatus = o.currentStatus := by
  have hsound : terminalOrders.Sound store c :=
    ⟨trivial, fun p _ => Contract.informed_of_forall (fun _ _ => trivial) p _⟩
  obtain ⟨o', ho', hstays⟩ := (terminalOrders_holds.run hsound hrun).2 i o ho
  exact ⟨o', ho', hstays hterminal⟩

/-! ## A cancelled order that comes back -/

/-- The order of one customer, paid out of the wallet and confirmed. -/
def confirmedOrder : Order where
  orderNumber := "A-1"
  userId := 1
  storeId := 1
  fulfillmentType := .pickup
  currentStatus := .confirmed
  subtotal := 100
  total := 100
  items := [⟨0, 1, 1, none, 2, 50, 100⟩]

/-- A store whose owner is the second user, with one order that is paid and confirmed. -/
def confirmedCheckout : World where
  db := ((((Database.empty.set .store (Relational.Table.empty.create
      { ownerUserId := 2, isActive := true })).set .storeProduct (Relational.Table.empty.create
      { storeId := 1, productId := 1, price := 50, stockQuantity := 3 })).set .order
      (Relational.Table.empty.create confirmedOrder)).set .payment (Relational.Table.empty.create
      { amount := 100, status := .paid, paymentMethod := .wallet, provider := .manual
        transactionRef := some "WALLET-1" })).set .checkoutPaymentGroup
      (Relational.Table.empty.create
        { userId := 1, paymentId := some 1, paymentMethod := .wallet, totalAmount := 100
          status := .paid, allocations := [⟨1, 100⟩], orders_nodup := by simp })

/-- The owner starts to prepare the order while the customer cancels it. -/
def preparedAndCancelled : List (Request Unit) :=
  [Orders.setStatus 2 1 .preparing none, Orders.cancelOrder 1 1 "Changed my mind."]

/-- The status of an order. -/
def orderStatus (c : Config Op Error World) (id : ℕ) : Option OrderStatus :=
  ((c.world.db .order).find id).map (·.currentStatus)

/-- The owner's request reads the order; then the customer's request cancels it. -/
def readThenCancelled : List (ℕ × Env) := [(0, { now := 1 }), (1, { now := 2 })]

/-- The owner's request writes the status that it has checked against what it read. -/
def thenPrepared : List (ℕ × Env) := [(0, { now := 3 })]

/-- A cancelled order is put back into preparation. -/
theorem cancelled_order_can_return :
    ¬∀ (w : World) (c c' : Config Op Error World), store.Run System.anyOp ⟨w, []⟩ c →
      store.Run System.anyOp c c' → ∀ i s, orderStatus c i = some s → s.Terminal →
        orderStatus c' i = some s := by
  intro h
  have hstarts : ∀ p ∈ preparedAndCancelled, store.starts p := by
    intro p hp
    simp only [preparedAndCancelled, List.mem_cons, List.not_mem_nil, or_false] at hp
    rcases hp with rfl | rfl
    · exact .status (.setStatus _ _ _ _)
    · exact .payment (.cancelOrder _ _ _)
  have hback := h confirmedCheckout _ _ (store.schedule_run hstarts readThenCancelled)
    (store.follow_run _ thenPrepared) 1 .cancelled (by decide +kernel) (.inr rfl)
  revert hback
  decide +kernel

/-- The order once it has been cancelled, and the owner's request made only then. -/
def cancelledThenPrepared : Config Op Error World :=
  ⟨(store.follow ⟨confirmedCheckout, preparedAndCancelled⟩ readThenCancelled).world,
    [Orders.setStatus 2 1 .preparing none]⟩

/-- A request that is made after the cancellation leaves the order cancelled. -/
theorem terminal_order_stays_requested :
    orderStatus (store.follow cancelledThenPrepared (readThenCancelled ++ thenPrepared)) 1 =
      some .cancelled := by
  have hstatus : orderStatus cancelledThenPrepared 1 = some .cancelled := by decide +kernel
  obtain ⟨o, ho, hs⟩ := Option.map_eq_some_iff.mp hstatus
  have hallows : store.allows (fun op e c => op.sparesTerminal e c.world) cancelledThenPrepared
      (readThenCancelled ++ thenPrepared) := by decide +kernel
  obtain ⟨o', ho', hs'⟩ := terminal_order_stays (store.follow_run_of hallows) ho (.inr hs)
  exact Option.map_eq_some_iff.mpr ⟨o', ho', hs'.trans hs⟩

end Superstore

import Superstore.Checkout.Pricing
import Superstore.Properties.ActiveCheckouts
import Superstore.Properties.Captured
import Superstore.Properties.Topups
import Superstore.Requests.Checked

/-!
# What is charged for an order

The group of a checkout asks for the total of each of its orders, and these are orders of its customer. Neither
changes afterwards, so what has been paid for an order is its total in every state.
-/

namespace Superstore

open Interleaving Relational Relational.Tx

variable {db db' : Database}

/-- An order of a customer costs an amount. -/
def Costs (db : Database) (userId : ℕ) (a : Allocation) : Prop :=
  ∃ o, (db .order).find a.orderId = some o ∧ o.total = a.amount ∧ o.userId = userId

/-- The groups ask for what their orders cost. -/
def PricedGroups (db : Database) : Prop :=
  ∀ i g, (db .checkoutPaymentGroup).find i = some g → ∀ a ∈ g.allocations, Costs db g.userId a

/-- The orders stay as they are but for their status. -/
abbrev OrdersRestated (db db' : Database) : Prop := (db .order).Evolves Order.Restated (db' .order)

/-- A group stays that of its customer and asks for the same. -/
def CheckoutPaymentGroup.SamePrice (g g' : CheckoutPaymentGroup) : Prop :=
  g'.userId = g.userId ∧ g'.allocations = g.allocations

/-- An order costs later what it costs. -/
theorem Costs.mono {userId : ℕ} {a : Allocation} (h : Costs db userId a) (horders : OrdersRestated db db') :
    Costs db' userId a := by
  obtain ⟨o, ho, htotal, huser⟩ := h
  obtain ⟨o', ho', hsame⟩ := horders _ o ho
  rw [Order.Restated] at hsame
  rw [hsame] at ho'
  exact ⟨_, ho', htotal, huser⟩

/-- A new group has to ask for what its orders cost. -/
theorem PricedGroups.step (h : PricedGroups db) (horders : OrdersRestated db db')
    (hgroups : ∀ i g', (db' .checkoutPaymentGroup).find i = some g' →
      (∃ g, (db .checkoutPaymentGroup).find i = some g ∧ g.SamePrice g') ∨
        ∀ a ∈ g'.allocations, Costs db' g'.userId a) :
    PricedGroups db' := by
  intro i g' hg'
  rcases hgroups i g' hg' with ⟨g, hg, huser, hterms⟩ | hnew
  · intro a ha
    rw [hterms] at ha
    rw [huser]
    exact (h i g hg a ha).mono horders
  · exact hnew

/-- Groups that are neither entered nor repriced. -/
theorem PricedGroups.follows (h : PricedGroups db) (horders : OrdersRestated db db')
    (hgroups : CheckoutsFollow db db')
    (hterms : ∀ i g, (db .checkoutPaymentGroup).find i = some g →
      ∃ g', (db' .checkoutPaymentGroup).find i = some g' ∧ g'.allocations = g.allocations) : PricedGroups db' := by
  refine h.step horders fun i g' hg' => .inl ?_
  obtain ⟨g, hg, hsame⟩ := hgroups.groups.back hg'
  obtain ⟨g'', hg'', hallocations⟩ := hterms i g hg
  obtain rfl := Option.some.inj (hg'.symm.trans hg'')
  exact ⟨g, hg, hsame.userId, hallocations⟩

namespace Checkout

/-- Placing an order changes no other order but for its status. -/
theorem placeOrder_restates (e : Env) (userId : ℕ) (q : Quote) (order : QuoteOrder × ℕ) :
    Within OrdersRestated (placeOrder e userId q order) :=
  fun db => wp_mono (Orders.placeOrder_moves e userId q order db) fun _ _ h => h.mono fun _ _ hmoves => hmoves.1

/-- The order that is placed costs what is allocated to it. -/
theorem placeOrder_costs (e : Env) (userId : ℕ) (q : Quote) (order : QuoteOrder × ℕ) (db : Database) :
    wp db (placeOrder e userId q order) fun a db' => Costs db' userId a := by
  refine wp_bind_of_forall fun _ db₁ => ?_
  dsimp only
  rw [wp_bind, wp_createUnique]
  intro _
  have hplaced := Table.find_create_self (db₁ .order)
    { orderNumber := e.orderNumber order.2, userId := userId, storeId := order.1.storeId
      fulfillmentType := q.fulfillmentType, currency := q.currency, subtotal := order.1.subtotal
      shippingFee := order.1.shippingFee, discountAmount := order.1.discountAmount
      shippingDiscount := order.1.shippingDiscount, total := order.1.total
      items := orderItems order.1.items }
  rw [wp_bind, wp_create]
  split
  · rw [wp_bind, wp_create, wp_pure]
    exact ⟨_, hplaced, rfl, rfl⟩
  · rw [wp_bind, wp_create, wp_pure]
    exact ⟨_, hplaced, rfl, rfl⟩

/-- The orders that are placed cost what is allocated to them. -/
theorem placeOrders_cost (e : Env) (userId : ℕ) (q : Quote) (orders : List (QuoteOrder × ℕ)) (db : Database) :
    wp db (orders.mapM (placeOrder e userId q)) fun as db' =>
      OrdersRestated db db' ∧ ∀ a ∈ as, Costs db' userId a := by
  refine wp_mapM_rec (R := fun _ (as : List Allocation) db db' =>
    OrdersRestated db db' ∧ ∀ a ∈ as, Costs db' userId a) (fun _ => ⟨.refl _, nofun⟩) (fun o _ _ _ db => ?_) db
  refine wp_mono (wp_and (placeOrder_restates e userId q o db) (placeOrder_costs e userId q o db))
    fun a db₁ h db' h' => ?_
  obtain ⟨hrestated, hcosts⟩ := h
  obtain ⟨hrestated', hcosts'⟩ := h'
  refine ⟨hrestated.trans hrestated', fun b hb => ?_⟩
  rcases List.mem_cons.mp hb with rfl | hb
  · exact hcosts.mono hrestated'
  · exact hcosts' b hb

/-- Paying at once leaves groups priced by their orders. -/
theorem payAtOnce_prices (e : Env) (userId groupId : ℕ) (q : Quote) (method : PaymentMethod)
    (credit : Option Credit) :
    Within (Keeps PricedGroups) (payAtOnce e userId groupId q method credit) := by
  intro db
  refine wp_mono (wp_and (Orders.respects_ordersMove.payAtOnce e userId groupId q method credit db)
    (wp_and (payAtOnce_follows e userId groupId q method credit db)
      (payAtOnce_sameTerms e userId groupId q method credit db))) fun _ db' h hpriced => ?_
  obtain ⟨hmoves, hfollows, hterms⟩ := h
  refine hpriced.follows (hmoves.mono fun _ _ h => h.1) hfollows fun i g hg => ?_
  obtain ⟨g', hg', -, hallocations⟩ := hterms i g hg
  exact ⟨g', hg', hallocations⟩

/-- The group of a checkout asks for what the orders that it places cost. -/
theorem placeCheckout_prices (e : Env) (userId cartId : ℕ) (input : CreateCheckoutDto) (q : Quote)
    (credit : Option Credit) : Within (Keeps PricedGroups) (placeCheckout e userId cartId input q credit) := by
  intro db
  have hplaced : Writes placementTables (q.orders.zipIdx.mapM (placeOrder e userId q)) :=
    .mapM fun order _ => placeOrder_writes e userId q order
  rw [placeCheckout, wp_bind]
  refine wp_mono (wp_and (placeOrders_cost e userId q _ db) (hplaced db)) fun as db₁ h => ?_
  obtain ⟨⟨hrestated, hcosts⟩, hsame⟩ := h
  rw [wp_bind, wp_ofExcept]
  intro group hgroup
  obtain ⟨huser, -⟩ := newGroup_eq hgroup
  have hallocations : group.allocations = as := by
    unfold newGroup at hgroup
    split at hgroup
    · cases hgroup
      rfl
    · cases hgroup
  rw [wp_bind, wp_createUnique]
  intro _
  refine Within.from (fun hpriced => ?_) (.bind (.when (payAtOnce_prices e userId _ q _ credit)) fun _ => .pure _)
  refine hpriced.step hrestated fun i g hg => ?_
  rw [Database.set_self] at hg
  rcases Ledger.find_of_create hg with ⟨-, rfl⟩ | hold
  · right
    rw [hallocations, huser]
    exact hcosts
  · left
    rw [hsame _ (by decide)] at hold
    exact ⟨g, hold, rfl, rfl⟩

/-- A transaction that writes neither orders nor groups. -/
theorem keepsPriced_of_writes {α : Type} {ns : List TableName} {m : Tx α} (hm : Writes ns m)
    (horder : .order ∉ ns) (hgroup : .checkoutPaymentGroup ∉ ns) : Within (Keeps PricedGroups) m := by
  refine .of_writes hm fun db db' hsame h => h.step (.of_eq (hsame _ horder)) fun i g hg => .inl ?_
  rw [hsame _ hgroup] at hg
  exact ⟨g, hg, rfl, rfl⟩

/-- Asking for a checkout leaves groups priced by their orders. -/
theorem createInTransaction_prices (e : Env) (userId : ℕ) (input : CreateCheckoutDto) (credit : Option Credit) :
    Within (Keeps PricedGroups) (createInTransaction e userId input credit) := by
  refine .bind (keepsPriced_of_writes (Cart.lock_writes userId) (by decide) (by decide)) fun cart => ?_
  refine .bind (.of_reads (.require _ _)) fun _ => .bind (.of_reads (.first _ _)) fun pending => ?_
  cases pending with
  | some pending => exact .bind (.of_reads (.require _ _)) fun _ => .pure _
  | none =>
    refine .bind (.of_reads (.query _)) fun _ => .bind (.of_reads (.ofExcept _)) fun q => ?_
    refine .bind (.of_reads (.require _ _)) fun _ =>
      .bind (placeCheckout_prices e userId _ input q credit) fun _ => ?_
    exact .bind (.of_reads (.findOrThrow _ _)) fun _ => .pure _

/-- Confirming an application leaves groups priced by their orders. -/
theorem confirm_prices (e : Env) (userId id : ℕ) : Within (Keeps PricedGroups) (confirm e userId id) := by
  refine .bind (.of_reads (.find _ _)) fun _ => .bind (.of_reads (.orThrow _ _)) fun app => ?_
  split
  · exact .pure _
  · refine .bind (.of_reads (.require _ _)) fun _ => .bind (.of_reads (.findOrThrow _ _)) fun _ => ?_
    refine .bind (.of_reads (.require _ _)) fun _ => .bind (createInTransaction_prices e _ _ _) fun _ => ?_
    refine .bind (keepsPriced_of_writes
      (.update (List.mem_singleton_self TableName.bnplApplication) _ _) (by decide)
      (by decide)) fun _ => ?_
    exact .bind (keepsPriced_of_writes (createInstallments_writes _ _) (by decide) (by decide)) fun _ => .pure _

end Checkout

/-- Every operation keeps groups priced by their orders, as long as it keeps their terms. -/
theorem exec_prices {α : Type} (op : Op α) (e : Env) {w : World} (hB : Consistent (books w.db))
    (hlater : (books w.db).Later (books (op.exec e w).2.db)) (h : PricedGroups w.db) :
    PricedGroups (op.exec e w).2.db := by
  have hfollows (hgroups : CheckoutsFollow w.db (op.exec e w).2.db) : PricedGroups (op.exec e w).2.db := by
    refine h.follows (exec_restates op e w) hgroups fun i g hg => ?_
    obtain ⟨terms, hterms, hsame⟩ := hlater.group i g.terms (books_group hg).1
    obtain ⟨g', hg', rfl⟩ := find_of_books_group hterms
    exact ⟨g', hg', hsame.allocations⟩
  by_cases hwrites : TableName.checkoutPaymentGroup ∈ op.writes ∨ TableName.cart ∈ op.writes
  swap
  · obtain ⟨hgroup, hcart⟩ := not_or.mp hwrites
    exact hfollows ⟨.of_eq (exec_frame op e w _ hgroup), .of_eq (exec_frame op e w _ hcart)⟩
  have hrun {α : Type} {op : Op α} {m : Env → Tx α} (hop : op.transaction = some m)
      (hm : wp w.db (m e) fun _ db => CheckoutsFollow w.db db) : CheckoutsFollow w.db (op.exec e w).2.db :=
    exec_transaction hop (Φ := fun w' => CheckoutsFollow w.db w'.db) (refl_of _ _) hm
  have hkeeps {α : Type} {op : Op α} {m : Env → Tx α} (hop : op.transaction = some m)
      (hm : wp w.db (m e) fun _ db => PricedGroups w.db → PricedGroups db) : PricedGroups (op.exec e w).2.db :=
    exec_transaction hop (Φ := fun w' => PricedGroups w'.db) h (wp_mono hm fun _ _ hkept => hkept h)
  cases op <;> dsimp only [Op.writes] at hwrites <;>
    first | exact absurd hwrites (by decide) | clear hwrites
  case createCheckout => exact hkeeps rfl (Checkout.createInTransaction_prices e _ _ _ w.db)
  case confirmFinancing => exact hkeeps rfl (Checkout.confirm_prices e _ _ w.db)
  case claimInitialization => exact hfollows (hrun rfl (Payments.claimInitialization_follows e _ _ hB))
  case finalizePayment => exact hfollows (hrun rfl (Payments.finalizePayment_follows e _ _ _ w.db))
  case completeIncomplete => exact hfollows (hrun rfl (Payments.completeIncomplete_follows e _ w.db))
  case cancelGroup => exact hfollows (hrun rfl (Payments.cancelGroup_follows e _ _ w.db))
  case startKlump => exact hfollows (hrun rfl (Klump.startTransaction_follows e _ _ hB))
  case completeKlump => exact hfollows (hrun rfl (Klump.completeTransaction_follows e _ _ _ w.db))

/-! ## Runs -/

/-- The books, with groups priced by their orders, which stay as they are but for their status. -/
def prices : Contract Op World Env where
  inv w := Consistent (books w.db) ∧ PricedGroups w.db
  guar w w' := (books w.db).Later (books w'.db) ∧ OrdersRestated w.db w'.db
  known op w := op.Legitimate False (books w.db)
  allowed _ _ _ := True
  refl w := ⟨booksLater_refl w, .refl _⟩
  trans h h' := ⟨booksLater_trans h.1 h'.1, h.2.trans h'.2⟩

/-- Every operation keeps the prices. -/
theorem prices_safe {α : Type} (op : Op α) : prices.Safe machine op := by
  intro e w hinv hlegit _
  obtain ⟨hB, hpriced⟩ := hinv
  obtain ⟨hB', hlater⟩ := bookkeeping_safe op e w hB hlegit fun h => h.elim
  exact ⟨⟨hB', exec_prices op e hB hlater hpriced⟩, hlater, exec_restates op e w⟩

/-- The requests of the treasury keep the prices. -/
theorem prices_holds : prices.Holds treasury where
  starts {p} hp w _ := by
    have hbooks : (bookkeeping False).Ready machine p w := hp.elim (fun h => h.books) fun h => h.books w
    exact hbooks.strengthen (fun _ h => h.1) (fun _ _ h => h.1) (fun _ _ _ _ h => h.elim) fun _ _ h => h
  performs op := prices_safe op
  background {w w'} h hinv := by
    have hbooks : (bookkeeping False).Holds store := bookkeeping_holds
    obtain ⟨hB', hlater⟩ := hbooks.background h.toOtherChange hinv.1
    have horder : w'.db .order = w.db .order := h.owned _ (by decide)
    have hgroup : w'.db .checkoutPaymentGroup = w.db .checkoutPaymentGroup := h.owned _ (by decide)
    refine ⟨⟨hB', hinv.2.step (.of_eq horder) fun i g hg => .inl ?_⟩, hlater, .of_eq horder⟩
    rw [hgroup] at hg
    exact ⟨g, hg, rfl, rfl⟩

/-- Before the first checkout there are no groups to price. -/
theorem Fresh.prices {w : World} (h : Fresh w) : prices.Sound treasury ⟨w, []⟩ := by
  refine ⟨⟨h.consistent, fun i g hg => ?_⟩, by simp⟩
  rw [h .checkoutPaymentGroup (by decide)] at hg
  cases hg

/-- What an order costs. -/
def orderTotal (db : Database) (k : ℕ) : ℚ := ((db .order).find k).elim 0 Order.total

/-- What an order costs is what is allocated to it. -/
theorem Costs.orderTotal_eq {userId : ℕ} {a : Allocation} (h : Costs db userId a) :
    orderTotal db a.orderId = a.amount := by
  obtain ⟨o, ho, htotal, -⟩ := h
  rw [orderTotal, ho]
  exact htotal

/-- In every run of all requests, whatever fails and is interleaved: the payment of a group is the sum of what the
orders of the group cost, a refund is what its order costs and goes back on the payment of the group of the order,
which is of the same customer; and what an order costs, what it is for and whose it is stays as it is in every
later state. -/
theorem orders_charged {w : World} (hw : Fresh w) {c c' : Config Op Error World}
    (hrun : treasury.Run System.anyOp ⟨w, []⟩ c) (hrun' : treasury.Run System.anyOp c c') :
    (∀ i g p r, (c.world.db .checkoutPaymentGroup).find i = some g → g.paymentId = some p →
      (c.world.db .payment).find p = some r →
        r.amount = (g.allocations.map fun a => orderTotal c.world.db a.orderId).sum) ∧
    (∀ l r, (c.world.db .refund).find l = some r → ∃ o i g, (c.world.db .order).find r.orderId = some o ∧
      (c.world.db .checkoutPaymentGroup).find i = some g ∧ r.amount = o.total ∧ g.paymentId = some r.paymentId ∧
      r.orderId ∈ g.allocations.map Allocation.orderId ∧ o.userId = g.userId) ∧
    ∀ k o, (c.world.db .order).find k = some o → ∃ o', (c'.world.db .order).find k = some o' ∧
      o'.total = o.total ∧ o'.items = o.items ∧ o'.userId = o.userId := by
  obtain ⟨hsound, -⟩ := prices_holds.run hw.prices (System.Run.mono treasury hrun fun _ _ _ _ => trivial)
  obtain ⟨hB, hpriced⟩ := hsound.1
  refine ⟨fun i g p r hg hp hr => ?_, fun l r hr => ?_, fun k o ho => ?_⟩
  · obtain ⟨q, hq, hamount, -⟩ := hB.linked i _ p (books_group hg).1 hp
    obtain rfl := Option.some.inj ((books_payment hr).1.symm.trans hq)
    obtain ⟨-, -, hsum⟩ := hB.balanced i _ (books_group hg).1
    have htotals : g.allocations.map (fun a => orderTotal c.world.db a.orderId) =
      g.allocations.map Allocation.amount :=
      List.map_congr_left fun a ha => (hpriced i g hg a ha).orderTotal_eq
    rw [htotals]
    exact Eq.trans hamount hsum.symm
  · obtain ⟨i, terms, hterms, hlinked, hmem⟩ := hB.refund_owed l _ (books_refund hr)
    obtain ⟨g, hg, rfl⟩ := find_of_books_group hterms
    obtain ⟨o, ho, htotal, huser⟩ := hpriced i g hg _ hmem
    exact ⟨o, i, g, ho, hg, htotal.symm, hlinked, List.mem_map_of_mem hmem, huser⟩
  · obtain ⟨-, -, hrestated⟩ := prices_holds.run hsound (System.Run.mono treasury hrun' fun _ _ _ _ => trivial)
    obtain ⟨o', ho', hsame⟩ := hrestated k o ho
    rw [Order.Restated] at hsame
    rw [hsame] at ho'
    exact ⟨_, ho', rfl, rfl, rfl⟩

/-- A second store has an offer as well, and the customer a unit of each in the cart. -/
def twoStores : World where
  db := (((shop.db.set .store ((shop.db .store).create { ownerUserId := 3, isActive := true })).set
      .storeProduct ((shop.db .storeProduct).create
        { storeId := 2, productId := 1, price := 30, stockQuantity := 1 })).set
      .cart (Relational.Table.empty.create { userId := 1, subtotal := 80, totalItems := 2 })).set
      .cartItem ((shop.db .cartItem).create { cartId := 1, storeProductId := 2, quantity := 1, unitPrice := 30 })

/-- Nothing has been ordered from the two stores yet. -/
theorem fresh_twoStores : Fresh twoStores := by
  intro n hn i
  simp only [ownedTables, List.mem_cons, List.not_mem_nil, or_false] at hn
  rcases hn with rfl | rfl | rfl | rfl | rfl <;> rfl

/-- Paystack reports that both orders have been paid. -/
def paystackPaysBoth : Env :=
  { paystackPays with
    orderNumber := fun n => if n = 0 then "A-1" else "A-2"
    verify := fun reference =>
      .ok { reference := reference, currency := "NGN", amount := some 8000, status := .success } }

/-- One of the two orders is cancelled once they are paid. -/
def boughtThenReturned : List (Request Unit) := cardRequests ++ [Orders.cancelOrder 1 1 "Changed my mind."]

/-- A unit of each store is bought by card. -/
def chargedByCard : Config Op Error World :=
  treasury.follow ⟨twoStores, boughtThenReturned⟩
    (List.replicate 6 (0, paystackPaysBoth) ++ List.replicate 5 (1, paystackPaysBoth))

/-- The order of the first store is cancelled. -/
def chargedThenReturned : Config Op Error World :=
  treasury.follow chargedByCard (List.replicate 3 (2, paystackPaysBoth))

/-- What is charged is what the two orders cost, and what goes back is what the cancelled one costs, as
it did before. -/
theorem orders_charged_paid :
    (∃ g r, (chargedByCard.world.db .checkoutPaymentGroup).find 1 = some g ∧ g.allocations.length = 2 ∧
      (chargedByCard.world.db .payment).find 1 = some r ∧
      r.amount = (g.allocations.map fun a => orderTotal chargedByCard.world.db a.orderId).sum) ∧
    (∃ r o, (chargedThenReturned.world.db .refund).find 1 = some r ∧ r.orderId = 1 ∧
      (chargedThenReturned.world.db .order).find 1 = some o ∧ r.amount = o.total) ∧
    ∃ o o', (chargedByCard.world.db .order).find 1 = some o ∧
      (chargedThenReturned.world.db .order).find 1 = some o' ∧
      o'.currentStatus ≠ o.currentStatus ∧ o'.total = o.total := by
  have hstarts : ∀ p ∈ boughtThenReturned, treasury.starts p := by
    intro p hp
    simp only [boughtThenReturned, cardRequests, List.cons_append, List.nil_append, List.mem_cons, List.not_mem_nil,
      or_false] at hp
    rcases hp with rfl | rfl | rfl
    · exact .inl (.payment (.place 1 cardPickup))
    · exact .inl (.payment (.verifyReference "PUR-1-u"))
    · exact .inl (.payment (.cancelOrder 1 1 _))
  have hrun : treasury.Run System.anyOp ⟨twoStores, []⟩ chargedByCard :=
    treasury.schedule_run (s := twoStores) hstarts _
  have hrun' : treasury.Run System.anyOp chargedByCard chargedThenReturned := treasury.follow_run _ _
  obtain ⟨hcharged, -, hkept⟩ := orders_charged fresh_twoStores hrun hrun'
  obtain ⟨-, hrefunded, -⟩ := orders_charged fresh_twoStores (hrun.trans hrun') .refl
  have hgroup : ((chargedByCard.world.db .checkoutPaymentGroup).find 1).map
      (fun g => (g.paymentId, g.allocations.length)) = some (some 1, 2) := by decide +kernel
  have hpayment : ((chargedByCard.world.db .payment).find 1).isSome := by decide +kernel
  have hrefund : ((chargedThenReturned.world.db .refund).find 1).map Refund.orderId = some 1 := by decide +kernel
  have hbefore : ((chargedByCard.world.db .order).find 1).map (·.currentStatus) = some .confirmed :=
    by decide +kernel
  have hafter : ((chargedThenReturned.world.db .order).find 1).map (·.currentStatus) = some .cancelled := by
    decide +kernel
  obtain ⟨g, hg, hlinked⟩ := Option.map_eq_some_iff.mp hgroup
  obtain ⟨r, hr⟩ := Option.isSome_iff_exists.mp hpayment
  obtain ⟨refund, hrefund, horder⟩ := Option.map_eq_some_iff.mp hrefund
  obtain ⟨o, ho, hconfirmed⟩ := Option.map_eq_some_iff.mp hbefore
  obtain ⟨o', ho', hcancelled⟩ := Option.map_eq_some_iff.mp hafter
  obtain ⟨hpayer, hlength⟩ := Prod.mk.inj hlinked
  refine ⟨⟨g, r, hg, hlength, hr, hcharged 1 g 1 r hg hpayer hr⟩, ?_, o, o', ho, ho', ?_, ?_⟩
  · obtain ⟨k, -, -, hk, -, hamount, -⟩ := hrefunded 1 refund hrefund
    exact ⟨refund, k, hrefund, horder, horder ▸ hk, hamount⟩
  · rw [hconfirmed, hcancelled]
    decide
  · obtain ⟨k, hk, htotal, -⟩ := hkept 1 o ho
    obtain rfl := Option.some.inj (ho'.symm.trans hk)
    exact htotal

end Superstore

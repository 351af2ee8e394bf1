import Superstore.Checkout.Create

/-!
# What a quote is computed from

The amounts of a quote depend on the priced lines of the cart, on the fee for a store, and on
the voucher and the coupon of the cart. `pricing` reads just these, so that the discounts can
be compared with what they are taken off.

The point of the module is `quote_consistent`: no line is lost or counted twice, every order
and the quote add up in whole cents, and so does the payment group that is made of them.
-/

namespace Superstore.Checkout

/-- What the amounts of a quote are computed from. -/
structure Pricing where
  items : List QuoteItem
  fee : ℚ
  voucher : Option RewardVoucher
  coupon : Option Coupon

/-- The voucher applied to a cart. -/
def voucherOf (db : Database) (cartId : ℕ) : Option RewardVoucher :=
  ((db .cartVoucher).first fun _ v => v.cartId == cartId).bind
    fun v => (db .rewardVoucher).find v.2.voucherId

/-- The coupon applied to a cart. -/
def couponOf (db : Database) (cartId : ℕ) : Option Coupon :=
  ((db .cartCoupon).first fun _ c => c.cartId == cartId).bind fun c => (db .coupon).find c.2.couponId

/-- The priced lines of a customer's cart, the fee for each store, and the cart's discounts. -/
def pricing (userId : ℕ) (input : CreateCheckoutDto) (db : Database) : Except Error Pricing := do
  let fulfillmentType ← fulfillmentOf input
  let cart ← fromOption ((db .cart).first fun _ c => c.userId == userId) (.notFound "Cart not found.")
  let lines ← fromOption (cartLines db cart.1) .recordNotFound
  let feePerStore ← settings db
  let items ← lines.mapM Line.price
  let fee ← money (if fulfillmentType = .delivery then feePerStore.1 else 0)
  return ⟨items, fee, voucherOf db cart.1, couponOf db cart.1⟩

namespace Pricing

variable (p : Pricing)

/-- The undiscounted orders. -/
def orders : List QuoteOrder := storeOrders p.items p.fee

/-- The goods of all orders, before discounts. -/
def gross : ℚ := sumOrders (·.subtotal) p.orders

/-- The amounts that the cart and the settings supply are whole cents. -/
structure Sound : Prop where
  items : ∀ item ∈ p.items, Cents item.totalPrice ∧ 0 ≤ item.totalPrice
  fee : Cents p.fee ∧ 0 ≤ p.fee

end Pricing

variable {p : Pricing}

/-- The orders that are priced have no discounts yet. -/
theorem Pricing.Sound.undiscounted (h : p.Sound) : ∀ o ∈ p.orders, Undiscounted o := by
  intro o ho
  obtain ⟨storeId, -, rfl⟩ := List.mem_map.mp ho
  exact storeOrder_undiscounted h.fee h.items storeId

/-- A quote is what the discounts make of its pricing. -/
structure QuotedFrom (now : ℕ) (p : Pricing) (q : Quote) : Prop where
  sound : p.Sound
  orders_ne : p.orders ≠ []
  discounted : discountedOrders now p.voucher p.coupon p.orders = .ok q.orders
  subtotal : q.subtotal = p.gross
  shippingFee : q.shippingFee = p.fee * p.orders.length
  discountAmount : q.discountAmount = sumOrders (fun o => o.discountAmount + o.shippingDiscount) q.orders
  total : q.total = q.subtotal + q.shippingFee - q.discountAmount

/-- Every store is named once. -/
theorem storeIds_nodup (items : List QuoteItem) : (storeIds items).Nodup :=
  (List.perm_insertionSort _ _).nodup_iff.mpr (List.nodup_dedup _)

/-- The store of an item is named. -/
theorem mem_storeIds {items : List QuoteItem} {item : QuoteItem} (h : item ∈ items) :
    item.storeId ∈ storeIds items :=
  (List.perm_insertionSort _ _).mem_iff.mpr (List.mem_dedup.mpr (List.mem_map_of_mem h))

/-- An element of the second list has a partner in the first one. -/
theorem exists_of_forall₂ {α β : Type} {R : α → β → Prop} {xs : List α} {ys : List β}
    (h : List.Forall₂ R xs ys) {y : β} (hy : y ∈ ys) : ∃ x ∈ xs, R x y := by
  induction h with
  | nil => exact absurd hy List.not_mem_nil
  | cons hxy _ ih =>
    rcases List.mem_cons.mp hy with rfl | hy
    · exact ⟨_, List.mem_cons_self, hxy⟩
    · obtain ⟨x, hx, hR⟩ := ih hy
      exact ⟨x, List.mem_cons_of_mem _ hx, hR⟩

/-- A quote that succeeds is made from the pricing of its cart. -/
theorem quote_pricing {now userId : ℕ} {input : CreateCheckoutDto} {db : Database} {q : Quote}
    (h : quote now userId input db = .ok q) :
    ∃ p, pricing userId input db = .ok p ∧ QuotedFrom now p q := by
  simp only [quote, bind_eq_ok, ensure_eq_ok, fromOption_eq_ok, Option.filter_eq_some_iff] at h
  obtain ⟨type, htype, cart, ⟨hcart, -⟩, lines, hlines, _, hne, _, -, _, -, _, -, fees, hfees, _, -,
    _, -, items, hitems, fee, hfee, orders, horders, hq⟩ := h
  have hstores : storeOrders items fee ≠ [] := by
    intro hnil
    obtain ⟨line, hline⟩ := List.exists_mem_of_ne_nil _ hne
    obtain ⟨item, hitem, -⟩ := exists_of_forall₂ (mapM_eq_ok.mp hitems).flip hline
    exact absurd (mem_storeIds hitem) (List.map_eq_nil_iff.mp hnil ▸ List.not_mem_nil)
  refine ⟨⟨items, fee, voucherOf db cart.1, couponOf db cart.1⟩, ?_, ?_⟩
  · simp only [pricing, bind_eq_ok, fromOption_eq_ok]
    exact ⟨type, htype, cart, hcart, lines, hlines, fees, hfees, items, hitems, fee, hfee, rfl⟩
  · cases hq
    exact
      { sound := ⟨prices_spec hitems, money_spec hfee⟩
        orders_ne := hstores
        discounted := horders
        subtotal := rfl
        shippingFee := rfl
        discountAmount := rfl
        total := rfl }

/-! ## What discounts leave alone -/

/-- A discount changes neither the store nor the goods nor the fee of an order, and it is a whole
number of cents. -/
structure Discounted (o o' : QuoteOrder) : Prop where
  storeId : o'.storeId = o.storeId
  items : o'.items = o.items
  subtotal : o'.subtotal = o.subtotal
  shippingFee : o'.shippingFee = o.shippingFee
  discountAmount : Cents o.discountAmount → Cents o'.discountAmount
  shippingDiscount : o'.shippingDiscount = o.shippingDiscount ∨ o'.shippingDiscount = o.shippingFee

/-- An order without a discount is discounted by nothing. -/
theorem Discounted.refl (o : QuoteOrder) : Discounted o o :=
  ⟨rfl, rfl, rfl, rfl, id, .inl rfl⟩

/-- Discounts add up. -/
theorem Discounted.trans {o o' o'' : QuoteOrder} (h : Discounted o o') (h' : Discounted o' o'') :
    Discounted o o'' where
  storeId := h'.storeId.trans h.storeId
  items := h'.items.trans h.items
  subtotal := h'.subtotal.trans h.subtotal
  shippingFee := h'.shippingFee.trans h.shippingFee
  discountAmount := h'.discountAmount ∘ h.discountAmount
  shippingDiscount := by
    rcases h'.shippingDiscount with hsame | hfree
    · rw [hsame]
      exact h.shippingDiscount
    · exact .inr (hfree.trans h.shippingFee)

/-- A voucher discounts an order. -/
theorem voucherOrder_discounted {voucher : RewardVoucher} {o o' : QuoteOrder}
    (h : voucherOrder voucher o = .ok o') : Discounted o o' := by
  unfold voucherOrder at h
  split at h
  · cases h
    exact .refl o
  · split at h
    · cases h
      exact { Discounted.refl o with shippingDiscount := .inr rfl }
    · simp only [bind_eq_ok] at h
      obtain ⟨_, -, amount, hamount, ho'⟩ := h
      cases ho'
      exact { Discounted.refl o with discountAmount := fun _ => (money_spec hamount).1 }

/-- A coupon discounts the orders that it is spread over. -/
theorem spreadCoupon_discounted {couponTotal gross remaining : ℚ} {orders orders' : List QuoteOrder}
    (h : spreadCoupon couponTotal gross remaining orders = .ok orders') :
    List.Forall₂ Discounted orders orders' := by
  induction orders generalizing remaining orders' with
  | nil =>
    cases h
    exact .nil
  | cons o rest ih =>
    simp only [spreadCoupon, bind_eq_ok] at h
    obtain ⟨amount, hamount, rest', hrest, horders'⟩ := h
    cases horders'
    have hcents := (money_spec hamount).1
    exact .cons { Discounted.refl o with discountAmount := fun ho => ho.add hcents } (ih hrest)

/-- The voucher and the coupon leave stores, goods and fees alone. -/
theorem discountedOrders_discounted {now : ℕ} {voucher : Option RewardVoucher}
    {coupon : Option Coupon} {orders orders' : List QuoteOrder}
    (h : discountedOrders now voucher coupon orders = .ok orders') :
    List.Forall₂ Discounted orders orders' := by
  simp only [discountedOrders, bind_eq_ok] at h
  obtain ⟨vouchered, hvoucher, hcoupon⟩ := h
  have hfirst : List.Forall₂ Discounted orders vouchered := by
    unfold applyVoucher at hvoucher
    split at hvoucher
    · cases hvoucher
      exact List.forall₂_same.mpr fun o _ => .refl o
    · split at hvoucher
      · exact (mapM_eq_ok.mp hvoucher).imp fun _ _ => voucherOrder_discounted
      · cases hvoucher
  have hsecond : List.Forall₂ Discounted vouchered orders' := by
    unfold applyCoupon at hcoupon
    split at hcoupon
    · cases hcoupon
      exact List.forall₂_same.mpr fun o _ => .refl o
    · split at hcoupon
      · simp only [bind_eq_ok] at hcoupon
        obtain ⟨_, -, _, -, hspread⟩ := hcoupon
        exact spreadCoupon_discounted hspread
      · cases hcoupon
  clear hvoucher hcoupon
  induction hfirst generalizing orders' with
  | nil => exact hsecond
  | cons h _ ih =>
    cases hsecond with
    | cons h' hrest => exact .cons (h.trans h') (ih hrest)

/-- Discounts leave alone what is a function of store, goods and fee. -/
theorem map_discounted {α : Type} {orders orders' : List QuoteOrder}
    (h : List.Forall₂ Discounted orders orders') (f : QuoteOrder → α)
    (hf : ∀ o o', Discounted o o' → f o' = f o) : orders'.map f = orders.map f := by
  induction h with
  | nil => rfl
  | cons hsame _ ih => rw [List.map_cons, List.map_cons, hf _ _ hsame, ih]

/-- Sorting a list into the classes of a key loses and duplicates nothing. -/
theorem perm_flatMap_filter {α : Type} (f : α → ℕ) {keys : List ℕ} (hkeys : keys.Nodup) {xs : List α}
    (hxs : ∀ x ∈ xs, f x ∈ keys) : (keys.flatMap fun k => xs.filter fun x => f x == k).Perm xs := by
  induction keys generalizing xs with
  | nil =>
    cases xs with
    | nil => exact .nil
    | cons x xs => exact absurd (hxs x List.mem_cons_self) List.not_mem_nil
  | cons k keys ih =>
    obtain ⟨hk, hkeys⟩ := List.nodup_cons.mp hkeys
    have hothers : (keys.flatMap fun k' => xs.filter fun x => f x == k') =
        keys.flatMap fun k' => (xs.filter fun x => !(f x == k)).filter fun x => f x == k' := by
      refine List.flatMap_congr fun k' hk' => ?_
      rw [List.filter_filter]
      refine List.filter_congr fun x _ => ?_
      by_cases h : f x = k'
      · have hne : f x ≠ k := fun hx => hk (hx.symm.trans h ▸ hk')
        simp [h, h ▸ hne]
      · simp [h]
    rw [List.flatMap_cons, hothers]
    have hrest : ∀ x ∈ xs.filter fun x => !(f x == k), f x ∈ keys := by
      intro x hx
      obtain ⟨hmem, hne⟩ := List.mem_filter.mp hx
      exact (List.mem_cons.mp (hxs x hmem)).resolve_left fun h => by simp [h] at hne
    exact ((ih hkeys hrest).append_left _).trans (List.filter_append_perm _ xs)

/-! ## The totals of a quote -/

/-- A quote and its orders add up over the given lines, in whole cents. -/
structure Consistent (items : List QuoteItem) (q : Quote) : Prop where
  lines : (q.orders.flatMap (·.items)).Perm items
  store : ∀ o ∈ q.orders, ∀ item ∈ o.items, item.storeId = o.storeId
  stores : (q.orders.map (·.storeId)).Nodup
  goods : ∀ o ∈ q.orders, o.subtotal = (o.items.map (·.totalPrice)).sum
  order : ∀ o ∈ q.orders, o.total = o.subtotal + o.shippingFee - o.discountAmount - o.shippingDiscount
  nonneg : ∀ o ∈ q.orders, 0 ≤ o.total
  cents : ∀ o ∈ q.orders, Cents o.subtotal ∧ Cents o.shippingFee ∧ Cents o.discountAmount ∧
    Cents o.shippingDiscount ∧ Cents o.total
  total : q.total = q.subtotal + q.shippingFee - q.discountAmount
  sum : sumOrders (·.total) q.orders = q.total

/-- What a pricing is turned into adds up over the priced lines. -/
theorem QuotedFrom.consistent {now : ℕ} {q : Quote} (h : QuotedFrom now p q)
    (hsum : (∀ o ∈ q.orders, 0 ≤ o.total) ∧ sumOrders (·.total) q.orders = q.total) :
    Consistent p.items q := by
  have hbase := h.sound.undiscounted
  have hkept := discountedOrders_discounted h.discounted
  have hbalanced : ∀ o ∈ q.orders, Balanced o := by
    have hdiscounted := h.discounted
    simp only [discountedOrders, bind_eq_ok] at hdiscounted
    obtain ⟨vouchered, hvoucher, hcoupon⟩ := hdiscounted
    exact (applyCoupon_spec (applyVoucher_spec hbase hvoucher).1 hcoupon).1
  have hstores : q.orders.map (·.storeId) = storeIds p.items := by
    rw [map_discounted hkept _ fun _ _ h => h.storeId]
    simp [Pricing.orders, storeOrders, Function.comp_def, storeOrder]
  have hitems : q.orders.map (·.items) =
      (storeIds p.items).map fun k => p.items.filter fun item => item.storeId == k := by
    rw [map_discounted hkept _ fun _ _ h => h.items]
    simp [Pricing.orders, storeOrders, Function.comp_def, storeOrder]
  have horigin (o : QuoteOrder) (ho : o ∈ q.orders) :
      ∃ k, Discounted (storeOrder p.items p.fee k) o ∧ Undiscounted (storeOrder p.items p.fee k) := by
    obtain ⟨b, hb, hsame⟩ := exists_of_forall₂ hkept ho
    obtain ⟨k, -, rfl⟩ := List.mem_map.mp hb
    exact ⟨k, hsame, hbase _ hb⟩
  exact
    { lines := by
        have hperm := perm_flatMap_filter (·.storeId) (storeIds_nodup p.items)
          fun item (h : item ∈ p.items) => mem_storeIds h
        rwa [List.flatMap_def, ← hitems, ← List.flatMap_def] at hperm
      store := fun o ho item hitem => by
        obtain ⟨k, hsame, -⟩ := horigin o ho
        rw [hsame.items] at hitem
        rw [hsame.storeId]
        exact beq_iff_eq.mp (List.mem_filter.mp hitem).2
      stores := hstores ▸ storeIds_nodup p.items
      goods := fun o ho => by
        obtain ⟨k, hsame, -⟩ := horigin o ho
        rw [hsame.subtotal, hsame.items]
        rfl
      order := fun o ho => (hbalanced o ho).total_eq
      nonneg := hsum.1
      cents := fun o ho => by
        obtain ⟨k, hsame, hplain⟩ := horigin o ho
        have hfee : Cents o.shippingFee := hsame.shippingFee ▸ hplain.fee_cents
        have hshipping : Cents o.shippingDiscount := by
          rcases hsame.shippingDiscount with h | h
          · rw [h, hplain.no_shippingDiscount]
            exact .zero
          · exact h ▸ hplain.fee_cents
        have hdiscount := hsame.discountAmount (hplain.no_discount ▸ .zero)
        exact ⟨(hbalanced o ho).subtotal_cents, hfee, hdiscount, hshipping, (hbalanced o ho).total_cents⟩
      total := h.total
      sum := hsum.2 }

/-! ## The group made of a quote -/

open Relational.Tx (Evolves wp wp_bind wp_bind_of_forall wp_createUnique wp_findOrThrow wp_first wp_mapM_rec
  wp_mono wp_of_ok wp_ofExcept wp_pure wp_query wp_require)

/-- A later state of a group still asks for the same amounts. -/
def SameTerms (g g' : CheckoutPaymentGroup) : Prop :=
  g'.totalAmount = g.totalAmount ∧ g'.allocations = g.allocations

/-- Having the same terms is reflexive and transitive. -/
instance : IsPreorder CheckoutPaymentGroup SameTerms where
  refl _ := ⟨rfl, rfl⟩
  trans _ _ _ h h' := ⟨h'.1.trans h.1, h'.2.trans h.2⟩

/-- Completing a group does not change what it asks for. -/
theorem completeGroup_sameTerms (e : Env) (id : ℕ) :
    Evolves .checkoutPaymentGroup SameTerms (Payments.completeGroup e id) := by
  refine .bind (.of_reads (.findOrThrow _ _)) fun group => .when (.bind (.of_reads (.require _ _)) fun _ => ?_)
  refine .bind (.forM fun a _ => .of_writes (Payments.confirmOrder_writes e _ a) (by decide)) fun _ => ?_
  exact .bind (.of_writes (Cart.consume_writes _ _ _) (by decide)) fun _ => .update _ fun _ => ⟨rfl, rfl⟩

/-- Paying at once keeps the terms of the group. -/
theorem payAtOnce_sameTerms (e : Env) (userId groupId : ℕ) (q : Quote) (method : PaymentMethod)
    (credit : Option Credit) :
    Evolves .checkoutPaymentGroup SameTerms (payAtOnce e userId groupId q method credit) := by
  refine .bind (.when (.of_writes (debitWallet_writes _ _ _) (by decide))) fun _ => ?_
  refine .bind (.of_writes (.createUnique (List.mem_singleton_self _) _ _) (by decide)) fun _ => ?_
  exact .bind (.update _ fun _ => ⟨rfl, rfl⟩) fun _ => completeGroup_sameTerms e _

/-- The allocation of an order is what the order costs. -/
theorem placeOrder_amount (e : Env) (userId : ℕ) (q : Quote) (order : QuoteOrder × ℕ) (db : Database) :
    wp db (placeOrder e userId q order) fun a _ => a.amount = order.1.total := by
  refine wp_bind_of_forall fun _ db₁ => wp_bind_of_forall fun id db₂ =>
    wp_bind_of_forall fun _ db₃ => ?_
  cases q.fulfillmentType with
  | pickup => exact wp_bind_of_forall fun _ db₄ => (wp_pure _ _ _).mpr rfl
  | delivery => exact wp_bind_of_forall fun _ db₄ => (wp_pure _ _ _).mpr rfl

/-- The group of a placed checkout asks for what its quote says, split into what its orders cost. -/
theorem placeCheckout_group (e : Env) {userId cartId : ℕ} {input : CreateCheckoutDto} {q : Quote}
    {credit : Option Credit} (db : Database) :
    wp db (placeCheckout e userId cartId input q credit) fun groupId db' =>
      ∃ g, (db' .checkoutPaymentGroup).find groupId = some g ∧ g.totalAmount = q.total ∧
        (g.allocations.map (·.amount)).sum = sumOrders (·.total) q.orders := by
  rw [placeCheckout, wp_bind]
  have hamounts : wp db (q.orders.zipIdx.mapM (placeOrder e userId q)) fun (as : List Allocation) _ =>
      as.map (·.amount) = q.orders.zipIdx.map (·.1.total) := by
    refine wp_mapM_rec (R := fun (os : List (QuoteOrder × ℕ)) (as : List Allocation) _ _ =>
      as.map (·.amount) = os.map (·.1.total)) (fun _ => rfl) (fun o _ os as db => ?_) db
    refine wp_mono (placeOrder_amount e userId q o db) fun a _ ha _ has => ?_
    rw [List.map_cons, List.map_cons, ha, has]
  refine wp_mono hamounts fun as db₁ has => ?_
  rw [wp_bind, wp_ofExcept]
  intro group hgroup
  obtain ⟨hallocations, hprice⟩ : group.allocations = as ∧ group.totalAmount = q.total := by
    unfold newGroup at hgroup
    split at hgroup
    · cases hgroup
      exact ⟨rfl, rfl⟩
    · cases hgroup
  rw [wp_bind, wp_createUnique]
  intro _
  have hcreated : (db₁.set .checkoutPaymentGroup ((db₁ .checkoutPaymentGroup).create group)
      .checkoutPaymentGroup).find (db₁ .checkoutPaymentGroup).next = some group := by
    rw [Relational.Database.set_self]
    exact Relational.Table.find_create_self _ _
  rw [wp_bind]
  refine wp_mono (Evolves.when (payAtOnce_sameTerms e userId _ q _ credit) _) fun _ db₂ hkept => ?_
  obtain ⟨g, hg, htotal, hsplit⟩ := hkept _ _ hcreated
  refine (wp_pure _ _ _).mpr ⟨g, hg, htotal.trans hprice, ?_⟩
  rw [hsplit, hallocations, has, sumOrders, ← List.zipIdx_map_fst 0 q.orders, List.map_map,
    List.zipIdx_map_fst]
  rfl

/-- A quote that succeeds is consistent with the priced lines of the cart, and a new group asks for
what the quote of its checkout says, split into what its orders cost. -/
theorem quote_consistent {now userId : ℕ} {input : CreateCheckoutDto} {db : Database} {q : Quote}
    (h : quote now userId input db = .ok q) :
    (∃ p, pricing userId input db = .ok p ∧ Consistent p.items q) ∧
    ∀ (e : Env) (credit : Option Credit) (cart : ℕ × Cart) (db₀ db' : Database) (groupId : ℕ)
      (group : CheckoutPaymentGroup), e.now = now →
      Cart.lock userId db₀ = .ok (cart, db) →
      createInTransaction e userId input credit db₀ = .ok ((groupId, group), db') →
      (db .checkoutPaymentGroup).find groupId = none →
      group.totalAmount = q.total ∧ (group.allocations.map (·.amount)).sum = q.total := by
  obtain ⟨p, hp, hquoted⟩ := quote_pricing h
  have hconsistent := hquoted.consistent (quote_balanced h)
  refine ⟨⟨p, hp, hconsistent⟩, fun e credit cart db₀ db' groupId group hnow hlock hcreate hfresh => ?_⟩
  have hwp : wp db₀ (createInTransaction e userId input credit) fun r _ =>
      (db .checkoutPaymentGroup).find r.1 = none →
        r.2.totalAmount = q.total ∧ (r.2.allocations.map (·.amount)).sum = q.total := by
    rw [createInTransaction, wp_bind, wp_of_ok hlock, wp_bind, wp_require]
    intro _
    rw [wp_bind, wp_first]
    cases hpending : (db .checkoutPaymentGroup).first fun _ g => g.activeCartId == some cart.1 with
    | some pending =>
      refine (wp_bind _ _ _ _).mpr ((wp_require _ _ _ _).mpr fun _ => (wp_pure _ _ _).mpr fun hnone => ?_)
      rw [(Relational.Table.find_of_first hpending).1] at hnone
      cases hnone
    | none =>
      refine (wp_bind _ _ _ _).mpr ((wp_query _ _ _).mpr ?_)
      rw [hnow, h]
      refine (wp_bind _ _ _ _).mpr ((wp_ofExcept _ _ _).mpr fun q' hq' => ?_)
      obtain rfl := Except.ok.inj hq'
      refine (wp_bind _ _ _ _).mpr ((wp_require _ _ _ _).mpr fun _ => ?_)
      refine (wp_bind _ _ _ _).mpr (wp_mono (placeCheckout_group e db) fun id db₁ hgroup => ?_)
      obtain ⟨g, hg, htotal, hsplit⟩ := hgroup
      refine (wp_bind _ _ _ _).mpr ((wp_findOrThrow _ _ _ _).mpr fun r hr => (wp_pure _ _ _).mpr fun _ => ?_)
      obtain rfl := Option.some.inj (hg.symm.trans hr)
      exact ⟨htotal, hsplit.trans hconsistent.sum⟩
  exact hwp _ _ hcreate hfresh

/-- A customer who has one unit from each of two stores in a cart, at 50 each, with a voucher and a
coupon applied to it; home delivery costs a fee for each store. -/
def market (fee : ℚ) (voucher : Option RewardVoucher) (coupon : Option Coupon) : Database :=
  (((((((((Database.empty.set .user (Relational.Table.empty.create { email := "c@x" })).set
      .store ((Relational.Table.empty.create { ownerUserId := 2, isActive := true }).create
        { ownerUserId := 3, isActive := true })).set
      .product (Relational.Table.empty.create { name := "Rice" })).set
      .storeProduct ((Relational.Table.empty.create
        { storeId := 1, productId := 1, price := 50, stockQuantity := 2 }).create
        { storeId := 2, productId := 1, price := 50, stockQuantity := 2 })).set
      .platformConfig (Relational.Table.empty.create
        { key := "checkout_settings", value := .checkoutSettings fee true })).set
      .cart (Relational.Table.empty.create { userId := 1, subtotal := 100, totalItems := 2 })).set
      .cartItem ((Relational.Table.empty.create
        { cartId := 1, storeProductId := 1, quantity := 1, unitPrice := 50 }).create
        { cartId := 1, storeProductId := 2, quantity := 1, unitPrice := 50 })).set
      .cartVoucher (Relational.Table.empty.create { cartId := 1, voucherId := 1 })).set
      .cartCoupon (Relational.Table.empty.create { cartId := 1, couponId := 1 })).set
      .rewardVoucher (voucher.elim Relational.Table.empty Relational.Table.empty.create) |>.set
      .coupon (coupon.elim Relational.Table.empty Relational.Table.empty.create)

/-- A request for home delivery. -/
def homeDelivery : CreateCheckoutDto :=
  { fulfillmentType := some .delivery, address := some { address := "1 Allen" } }

/-- The voucher and the coupon of the market are the ones it was given. -/
theorem market_discounts {input : CreateCheckoutDto} {fee : ℚ} {voucher : Option RewardVoucher}
    {coupon : Option Coupon} (h : pricing 1 input (market fee voucher coupon) = .ok p) :
    p.voucher = voucher ∧ p.coupon = coupon := by
  simp only [pricing, bind_eq_ok, fromOption_eq_ok] at h
  obtain ⟨_, -, cart, hcart, _, -, _, -, _, -, _, -, hp⟩ := h
  cases hcart
  cases hp
  refine ⟨?_, ?_⟩
  · cases voucher <;> rfl
  · cases coupon <;> rfl

/-- A result that is not an error has a value. -/
theorem exists_of_isOk {α : Type} {x : Except Error α} (h : x.toOption.isSome = true) :
    ∃ a, x = .ok a := by
  cases x with
  | ok a => exact ⟨a, rfl⟩
  | error e => cases h

/-- Two stores, a voucher for a tenth and a coupon of 25 on top of it. -/
theorem quote_consistent_market :
    ∃ q p, pricing 1 homeDelivery
        (market 10 (some { type := "DISCOUNT", discountPercent := some 10, startsAt := 0 })
          (some { type := "FIXED", discountAmount := some 25, startsAt := 0 })) = .ok p ∧ Consistent p.items q := by
  obtain ⟨q, hq⟩ := exists_of_isOk (x := quote 1 1 homeDelivery (market 10
    (some { type := "DISCOUNT", discountPercent := some 10, startsAt := 0 })
    (some { type := "FIXED", discountAmount := some 25, startsAt := 0 }))) (by decide +kernel)
  obtain ⟨p, hp, hconsistent⟩ := (quote_consistent hq).1
  exact ⟨q, p, hp, hconsistent⟩

end Superstore.Checkout

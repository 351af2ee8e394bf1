import Mathlib.Algebra.Order.BigOperators.Group.List
import Mathlib.Data.List.Dedup
import Mathlib.Data.List.Sort
import Superstore.Store.Environment
import Superstore.Store.Money

/-!
# The quote of a checkout

A quote prices the lines of a cart, splits them by store, and takes the voucher and the
coupon of the cart off the orders. It only reads the database, so it is a function of it.

The point of the module is `quote_balanced`: whatever the discounts are, no order of a quote
has a negative total, and the totals of the orders add up to the total of the quote.
-/

namespace Superstore.Checkout

/-- The fulfilment a request asks for, under either of its two names. -/
def fulfillmentOf (input : CreateCheckoutDto) : Except Error FulfillmentType :=
  let ofMethod : DeliveryMethod → FulfillmentType
    | .homeDelivery => .delivery
    | .storePickup => .pickup
  match input.fulfillmentType, input.deliveryMethod with
  | none, none => .error (.badRequest "Choose a delivery method.")
  | none, some method => .ok (ofMethod method)
  | some type, none => .ok type
  | some type, some method =>
    if ofMethod method = type then .ok type
    else .error (.badRequest "Conflicting delivery methods.")

/-- Text of which nothing is left once its spaces are trimmed. -/
def blank (s : String) : Bool := s.toList.all isSpace

/-- A saved address, completed from the customer's own data. -/
def savedAddress (customer : User) (saved : Address) : DeliveryAddress :=
  { label := saved.label, state := saved.state, city := saved.city, address := saved.address
    firstName := saved.firstName <|> customer.firstName
    lastName := saved.lastName <|> customer.lastName
    phone := saved.phone <|> customer.phoneNumber
    email := saved.email.getD customer.email
    additionalPhone := saved.additionalPhone, additionalInfo := saved.additionalInfo }

/-- An address given in the request. -/
def givenAddress (customer : User) (given : CheckoutAddressDto) : DeliveryAddress :=
  { label := given.label, state := given.state, city := given.city, address := given.address
    firstName := customer.firstName, lastName := customer.lastName
    phone := customer.phoneNumber, email := customer.email }

/-- The address of a home delivery: a saved one, or the one in the request. -/
def deliveryAddress (db : Database) (userId : ℕ) (customer : User) (input : CreateCheckoutDto) :
    Except Error DeliveryAddress := do
  ensure input.pickupStationId.isNone
    (.badRequest "A pickup station cannot be used for home delivery.")
  let address ← match input.addressId with
    | some addressId => do
      let saved ← fromOption (((db .address).find addressId).filter (·.userId == userId))
        (.notFound "Address not found.")
      pure (some (savedAddress customer saved))
    | none => pure (input.address.map (givenAddress customer))
  fromOption (address.filter fun a => !blank a.address)
    (.badRequest "Delivery address is required.")

/-- The station of a store pickup. -/
def pickupStation (db : Database) (input : CreateCheckoutDto) :
    Except Error (ℕ × PickupStation) := do
  ensure (input.addressId.isNone ∧ input.address.isNone)
    (.badRequest "An address cannot be used for store pickup.")
  let id ← fromOption input.pickupStationId (.badRequest "Pickup station is required.")
  let station ← fromOption (((db .pickupStation).find id).filter (·.isActive))
    (.notFound "Pickup station is unavailable.")
  return (id, station)

/-- Where the orders of a quote go: to an address, or to a station. -/
def destination (db : Database) (userId : ℕ) (customer : User) (input : CreateCheckoutDto) :
    FulfillmentType → Except Error (Option DeliveryAddress × Option (ℕ × PickupStation))
  | .delivery => (fun a => (some a, none)) <$> deliveryAddress db userId customer input
  | .pickup => (fun s => (none, some s)) <$> pickupStation db input

/-- The fee for each store and whether home delivery is offered. -/
def settings (db : Database) : Except Error (ℚ × Bool) :=
  match (db .platformConfig).first fun _ c => c.key == "checkout_settings" with
  | none => .ok (0, false)
  | some (_, ⟨_, .checkoutSettings fee enabled⟩) => .ok (fee, enabled)
  | some (_, ⟨_, .decimal _⟩) => .error .unavailable

/-- A line of a cart with the offer it is about. -/
structure Line where
  cartItemId : ℕ
  quantity : ℕ
  storeProductId : ℕ
  offer : StoreProduct
  store : StoreRecord
  product : Product

/-- The lines of a cart, in the order they were added. -/
def cartLines (db : Database) (cartId : ℕ) : Option (List Line) :=
  ((db .cartItem).many fun _ item => item.cartId == cartId).mapM fun item => do
    let offer ← (db .storeProduct).find item.2.storeProductId
    let store ← (db .store).find offer.storeId
    let product ← (db .product).find offer.productId
    pure ⟨item.1, item.2.quantity, item.2.storeProductId, offer, store, product⟩

/-- Whether a line cannot be sold as it stands. -/
def Line.unavailable (line : Line) : Bool :=
  !line.offer.isActive || !line.store.isActive || !line.product.status ||
    !line.offer.availability || line.offer.stockQuantity < line.quantity

/-- A line at its present price. -/
def Line.price (line : Line) : Except Error QuoteItem := do
  let unitPrice ← money (line.offer.discountPrice.getD line.offer.price)
  pure
    { cartItemId := line.cartItemId, storeProductId := line.storeProductId
      productId := line.offer.productId, storeId := line.offer.storeId
      productName := line.product.name, productCode := line.offer.sku
      quantity := line.quantity, unitPrice := unitPrice
      totalPrice := unitPrice * line.quantity }

/-- The sum of an amount over the orders of a quote. -/
def sumOrders (f : QuoteOrder → ℚ) (orders : List QuoteOrder) : ℚ := (orders.map f).sum

/-- The undiscounted order of one store. -/
def storeOrder (items : List QuoteItem) (fee : ℚ) (storeId : ℕ) : QuoteOrder :=
  let lines := items.filter fun item => item.storeId == storeId
  let subtotal := (lines.map (·.totalPrice)).sum
  { storeId := storeId, items := lines, subtotal := subtotal, shippingFee := fee
    total := subtotal + fee }

/-- The stores a quote delivers from, in ascending order. -/
def storeIds (items : List QuoteItem) : List ℕ :=
  (items.map (·.storeId)).dedup.insertionSort (· ≤ ·)

/-- What a voucher offers on an order, before it is capped and rounded. -/
def voucherOffer (voucher : RewardVoucher) (order : QuoteOrder) : Except Error ℚ :=
  match voucher.discountPercent with
  | some percent => .ok (order.subtotal * percent / 100)
  | none => money (voucher.discountAmount.getD 0)

/-- Take a voucher off one order. -/
def voucherOrder (voucher : RewardVoucher) (order : QuoteOrder) : Except Error QuoteOrder := do
  if voucher.storeId.any (· != order.storeId) then return order
  if voucher.type = "FREE_SHIPPING" then
    return { order with shippingDiscount := order.shippingFee, total := order.subtotal }
  let raw ← voucherOffer voucher order
  let amount ← money (min raw order.subtotal)
  return { order with discountAmount := amount, total := order.total - amount }

/-- Take the voucher of a cart off the orders it applies to. -/
def applyVoucher (now : ℕ) (gross : ℚ) (voucher : Option RewardVoucher)
    (orders : List QuoteOrder) : Except Error (List QuoteOrder) :=
  match voucher with
  | none => .ok orders
  | some voucher =>
    if voucher.isActive && decide (voucher.startsAt ≤ now) &&
        voucher.expiresAt.all (fun t => decide (now < t)) &&
        decide (voucher.minimumOrderAmount ≤ gross) then
      orders.mapM (voucherOrder voucher)
    else .error (.conflict "Applied voucher is no longer eligible.")

/-- Spread a coupon over the orders in proportion to their subtotals; the last order takes
what remains. -/
def spreadCoupon (couponTotal gross : ℚ) : ℚ → List QuoteOrder → Except Error (List QuoteOrder)
  | _, [] => .ok []
  | remaining, order :: rest => do
    let proportional := if gross = 0 then 0 else couponTotal * order.subtotal / gross
    let share := if rest.isEmpty then remaining else proportional
    let amount ← money (min remaining (min order.total share))
    let rest ← spreadCoupon couponTotal gross (remaining - amount) rest
    .ok ({ order with
      discountAmount := order.discountAmount + amount, total := order.total - amount } :: rest)

/-- What a coupon offers, before it is capped and rounded. -/
def couponOffer (coupon : Coupon) (gross : ℚ) : Except Error ℚ :=
  match coupon.type, coupon.discountPercent with
  | "PERCENTAGE", some percent => .ok (gross * percent / 100)
  | _, _ => money (coupon.discountAmount.getD 0)

/-- Take the coupon of a cart off its orders. -/
def applyCoupon (now : ℕ) (gross : ℚ) (coupon : Option Coupon) (orders : List QuoteOrder) :
    Except Error (List QuoteOrder) :=
  match coupon with
  | none => .ok orders
  | some coupon =>
    if coupon.isActive && decide (coupon.startsAt ≤ now) &&
        coupon.expiresAt.all (fun t => decide (now < t)) &&
        decide (coupon.minimumOrderAmount ≤ gross) &&
        coupon.usageLimit.all (fun limit => decide (coupon.usedCount < limit)) then do
      let offered ← couponOffer coupon gross
      let capped := coupon.maximumDiscount.elim offered (min offered)
      let couponTotal ← money (min capped (sumOrders (·.total) orders))
      spreadCoupon couponTotal gross couponTotal orders
    else .error (.conflict "Applied coupon is no longer eligible.")

/-- The undiscounted orders of a quote, one for each store. -/
def storeOrders (items : List QuoteItem) (fee : ℚ) : List QuoteOrder :=
  (storeIds items).map (storeOrder items fee)

/-- The orders of a quote, less the voucher and the coupon of the cart. -/
def discountedOrders (now : ℕ) (voucher : Option RewardVoucher) (coupon : Option Coupon)
    (orders : List QuoteOrder) : Except Error (List QuoteOrder) := do
  let gross := sumOrders (·.subtotal) orders
  let vouchered ← applyVoucher now gross voucher orders
  applyCoupon now gross coupon vouchered

/-- Every line can be sold as it stands; otherwise the error lists those that cannot. -/
def ensureAvailable (lines : List Line) : Except Error Unit :=
  let unavailable := lines.filter Line.unavailable
  ensure (unavailable = []) (.conflictWith "Some items are unavailable"
    (.unavailableItems (unavailable.map fun line =>
      ⟨line.offer.productId, line.storeProductId, line.product.name, line.quantity,
        line.offer.stockQuantity⟩)))

/-- The quote of a customer's cart. -/
def quote (now : ℕ) (userId : ℕ) (input : CreateCheckoutDto) (db : Database) :
    Except Error Quote := do
  let fulfillmentType ← fulfillmentOf input
  let cart ← fromOption (((db .cart).first fun _ c => c.userId == userId).filter
    fun c => input.cartId.all (· == c.1)) (.notFound "Cart not found.")
  let lines ← fromOption (cartLines db cart.1) .recordNotFound
  ensure (lines ≠ []) (.badRequest "Cart is empty.")
  ensure (cart.2.currency = "NGN") (.badRequest "Checkout currently supports NGN only.")
  let customer ← fromOption ((db .user).find userId) .recordNotFound
  let place ← destination db userId customer input fulfillmentType
  let (feePerStore, deliveryEnabled) ← settings db
  ensure (fulfillmentType = .delivery → deliveryEnabled)
    (.badRequest "Home delivery is not configured or is disabled.")
  ensureAvailable lines
  let items ← lines.mapM Line.price
  let fee ← money (if fulfillmentType = .delivery then feePerStore else 0)
  let base := storeOrders items fee
  let gross := sumOrders (·.subtotal) base
  let voucher := ((db .cartVoucher).first fun _ v => v.cartId == cart.1).bind
    fun v => (db .rewardVoucher).find v.2.voucherId
  let coupon := ((db .cartCoupon).first fun _ c => c.cartId == cart.1).bind
    fun c => (db .coupon).find c.2.couponId
  let orders ← discountedOrders now voucher coupon base
  let discountAmount := sumOrders (fun o => o.discountAmount + o.shippingDiscount) orders
  let shippingFee := fee * base.length
  return {
    cartId := cart.1, currency := cart.2.currency, fulfillmentType := fulfillmentType
    deliveryAddress := place.1, pickupStation := place.2, subtotal := gross
    shippingFee := shippingFee, discountAmount := discountAmount
    total := gross + shippingFee - discountAmount, orders := orders
    paymentMethod := input.paymentMethod.getD .card }

/-! ## The totals of a quote -/

/-- The order of a quote adds up, in whole cents, and costs nothing negative. -/
structure Balanced (o : QuoteOrder) : Prop where
  subtotal_cents : Cents o.subtotal
  subtotal_nonneg : 0 ≤ o.subtotal
  total_cents : Cents o.total
  total_nonneg : 0 ≤ o.total
  total_eq : o.total = o.subtotal + o.shippingFee - o.discountAmount - o.shippingDiscount

/-- An order from which nothing has been taken off yet. -/
structure Undiscounted (o : QuoteOrder) : Prop extends Balanced o where
  fee_cents : Cents o.shippingFee
  fee_nonneg : 0 ≤ o.shippingFee
  no_discount : o.discountAmount = 0
  no_shippingDiscount : o.shippingDiscount = 0

/-- Discounts leave the goods of an order and its fee alone. -/
def SameGoods (o o' : QuoteOrder) : Prop := o'.subtotal = o.subtotal ∧ o'.shippingFee = o.shippingFee

/-- The lines of a quote are priced in whole cents. -/
theorem price_spec {line : Line} {item : QuoteItem} (h : line.price = .ok item) :
    Cents item.totalPrice ∧ 0 ≤ item.totalPrice := by
  simp only [Line.price, bind_eq_ok] at h
  obtain ⟨unitPrice, hmoney, hitem⟩ := h
  cases hitem
  obtain ⟨hcents, hnonneg⟩ := money_spec hmoney
  exact ⟨hcents.mul_nat _, mul_nonneg hnonneg (Nat.cast_nonneg _)⟩

/-- All lines of a quote are priced in whole cents. -/
theorem prices_spec {lines : List Line} {items : List QuoteItem}
    (h : lines.mapM Line.price = .ok items) :
    ∀ item ∈ items, Cents item.totalPrice ∧ 0 ≤ item.totalPrice := by
  induction mapM_eq_ok.mp h with
  | nil => simp
  | cons hline hrest ih =>
    exact List.forall_mem_cons.mpr ⟨price_spec hline, ih (mapM_eq_ok.mpr hrest)⟩

/-- The order of a store has nothing taken off. -/
theorem storeOrder_undiscounted {items : List QuoteItem} {fee : ℚ} (hfee : Cents fee ∧ 0 ≤ fee)
    (hitems : ∀ item ∈ items, Cents item.totalPrice ∧ 0 ≤ item.totalPrice) (storeId : ℕ) :
    Undiscounted (storeOrder items fee storeId) := by
  have hlines : ∀ x ∈ (items.filter fun item => item.storeId == storeId).map (·.totalPrice),
      Cents x ∧ 0 ≤ x := by
    intro x hx
    obtain ⟨item, hitem, rfl⟩ := List.mem_map.mp hx
    exact hitems item (List.mem_filter.mp hitem).1
  have hcents : Cents (storeOrder items fee storeId).subtotal :=
    Cents.sum fun x hx => (hlines x hx).1
  have hnonneg : 0 ≤ (storeOrder items fee storeId).subtotal :=
    List.sum_nonneg fun x hx => (hlines x hx).2
  exact
    { subtotal_cents := hcents
      subtotal_nonneg := hnonneg
      total_cents := hcents.add hfee.1
      total_nonneg := add_nonneg hnonneg hfee.2
      total_eq := by simp [storeOrder]
      fee_cents := hfee.1
      fee_nonneg := hfee.2
      no_discount := rfl
      no_shippingDiscount := rfl }

/-- A voucher keeps an order balanced: it never exceeds the subtotal. -/
theorem voucherOrder_spec {voucher : RewardVoucher} {o o' : QuoteOrder} (ho : Undiscounted o)
    (h : voucherOrder voucher o = .ok o') : Balanced o' ∧ SameGoods o o' := by
  have htotal : o.total = o.subtotal + o.shippingFee := by
    rw [ho.total_eq, ho.no_discount, ho.no_shippingDiscount, sub_zero, sub_zero]
  unfold voucherOrder at h
  split at h
  · cases h
    exact ⟨ho.toBalanced, rfl, rfl⟩
  · split at h
    · cases h
      refine ⟨⟨ho.subtotal_cents, ho.subtotal_nonneg, ho.subtotal_cents, ho.subtotal_nonneg, ?_⟩,
        rfl, rfl⟩
      dsimp only
      rw [ho.no_discount]
      ring
    · simp only [bind_eq_ok] at h
      obtain ⟨raw, -, amount, hamount, ho'⟩ := h
      cases ho'
      have hle : amount ≤ o.subtotal := money_le hamount ho.subtotal_cents (min_le_right _ _)
      refine ⟨⟨ho.subtotal_cents, ho.subtotal_nonneg, ho.total_cents.sub (money_spec hamount).1, ?_,
        ?_⟩, rfl, rfl⟩
      · have hfee := ho.fee_nonneg
        dsimp only
        linarith
      · dsimp only
        rw [htotal, ho.no_shippingDiscount]
        ring

/-- A share of a coupon keeps its order balanced: it never exceeds what the order costs. -/
theorem spreadCoupon_spec {couponTotal gross remaining : ℚ} {orders orders' : List QuoteOrder}
    (horders : ∀ o ∈ orders, Balanced o)
    (h : spreadCoupon couponTotal gross remaining orders = .ok orders') :
    (∀ o ∈ orders', Balanced o) ∧ List.Forall₂ SameGoods orders orders' := by
  induction orders generalizing remaining orders' with
  | nil =>
    cases h
    exact ⟨by simp, .nil⟩
  | cons o rest ih =>
    simp only [spreadCoupon, bind_eq_ok] at h
    obtain ⟨amount, hamount, rest', hrest, horders'⟩ := h
    cases horders'
    have ho := horders o List.mem_cons_self
    obtain ⟨hbalanced, hgoods⟩ := ih (fun x hx => horders x (List.mem_cons_of_mem _ hx)) hrest
    have hle : amount ≤ o.total :=
      money_le hamount ho.total_cents ((min_le_right _ _).trans (min_le_left _ _))
    refine ⟨fun x hx => ?_, .cons ⟨rfl, rfl⟩ hgoods⟩
    rcases List.mem_cons.mp hx with rfl | hx
    · refine ⟨ho.subtotal_cents, ho.subtotal_nonneg, ho.total_cents.sub (money_spec hamount).1,
        sub_nonneg.mpr hle, ?_⟩
      dsimp only
      rw [ho.total_eq]
      ring
    · exact hbalanced x hx

/-- A voucher keeps the orders balanced and their goods the same. -/
theorem applyVoucher_spec {now : ℕ} {gross : ℚ} {voucher : Option RewardVoucher}
    {orders orders' : List QuoteOrder} (horders : ∀ o ∈ orders, Undiscounted o)
    (h : applyVoucher now gross voucher orders = .ok orders') :
    (∀ o ∈ orders', Balanced o) ∧ List.Forall₂ SameGoods orders orders' := by
  unfold applyVoucher at h
  split at h
  · cases h
    exact ⟨fun o ho => (horders o ho).toBalanced, List.forall₂_same.mpr fun _ _ => ⟨rfl, rfl⟩⟩
  · split at h
    · have hall := mapM_eq_ok.mp h
      clear h
      induction hall with
      | nil => exact ⟨by simp, .nil⟩
      | cons hx _ ih =>
        obtain ⟨hbalanced, hgoods⟩ := ih fun o ho => horders o (List.mem_cons_of_mem _ ho)
        obtain ⟨hhead, hsame⟩ := voucherOrder_spec (horders _ List.mem_cons_self) hx
        exact ⟨List.forall_mem_cons.mpr ⟨hhead, hbalanced⟩, .cons hsame hgoods⟩
    · cases h

/-- A coupon keeps the orders balanced and their goods the same. -/
theorem applyCoupon_spec {now : ℕ} {gross : ℚ} {coupon : Option Coupon}
    {orders orders' : List QuoteOrder} (horders : ∀ o ∈ orders, Balanced o)
    (h : applyCoupon now gross coupon orders = .ok orders') :
    (∀ o ∈ orders', Balanced o) ∧ List.Forall₂ SameGoods orders orders' := by
  unfold applyCoupon at h
  split at h
  · cases h
    exact ⟨horders, List.forall₂_same.mpr fun _ _ => ⟨rfl, rfl⟩⟩
  · split at h
    · simp only [bind_eq_ok] at h
      obtain ⟨_, -, _, -, hspread⟩ := h
      exact spreadCoupon_spec horders hspread
    · cases h

/-- Orders with the same goods have the same subtotals and fees in sum. -/
theorem sumOrders_goods {orders orders' : List QuoteOrder}
    (h : List.Forall₂ SameGoods orders orders') :
    sumOrders (fun o => o.subtotal + o.shippingFee) orders' =
      sumOrders (fun o => o.subtotal + o.shippingFee) orders := by
  induction h with
  | nil => rfl
  | cons hsame _ ih =>
    simp only [sumOrders, List.map_cons, List.sum_cons] at ih ⊢
    rw [hsame.1, hsame.2, ih]

/-- Balanced orders cost their goods and fees less what is taken off. -/
theorem sumOrders_total {orders : List QuoteOrder} (h : ∀ o ∈ orders, Balanced o) :
    sumOrders (·.total) orders = sumOrders (fun o => o.subtotal + o.shippingFee) orders -
      sumOrders (fun o => o.discountAmount + o.shippingDiscount) orders := by
  induction orders with
  | nil => simp [sumOrders]
  | cons o rest ih =>
    have hrest := ih fun x hx => h x (List.mem_cons_of_mem _ hx)
    simp only [sumOrders, List.map_cons, List.sum_cons] at hrest ⊢
    rw [hrest, (h o List.mem_cons_self).total_eq]
    ring

/-- No order of a quote costs less than nothing, and together they cost what the quote says. -/
theorem quote_balanced {now userId : ℕ} {input : CreateCheckoutDto} {db : Database} {q : Quote}
    (h : quote now userId input db = .ok q) :
    (∀ o ∈ q.orders, 0 ≤ o.total) ∧ sumOrders (·.total) q.orders = q.total := by
  simp only [quote, discountedOrders, bind_eq_ok, ensure_eq_ok, fromOption_eq_ok] at h
  obtain ⟨_, -, _, -, lines, -, _, -, _, -, _, -, _, -, _, -, _, -, _, -, items, hitems, fee, hfee,
    orders, ⟨vouchered, hvoucher, hcoupon⟩, hq⟩ := h
  cases hq
  have hbase : ∀ o ∈ storeOrders items fee, Undiscounted o := by
    intro o ho
    obtain ⟨storeId, -, rfl⟩ := List.mem_map.mp ho
    exact storeOrder_undiscounted (money_spec hfee) (prices_spec hitems) storeId
  obtain ⟨hvouchered, hgoods⟩ := applyVoucher_spec hbase hvoucher
  obtain ⟨horders, hgoods'⟩ := applyCoupon_spec hvouchered hcoupon
  refine ⟨fun o ho => (horders o ho).total_nonneg, ?_⟩
  have hfees : sumOrders (fun o => o.subtotal + o.shippingFee) (storeOrders items fee) =
      sumOrders (·.subtotal) (storeOrders items fee) + fee * (storeOrders items fee).length := by
    rw [sumOrders, List.sum_map_add]
    simp [sumOrders, storeOrders, Function.comp_def, storeOrder, mul_comm]
  rw [sumOrders_total horders, sumOrders_goods hgoods', sumOrders_goods hgoods, hfees]

end Superstore.Checkout

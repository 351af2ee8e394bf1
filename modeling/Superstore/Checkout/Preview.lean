import Superstore.Checkout.Discounts

/-!
# The preview of a coupon

When a customer applies a coupon, the discount is computed from the subtotal stored with the
cart. The checkout computes it again, from the present prices, and caps it by what the orders
cost with their delivery instead of by the goods. The module says when both agree.
-/

namespace Superstore.Checkout

/-- The discount that the coupon service computes from a subtotal. -/
def discount (coupon : Coupon) (subtotal : ℚ) : Except Error ℚ := do
  let value ← couponOffer coupon subtotal
  money (min (coupon.maximumDiscount.elim value (min value)) subtotal)

/-- What applying a coupon answers. -/
structure AppliedCoupon where
  discount : ℚ
  cartId : ℕ

/-- Apply a coupon, which the request names by its code, to the cart of a customer. -/
def applyCode (now userId couponId : ℕ) : Tx AppliedCoupon := do
  let cart ← first .cart fun _ c => c.userId == userId
  let cart ← orThrow (cart.filter fun c => c.2.totalItems != 0) (.badRequest "Cart is empty.")
  let coupon ← find .coupon couponId
  let coupon ← orThrow (coupon.filter fun c => c.isActive && decide (c.startsAt ≤ now) &&
      c.expiresAt.all (fun t => decide (now < t)) && c.usageLimit.all (fun limit => decide (c.usedCount < limit)))
    (.notFound "Coupon is invalid or unavailable.")
  require (coupon.minimumOrderAmount ≤ cart.2.subtotal)
    (.badRequest ("A minimum cart subtotal of " ++ toFixed2 coupon.minimumOrderAmount ++ " is required."))
  let applied ← firstOrCreate .cartCoupon (fun _ c => c.cartId == cart.1) { cartId := cart.1, couponId := couponId }
  update .cartCoupon applied.1 fun c => { c with couponId := couponId }
  let discount ← ofExcept (discount coupon cart.2.subtotal)
  pure ⟨discount, cart.1⟩

open Relational.Tx (Writes wp wp_bind wp_find wp_first wp_firstOrCreate wp_mono wp_ofExcept wp_orThrow wp_pure
  wp_require wp_update)

/-- Applying a code writes the use of the coupon. -/
theorem applyCode_writes (now userId couponId : ℕ) : Writes [.cartCoupon] (applyCode now userId couponId) := by
  refine .bind (.first _ _) fun _ => .bind (.orThrow _ _) fun _ => .bind (.find _ _) fun _ => ?_
  refine .bind (.orThrow _ _) fun _ => .bind (.require _ _) fun _ => ?_
  exact .bind (.firstOrCreate (by decide) _ _) fun _ => .bind (.update (by decide) _ _) fun _ =>
    .bind (.ofExcept _) fun _ => .pure _

/-- An applied coupon is the coupon of the cart, and its discount is that of the stored subtotal. -/
theorem applyCode_spec (now userId couponId : ℕ) (db : Database) :
    wp db (applyCode now userId couponId) fun a db' => ∃ cart coupon,
      (db .cart).first (fun _ c => c.userId == userId) = some (a.cartId, cart) ∧
      (db .coupon).find couponId = some coupon ∧ discount coupon cart.subtotal = .ok a.discount ∧
      couponOf db' a.cartId = some coupon := by
  rw [applyCode, wp_bind, wp_first, wp_bind, wp_orThrow]
  intro cart hcart
  obtain ⟨hcart, -⟩ := Option.filter_eq_some_iff.mp hcart
  rw [wp_bind, wp_find, wp_bind, wp_orThrow]
  intro coupon hcoupon
  obtain ⟨hcoupon, -⟩ := Option.filter_eq_some_iff.mp hcoupon
  rw [wp_bind, wp_require]
  intro _
  have hlast (db₁ : Database) (i : ℕ) (row : CartCoupon)
      (hfirst : (db₁ .cartCoupon).first (fun _ c => c.cartId == cart.1) = some (i, row))
      (hsame : db₁ .coupon = db .coupon) :
      wp db₁ (do
        update .cartCoupon i fun c => { c with couponId := couponId }
        let discount ← ofExcept (discount coupon cart.2.subtotal)
        pure (AppliedCoupon.mk discount cart.1)) fun a db' => ∃ cart coupon,
          (db .cart).first (fun _ c => c.userId == userId) = some (a.cartId, cart) ∧
          (db .coupon).find couponId = some coupon ∧ discount coupon cart.subtotal = .ok a.discount ∧
          couponOf db' a.cartId = some coupon := by
    rw [wp_bind, wp_update]
    intro _ _
    rw [wp_bind, wp_ofExcept]
    intro d hd
    refine (wp_pure _ _ _).mpr ⟨cart.2, coupon, hcart, hcoupon, hd, ?_⟩
    have hstill := Relational.Table.first_update (f := fun c : CartCoupon => { c with couponId := couponId })
      hfirst fun _ _ => rfl
    rw [couponOf, Relational.Database.set_self, hstill, Option.bind_some,
      Relational.Database.set_of_ne _ _ (by decide), hsame]
    exact hcoupon
  rw [wp_bind, wp_firstOrCreate]
  refine ⟨fun row hrow => hlast db row.1 row.2 hrow rfl, fun hnone => ?_⟩
  refine hlast _ _ { cartId := cart.1, couponId := couponId } ?_ (Relational.Database.set_of_ne _ _ (by decide))
  rw [Relational.Database.set_self]
  exact Relational.Table.first_create hnone (beq_self_eq_true _)

/-- The reported discount, in closed form. -/
theorem discount_eq {coupon : Coupon} {subtotal d : ℚ} (h : discount coupon subtotal = .ok d) :
    d = toDecimalPlaces2 (min (couponWorth coupon subtotal) subtotal) := by
  simp only [discount, bind_eq_ok] at h
  obtain ⟨value, hvalue, hmoney⟩ := h
  obtain ⟨-, rfl⟩ := money_eq_ok.mp hmoney
  rw [couponWorth_of_offer hvalue]

/-! ## When the preview is what the checkout grants -/

/-- Orders that cost their goods and the same fee. -/
structure Plain (fee gross : ℚ) (o : QuoteOrder) : Prop where
  cents : Cents o.subtotal
  nonneg : 0 ≤ o.subtotal
  le_gross : o.subtotal ≤ gross
  total : o.total = o.subtotal + fee

/-- A coupon worth the goods gives every order a share worth its goods. -/
theorem subtotal_le_share {couponTotal fee gross : ℚ} {o : QuoteOrder} (h : Plain fee gross o)
    (hworth : gross ≤ couponTotal) : o.subtotal ≤ toDecimalPlaces2 (share couponTotal gross o) := by
  rw [← toDecimalPlaces2_of_cents h.cents]
  refine toDecimalPlaces2_mono ?_
  unfold share
  split
  · next hzero => exact hzero ▸ h.le_gross
  · next hne =>
    have hpos : 0 < gross := lt_of_le_of_ne (h.nonneg.trans h.le_gross) (Ne.symm hne)
    rw [le_div_iff₀ hpos, mul_comm couponTotal]
    exact mul_le_mul_of_nonneg_left hworth h.nonneg

/-- There is more room for a coupon worth the goods than the goods cost, by the fee of one order. -/
theorem gross_add_fee_le_room {couponTotal fee gross : ℚ} (hfee : 0 ≤ fee) (hworth : gross ≤ couponTotal)
    {orders : List QuoteOrder} (hne : orders ≠ []) (horders : ∀ o ∈ orders, Plain fee gross o) :
    sumOrders (·.subtotal) orders + fee ≤ room couponTotal gross orders := by
  induction orders with
  | nil => exact absurd rfl hne
  | cons o rest ih =>
    have hhead := horders o List.mem_cons_self
    cases rest with
    | nil =>
      rw [room, hhead.total]
      simp [sumOrders]
    | cons next rest =>
      have hrest := ih (List.cons_ne_nil _ _) fun x hx => horders x (List.mem_cons_of_mem _ hx)
      have hpart : o.subtotal ≤ min o.total (toDecimalPlaces2 (share couponTotal gross o)) :=
        le_min (hhead.total ▸ le_add_of_nonneg_right hfee) (subtotal_le_share hhead hworth)
      simp only [sumOrders, List.map_cons, List.sum_cons] at hrest ⊢
      rw [room]
      linarith

variable {p : Pricing}

/-- Without a voucher the orders cost their goods and the fee. -/
theorem plain_orders (h : p.Sound) : ∀ o ∈ p.orders, Plain p.fee p.gross o := by
  intro o ho
  have hplain := h.undiscounted o ho
  have hle : o.subtotal ≤ p.gross := by
    refine List.single_le_sum (fun x hx => ?_) _ (List.mem_map_of_mem ho)
    obtain ⟨o', ho', rfl⟩ := List.mem_map.mp hx
    exact (h.undiscounted o' ho').subtotal_nonneg
  refine ⟨hplain.subtotal_cents, hplain.subtotal_nonneg, hle, ?_⟩
  obtain ⟨storeId, -, rfl⟩ := List.mem_map.mp ho
  rfl

/-- The orders of a quote cost their goods and a fee each. -/
theorem orders_total (p : Pricing) : sumOrders (·.total) p.orders = p.gross + p.fee * p.orders.length := by
  rw [Pricing.gross, Pricing.orders]
  simp [sumOrders, storeOrders, Function.comp_def, storeOrder, List.sum_map_add, mul_comm]

/-- Without a voucher the orders stay as they are. -/
theorem vouchered_of_none (h : p.voucher = none) : p.vouchered = p.orders := by
  rw [Pricing.vouchered, h]
  exact List.map_id'' (fun _ => rfl) _

/-- The coupon is granted as the goods alone would allow when it is worth no more than they cost, or
when there is no fee, and when there is room for it. -/
theorem granted_eq_iff (coupon : Coupon) (h : p.Sound) (hne : p.orders ≠ []) :
    toDecimalPlaces2 (min (couponWorth coupon p.gross) p.gross) =
        min (couponTotal coupon p.gross p.orders) (room (couponTotal coupon p.gross p.orders) p.gross p.orders) ↔
      (toDecimalPlaces2 (couponWorth coupon p.gross) ≤ p.gross ∨ p.fee = 0) ∧
        couponTotal coupon p.gross p.orders ≤ room (couponTotal coupon p.gross p.orders) p.gross p.orders := by
  have hgross : Cents p.gross := by
    refine Cents.sum fun x hx => ?_
    obtain ⟨o, ho, rfl⟩ := List.mem_map.mp hx
    exact (h.undiscounted o ho).subtotal_cents
  have htotal : Cents (sumOrders (·.total) p.orders) := by
    rw [orders_total]
    exact hgross.add (h.fee.1.mul_nat _)
  have hworth : couponTotal coupon p.gross p.orders =
      min (toDecimalPlaces2 (couponWorth coupon p.gross)) (sumOrders (·.total) p.orders) := by
    rw [couponTotal, toDecimalPlaces2_min, toDecimalPlaces2_of_cents htotal]
  rw [toDecimalPlaces2_min, toDecimalPlaces2_of_cents hgross]
  have hcost : p.gross ≤ sumOrders (·.total) p.orders := by
    rw [orders_total]
    exact le_add_of_nonneg_right (mul_nonneg h.fee.2 (Nat.cast_nonneg _))
  rcases le_or_gt (toDecimalPlaces2 (couponWorth coupon p.gross)) p.gross with hle | hgt
  · rw [min_eq_left (hle.trans hcost)] at hworth
    rw [min_eq_left hle, hworth, eq_comm, min_eq_left_iff]
    exact ⟨fun hroom => ⟨.inl hle, hroom⟩, fun hroom => hroom.2⟩
  · rw [min_eq_right hgt.le]
    rcases eq_or_lt_of_le h.fee.2 with hfree | hfee
    · have hsame : sumOrders (·.total) p.orders = p.gross := by
        rw [orders_total, ← hfree, zero_mul, add_zero]
      rw [hsame, min_eq_right hgt.le] at hworth
      rw [hworth, eq_comm, min_eq_left_iff]
      exact ⟨fun hroom => ⟨.inr hfree.symm, hroom⟩, fun hroom => hroom.2⟩
    · have hmore : p.gross < sumOrders (·.total) p.orders := by
        rw [orders_total]
        have hlength : (0 : ℚ) < p.orders.length := by exact_mod_cast List.length_pos_iff.mpr hne
        exact lt_add_of_pos_right _ (mul_pos hfee hlength)
      have hexceeds : p.gross < couponTotal coupon p.gross p.orders := by
        rw [hworth]
        exact lt_min hgt hmore
      have hroom := gross_add_fee_le_room hfee.le hexceeds.le hne (plain_orders h)
      refine iff_of_false (ne_of_lt (lt_min hexceeds ?_)) fun hboth => ?_
      · exact lt_of_lt_of_le (lt_add_of_pos_right _ hfee) hroom
      · rcases hboth.1 with hle | hzero
        · exact absurd hle (not_le.mpr hgt)
        · exact absurd hzero hfee.ne'

/-- The discount reported for a coupon and the one granted by a checkout without a voucher, between
which no cart, offer or coupon changes. They are equal exactly when the coupon, capped by the stored
subtotal, is what it is worth at the present prices, as far as the orders have room for it. If the
stored prices are the present ones, this says that the coupon is worth no more than the goods, or
that delivery is free, and that there is room for it. -/
theorem preview_agrees {now now' userId couponId : ℕ} {input : CreateCheckoutDto} {db db₁ db₂ : Database}
    {a : AppliedCoupon} {q : Quote} {cart : ℕ × Cart} {coupon : Coupon}
    (happly : applyCode now userId couponId db = .ok (a, db₁))
    (hcart : (db .cart).first (fun _ c => c.userId == userId) = some cart)
    (hcoupon : (db .coupon).find couponId = some coupon)
    (hsame : ∀ n ∈ [TableName.cart, .cartItem, .cartCoupon, .coupon, .storeProduct], db₂ n = db₁ n)
    (hquote : quote now' userId input db₂ = .ok q) (hp : pricing userId input db₂ = .ok p)
    (hvoucher : p.voucher = none) :
    (a.discount = sumOrders (·.discountAmount) q.orders ↔
      toDecimalPlaces2 (min (couponWorth coupon cart.2.subtotal) cart.2.subtotal) =
        min (couponTotal coupon p.gross p.orders)
          (room (couponTotal coupon p.gross p.orders) p.gross p.orders)) ∧
    (cart.2.subtotal = p.gross → (a.discount = sumOrders (·.discountAmount) q.orders ↔
      (toDecimalPlaces2 (couponWorth coupon p.gross) ≤ p.gross ∨ p.fee = 0) ∧
        couponTotal coupon p.gross p.orders ≤
          room (couponTotal coupon p.gross p.orders) p.gross p.orders)) := by
  obtain ⟨cart', coupon', hcart', hcoupon', hdiscount, hof⟩ := applyCode_spec now userId couponId db _ _ happly
  obtain rfl := Option.some.inj (hcart.symm.trans hcart')
  obtain rfl := Option.some.inj (hcoupon.symm.trans hcoupon')
  obtain ⟨p', hp', hquoted⟩ := quote_pricing hquote
  obtain rfl := Except.ok.inj (hp.symm.trans hp')
  have hkept : db₁ .cart = db .cart := applyCode_writes now userId couponId db _ _ happly .cart (by decide)
  have hc : p.coupon = some coupon := by
    simp only [pricing, bind_eq_ok, fromOption_eq_ok] at hp
    obtain ⟨_, -, cart₂, hcart₂, _, -, _, -, _, -, _, -, hpricing⟩ := hp
    rw [hsame .cart (by decide), hkept, hcart] at hcart₂
    cases hcart₂
    cases hpricing
    rw [← hof, couponOf, couponOf, hsame .cartCoupon (by decide), hsame .coupon (by decide)]
  have hgranted := (coupon_granted hquoted hc).2
  have hnone : sumOrders (·.discountAmount) p.orders = 0 := by
    refine List.sum_eq_zero fun x hx => ?_
    obtain ⟨o, ho, rfl⟩ := List.mem_map.mp hx
    exact (hquoted.sound.undiscounted o ho).no_discount
  rw [vouchered_of_none hvoucher, hnone, sub_zero] at hgranted
  have hiff := granted_eq_iff coupon hquoted.sound hquoted.orders_ne
  rw [hgranted, discount_eq hdiscount]
  exact ⟨Iff.rfl, fun hlive => by rw [hlive]; exact hiff⟩

/-- A coupon of 200. -/
def twoHundredOff : Coupon := { type := "FIXED", discountAmount := some 200, startsAt := 0 }

/-- Goods of 100 and two fees of 10: the preview promises 100, the checkout grants 120. -/
theorem preview_differs : ¬ ∀ (now now' userId couponId : ℕ) (input : CreateCheckoutDto)
    (db db₁ db₂ : Database) (a : AppliedCoupon) (q : Quote) (p : Pricing),
    applyCode now userId couponId db = .ok (a, db₁) →
    (∀ n ∈ [TableName.cart, .cartItem, .cartCoupon, .coupon, .storeProduct], db₂ n = db₁ n) →
    quote now' userId input db₂ = .ok q → pricing userId input db₂ = .ok p → p.voucher = none →
    a.discount = sumOrders (·.discountAmount) q.orders := by
  intro h
  obtain ⟨⟨a, db₁⟩, ha⟩ := exists_of_isOk (x := applyCode 1 1 1 (market 10 none (some twoHundredOff)))
    (by decide +kernel)
  have hpreview : ((applyCode 1 1 1 (market 10 none (some twoHundredOff))).toOption.map fun r =>
      (r.1.discount, ((quote 1 1 homeDelivery r.2).toOption.map
        fun q => sumOrders (·.discountAmount) q.orders), (pricing 1 homeDelivery r.2).toOption.map
        fun p => p.voucher.isNone)) = some (100, some 120, some true) := by decide +kernel
  rw [ha] at hpreview
  obtain ⟨hdiscount, hgranted, hvoucher⟩ : a.discount = 100 ∧ ((quote 1 1 homeDelivery db₁).toOption.map
      fun q => sumOrders (·.discountAmount) q.orders) = some 120 ∧ ((pricing 1 homeDelivery db₁).toOption.map
      fun p => p.voucher.isNone) = some true := by
    simpa only [Prod.mk.injEq] using Option.some.inj hpreview
  cases hq : quote 1 1 homeDelivery db₁ with
  | error e =>
    rw [hq] at hgranted
    cases hgranted
  | ok q =>
    obtain ⟨p, hp, -⟩ := quote_pricing hq
    rw [hq] at hgranted
    rw [hp] at hvoucher
    have hnone : p.voucher = none := Option.isNone_iff_eq_none.mp (Option.some.inj hvoucher)
    have hsum : sumOrders (·.discountAmount) q.orders = 120 := Option.some.inj hgranted
    have hsame := h 1 1 1 1 homeDelivery _ db₁ db₁ a q p ha (fun _ _ => rfl) hq hp hnone
    rw [hdiscount, hsum] at hsame
    exact absurd hsame (by decide +kernel)

/-- A coupon of 50 on the same goods is granted as promised. -/
theorem preview_agrees_market : ∃ (a : AppliedCoupon) (q : Quote) (db₁ : Database),
    applyCode 1 1 1 (market 10 none (some fiftyOff)) = .ok (a, db₁) ∧
      quote 1 1 homeDelivery db₁ = .ok q ∧ a.discount = sumOrders (·.discountAmount) q.orders := by
  obtain ⟨⟨a, db₁⟩, ha⟩ := exists_of_isOk (x := applyCode 1 1 1 (market 10 none (some fiftyOff)))
    (by decide +kernel)
  have hfits : ((applyCode 1 1 1 (market 10 none (some fiftyOff))).toOption.map fun r =>
      ((quote 1 1 homeDelivery r.2).toOption.isSome, (pricing 1 homeDelivery r.2).toOption.map fun p =>
        decide (p.voucher.isNone = true ∧ toDecimalPlaces2 (min (couponWorth fiftyOff 100) 100) =
          min (couponTotal fiftyOff p.gross p.orders)
            (room (couponTotal fiftyOff p.gross p.orders) p.gross p.orders)))) = some (true, some true) := by
    decide +kernel
  rw [ha] at hfits
  obtain ⟨hquote, hroom⟩ : (quote 1 1 homeDelivery db₁).toOption.isSome = true ∧
      ((pricing 1 homeDelivery db₁).toOption.map fun p =>
        decide (p.voucher.isNone = true ∧ toDecimalPlaces2 (min (couponWorth fiftyOff 100) 100) =
          min (couponTotal fiftyOff p.gross p.orders)
            (room (couponTotal fiftyOff p.gross p.orders) p.gross p.orders))) = some true := by
    simpa only [Prod.mk.injEq] using Option.some.inj hfits
  obtain ⟨q, hq⟩ := exists_of_isOk hquote
  obtain ⟨p, hp, -⟩ := quote_pricing hq
  rw [hp] at hroom
  obtain ⟨hnone, hequal⟩ := of_decide_eq_true (Option.some.inj hroom)
  refine ⟨a, q, db₁, ha, hq, (preview_agrees ha
    (show _ = some (1, { userId := 1, subtotal := 100, totalItems := 2 }) from rfl) rfl
      (fun _ _ => rfl) hq hp (Option.isNone_iff_eq_none.mp hnone)).1.mpr hequal⟩

end Superstore.Checkout

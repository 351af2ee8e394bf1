import Superstore.Checkout.Pricing

/-!
# What vouchers and coupons grant

Vouchers are applied to every order on its own, and a coupon is spread over the orders in
proportion to their goods, with what is left over for the last one. Both are put here into a
closed form. From it follows exactly when a coupon is granted in full and when a voucher of a
fixed amount is granted only once: neither is the case for every cart.
-/

namespace Superstore.Checkout

/-- Rounding keeps the smaller of two amounts. -/
theorem toDecimalPlaces2_min (x y : ℚ) :
    toDecimalPlaces2 (min x y) = min (toDecimalPlaces2 x) (toDecimalPlaces2 y) :=
  Monotone.map_min fun _ _ => toDecimalPlaces2_mono

/-! ## Vouchers -/

/-- Whether a voucher is good for an order. -/
def covers (voucher : RewardVoucher) (order : QuoteOrder) : Bool :=
  !voucher.storeId.any (· != order.storeId)

/-- What a voucher takes off the goods of an order that it is good for. -/
def voucherCut (voucher : RewardVoucher) (order : QuoteOrder) : ℚ :=
  let offered := voucher.discountPercent.elim (toDecimalPlaces2 (voucher.discountAmount.getD 0))
    fun percent => order.subtotal * percent / 100
  toDecimalPlaces2 (min offered order.subtotal)

/-- An order after a voucher that it is good for. -/
def discountBy (voucher : RewardVoucher) (order : QuoteOrder) : QuoteOrder :=
  if voucher.type = "FREE_SHIPPING" then
    { order with shippingDiscount := order.shippingFee, total := order.subtotal }
  else
    { order with
      discountAmount := voucherCut voucher order, total := order.total - voucherCut voucher order }

/-- An order after the voucher of its cart. -/
def afterVoucher (voucher : Option RewardVoucher) (order : QuoteOrder) : QuoteOrder :=
  voucher.elim order fun voucher => if covers voucher order then discountBy voucher order else order

/-- What a voucher makes of an order is the order after it. -/
theorem voucherOrder_eq {voucher : RewardVoucher} {o o' : QuoteOrder}
    (h : voucherOrder voucher o = .ok o') : o' = afterVoucher (some voucher) o := by
  simp only [afterVoucher, Option.elim_some]
  unfold voucherOrder at h
  split at h
  · next hother =>
    cases h
    rw [covers, hother]
    rfl
  · next hcovers =>
    have hgood : covers voucher o = true := by rw [covers, Bool.eq_false_iff.mpr hcovers]; rfl
    rw [if_pos hgood, discountBy]
    split at h
    · next hfree =>
      cases h
      rw [if_pos hfree]
    · next hpaid =>
      rw [if_neg hpaid]
      simp only [bind_eq_ok] at h
      obtain ⟨raw, hraw, amount, hamount, ho'⟩ := h
      have hcut : amount = voucherCut voucher o := by
        obtain ⟨-, rfl⟩ := money_eq_ok.mp hamount
        rw [voucherCut]
        unfold voucherOffer at hraw
        split at hraw
        · next hpercent =>
          cases hraw
          rw [hpercent]
          rfl
        · next hfixed =>
          obtain ⟨-, rfl⟩ := money_eq_ok.mp hraw
          rw [hfixed]
          rfl
      cases ho'
      rw [hcut]

/-- The vouchered orders, in closed form. -/
theorem applyVoucher_eq {now : ℕ} {gross : ℚ} {voucher : Option RewardVoucher}
    {orders orders' : List QuoteOrder} (h : applyVoucher now gross voucher orders = .ok orders') :
    orders' = orders.map (afterVoucher voucher) := by
  unfold applyVoucher at h
  split at h
  · cases h
    exact (List.map_id'' (fun _ => rfl) _).symm
  · split at h
    · have hall := (mapM_eq_ok.mp h).imp fun _ _ => voucherOrder_eq
      clear h
      induction hall with
      | nil => rfl
      | cons ho _ ih => rw [List.map_cons, ho, ← ih]
    · cases h

/-! ## Coupons -/

/-- What a coupon is worth on goods of a price. -/
def couponWorth (coupon : Coupon) (gross : ℚ) : ℚ :=
  let offered := match coupon.type, coupon.discountPercent with
    | "PERCENTAGE", some percent => gross * percent / 100
    | _, _ => toDecimalPlaces2 (coupon.discountAmount.getD 0)
  coupon.maximumDiscount.elim offered (min offered)

/-- What a coupon offers, capped by its maximum, is what it is worth. -/
theorem couponWorth_of_offer {coupon : Coupon} {gross offered : ℚ}
    (h : couponOffer coupon gross = .ok offered) :
    couponWorth coupon gross = coupon.maximumDiscount.elim offered (min offered) := by
  have hoffered : (match coupon.type, coupon.discountPercent with
      | "PERCENTAGE", some percent => gross * percent / 100
      | _, _ => toDecimalPlaces2 (coupon.discountAmount.getD 0)) = offered := by
    unfold couponOffer at h
    generalize coupon.type = type, coupon.discountPercent = percent at h ⊢
    split at h
    · exact Except.ok.inj h
    · next hfixed =>
      have hworth := (money_eq_ok.mp h).2.symm
      grind
  rw [couponWorth]
  simp only [hoffered]

/-- What a coupon is worth on orders, which is no more than they cost. -/
def couponTotal (coupon : Coupon) (gross : ℚ) (orders : List QuoteOrder) : ℚ :=
  toDecimalPlaces2 (min (couponWorth coupon gross) (sumOrders (·.total) orders))

/-- The share of an order in a coupon, in proportion to its goods. -/
def share (couponTotal gross : ℚ) (order : QuoteOrder) : ℚ :=
  if gross = 0 then 0 else couponTotal * order.subtotal / gross

/-- What the orders can take of a coupon: every order its rounded share, if it costs that much, and
the last order all that it costs. -/
def room (couponTotal gross : ℚ) : List QuoteOrder → ℚ
  | [] => 0
  | [last] => last.total
  | order :: next :: rest =>
    min order.total (toDecimalPlaces2 (share couponTotal gross order)) +
      room couponTotal gross (next :: rest)

/-- A share is not negative. -/
theorem share_nonneg {couponTotal gross : ℚ} {o : QuoteOrder} (htotal : 0 ≤ couponTotal)
    (hgross : 0 ≤ gross) (ho : Balanced o) : 0 ≤ share couponTotal gross o := by
  unfold share
  split
  · exact le_refl 0
  · exact div_nonneg (mul_nonneg htotal ho.subtotal_nonneg) hgross

/-- The room for a coupon is not negative. -/
theorem room_nonneg {couponTotal gross : ℚ} {orders : List QuoteOrder} (htotal : 0 ≤ couponTotal)
    (hgross : 0 ≤ gross) (horders : ∀ o ∈ orders, Balanced o) : 0 ≤ room couponTotal gross orders := by
  induction orders with
  | nil => exact le_refl 0
  | cons o rest ih =>
    have hhead := horders o List.mem_cons_self
    cases rest with
    | nil => exact hhead.total_nonneg
    | cons next rest =>
      have hshare := toDecimalPlaces2_nonneg (share_nonneg htotal hgross hhead)
      exact add_nonneg (le_min hhead.total_nonneg hshare)
        (ih fun x hx => horders x (List.mem_cons_of_mem _ hx))

/-- What is left after one part has been served is what the rest can take. -/
theorem min_add_min_sub (remaining b : ℚ) {c : ℚ} (hc : 0 ≤ c) :
    min remaining b + min (remaining - min remaining b) c = min remaining (b + c) := by
  rcases le_total remaining b with h | h
  · rw [min_eq_left h, sub_self, min_eq_left hc, min_eq_left (h.trans (le_add_of_nonneg_right hc)), add_zero]
  · rw [min_eq_right h, ← min_add_add_left, add_sub_cancel]

/-- A spread coupon grants what there is room for. -/
theorem spreadCoupon_granted {couponTotal gross remaining : ℚ} {orders orders' : List QuoteOrder}
    (htotal : 0 ≤ couponTotal) (hgross : 0 ≤ gross) (horders : ∀ o ∈ orders, Balanced o)
    (hcents : Cents remaining) (hnonneg : 0 ≤ remaining)
    (h : spreadCoupon couponTotal gross remaining orders = .ok orders') :
    sumOrders (·.discountAmount) orders' =
      sumOrders (·.discountAmount) orders + min remaining (room couponTotal gross orders) := by
  induction orders generalizing remaining orders' with
  | nil =>
    cases h
    simp [sumOrders, room, hnonneg]
  | cons o rest ih =>
    have hhead := horders o List.mem_cons_self
    have hrest := fun x hx => horders x (List.mem_cons_of_mem o hx)
    simp only [spreadCoupon, bind_eq_ok] at h
    obtain ⟨amount, hamount, rest', hspread, horders'⟩ := h
    cases horders'
    obtain ⟨-, hround⟩ := money_eq_ok.mp hamount
    rw [toDecimalPlaces2_min, toDecimalPlaces2_min, toDecimalPlaces2_of_cents hcents,
      toDecimalPlaces2_of_cents hhead.total_cents] at hround
    have hleft : 0 ≤ remaining - amount := sub_nonneg.mpr (hround.le.trans (min_le_left _ _))
    have hrestGranted := ih hrest (hcents.sub (money_spec hamount).1) hleft hspread
    simp only [sumOrders, List.map_cons, List.sum_cons] at hrestGranted ⊢
    rw [hrestGranted]
    cases rest with
    | nil =>
      rw [List.isEmpty_nil, if_pos rfl, toDecimalPlaces2_of_cents hcents] at hround
      have hlast : amount = min remaining o.total := by
        rw [hround, min_comm o.total, ← min_assoc, min_self]
      simp only [room, List.map_nil, List.sum_nil]
      rw [min_eq_right hleft, hlast]
      ring
    | cons next rest =>
      have hroom := room_nonneg htotal hgross hrest
      rw [List.isEmpty_cons, if_neg Bool.false_ne_true] at hround
      have hpart := min_add_min_sub remaining (min o.total (toDecimalPlaces2 (share couponTotal gross o))) hroom
      change amount = min remaining (min o.total (toDecimalPlaces2 (share couponTotal gross o))) at hround
      rw [← hround] at hpart
      rw [room, ← hpart]
      ring

variable {p : Pricing}

/-- The orders of a pricing after its voucher. -/
def Pricing.vouchered (p : Pricing) : List QuoteOrder := p.orders.map (afterVoucher p.voucher)

/-- The goods of a quote cost nothing negative. -/
theorem gross_nonneg (h : p.Sound) : 0 ≤ p.gross := by
  refine List.sum_nonneg fun x hx => ?_
  obtain ⟨o, ho, rfl⟩ := List.mem_map.mp hx
  exact (h.undiscounted o ho).subtotal_nonneg

/-- The voucher and the coupon of a quote, one after the other. -/
theorem QuotedFrom.vouchered {now : ℕ} {q : Quote} (h : QuotedFrom now p q) :
    applyVoucher now p.gross p.voucher p.orders = .ok p.vouchered ∧
      (∀ o ∈ p.vouchered, Balanced o) ∧ applyCoupon now p.gross p.coupon p.vouchered = .ok q.orders := by
  have hdiscounted := h.discounted
  simp only [discountedOrders, bind_eq_ok] at hdiscounted
  obtain ⟨vouchered, hvoucher, hcoupon⟩ := hdiscounted
  obtain rfl : vouchered = p.vouchered := applyVoucher_eq hvoucher
  exact ⟨hvoucher, (applyVoucher_spec h.sound.undiscounted hvoucher).1, hcoupon⟩

/-- The coupon of a quote takes off what it is worth, as far as there is room for it. -/
theorem coupon_granted {now : ℕ} {q : Quote} (h : QuotedFrom now p q) {coupon : Coupon}
    (hc : p.coupon = some coupon) :
    0 ≤ couponTotal coupon p.gross p.vouchered ∧
    sumOrders (·.discountAmount) q.orders - sumOrders (·.discountAmount) p.vouchered =
      min (couponTotal coupon p.gross p.vouchered)
        (room (couponTotal coupon p.gross p.vouchered) p.gross p.vouchered) := by
  obtain ⟨-, hbalanced, hcoupon⟩ := h.vouchered
  unfold applyCoupon at hcoupon
  rw [hc] at hcoupon
  dsimp only at hcoupon
  split at hcoupon
  · simp only [bind_eq_ok] at hcoupon
    obtain ⟨offered, hoffered, total, htotal, hspread⟩ := hcoupon
    obtain ⟨hcents, hnonneg⟩ := money_spec htotal
    have hworth : total = couponTotal coupon p.gross p.vouchered := by
      obtain ⟨-, rfl⟩ := money_eq_ok.mp htotal
      rw [couponTotal, couponWorth_of_offer hoffered]
    rw [← hworth]
    refine ⟨hnonneg, ?_⟩
    rw [spreadCoupon_granted hnonneg (gross_nonneg h.sound) hbalanced hcents hnonneg hspread,
      add_sub_cancel_left]
  · cases hcoupon

/-- A coupon is granted in full exactly when there is room for it: what the orders but the last
cannot take, because their rounded share is too small or they cost less, has to fit into what the
last order still costs. -/
theorem coupon_distributed {now userId : ℕ} {input : CreateCheckoutDto} {db : Database} {q : Quote}
    {coupon : Coupon} (h : quote now userId input db = .ok q) (hp : pricing userId input db = .ok p)
    (hc : p.coupon = some coupon) :
    applyVoucher now p.gross p.voucher p.orders = .ok p.vouchered ∧
    (sumOrders (·.discountAmount) q.orders - sumOrders (·.discountAmount) p.vouchered =
        couponTotal coupon p.gross p.vouchered ↔
      couponTotal coupon p.gross p.vouchered ≤
        room (couponTotal coupon p.gross p.vouchered) p.gross p.vouchered) := by
  obtain ⟨p', hp', hquoted⟩ := quote_pricing h
  obtain rfl := Except.ok.inj (hp.symm.trans hp')
  refine ⟨hquoted.vouchered.1, ?_⟩
  rw [(coupon_granted hquoted hc).2, min_eq_left_iff]

/-- A coupon of 50. -/
def fiftyOff : Coupon := { type := "FIXED", discountAmount := some 50, startsAt := 0 }

/-- The coupon on two orders of 50, the second of which a voucher has paid for. -/
def paidSecond : Database :=
  market 0 (some { type := "FIXED", discountAmount := some 50, storeId := some 2, startsAt := 0 })
    (some fiftyOff)

/-- The second order cannot take its half of the coupon, and nobody else gets it. -/
theorem coupon_lost : ¬ ∀ (now userId : ℕ) (input : CreateCheckoutDto) (db : Database) (q : Quote)
    (p : Pricing) (coupon : Coupon), quote now userId input db = .ok q → pricing userId input db = .ok p →
    p.coupon = some coupon → sumOrders (·.discountAmount) q.orders - sumOrders (·.discountAmount) p.vouchered =
      couponTotal coupon p.gross p.vouchered := by
  intro h
  obtain ⟨q, hq⟩ := exists_of_isOk (x := quote 1 1 homeDelivery paidSecond) (by decide +kernel)
  obtain ⟨p, hp, -⟩ := quote_pricing hq
  have hgranted : ((quote 1 1 homeDelivery paidSecond).toOption.map
      fun q => sumOrders (·.discountAmount) q.orders) = some 75 := by decide +kernel
  have hoffered : ((pricing 1 homeDelivery paidSecond).toOption.map fun p =>
      (sumOrders (·.discountAmount) p.vouchered, couponTotal fiftyOff p.gross p.vouchered)) =
      some (50, 50) := by decide +kernel
  rw [hq] at hgranted
  rw [hp] at hoffered
  have hgrant : sumOrders (·.discountAmount) q.orders = 75 := Option.some.inj hgranted
  obtain ⟨hvoucher, hworth⟩ := Prod.ext_iff.mp (Option.some.inj hoffered)
  have hfull := h 1 1 homeDelivery paidSecond q p fiftyOff hq hp (market_discounts hp).2
  dsimp only at hvoucher hworth
  rw [hgrant, hvoucher, hworth] at hfull
  norm_num at hfull

/-- Without a voucher the same coupon is granted in full. -/
theorem coupon_distributed_market : ∃ (q : Quote) (p : Pricing),
    quote 1 1 homeDelivery (market 0 none (some fiftyOff)) = .ok q ∧
      sumOrders (·.discountAmount) q.orders - sumOrders (·.discountAmount) p.vouchered =
        couponTotal fiftyOff p.gross p.vouchered := by
  obtain ⟨q, hq⟩ := exists_of_isOk (x := quote 1 1 homeDelivery (market 0 none (some fiftyOff)))
    (by decide +kernel)
  obtain ⟨p, hp, -⟩ := quote_pricing hq
  have hroom : ((pricing 1 homeDelivery (market 0 none (some fiftyOff))).toOption.map fun p =>
      decide (couponTotal fiftyOff p.gross p.vouchered ≤
        room (couponTotal fiftyOff p.gross p.vouchered) p.gross p.vouchered)) = some true := by decide +kernel
  rw [hp] at hroom
  have hfits := of_decide_eq_true (Option.some.inj hroom)
  exact ⟨q, p, hq, (coupon_distributed hq hp (market_discounts hp).2).2.mpr hfits⟩

/-! ## Vouchers of a fixed amount -/

/-- Parts that are nothing add nothing to the sum of the capped parts. -/
theorem sum_min_filter {a : ℚ} (ha : 0 ≤ a) {xs : List ℚ} (hxs : ∀ x ∈ xs, 0 ≤ x) :
    (xs.map (min a)).sum = ((xs.filter fun x => decide (0 < x)).map (min a)).sum := by
  induction xs with
  | nil => rfl
  | cons x xs ih =>
    have hrest := ih fun y hy => hxs y (List.mem_cons_of_mem _ hy)
    by_cases hx : 0 < x
    · rw [List.filter_cons_of_pos (by simpa using hx), List.map_cons, List.map_cons, List.sum_cons,
        List.sum_cons, hrest]
    · have hzero : x = 0 := le_antisymm (not_lt.mp hx) (hxs x List.mem_cons_self)
      rw [List.filter_cons_of_neg (by simpa using hx), List.map_cons, List.sum_cons, hrest, hzero,
        min_eq_right ha, zero_add]

/-- A bound on each part bounds the sum of the capped parts exactly when there is one part only, or
when the bound is not reached. -/
theorem sum_min_le_iff {a : ℚ} (ha : 0 ≤ a) {xs : List ℚ} (hxs : ∀ x ∈ xs, 0 ≤ x) :
    (xs.map (min a)).sum ≤ a ↔ a = 0 ∨ (xs.filter fun x => decide (0 < x)).length ≤ 1 ∨ xs.sum ≤ a := by
  have hnonneg : ∀ ys : List ℚ, (∀ y ∈ ys, 0 ≤ y) → 0 ≤ (ys.map (min a)).sum := fun ys hys =>
    List.sum_nonneg fun x hx => by
      obtain ⟨y, hy, rfl⟩ := List.mem_map.mp hx
      exact le_min ha (hys y hy)
  constructor
  · intro hsum
    by_contra hcon
    push Not at hcon
    obtain ⟨hzero, htwo, hexceeds⟩ := hcon
    have hpos : 0 < a := lt_of_le_of_ne ha (Ne.symm hzero)
    by_cases hall : ∀ x ∈ xs, x ≤ a
    · have hsame : xs.map (min a) = xs :=
        (List.map_congr_left fun x hx => min_eq_right (hall x hx)).trans (List.map_id'' (fun _ => rfl) _)
      rw [hsame] at hsum
      exact absurd hsum (not_le.mpr hexceeds)
    · push Not at hall
      obtain ⟨x, hx, hbig⟩ := hall
      have hperm := List.perm_cons_erase hx
      have hother : ∃ y ∈ xs.erase x, 0 < y := by
        by_contra hnone
        push Not at hnone
        have hnil : (xs.erase x).filter (fun x => decide (0 < x)) = [] :=
          List.filter_eq_nil_iff.mpr fun y hy => by simpa using hnone y hy
        rw [(hperm.filter fun x => decide (0 < x)).length_eq,
          List.filter_cons_of_pos (by simpa using hpos.trans hbig), hnil] at htwo
        exact absurd htwo (lt_irrefl 1)
      obtain ⟨y, hy, hypos⟩ := hother
      have hperm' := List.perm_cons_erase hy
      have hrest : ∀ z ∈ (xs.erase x).erase y, 0 ≤ z := fun z hz =>
        hxs z (List.mem_of_mem_erase (List.mem_of_mem_erase hz))
      have htotal : (xs.map (min a)).sum = a + (min a y + (((xs.erase x).erase y).map (min a)).sum) := by
        rw [((hperm.trans (hperm'.cons x)).map (min a)).sum_eq, List.map_cons, List.map_cons, List.sum_cons,
          List.sum_cons, min_eq_left hbig.le]
      have hmin : 0 < min a y := lt_min hpos hypos
      have hleft := hnonneg _ hrest
      linarith
  · rintro (rfl | hone | hsmall)
    · refine le_of_eq (List.sum_eq_zero fun x hx => ?_)
      obtain ⟨y, hy, rfl⟩ := List.mem_map.mp hx
      exact min_eq_left (hxs y hy)
    · rw [sum_min_filter ha hxs]
      match hpart : xs.filter fun x => decide (0 < x) with
      | [] => simpa using ha
      | [x] => simp
      | x :: y :: ys =>
        rw [hpart] at hone
        exact absurd hone (by simp)
    · refine le_trans (List.sum_le_sum (f := min a) (g := fun x => x) fun x _ => min_le_right a x) ?_
      rwa [List.map_id'' (fun _ => rfl)]

/-- The goods of the orders that a voucher is good for, order by order. -/
def coveredGoods (voucher : RewardVoucher) (orders : List QuoteOrder) : List ℚ :=
  (orders.filter (covers voucher)).map (·.subtotal)

/-- A voucher of a fixed amount cannot be granted twice: it is worth nothing, or there are goods to
pay for in at most one of the orders it is good for, or it is worth all of them together. -/
def GrantedOnce (voucher : RewardVoucher) (orders : List QuoteOrder) : Prop :=
  let amount := voucher.discountAmount.getD 0
  let goods := coveredGoods voucher orders
  amount = 0 ∨ (goods.filter fun x => decide (0 < x)).length ≤ 1 ∨ goods.sum ≤ amount

/-- A voucher of a fixed amount takes that amount off every order that it is good for. -/
theorem vouchered_sum {voucher : RewardVoucher} (hpercent : voucher.discountPercent = none)
    (htype : voucher.type ≠ "FREE_SHIPPING") (hcents : Cents (voucher.discountAmount.getD 0))
    {orders : List QuoteOrder} (horders : ∀ o ∈ orders, Undiscounted o) :
    sumOrders (·.discountAmount) (orders.map (afterVoucher (some voucher))) =
      ((coveredGoods voucher orders).map (min (voucher.discountAmount.getD 0))).sum := by
  induction orders with
  | nil => rfl
  | cons o rest ih =>
    have hrest := ih fun x hx => horders x (List.mem_cons_of_mem _ hx)
    have hhead := horders o List.mem_cons_self
    simp only [sumOrders, coveredGoods, List.map_cons, List.sum_cons] at hrest ⊢
    rw [hrest]
    by_cases hcovers : covers voucher o = true
    · have hcut : voucherCut voucher o = min (voucher.discountAmount.getD 0) o.subtotal := by
        rw [voucherCut, hpercent, Option.elim_none, toDecimalPlaces2_of_cents hcents,
          toDecimalPlaces2_min, toDecimalPlaces2_of_cents hcents, toDecimalPlaces2_of_cents hhead.subtotal_cents]
      rw [List.filter_cons_of_pos hcovers, List.map_cons, List.map_cons, List.sum_cons, ← hcut]
      simp only [afterVoucher, Option.elim_some, if_pos hcovers, discountBy, if_neg htype]
    · rw [List.filter_cons_of_neg hcovers]
      simp only [afterVoucher, Option.elim_some, if_neg hcovers, hhead.no_discount, zero_add]

/-- A voucher of a fixed amount takes no more than that off all orders together, and a voucher of a
store only off the order of that store, exactly when it cannot be granted twice. -/
theorem voucher_granted_once {now userId : ℕ} {input : CreateCheckoutDto} {db : Database} {q : Quote}
    {voucher : RewardVoucher} (h : quote now userId input db = .ok q)
    (hp : pricing userId input db = .ok p) (hv : p.voucher = some voucher)
    (hpercent : voucher.discountPercent = none) (htype : voucher.type ≠ "FREE_SHIPPING")
    (hcents : Cents (voucher.discountAmount.getD 0)) (hnonneg : 0 ≤ voucher.discountAmount.getD 0) :
    ∃ vouchered, applyVoucher now p.gross p.voucher p.orders = .ok vouchered ∧
      applyCoupon now p.gross p.coupon vouchered = .ok q.orders ∧
      ((sumOrders (·.discountAmount) vouchered ≤ voucher.discountAmount.getD 0 ∧
          ∀ store ∈ voucher.storeId, List.Forall₂ (fun o o' => o.storeId ≠ store → o' = o) p.orders vouchered) ↔
        GrantedOnce voucher p.orders) := by
  obtain ⟨p', hp', hquoted⟩ := quote_pricing h
  obtain rfl := Except.ok.inj (hp.symm.trans hp')
  refine ⟨p.vouchered, hquoted.vouchered.1, hquoted.vouchered.2.2, ?_⟩
  have hbase := hquoted.sound.undiscounted
  have hgoods : ∀ x ∈ coveredGoods voucher p.orders, 0 ≤ x := by
    intro x hx
    obtain ⟨o, ho, rfl⟩ := List.mem_map.mp hx
    exact (hbase o (List.mem_filter.mp ho).1).subtotal_nonneg
  have hothers : ∀ store ∈ voucher.storeId,
      List.Forall₂ (fun o o' => o.storeId ≠ store → o' = o) p.orders p.vouchered := by
    intro store hstore
    rw [Pricing.vouchered, hv, List.forall₂_map_right_iff]
    refine List.forall₂_same.mpr fun o _ hne => ?_
    have hother : ¬covers voucher o = true := by
      rw [covers, Option.mem_def.mp hstore]
      simpa using Ne.symm hne
    rw [afterVoucher, Option.elim_some, if_neg hother]
  rw [and_iff_left hothers, Pricing.vouchered, hv, vouchered_sum hpercent htype hcents hbase]
  exact sum_min_le_iff hnonneg hgoods

/-- A voucher of 10 on two orders of 50. -/
def tenOff : RewardVoucher := { type := "FIXED", discountAmount := some 10, startsAt := 0 }

/-- Both orders get the whole voucher. -/
theorem voucher_granted_twice : ¬ ∀ (now userId : ℕ) (input : CreateCheckoutDto) (db : Database)
    (p : Pricing) (voucher : RewardVoucher) (vouchered : List QuoteOrder),
    pricing userId input db = .ok p → p.voucher = some voucher → voucher.discountPercent = none →
    voucher.type ≠ "FREE_SHIPPING" → applyVoucher now p.gross p.voucher p.orders = .ok vouchered →
    sumOrders (·.discountAmount) vouchered ≤ voucher.discountAmount.getD 0 := by
  intro h
  obtain ⟨q, hq⟩ := exists_of_isOk (x := quote 1 1 homeDelivery (market 0 (some tenOff) none)) (by decide +kernel)
  obtain ⟨p, hp, hquoted⟩ := quote_pricing hq
  have htwice : ((pricing 1 homeDelivery (market 0 (some tenOff) none)).toOption.map fun p =>
      sumOrders (·.discountAmount) p.vouchered) = some 20 := by decide +kernel
  rw [hp] at htwice
  have hsum : sumOrders (·.discountAmount) p.vouchered = 20 := Option.some.inj htwice
  have hbound := h 1 1 homeDelivery _ p tenOff p.vouchered hp (market_discounts hp).1 rfl (by decide)
    hquoted.vouchered.1
  rw [hsum] at hbound
  exact absurd hbound (by decide +kernel)

/-- A voucher of 10 for one of the two stores is granted once. -/
theorem voucher_granted_once_store : ∃ (q : Quote) (p : Pricing) (vouchered : List QuoteOrder),
    quote 1 1 homeDelivery (market 0 (some { tenOff with storeId := some 2 }) none) = .ok q ∧
      pricing 1 homeDelivery (market 0 (some { tenOff with storeId := some 2 }) none) = .ok p ∧
      applyVoucher 1 p.gross p.voucher p.orders = .ok vouchered ∧
        applyCoupon 1 p.gross p.coupon vouchered = .ok q.orders ∧
      sumOrders (·.discountAmount) vouchered ≤ 10 ∧
      List.Forall₂ (fun o o' => o.storeId ≠ 2 → o' = o) p.orders vouchered := by
  obtain ⟨q, hq⟩ := exists_of_isOk
    (x := quote 1 1 homeDelivery (market 0 (some { tenOff with storeId := some 2 }) none)) (by decide +kernel)
  obtain ⟨p, hp, -⟩ := quote_pricing hq
  have hgoods : ((pricing 1 homeDelivery (market 0 (some { tenOff with storeId := some 2 }) none)).toOption.map
      fun p => decide (((coveredGoods { tenOff with storeId := some 2 } p.orders).filter
        fun x => decide (0 < x)).length ≤ 1)) = some true := by decide +kernel
  rw [hp] at hgoods
  have honce := of_decide_eq_true (Option.some.inj hgoods)
  obtain ⟨vouchered, hvouchered, hcouponed, hgranted⟩ := voucher_granted_once hq hp (market_discounts hp).1 rfl
    (by decide) ⟨1000, by decide +kernel⟩ (by decide +kernel)
  obtain ⟨hsum, hothers⟩ := hgranted.mpr (.inr (.inl honce))
  exact ⟨q, p, vouchered, hq, hp, hvouchered, hcouponed, hsum, hothers 2 rfl⟩

end Superstore.Checkout

import Superstore.Store.Money

/-!
# The cart of a customer

What checkouts and payments do to a cart. What its customer does to it comes on top.
-/

namespace Superstore.Cart

/-- The locked cart of a customer, created at its first use. -/
def lock (userId : ℕ) : Tx (ℕ × Cart) :=
  firstOrCreate .cart (fun _ c => c.userId == userId) { userId := userId }

/-- The sum of the lines of a cart, at the prices stored in them. -/
def lineTotal (items : List (ℕ × CartItem)) : ℚ :=
  (items.map fun item => item.2.unitPrice * (item.2.quantity : ℚ)).sum

/-- Store the totals of a cart again. -/
def recalculate (cartId : ℕ) : Tx Unit := do
  let items ← many .cartItem fun _ item => item.cartId == cartId
  update .cart cartId fun cart =>
    { cart with
      subtotal := lineTotal items
      totalItems := (items.map fun item => item.2.quantity).sum }

/-- Take the lines of a snapshot out of a cart, as far as they are still there. -/
def removeLine (cartId : ℕ) (line : CartSnapshotLine) : Tx Unit := do
  let item ← find .cartItem line.cartItemId
  match item with
  | some item =>
    if item.cartId ≠ cartId then pure ()
    else if item.quantity ≤ line.quantity then
      deleteMany .cartItem fun i _ => i == line.cartItemId
    else update .cartItem line.cartItemId fun c => { c with quantity := c.quantity - line.quantity }
  | none => pure ()

/-- Redeem the voucher applied to a cart. -/
def redeemVoucher (cartId userId now : ℕ) : Tx Unit := do
  let applied ← first .cartVoucher fun _ v => v.cartId == cartId
  match applied with
  | some applied => do
    let _ ← updateMany .userVoucher
      (fun _ v => v.userId == userId && v.voucherId == applied.2.voucherId && v.status == "CLAIMED")
      fun v => { v with status := "REDEEMED", redeemedAt := some now }
    deleteMany .cartVoucher fun _ v => v.cartId == cartId
  | none => pure ()

/-- Count one use of the coupon applied to a cart. -/
def redeemCoupon (cartId : ℕ) : Tx Unit := do
  let applied ← first .cartCoupon fun _ c => c.cartId == cartId
  match applied with
  | some applied => do
    update .coupon applied.2.couponId fun c => { c with usedCount := c.usedCount + 1 }
    deleteMany .cartCoupon fun _ c => c.cartId == cartId
  | none => pure ()

/-- Empty a customer's cart of what was paid for, and use up its discounts. -/
def consume (userId now : ℕ) (snapshot : List CartSnapshotLine) : Tx Unit := do
  let active ← first .cart fun _ c => c.userId == userId
  match active with
  | some cart => do
    snapshot.forM (removeLine cart.1)
    recalculate cart.1
    redeemVoucher cart.1 userId now
    redeemCoupon cart.1
  | none => pure ()

/-- The tables that a cart and its discounts live in. -/
def tables : List TableName :=
  [.cart, .cartItem, .cartVoucher, .cartCoupon, .userVoucher, .coupon]

open Relational.Tx (Writes)

/-- Locking a cart writes its row. -/
theorem lock_writes (userId : ℕ) : Writes tables (lock userId) :=
  .firstOrCreate (by decide) _ _

/-- Removing a line writes the lines of carts. -/
theorem removeLine_writes (cartId : ℕ) (line : CartSnapshotLine) :
    Writes [.cartItem] (removeLine cartId line) := by
  refine .bind (.find _ _) fun item => ?_
  cases item with
  | none => exact .pure ()
  | some item =>
    dsimp only
    split
    · exact .pure ()
    · split
      · exact .deleteMany (by decide) _
      · exact .update (by decide) _ _

/-- Redeeming the voucher of a cart writes the voucher and its use. -/
theorem redeemVoucher_writes (cartId userId now : ℕ) :
    Writes [.userVoucher, .cartVoucher] (redeemVoucher cartId userId now) := by
  refine .bind (.first _ _) fun applied => ?_
  cases applied with
  | none => exact .pure ()
  | some applied => exact .bind (.updateMany (by decide) _ _) fun _ => .deleteMany (by decide) _

/-- Redeeming the coupon of a cart writes the coupon and its use. -/
theorem redeemCoupon_writes (cartId : ℕ) : Writes [.coupon, .cartCoupon] (redeemCoupon cartId) := by
  refine .bind (.first _ _) fun applied => ?_
  cases applied with
  | none => exact .pure ()
  | some applied => exact .bind (.update (by decide) _ _) fun _ => .deleteMany (by decide) _

/-- Emptying a cart changes carts and discounts only. -/
theorem consume_writes (userId now : ℕ) (snapshot : List CartSnapshotLine) :
    Writes tables (consume userId now snapshot) := by
  refine .bind (.first _ _) fun active => ?_
  cases active with
  | none => exact .pure ()
  | some cart =>
    refine .bind (.forM fun line _ => (removeLine_writes cart.1 line).mono (by decide)) fun _ => ?_
    refine .bind (.bind (.many _ _) fun _ => .update (by decide) _ _) fun _ => ?_
    exact .bind ((redeemVoucher_writes _ _ _).mono (by decide)) fun _ => (redeemCoupon_writes _).mono (by decide)

end Superstore.Cart

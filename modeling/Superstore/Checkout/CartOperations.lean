import Superstore.Checkout.Cart

/-!
# What customers do to their carts

A customer adds offers to the cart, changes and removes lines, empties it, looks at it, and fills it again
with the lines of an earlier order. Each of these is one transaction that locks the cart and stores its totals
again before it ends.
-/

namespace Superstore

/-- The price that an offer is sold at. -/
def StoreProduct.unitPrice (offer : StoreProduct) : ℚ := offer.discountPrice.getD offer.price

namespace Cart

open Relational.Tx (Writes)

/-- A quantity is a positive integer that a number holds exactly. -/
def validateQuantity (quantity : ℕ) : Except Error Unit :=
  ensure ((quantity : ℚ) ≤ maxSafeInteger ∧ 1 ≤ quantity) (.badRequest "Quantity must be a positive integer.")

/-- The line of a cart that is about an offer. -/
def isLine (cartId storeProductId : ℕ) (item : CartItem) : Bool :=
  item.cartId == cartId && item.storeProductId == storeProductId

/-- An offer that can be added to a cart, or the refusal. -/
def availableOffer (storeProductId : ℕ) (db : Database) : Except Error StoreProduct :=
  let offer := (db .storeProduct).find storeProductId
  fromOption (offer.filter fun offer => offer.isActive && offer.availability &&
      ((db .product).find offer.productId).any (·.status) && ((db .store).find offer.storeId).any (·.isActive))
    (.notFound "Store product is not available.")

/-- What adding an offer to a cart comes to: the line that it will have, or the refusal. -/
def addedLine (cartId storeProductId quantity : ℕ) (db : Database) : Except Error CartItem := do
  validateQuantity quantity
  let offer ← availableOffer storeProductId db
  let existing := (db .cartItem).first fun _ item => isLine cartId storeProductId item
  let desired := existing.elim 0 (·.2.quantity) + quantity
  ensure (¬offer.stockQuantity < desired)
    (.conflictWith "Requested quantity exceeds available stock" (.storeProductId storeProductId))
  return { cartId := cartId, storeProductId := storeProductId, quantity := desired, unitPrice := offer.unitPrice }

/-- Write the line of an offer, over the one that is there already. -/
def upsertLine (line : CartItem) : Tx Unit := do
  let existing ← first .cartItem fun _ item => isLine line.cartId line.storeProductId item
  match existing with
  | some existing =>
    update .cartItem existing.1 fun item => { item with quantity := line.quantity, unitPrice := line.unitPrice }
  | none => do
    let _ ← create .cartItem line
    pure ()

/-- Add an offer to a cart that is locked. -/
def addInTransaction (cartId storeProductId quantity : ℕ) : Tx Unit := do
  let line ← Relational.Tx.query (addedLine cartId storeProductId quantity)
  let line ← ofExcept line
  upsertLine line

/-- Add an offer to the cart of a customer. -/
def add (userId storeProductId quantity : ℕ) : Tx Unit := do
  ofExcept (validateQuantity quantity)
  let cart ← lock userId
  addInTransaction cart.1 storeProductId quantity
  recalculate cart.1

/-- Change the quantity of a line. -/
def updateQuantity (userId storeProductId quantity : ℕ) : Tx Unit := do
  ofExcept (validateQuantity quantity)
  let cart ← lock userId
  let item ← first .cartItem fun _ item => isLine cart.1 storeProductId item
  let item ← orThrow item (.notFound "Cart item not found.")
  let offer ← findOrThrow .storeProduct item.2.storeProductId
  require (¬(!offer.isActive ∨ !offer.availability ∨ offer.stockQuantity < quantity))
    (.conflictWith "Requested quantity is unavailable" (.storeProductId storeProductId))
  update .cartItem item.1 fun item => { item with quantity := quantity, unitPrice := offer.unitPrice }
  recalculate cart.1

/-- Remove a line. -/
def remove (userId storeProductId : ℕ) : Tx Unit := do
  let cart ← lock userId
  deleteMany .cartItem fun _ item => isLine cart.1 storeProductId item
  recalculate cart.1

/-- Remove every line. -/
def clear (userId : ℕ) : Tx Unit := do
  let cart ← lock userId
  deleteMany .cartItem fun _ item => item.cartId == cart.1
  recalculate cart.1

/-- Store the present price in a line. -/
def refreshPrice (item : ℕ × CartItem) : Tx Unit := do
  let offer ← findOrThrow .storeProduct item.2.storeProductId
  when (item.2.unitPrice ≠ offer.unitPrice) do
    update .cartItem item.1 fun item => { item with unitPrice := offer.unitPrice }

/-- Look at the cart, at the present prices. -/
def get (userId : ℕ) : Tx Unit := do
  let cart ← lock userId
  let items ← many .cartItem fun _ item => item.cartId == cart.1
  items.forM refreshPrice
  recalculate cart.1

/-- Add one item of an earlier order; what cannot be had any more is skipped. -/
def reorderItem (cartId : ℕ) (item : OrderItem) : Tx Unit := do
  let line ← Relational.Tx.query (addedLine cartId item.storeProductId item.quantity)
  match line with
  | .ok line => upsertLine line
  | .error (.notFound _) => pure ()
  | .error (.conflict _) => pure ()
  | .error (.conflictWith _ _) => pure ()
  | .error e => ofExcept (.error e)

/-- Fill the cart with the items that an earlier order has been read with. -/
def reorder (userId : ℕ) (items : List OrderItem) : Tx Unit := do
  let cart ← lock userId
  items.forM (reorderItem cart.1)
  recalculate cart.1

/-- What a customer does to the cart. -/
inductive Call
  | get (userId : ℕ)
  | add (userId storeProductId quantity : ℕ)
  | updateQuantity (userId storeProductId quantity : ℕ)
  | remove (userId storeProductId : ℕ)
  | clear (userId : ℕ)
  | reorder (userId : ℕ) (items : List OrderItem)

/-- The transaction of a call. -/
def Call.transaction : Call → Tx Unit
  | .get userId => Cart.get userId
  | .add userId storeProductId quantity => Cart.add userId storeProductId quantity
  | .updateQuantity userId storeProductId quantity => Cart.updateQuantity userId storeProductId quantity
  | .remove userId storeProductId => Cart.remove userId storeProductId
  | .clear userId => Cart.clear userId
  | .reorder userId items => Cart.reorder userId items

/-- Adding a line writes the lines of carts. -/
theorem upsertLine_writes (line : CartItem) : Writes [.cartItem] (upsertLine line) := by
  refine .bind (.first _ _) fun existing => ?_
  cases existing with
  | some existing => exact .update (List.mem_singleton_self _) _ _
  | none => exact .bind (.create (List.mem_singleton_self _) _) fun _ => .pure ()

/-- Recalculating a cart writes the cart. -/
theorem recalculate_writes (cartId : ℕ) : Writes [.cart] (recalculate cartId) :=
  .bind (.many _ _) fun _ => .update (List.mem_singleton_self _) _ _

end Cart

end Superstore

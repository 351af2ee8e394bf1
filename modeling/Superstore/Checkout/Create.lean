import Superstore.Checkout.Quote
import Superstore.Payments.Groups

/-!
# Placing a checkout

A checkout reserves the goods, creates one order for each store, and groups the orders under
one payment. Wallet payments and approved financing are completed on the spot.
-/

namespace Superstore.Checkout

/-- An approved financing that pays for a checkout. -/
structure Credit where
  method : Option PaymentMethod
  expectedQuote : Quote
  applicationId : ℕ

/-- The payment method of a checkout without financing. -/
def methodOf : Option CheckoutMethod → PaymentMethod
  | some .wallet => .wallet
  | some .bankTransfer => .bankTransfer
  | some .klumpBnpl => .klumpBnpl
  | _ => .card

/-- Whether an offer can be sold in a quantity at the quoted price. -/
def reservable (db : Database) (item : QuoteItem) (id : ℕ) (p : StoreProduct) : Bool :=
  id == item.storeProductId && p.isActive &&
    ((db .store).find p.storeId).any (·.isActive) && ((db .product).find p.productId).any (·.status) &&
    p.availability && decide ((item.quantity : ℤ) ≤ p.stockQuantity) &&
    p.discountPrice.elim (p.price == item.unitPrice) (· == item.unitPrice)

/-- Take the goods of one line off the shelf. -/
def reserve (item : QuoteItem) : Tx Unit := do
  let p ← Relational.Tx.query fun db => reservable db item
  let count ← updateMany .storeProduct p fun p =>
    { p with stockQuantity := p.stockQuantity - item.quantity }
  require (count = 1)
    (.conflictWith "Stock or price changed; refresh checkout." (.storeProductId item.storeProductId))

/-- The lines of an order, numbered within it. -/
def orderItems (items : List QuoteItem) : List OrderItem :=
  items.zipIdx.map fun item =>
    { id := item.2, storeProductId := item.1.storeProductId, productId := item.1.productId
      productCode := item.1.productCode, quantity := item.1.quantity, unitPrice := item.1.unitPrice
      totalPrice := item.1.totalPrice }

/-- Reserve the goods of one store and create its order; the number tells the orders of a
checkout apart. -/
def placeOrder (e : Env) (userId : ℕ) (q : Quote) (order : QuoteOrder × ℕ) : Tx Allocation := do
  order.1.items.forM reserve
  let number := e.orderNumber order.2
  let id ← createUnique .order (fun _ o => o.orderNumber == number)
    { orderNumber := number, userId := userId, storeId := order.1.storeId
      fulfillmentType := q.fulfillmentType, currency := q.currency, subtotal := order.1.subtotal
      shippingFee := order.1.shippingFee, discountAmount := order.1.discountAmount
      shippingDiscount := order.1.shippingDiscount, total := order.1.total
      items := orderItems order.1.items }
  let _ ← create .orderStatusHistory { orderId := id, toStatus := .orderReceived }
  match q.fulfillmentType with
  | .pickup => do
    let _ ← create .pickup { orderId := id, stationId := q.pickupStation.map Prod.fst }
    pure ⟨id, order.1.total⟩
  | .delivery => do
    let _ ← create .delivery { orderId := id }
    pure ⟨id, order.1.total⟩

/-- Take the price of a checkout out of the customer's wallet. -/
def debitWallet (userId : ℕ) (amount : ℚ) (reference : String) : Tx Unit := do
  let count ← updateMany .wallet (fun _ w => w.userId == userId && decide (amount ≤ w.balance))
    fun w => { w with balance := w.balance - amount }
  require (count = 1) (.badRequest "Insufficient wallet balance.")
  let wallet ← first .wallet fun _ w => w.userId == userId
  let wallet ← orThrow wallet .recordNotFound
  let _ ← createUnique .walletTransaction (fun _ t => t.reference == some reference)
    { walletId := wallet.1, amount := amount, type := .debit, reference := some reference }
  pure ()

/-- Pay a group at once, out of the wallet or by approved financing. -/
def payAtOnce (e : Env) (userId groupId : ℕ) (q : Quote) (method : PaymentMethod)
    (credit : Option Credit) : Tx Unit := do
  let reference := credit.elim ("WALLET-" ++ toString groupId)
    fun c => "BNPL-" ++ toString c.applicationId
  when (method = .wallet) do debitWallet userId q.total reference
  let paymentId ← createUnique .payment (fun _ p => p.transactionRef == some reference)
    { amount := q.total, currency := q.currency, paymentMethod := method, provider := .manual
      transactionRef := some reference, status := .paid, paidAt := some e.now, createdAt := e.now }
  update .checkoutPaymentGroup groupId fun g => { g with paymentId := some paymentId }
  Payments.completeGroup e groupId

/-- The row of a new group; an order that occurs twice violates its unique index. -/
def newGroup (userId cartId : ℕ) (input : CreateCheckoutDto) (q : Quote) (method : PaymentMethod)
    (allocations : List Allocation) : Except Error CheckoutPaymentGroup :=
  if h : (allocations.map Allocation.orderId).Nodup then
    .ok { userId := userId, activeCartId := some cartId, checkoutInput := input
          cartSnapshot := (q.orders.flatMap (·.items)).map fun i => ⟨i.cartItemId, i.quantity⟩
          paymentMethod := method, totalAmount := q.total, discountAmount := q.discountAmount
          currency := q.currency, allocations := allocations, orders_nodup := h }
  else .error .uniqueViolation

/-- Place the quoted checkout and return the key of its group. -/
def placeCheckout (e : Env) (userId cartId : ℕ) (input : CreateCheckoutDto) (q : Quote)
    (credit : Option Credit) : Tx ℕ := do
  let method := (credit.bind (·.method)).getD (methodOf input.paymentMethod)
  let allocations ← q.orders.zipIdx.mapM (placeOrder e userId q)
  let group ← ofExcept (newGroup userId cartId input q method allocations)
  let groupId ← createUnique .checkoutPaymentGroup (fun _ g => g.activeCartId == some cartId) group
  when (method = .wallet ∨ credit.isSome) do payAtOnce e userId groupId q method credit
  pure groupId

/-- Create a checkout, or return the unpaid one that the same request has created before. -/
def createInTransaction (e : Env) (userId : ℕ) (input : CreateCheckoutDto)
    (credit : Option Credit) : Tx (ℕ × CheckoutPaymentGroup) := do
  let cart ← Cart.lock userId
  require (input.cartId.all (· == cart.1)) (.notFound "Cart not found.")
  let pending ← first .checkoutPaymentGroup fun _ g => g.activeCartId == some cart.1
  match pending with
  | some pending => do
    require (credit.isNone ∧ pending.2.checkoutInput = input)
      (.conflictWith
        "An unpaid checkout already exists. Resume or cancel it before changing checkout."
        (.paymentGroupId pending.1))
    pure pending
  | none => do
    let q ← Relational.Tx.query (quote e.now userId input)
    let q ← ofExcept q
    require (credit.all fun c => c.expectedQuote = q)
      (.conflict "Cart, prices, or delivery details changed. Submit a new BNPL application.")
    let groupId ← placeCheckout e userId cart.1 input q credit
    let group ← findOrThrow .checkoutPaymentGroup groupId
    pure (groupId, group)

/-! ## What a checkout writes -/

open Relational.Tx (Writes)

/-- The tables that placing one order writes. -/
def placementTables : List TableName := [.storeProduct, .order, .orderStatusHistory, .pickup, .delivery]

/-- The tables that paying at once writes. -/
def paymentTables : List TableName := .payment :: Payments.completionTables

/-- Reserving an item writes the offers. -/
theorem reserve_writes (item : QuoteItem) : Writes [.storeProduct] (reserve item) :=
  .bind (.query _) fun _ => .bind (.updateMany (by decide) _ _) fun _ => .require _ _

/-- Placing an order writes the tables of placements. -/
theorem placeOrder_writes (e : Env) (userId : ℕ) (q : Quote) (order : QuoteOrder × ℕ) :
    Writes placementTables (placeOrder e userId q order) := by
  refine .bind (.forM fun item _ => (reserve_writes item).mono (by decide)) fun _ => ?_
  refine .bind (.createUnique (by decide) _ _) fun _ => .bind (.create (by decide) _) fun _ => ?_
  split
  · exact .bind (.create (by decide) _) fun _ => .pure _
  · exact .bind (.create (by decide) _) fun _ => .pure _

/-- Debiting a wallet writes the wallet and its entries. -/
theorem debitWallet_writes (userId : ℕ) (amount : ℚ) (reference : String) :
    Writes [.wallet, .walletTransaction] (debitWallet userId amount reference) :=
  .bind (.updateMany (by decide) _ _) fun _ => .bind (.require _ _) fun _ =>
    .bind (.first _ _) fun _ => .bind (.orThrow _ _) fun _ =>
    .bind (.createUnique (by decide) _ _) fun _ => .pure ()

/-- Paying at once writes the tables of payments. -/
theorem payAtOnce_writes (e : Env) (userId groupId : ℕ) (q : Quote) (method : PaymentMethod)
    (credit : Option Credit) : Writes paymentTables (payAtOnce e userId groupId q method credit) :=
  .bind (.when ((debitWallet_writes _ _ _).mono (by decide))) fun _ =>
    .bind (.createUnique (by decide) _ _) fun _ => .bind (.update (by decide) _ _) fun _ =>
    (Payments.completeGroup_writes e _).mono (by decide)

/-- Placing a checkout writes the tables of its orders and of its payment. -/
theorem placeCheckout_writes (e : Env) (userId cartId : ℕ) (input : CreateCheckoutDto) (q : Quote)
    (credit : Option Credit) : Writes (placementTables ++ paymentTables)
      (placeCheckout e userId cartId input q credit) :=
  .bind (.mapM fun order _ => (placeOrder_writes e userId q order).mono (by decide)) fun _ =>
    .bind (.ofExcept _) fun _ => .bind (.createUnique (by decide) _ _) fun _ =>
    .bind (.when ((payAtOnce_writes _ _ _ _ _ _).mono (by decide))) fun _ => .pure _

/-- A checkout touches no refund and no Klump transaction. -/
theorem createInTransaction_writes (e : Env) (userId : ℕ) (input : CreateCheckoutDto)
    (credit : Option Credit) : Writes (placementTables ++ paymentTables)
      (createInTransaction e userId input credit) := by
  refine .bind ((Cart.lock_writes userId).mono (by decide)) fun cart => ?_
  refine .bind (.require _ _) fun _ => .bind (.first _ _) fun pending => ?_
  cases pending with
  | some pending => exact .bind (.require _ _) fun _ => .pure _
  | none =>
    exact .bind (.query _) fun _ => .bind (.ofExcept _) fun _ => .bind (.require _ _) fun _ =>
      .bind (placeCheckout_writes _ _ _ _ _ _) fun _ => .bind (.findOrThrow _ _) fun _ => .pure _

end Superstore.Checkout

import Superstore.Requests.Ready
import Superstore.Requests.Store

/-!
# Requests about scans and hand-over credentials

The lines of an order are scanned one by one against a checklist that has been read before, and
the credential of a hand-over is looked up, withdrawn and issued in statements of their own.
-/

namespace Superstore.Orders

open Interleaving

/-- The phases in which the lines of an order are scanned. -/
inductive Phase
  | packing | riderPickup
  deriving DecidableEq

/-- The name of a phase in the database. -/
def Phase.name : Phase → String
  | .packing => "PACKING"
  | .riderPickup => "RIDER_PICKUP"

/-- How much of an order line has been scanned in a phase. -/
def scannedQuantity (orderId itemId : ℕ) (phase : String) (db : Database) : ℕ :=
  (((db .orderItemScan).many fun _ s =>
    s.orderId == orderId && s.orderItemId == itemId && s.phase == phase &&
      s.status == "VERIFIED").map (·.2.quantity)).sum

/-- The order that somebody may scan in a phase. -/
def scanOrder (actorId id : ℕ) (phase : Phase) (storeId : ℕ) : Request Order :=
  match phase with
  | .riderPickup => do
    let (order, _) ← selectOrThrow (riderOrder actorId id)
      (.forbidden "This order is not assigned to the rider.")
    pure order
  | .packing => do
    let order ← selectOrThrow (fun db => ((db .order).find id).filter (·.storeId == storeId))
      (.notFound "Order not found.")
    let access ← select (storeOperator actorId order.storeId)
    check access (.forbidden "Store access is required.")
    pure order

/-- The lines of an order with the quantities that have been scanned. -/
def checklist (actorId id : ℕ) (phase : Phase) (storeId : ℕ) : Request (List (OrderItem × ℕ)) := do
  let order ← scanOrder actorId id phase storeId
  select fun db => order.items.map fun item => (item, scannedQuantity id item.id phase.name db)

/-- Whether a code stands for an order line: its own code, or one of its product in the store. -/
def matchesCode (code : String) (db : Database) (item : OrderItem) : Bool :=
  item.productCode == some code ||
    ((db .storeProduct).find item.storeProductId).any fun p =>
      p.barcode == some code || p.sku == some code ||
        ((db .product).find p.productId).any (·.barcode == some code)

/-- The order line that a code stands for. -/
def scannedItem (id : ℕ) (code : String) (db : Database) : Option OrderItem :=
  ((db .order).find id).bind fun order => order.items.find? (matchesCode code db)

/-- A code as it is looked up: trimmed, with its letters in upper case (those of product codes are
ASCII letters). -/
def normalized (code : String) : String :=
  String.ofList ((((code.toList.dropWhile isSpace).reverse.dropWhile isSpace).reverse).map Char.toUpper)

/-- Scan some units of an order line. -/
def scanItem (actorId id : ℕ) (phase : Phase) (code : String) (quantity storeId : ℕ) :
    Request (List (OrderItem × ℕ)) := do
  let rows ← checklist actorId id phase storeId
  let item ← selectOrThrow (scannedItem id (normalized code))
    (.badRequest "Scanned product is not part of this order.")
  let progress ← decided (fromOption (rows.find? fun row => row.1.id == item.id) .unavailable)
  check (progress.2 + quantity ≤ item.quantity)
    (.conflict "Scan quantity exceeds the ordered quantity.")
  call (.createScan { orderId := id, orderItemId := item.id, phase := phase.name, quantity := quantity })
  checklist actorId id phase storeId

/-- Issue a credential for a hand-over, in place of a valid one only if that is asked for. -/
def issue (orderId : ℕ) (purpose : String) (force : Bool) : Request ℕ := do
  let now ← call .now
  let existing ← select fun db => (db .orderQrCredential).first fun _ c =>
    c.orderId == orderId && c.purpose == purpose && c.status == "ACTIVE" && decide (now < c.expiresAt)
  check (existing.isNone ∨ force) (.conflict
    "A valid QR already exists. Regenerate it to replace the current credential.")
  onlyIf force (call (.revokeCredentials orderId purpose now))
  let token ← call .token
  call (.createCredential orderId purpose token (now + credentialLifetime))

/-- Issue the credential of a customer, for a delivery or for a collection. -/
def customerQr (userId orderId : ℕ) (regenerate : Bool) : Request ℕ := do
  let (order, delivered) ← selectOrThrow
    (fun db => (((db .order).find orderId).filter (·.userId == userId)).map fun order =>
      (order, ((db .delivery).first fun _ d => d.orderId == orderId).isSome))
    (.notFound "Order not found.")
  check (order.currentStatus = if delivered then .outForDelivery else .readyForPickup)
    (.badRequest (if delivered then
        "The customer delivery QR becomes available when the order is out for delivery."
      else "The collection QR becomes available when the order is ready for pickup."))
  issue orderId (if delivered then "CUSTOMER_DELIVERY" else "STORE_PICKUP") regenerate

/-- Issue the credential that a store hands an order over to its rider with. -/
def handoffQr (userId storeId orderId : ℕ) : Request ℕ := do
  let access ← select (storeOperator userId storeId)
  check access (.forbidden "Store access is required.")
  let order ← selectOrThrow (fun db => ((db .order).find orderId).filter (·.storeId == storeId))
    (.notFound "Order not found.")
  check (order.currentStatus = .readyForPickup ∨ order.currentStatus = .riderAssigned)
    (.badRequest "Order is not ready for rider handoff.")
  issue orderId "RIDER_PICKUP" true

end Superstore.Orders

namespace Superstore

open Interleaving

/-- The requests about scans and credentials. -/
inductive ScanRequest : Request Unit → Prop
  | scanItem (actorId id : ℕ) (phase : Orders.Phase) (code : String) (quantity storeId : ℕ) :
      ScanRequest (discard (Orders.scanItem actorId id phase code quantity storeId))
  | customerQr (userId orderId : ℕ) (regenerate : Bool) :
      ScanRequest (discard (Orders.customerQr userId orderId regenerate))
  | handoffQr (userId storeId orderId : ℕ) :
      ScanRequest (discard (Orders.handoffQr userId storeId orderId))

/-- A change made outside of the requests that leaves scans and credentials alone as well. -/
structure ScanChange (w w' : World) : Prop extends OtherChange w w' where
  scans : w'.db .orderItemScan = w.db .orderItemScan
  credentials : w'.db .orderQrCredential = w.db .orderQrCredential

/-- The store together with the requests about scans and credentials. -/
def scanning : System Op Error World Env :=
  { machine with starts := fun p => StoreRequest p ∨ ScanRequest p, background := ScanChange }

end Superstore

import Superstore.Requests.Checkout
import Superstore.Requests.Orders

/-!
# The requests of the store

Everything that writes orders, payments, refunds or stock, as one family of requests. A
system of the store runs any number of them, interleaved at their operations, while other
code changes the tables that none of them owns.
-/

namespace Superstore

open Interleaving

/-- A request whose answer does not matter. -/
def discard {α : Type} (p : Request α) : Request Unit := do
  let _ ← p
  pure ()

/-- The requests about checkouts and the payments of customers. -/
inductive PaymentRequest : Request Unit → Prop
  | create (userId : ℕ) (input : CreateCheckoutDto) :
      PaymentRequest (discard (Checkout.create userId input))
  | place (userId : ℕ) (input : CreateCheckoutDto) :
      PaymentRequest (discard (Checkout.place userId input))
  | confirmBnpl (userId id : ℕ) : PaymentRequest (discard (Checkout.confirmBnpl userId id))
  | initializeKlump (userId : ℕ) (input : CreateCheckoutDto) :
      PaymentRequest (discard (Klump.initializeCheckout userId input))
  | verifyKlump (userId : ℕ) (reference : String) : PaymentRequest (Klump.verify userId reference)
  | klumpWebhook (event : Klump.WebhookEvent) : PaymentRequest (Klump.handleWebhook event)
  | initializePayment (userId groupId : ℕ) :
      PaymentRequest (Payments.initializePayment userId groupId)
  | resumeCheckout (userId id : ℕ) : PaymentRequest (discard (Payments.resumeCheckout userId id))
  | status (userId groupId : ℕ) (verify : Bool) :
      PaymentRequest (discard (Payments.status userId groupId verify))
  | cancelCheckout (userId id : ℕ) : PaymentRequest (discard (Payments.cancelCheckout userId id))
  | verifyReference (reference : String) :
      PaymentRequest (discard (Payments.verifyReference reference))
  | handleWebhook (event : Payments.WebhookEvent) : PaymentRequest (Payments.handleWebhook event)
  | reconcilePending : PaymentRequest Payments.reconcilePending
  | topupWallet (userId : ℕ) (amount : ℚ) : PaymentRequest (Payments.topupWallet userId amount)
  | topupWalletByTransfer (userId : ℕ) (amount : ℚ) :
      PaymentRequest (Payments.topupWalletByTransfer userId amount)
  | payRepayment (userId installmentId : ℕ) (byWallet : Bool) :
      PaymentRequest (Payments.payRepayment userId installmentId byWallet)
  | transferAccount (userId : ℕ) :
      PaymentRequest (discard (Payments.createWalletTransferAccount userId))
  | cancelOrder (userId id : ℕ) (reason : String) :
      PaymentRequest (Orders.cancelOrder userId id reason)

/-- The requests about refunds that staff make. -/
inductive RefundRequest.Staff : Request Unit → Prop
  | processRefund (id : ℕ) : Staff (discard (Payments.processRefund id))
  | retryRefund (id : ℕ) : Staff (discard (Payments.retryRefund id))
  | completeManualRefund (id : ℕ) (providerReference : String) :
      Staff (discard (Payments.completeManualRefund id providerReference))
  | resolveRefundAttention (id : ℕ) : Staff (discard (Payments.resolveRefundAttention id))

/-- The requests of stores, riders and staff that move an order on. -/
inductive StatusRequest : Request Unit → Prop
  | setStatus (actorId id : ℕ) (status : OrderStatus) (reason : Option String) :
      StatusRequest (Orders.setStatus actorId id status reason)
  | completePacking (actorId storeId id : ℕ) :
      StatusRequest (Orders.completePacking actorId storeId id)
  | confirmPickup (riderId id : ℕ) (token : String) :
      StatusRequest (Orders.confirmPickup riderId id token)
  | confirmDelivery (riderId id : ℕ) (token : String) :
      StatusRequest (Orders.confirmDelivery riderId id token)
  | updateStatus (riderId deliveryId : ℕ) (status : DeliveryStatus) (location note : Option String) :
      StatusRequest (Orders.updateStatus riderId deliveryId status location note)
  | claim (riderId deliveryId : ℕ) : StatusRequest (Orders.claim riderId deliveryId none)
  | accept (riderId offerId : ℕ) : StatusRequest (Orders.accept riderId offerId)
  | updateOrderStatus (id : ℕ) (status : OrderStatus) (reason : String) :
      StatusRequest (Orders.updateOrderStatus id status reason)

/-- All requests. -/
inductive StoreRequest : Request Unit → Prop
  | payment {p : Request Unit} (h : PaymentRequest p) : StoreRequest p
  | refund {p : Request Unit} (h : RefundRequest.Staff p) : StoreRequest p
  | status {p : Request Unit} (h : StatusRequest p) : StoreRequest p

/-- The tables that only the requests of the store write. -/
def ownedTables : List TableName := [.order, .payment, .checkoutPaymentGroup, .refund, .klumpTransaction]

/-- Paystack may give up a refund that it was asked for; it never takes one up again. -/
def RefundRequest.Progress (r r' : RefundRequest) : Prop := r' = r ∨ r' = { r with state := .dead }

/-- A change made outside of the requests: it leaves the owned tables, the settlement ledger's
entries and the stock of every offer as they were. A new offer does not start in debt. -/
structure OtherChange (w w' : World) : Prop where
  owned : ∀ n ∈ ownedTables, w'.db n = w.db n
  ledger : ∀ i t, (w.db .storeWalletTransaction).find i = some t →
    (w'.db .storeWalletTransaction).find i = some t
  stock : (w.db .storeProduct).Evolves (fun p p' => p'.stockQuantity = p.stockQuantity)
    (w'.db .storeProduct)
  offered : ∀ i p, (w'.db .storeProduct).find i = some p → (w.db .storeProduct).find i = none →
    0 ≤ p.stockQuantity
  charged : w'.paystack.charged = w.paystack.charged
  refunds : List.Forall₂ RefundRequest.Progress w.paystack.refunds w'.paystack.refunds

/-- The store under any number of interleaved requests. -/
def store : System Op Error World Env := { machine with starts := StoreRequest, background := OtherChange }

end Superstore

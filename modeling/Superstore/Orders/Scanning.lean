import Superstore.Orders.Transactions

/-!
# Scans and hand-over credentials

The lines of an order are scanned while it is packed, and again when its rider picks it up. A
credential is issued for each hand-over, and used up by it. Every statement here writes on its own.
-/

namespace Superstore.Orders

open Relational.Tx (Writes)

/-- Record a scan of an order line. -/
def createScan (scan : OrderItemScan) : Tx Unit := do
  let _ ← create .orderItemScan scan
  pure ()

/-- How long a credential can be used, in milliseconds. -/
def credentialLifetime : ℕ := 30 * 60 * 1000

/-- Withdraw the credentials of an order that are active for a hand-over. -/
def revokeCredentials (orderId : ℕ) (purpose : String) (now : ℕ) : Tx Unit := do
  let _ ← updateMany .orderQrCredential
    (fun _ c => c.orderId == orderId && c.purpose == purpose && c.status == "ACTIVE")
    fun c => { c with status := "REVOKED", revokedAt := some now }
  pure ()

/-- Issue a credential for a hand-over. -/
def createCredential (orderId : ℕ) (purpose token : String) (expiresAt : ℕ) : Tx ℕ :=
  createUnique .orderQrCredential (fun _ c => c.token == token)
    { orderId := orderId, purpose := purpose, token := token, expiresAt := expiresAt }

/-- Recording a scan writes the scans. -/
theorem createScan_writes (scan : OrderItemScan) : Writes [.orderItemScan] (createScan scan) :=
  .bind (.create (by decide) _) fun _ => .pure ()

/-- Revoking the credentials of an order writes the credentials. -/
theorem revokeCredentials_writes (orderId : ℕ) (purpose : String) (now : ℕ) :
    Writes [.orderQrCredential] (revokeCredentials orderId purpose now) :=
  .bind (.updateMany (by decide) _ _) fun _ => .pure ()

/-- Issuing a credential writes the credentials. -/
theorem createCredential_writes (orderId : ℕ) (purpose token : String) (expiresAt : ℕ) :
    Writes [.orderQrCredential] (createCredential orderId purpose token expiresAt) :=
  .createUnique (by decide) _ _

end Superstore.Orders

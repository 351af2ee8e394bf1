import Superstore.Requests.Store
import Superstore.Wallets.Accounting

/-!
# Requests about wallets

Withdrawals and the payment of rewards, and the system in which they run beside all other
requests. Whatever moves money in a wallet is a request of this system.
-/

namespace Superstore

open Interleaving

namespace Wallets

/-- Withdraw from a customer's wallet. -/
def requestCustomerWithdrawal (userId : ℕ) (input : ℚ) : Request Unit := do
  let amount ← decided (money input)
  let _ ← call (.requestWalletWithdrawal userId amount)
  pure ()

/-- The refusal of an amount that a wallet cannot pay out. -/
def checkAmount (amount available : ℚ) : Except Error Unit := do
  ensure (0 < amount) (.badRequest "Withdrawal amount must be greater than zero.")
  ensure (amount ≤ available)
    (.badRequest ("Insufficient balance. Available: ₦" ++ toFixed2 available ++ "."))

/-- The bank account of a rider that a withdrawal goes to. -/
def payoutBank (riderId : ℕ) (bankAccountId : Option ℕ) (db : Database) :
    Option (ℕ × RiderBankAccount) :=
  (db .riderBankAccount).first fun i b => b.riderId == riderId &&
    match bankAccountId with
    | some id => i == id
    | none => b.isPrimary

/-- Withdraw from a rider's wallet. -/
def requestRiderWithdrawal (userId : ℕ) (amount : ℚ) (bankAccountId : Option ℕ) :
    Request Unit := do
  let wallet ← select fun db => (db .wallet).first fun _ w => w.userId == userId
  decided (checkAmount amount (wallet.elim 0 (·.2.balance)))
  let (_, bank) ← selectOrThrow
    (fun db => ((db .riderProfile).first fun _ r => r.userId == userId).map fun profile =>
      (profile, payoutBank profile.1 bankAccountId db))
    (.notFound "Rider profile not found.")
  let bank ← decided (fromOption bank (.badRequest
    (if bankAccountId.isSome then "The selected bank account does not belong to this rider."
      else "A primary bank account is required before withdrawal.")))
  check (bank.2.verificationStatus = "APPROVED") (.badRequest
    (if bankAccountId.isSome then "The selected bank account is not verified."
      else "A verified primary bank account is required before withdrawal."))
  let now ← call .now
  let reference := "RW-" ++ (toString userId ++ "-" ++ toString now)
  let _ ← call (.withdrawRider userId (wallet.elim 0 Prod.fst) amount reference)
  pure ()

/-- Withdraw from the wallet of a store as its owner. -/
def requestStoreWithdrawal (userId storeId : ℕ) (amount : ℚ) : Request Unit := do
  let _ ← selectOrThrow
    (fun db => ((db .store).find storeId).filter (·.ownerUserId == userId))
    (.notFound "Store not found or you do not own it.")
  let wallet ← selectOrThrow (fun db => (db .storeWallet).first fun _ w => w.storeId == storeId)
    (.badRequest "This store does not have a wallet yet. Complete an order first.")
  decided (checkAmount amount wallet.2.balance)
  let now ← call .now
  let reference := "SW-" ++ (toString storeId ++ "-" ++ toString now)
  let _ ← call (.withdrawStore storeId wallet.1 amount reference)
  pure ()

/-- Claim the referral rewards of a user. -/
def claim (userId : ℕ) : Request Unit := do
  let _ ← call (.claimReferrals userId)
  pure ()

/-- Redeem an amount of cashback. -/
def redeem (userId : ℕ) (input : ℚ) : Request Unit := do
  let amount ← decided (money input)
  check (0 < amount) (.badRequest "Redemption amount must be greater than zero.")
  let _ ← call (.redeemCashback userId amount)
  call .notify

end Wallets

/-- The requests about wallets. -/
inductive WalletRequest : Request Unit → Prop
  | customerWithdrawal (userId : ℕ) (input : ℚ) :
      WalletRequest (Wallets.requestCustomerWithdrawal userId input)
  | riderWithdrawal (userId : ℕ) (amount : ℚ) (bankAccountId : Option ℕ) :
      WalletRequest (Wallets.requestRiderWithdrawal userId amount bankAccountId)
  | storeWithdrawal (userId storeId : ℕ) (amount : ℚ) :
      WalletRequest (Wallets.requestStoreWithdrawal userId storeId amount)
  | claim (userId : ℕ) : WalletRequest (Wallets.claim userId)
  | redeem (userId : ℕ) (input : ℚ) : WalletRequest (Wallets.redeem userId input)

/-- A change made outside of the requests that leaves the wallets alone. -/
structure OutsideWallets (w w' : World) : Prop extends OtherChange w w' where
  wallets : ∀ n ∈ walletTables, w'.db n = w.db n

/-- The store with everything that moves money in a wallet. -/
def treasury : System Op Error World Env :=
  { machine with
    starts := fun p => StoreRequest p ∨ WalletRequest p
    background := OutsideWallets }

end Superstore

import Mathlib.Data.List.Sort
import Superstore.Payments.Transactions

/-!
# The transactions of the wallets

Withdrawals of customers, riders and stores, and the rewards that are paid out into a wallet. A
customer's withdrawal reads the balance in its transaction; those of riders and stores have read
it before.
-/

namespace Superstore.Wallets

open Payments (creditWallet)

/-! ## Withdrawals -/

/-- Withdraw from a customer's wallet. -/
def requestWalletWithdrawal (e : Env) (userId : ℕ) (amount : ℚ) : Tx ℕ := do
  let wallet ← first .wallet fun _ w => w.userId == userId
  let wallet ← orThrow (wallet.filter fun w => decide (amount ≤ w.2.balance))
    (.badRequest "Insufficient wallet balance.")
  let reference := "CW-" ++ (toString userId ++ "-" ++ e.uuid)
  update .wallet wallet.1 fun w => { w with balance := w.balance - amount }
  let _ ← createUnique .walletTransaction (fun _ t => t.reference == some reference)
    { walletId := wallet.1, amount := amount, type := .debit, reference := some reference }
  create .withdrawal { userId := userId, amount := amount }

/-- Withdraw from a rider's wallet; its key is the one the caller has read. -/
def withdrawRider (userId walletId : ℕ) (amount : ℚ) (reference : String) : Tx ℕ := do
  let wallet ← first .wallet fun _ w => w.userId == userId
  let wallet ← orThrow wallet .recordNotFound
  update .wallet wallet.1 fun w => { w with balance := w.balance - amount }
  let _ ← createUnique .walletTransaction (fun _ t => t.reference == some reference)
    { walletId := walletId, amount := amount, type := .debit, reference := some reference }
  create .withdrawal { userId := userId, amount := amount }

/-- Withdraw from the wallet of a store. -/
def withdrawStore (storeId walletId : ℕ) (amount : ℚ) (reference : String) : Tx ℕ := do
  update .storeWallet walletId fun w => { w with balance := w.balance - amount }
  let _ ← createUnique .storeWalletTransaction (fun _ t => t.reference == some reference)
    { walletId := walletId, amount := amount, type := .debit, reference := some reference }
  create .storeWithdrawal { storeId := storeId, walletId := walletId, amount := amount }

/-! ## Rewards -/

/-- What a claim of referral rewards has paid out. -/
structure Claimed where
  claimedAmount : ℚ
  claimedReferrals : ℕ
  reference : Option String

/-- Pay the qualified referral rewards of a user out. -/
def claimReferrals (e : Env) (userId : ℕ) : Tx Claimed := do
  let rewards ← many .referral fun _ r => r.referrerId == userId && r.status == "QUALIFIED"
  let amount := (rewards.map (·.2.rewardAmount)).sum
  if amount ≤ 0 then pure ⟨0, 0, none⟩
  else do
    let reference := "REFERRAL-" ++ (toString userId ++ "-" ++ e.uuid)
    creditWallet userId amount reference
    let _ ← updateMany .referral
      (fun i r => (rewards.map Prod.fst).contains i && r.status == "QUALIFIED")
      fun r => { r with status := "CLAIMED", claimedAt := some e.now }
    pure ⟨amount, rewards.length, some reference⟩

/-- What is left of a cashback reward. -/
def unredeemed (c : CashbackReward) : ℚ := c.amount - c.redeemedAmount

/-- Cashback rewards in the order in which they have been entered. -/
def oldestFirst (rows : List (ℕ × CashbackReward)) : List (ℕ × CashbackReward) :=
  rows.insertionSort fun a b => a.2.createdAt ≤ b.2.createdAt

/-- Redeem an amount from cashback rewards, the first ones first. -/
def redeemRows (now : ℕ) : List (ℕ × CashbackReward) → ℚ → Tx Unit
  | [], _ => pure ()
  | row :: rows, remaining =>
    if remaining ≤ 0 then pure ()
    else do
      let applied := min (unredeemed row.2) remaining
      let redeemedAmount := row.2.redeemedAmount + applied
      update .cashbackReward row.1 fun c =>
        { c with
          redeemedAmount := redeemedAmount
          status := if redeemedAmount = row.2.amount then "REDEEMED" else "AVAILABLE"
          redeemedAt := if redeemedAmount = row.2.amount then some now else none }
      redeemRows now rows (remaining - applied)

/-- What a redemption of cashback has paid out. -/
structure Redeemed where
  amount : ℚ
  availableCashback : ℚ
  walletBalance : ℚ
  reference : String

/-- Pay an amount of cashback out. -/
def redeemCashback (e : Env) (userId : ℕ) (amount : ℚ) : Tx Redeemed := do
  let found ← many .cashbackReward fun _ c => c.userId == userId && c.status == "AVAILABLE"
  let rows := oldestFirst found
  let available := (rows.map (unredeemed ·.2)).sum
  require (amount ≤ available) (.badRequest "Insufficient cashback balance.")
  redeemRows e.now rows amount
  let reference := "CASHBACK-" ++ (toString userId ++ "-" ++ e.uuid)
  creditWallet userId amount reference
  let wallet ← first .wallet fun _ w => w.userId == userId
  let wallet ← orThrow wallet .recordNotFound
  pure ⟨amount, available - amount, wallet.2.balance, reference⟩

/-! ## What the transactions write -/

open Relational.Tx (Writes)

/-- Asking for a withdrawal writes the wallet, its entries and the withdrawals. -/
theorem requestWalletWithdrawal_writes (e : Env) (userId : ℕ) (amount : ℚ) :
    Writes [.wallet, .walletTransaction, .withdrawal] (requestWalletWithdrawal e userId amount) :=
  .bind (.first _ _) fun _ => .bind (.orThrow _ _) fun _ => .bind (.update (by decide) _ _) fun _ =>
    .bind (.createUnique (by decide) _ _) fun _ => .create (by decide) _

/-- A withdrawal of a rider writes the wallet, its entries and the withdrawals. -/
theorem withdrawRider_writes (userId walletId : ℕ) (amount : ℚ) (reference : String) :
    Writes [.wallet, .walletTransaction, .withdrawal]
      (withdrawRider userId walletId amount reference) :=
  .bind (.first _ _) fun _ => .bind (.orThrow _ _) fun _ => .bind (.update (by decide) _ _) fun _ =>
    .bind (.createUnique (by decide) _ _) fun _ => .create (by decide) _

/-- A withdrawal of a store writes its wallet, its entries and its withdrawals. -/
theorem withdrawStore_writes (storeId walletId : ℕ) (amount : ℚ) (reference : String) :
    Writes [.storeWallet, .storeWalletTransaction, .storeWithdrawal]
      (withdrawStore storeId walletId amount reference) :=
  .bind (.update (by decide) _ _) fun _ => .bind (.createUnique (by decide) _ _) fun _ =>
    .create (by decide) _

/-- Claiming referrals writes the wallet, its entries and the referrals. -/
theorem claimReferrals_writes (e : Env) (userId : ℕ) :
    Writes [.wallet, .walletTransaction, .referral] (claimReferrals e userId) := by
  refine .bind (.many _ _) fun rewards => ?_
  dsimp only
  split
  · exact .pure _
  · exact .bind ((Payments.creditWallet_writes _ _ _).mono (by decide)) fun _ =>
      .bind (.updateMany (by decide) _ _) fun _ => .pure _

/-- Redeeming the rows of a user writes the rewards. -/
theorem redeemRows_writes (now : ℕ) (rows : List (ℕ × CashbackReward)) (remaining : ℚ) :
    Writes [.cashbackReward] (redeemRows now rows remaining) := by
  induction rows generalizing remaining with
  | nil => exact .pure ()
  | cons row rows ih =>
    rw [redeemRows]
    split
    · exact .pure ()
    · exact .bind (.update List.mem_cons_self _ _) fun _ => ih _

/-- Redeeming cashback writes the wallet, its entries and the rewards. -/
theorem redeemCashback_writes (e : Env) (userId : ℕ) (amount : ℚ) :
    Writes [.wallet, .walletTransaction, .cashbackReward] (redeemCashback e userId amount) :=
  .bind (.many _ _) fun _ => .bind (.require _ _) fun _ =>
    .bind ((redeemRows_writes _ _ _).mono (by decide)) fun _ =>
    .bind ((Payments.creditWallet_writes _ _ _).mono (by decide)) fun _ =>
    .bind (.first _ _) fun _ => .bind (.orThrow _ _) fun _ => .pure _

end Superstore.Wallets

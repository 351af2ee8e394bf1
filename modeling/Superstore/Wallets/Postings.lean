import Superstore.Requests.Effects
import Superstore.Wallets.Accounting

/-!
# What the operations post

Every operation moves the wallets of users and stores by postings only, and for each of them it
is known which postings these may be: whether they add to a balance or take from it, whether the
wallet covered them, and what their reference starts with. Only the debit of a rider relies on a
fact, about the wallet that its request has read.
-/

namespace Superstore

open Relational Relational.Tx

/-! ## Wallets of users -/

/-- An entry whose reference starts like this. -/
def WalletTransaction.Under (t : WalletTransaction) (start : String) : Prop :=
  ∃ s, t.reference = some (start ++ s)

/-- A posting that notes the fee of a rider. -/
def Held : WalletPosting := fun _ t => t.type = .hold ∧ t.Under "DELIVERY-HOLD-"

/-- A debit that the wallet of a user covers. -/
def Covered (userId : ℕ) : WalletPosting := fun w t =>
  t.type = .debit ∧ w.userId = userId ∧ t.amount ≤ w.balance

/-- A credit of an amount to the wallet of a user. -/
def Credited (userId : ℕ) : WalletPosting := fun w t => t.type = .credit ∧ w.userId = userId

/-- A posting of a checkout: the fee of a rider, or a debit of the customer. -/
def CheckoutPosting (userId : ℕ) : WalletPosting := fun w t =>
  Held w t ∨ Covered userId w t ∧ (t.Under "WALLET-" ∨ t.Under "BNPL-")

/-- The postings of an operation to the wallets of users, from a database on. -/
def Op.walletPosting : {α : Type} → Op α → Database → WalletPosting
  | _, .createCheckout userId _, _ => CheckoutPosting userId
  | _, .confirmFinancing userId _, _ => CheckoutPosting userId
  | _, .finalizePayment _ _ _, _ => Held
  | _, .completeIncomplete _, _ => Held
  | _, .completeKlump _ _ _, _ => Held
  | _, .claimDelivery _ _ _, _ => Held
  | _, .repayFromWallet userId _ amount reference, _ => fun w t =>
    Covered userId w t ∧ t.amount = amount ∧ t.reference = some reference
  | _, .requestWalletWithdrawal userId amount, _ => fun w t =>
    Covered userId w t ∧ t.amount = amount ∧ t.Under "CW-"
  | _, .withdrawRider userId walletId amount reference, db => fun w t =>
    (db .wallet).find walletId = some w ∧ w.userId = userId ∧ t.type = .debit ∧ t.amount = amount ∧
      t.reference = some reference
  | _, .creditTopup paymentId userId amount, _ => fun w t =>
    Credited userId w t ∧ t.amount = amount ∧
      t.reference = some ("TOPUP-CREDIT-" ++ toString paymentId)
  | _, .creditFunding _ userId reference amount, _ => fun w t =>
    Credited userId w t ∧ t.amount = amount ∧
      t.reference = some (Payments.fundingLedgerReference reference)
  | _, .cancelOrder userId id _, _ => fun w t =>
    Credited userId w t ∧ t.reference = some ("ORDER-CANCEL-" ++ toString id)
  | _, .writeDelivery _ _ _ _ _, _ => fun _ t => t.type = .release ∧ t.Under "DELIVERY-RELEASE-"
  | _, .claimReferrals userId, _ => fun w t => Credited userId w t ∧ t.Under "REFERRAL-"
  | _, .redeemCashback userId amount, _ => fun w t =>
    Credited userId w t ∧ t.amount = amount ∧ t.Under "CASHBACK-"
  | _, _, _ => fun _ _ => False

/-- The wallet that a rider's withdrawal has been told of. -/
def Op.Located : {α : Type} → Op α → Database → Prop
  | _, .withdrawRider userId walletId _ _, db =>
    ∃ w, (db .wallet).find walletId = some w ∧ w.userId = userId
  | _, _, _ => True

/-- Where no wallet is written, nothing is posted. -/
theorem accounting_walletPosts (P : WalletPosting) : Accounting (WalletPosts P) where
  frame _ _ h := .of_eq (h _ (by decide)) (h _ (by decide))

/-- The settlement of an order may note the fee of its rider. -/
theorem settling_walletPosts {P : WalletPosting} (hP : ∀ w t, Held w t → P w t) : Settling (WalletPosts P) where
  toAccounting := accounting_walletPosts P
  settleOrder e _ := settleOrder_holds e fun _ _ _ _ => hP _ _ ⟨rfl, _, rfl⟩

/-- The debit of a checkout. -/
theorem checkoutDebit_posts (userId : ℕ) (amount : ℚ) (reference : String)
    (href : Settling.debitReference reference) :
    Within (WalletPosts (CheckoutPosting userId)) (Checkout.debitWallet userId amount reference) := by
  refine debitWallet_posts fun v i huser hcovers => .inr ⟨⟨rfl, huser, hcovers⟩, ?_⟩
  rcases href with ⟨s, rfl | rfl⟩
  · exact .inl ⟨s, rfl⟩
  · exact .inr ⟨s, rfl⟩

/-- Every operation moves the wallets of users by its own postings. -/
theorem Op.Located.walletPosts {α : Type} {op : Op α} {w : World} (h : op.Located w.db) (e : Env) :
    WalletPosts (op.walletPosting w.db) w.db (op.exec e w).2.db := by
  by_cases hwrites : TableName.wallet ∈ op.writes ∨ TableName.walletTransaction ∈ op.writes
  swap
  · rw [not_or] at hwrites
    exact .of_eq (exec_frame op e w _ hwrites.1) (exec_frame op e w _ hwrites.2)
  have hposts {α : Type} {op : Op α} {m : Env → Tx α} {P : WalletPosting}
      (hop : op.transaction = some m) (hm : wp w.db (m e) fun _ db => WalletPosts P w.db db) :
      WalletPosts P w.db (op.exec e w).2.db :=
    exec_transaction hop (Φ := fun w' => WalletPosts P w.db w'.db) (refl_of _ _) hm
  have hheld : Settling (WalletPosts Held) := settling_walletPosts fun _ _ => id
  have hcheckout (userId : ℕ) : Settling (WalletPosts (CheckoutPosting userId)) :=
    settling_walletPosts fun _ _ => .inl
  cases op <;> dsimp only [Op.writes] at hwrites <;>
    first | exact absurd hwrites (by decide) | clear hwrites
  case createCheckout userId input =>
    exact hposts rfl ((hcheckout userId).createInTransaction e _ _ (checkoutDebit_posts userId) w.db)
  case confirmFinancing userId id =>
    exact hposts rfl ((hcheckout userId).confirm e _ (checkoutDebit_posts userId) w.db)
  case finalizePayment => exact hposts rfl (hheld.finalizePayment e _ _ _ w.db)
  case completeIncomplete => exact hposts rfl (hheld.completeIncomplete e _ w.db)
  case completeKlump => exact hposts rfl (hheld.completeTransaction e _ _ _ w.db)
  case repayFromWallet =>
    exact hposts rfl (repayFromWallet_posts e (fun _ _ huser hcovers =>
      ⟨⟨rfl, huser, hcovers⟩, rfl, rfl⟩) w.db)
  case creditTopup =>
    exact hposts rfl (creditTopup_posts e (fun _ _ huser => ⟨⟨rfl, huser⟩, rfl, rfl⟩) w.db)
  case creditFunding =>
    exact hposts rfl (creditFunding_posts e (fun _ _ huser => ⟨⟨rfl, huser⟩, rfl, rfl⟩) w.db)
  case cancelOrder =>
    refine hposts rfl ((accounting_walletPosts _).cancel e _ (fun _ => ?_) fun order db₁ _ _ => ?_)
    · exact creditWallet_posts fun _ _ huser => ⟨⟨rfl, huser⟩, rfl⟩
    · exact Ledger.posts_of_writes (Orders.reverseSettlement_writes _ _) (by decide) (by decide) db₁
  case writeDelivery =>
    exact hposts rfl ((accounting_walletPosts _).writeDelivery e _ _ _ _
      (releaseRiderEarning_posts _ fun _ _ _ => ⟨rfl, _, rfl⟩) w.db)
  case claimDelivery =>
    exact hposts rfl ((accounting_walletPosts _).claimDelivery e _ _
      (holdRiderEarning_posts fun _ _ _ => ⟨rfl, _, rfl⟩) w.db)
  case requestWalletWithdrawal =>
    exact hposts rfl (requestWalletWithdrawal_posts e (fun _ _ huser hcovers =>
      ⟨⟨rfl, huser, hcovers⟩, rfl, _, rfl⟩) w.db)
  case withdrawRider =>
    obtain ⟨v, hfind, huser⟩ := h
    exact hposts rfl (withdrawRider_posts hfind huser ⟨hfind, huser, rfl, rfl, rfl⟩)
  case claimReferrals =>
    exact hposts rfl (claimReferrals_posts e (fun _ _ _ _ huser => ⟨⟨rfl, huser⟩, _, rfl⟩) w.db)
  case redeemCashback =>
    exact hposts rfl (redeemCashback_posts e (fun _ _ huser => ⟨⟨rfl, huser⟩, rfl, _, rfl⟩) w.db)

/-! ## Wallets of stores -/

/-- The credit of a settlement. -/
def Settled : StorePosting := fun _ t => t.type = .credit ∧ 0 ≤ t.amount

/-- The postings of an operation to the wallets of stores, from a database on. -/
def Op.storePosting : {α : Type} → Op α → Database → StorePosting
  | _, .createCheckout _ _, _ => Settled
  | _, .confirmFinancing _ _, _ => Settled
  | _, .finalizePayment _ _ _, _ => Settled
  | _, .completeIncomplete _, _ => Settled
  | _, .completeKlump _ _ _, _ => Settled
  | _, .cancelOrder _ id _, db => fun w t => ∃ order amount, (db .order).find id = some order ∧
    settlementOf order db = some (w, amount) ∧ t.type = .debit ∧ t.amount = amount
  | _, .withdrawStore _ walletId amount _, db => fun w t =>
    (db .storeWallet).find walletId = some w ∧ t.type = .debit ∧ t.amount = amount
  | _, _, _ => fun _ _ => False

/-- Where no wallet is written, nothing is posted. -/
theorem accounting_storePosts (P : StorePosting) : Accounting (StorePosts P) where
  frame _ _ h := .of_eq (h _ (by decide)) (h _ (by decide))

/-- A settlement credits the store. -/
theorem settling_storePosts : Settling (StorePosts Settled) where
  toAccounting := accounting_storePosts _
  settleOrder e _ := settleOrder_posts e fun _ _ _ _ hamount => ⟨rfl, hamount⟩

/-- What a cancellation takes back is decided by the wallets and settlements of the stores. -/
theorem settlementOf_congr {order : Order} {db db' : Database}
    (h : ∀ n ∈ Accounting.storeWalletTables, db' n = db n) : settlementOf order db' = settlementOf order db := by
  have hwallet : db' .storeWallet = db .storeWallet := h _ (by decide)
  have hentries : db' .storeWalletTransaction = db .storeWalletTransaction := h _ (by decide)
  rw [settlementOf, settlementOf, hwallet, hentries]

/-- Every operation moves the wallets of stores by its own postings. -/
theorem Op.storePosts {α : Type} (op : Op α) (e : Env) (w : World) :
    StorePosts (op.storePosting w.db) w.db (op.exec e w).2.db := by
  by_cases hwrites : TableName.storeWallet ∈ op.writes ∨ TableName.storeWalletTransaction ∈ op.writes
  swap
  · rw [not_or] at hwrites
    exact .of_eq (exec_frame op e w _ hwrites.1) (exec_frame op e w _ hwrites.2)
  have hposts {α : Type} {op : Op α} {m : Env → Tx α} {P : StorePosting}
      (hop : op.transaction = some m) (hm : wp w.db (m e) fun _ db => StorePosts P w.db db) :
      StorePosts P w.db (op.exec e w).2.db :=
    exec_transaction hop (Φ := fun w' => StorePosts P w.db w'.db) (refl_of _ _) hm
  have hdebit (userId : ℕ) (amount : ℚ) (reference : String) (_ : Settling.debitReference reference) :
      Within (StorePosts Settled) (Checkout.debitWallet userId amount reference) :=
    Ledger.posts_of_writes (Checkout.debitWallet_writes _ _ _) (by decide) (by decide)
  cases op <;> dsimp only [Op.writes] at hwrites <;>
    first | exact absurd hwrites (by decide) | clear hwrites
  case createCheckout => exact hposts rfl (settling_storePosts.createInTransaction e _ _ (hdebit _) w.db)
  case confirmFinancing => exact hposts rfl (settling_storePosts.confirm e _ (hdebit _) w.db)
  case finalizePayment => exact hposts rfl (settling_storePosts.finalizePayment e _ _ _ w.db)
  case completeIncomplete => exact hposts rfl (settling_storePosts.completeIncomplete e _ w.db)
  case completeKlump => exact hposts rfl (settling_storePosts.completeTransaction e _ _ _ w.db)
  case cancelOrder =>
    refine hposts rfl ((accounting_storePosts _).cancel e _ (fun _ => ?_) fun order db₁ horder hsame => ?_)
    · exact Ledger.posts_of_writes (Payments.creditWallet_writes _ _ _) (by decide) (by decide)
    · refine reverseSettlement_posts fun v i amount hamount => ⟨order, amount, horder, ?_, rfl, rfl⟩
      rw [← settlementOf_congr hsame]
      exact hamount
  case withdrawStore => exact hposts rfl (withdrawStore_posts fun v hfind => ⟨hfind, rfl, rfl⟩)

end Superstore

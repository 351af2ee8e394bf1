import Superstore.Checkout.Create
import Superstore.Orders.Transactions
import Superstore.Relational.Ledger
import Superstore.Wallets.Transactions

/-!
# The ledgers of the wallets

Users and stores have wallets, each with its ledger. Credits and the release of a held fee add to
a user's balance and debits take from it; a held fee is only noted. The basic transactions that
move money are postings of these ledgers.
-/

namespace Superstore

open Relational Relational.Tx

/-- What an entry adds to the balance of a user's wallet. -/
def WalletTransactionType.signed : WalletTransactionType → ℚ → ℚ
  | .credit, amount | .release, amount => amount
  | .debit, amount => -amount
  | .hold, _ | .adjustment, _ => 0

/-- The wallets of users with their ledger. -/
def walletLedger : Ledger (Row .wallet) (Row .walletTransaction) ℕ String ℚ where
  owner := Wallet.userId
  balance := Wallet.balance
  move w x := { w with balance := w.balance + x }
  account := WalletTransaction.walletId
  amount t := t.type.signed t.amount
  reference := WalletTransaction.reference
  owner_move _ _ := rfl
  balance_move _ _ := rfl

/-- What an entry adds to the balance of a store's wallet. -/
def WalletTransactionType.storeSigned : WalletTransactionType → ℚ → ℚ
  | .credit, amount => amount
  | .debit, amount => -amount
  | .hold, _ | .release, _ | .adjustment, _ => 0

/-- The wallets of stores with their ledger. -/
def storeLedger : Ledger (Row .storeWallet) (Row .storeWalletTransaction) ℕ String ℚ where
  owner := StoreWallet.storeId
  balance := StoreWallet.balance
  move w x := { w with balance := w.balance + x }
  account := StoreWalletTransaction.walletId
  amount t := t.type.storeSigned t.amount
  reference := StoreWalletTransaction.reference
  owner_move _ _ := rfl
  balance_move _ _ := rfl

/-- A condition on the postings of users' wallets. -/
abbrev WalletPosting := Wallet → WalletTransaction → Prop

/-- A condition on the postings of stores' wallets. -/
abbrev StorePosting := StoreWallet → StoreWalletTransaction → Prop

/-- The wallets of users have moved by postings only. -/
abbrev WalletPosts (P : WalletPosting) (db db' : Database) : Prop := walletLedger.Posts P db db'

/-- The wallets of stores have moved by postings only. -/
abbrev StorePosts (P : StorePosting) (db db' : Database) : Prop := storeLedger.Posts P db db'

section Users

variable {P : WalletPosting}

/-- A transaction whose postings are sound where no user has two wallets. -/
theorem walletPosts_of_owned {α : Type} {m : Tx α} {db : Database}
    (h : walletLedger.Owned (db .wallet) → wp db m fun _ db' => WalletPosts P db db') :
    wp db m fun _ db' => WalletPosts P db db' :=
  fun a db' hm ho => h ho a db' hm ho

/-- The wallet of a user is found, or opened without a balance. -/
theorem openWallet_posts (userId : ℕ) (db : Database) :
    wp db (firstOrCreate .wallet (fun _ w => w.userId == userId) { userId := userId })
      fun wallet db' => WalletPosts P db db' ∧ (db' .wallet).find wallet.1 = some wallet.2 ∧
        wallet.2.userId = userId := by
  have howner (i : ℕ) (w : Wallet) : (w.userId == userId) = true ↔ w.userId = userId := beq_iff_eq
  exact wp_mono (Ledger.firstOrCreate_posts (L := walletLedger) (P := P) (by decide) howner rfl db)
    fun _ _ ⟨hmoves, _, hfind, hown⟩ => ⟨hmoves, hfind, hown⟩

/-- A credit, to a wallet that is opened if need be. -/
theorem creditWallet_posts {userId : ℕ} {amount : ℚ} {reference : String}
    (hP : ∀ w i, w.userId = userId →
      P w { walletId := i, amount := amount, type := .credit, reference := some reference }) :
    Within (WalletPosts P) (Payments.creditWallet userId amount reference) := by
  intro db
  rw [Payments.creditWallet, wp_bind]
  refine wp_mono (openWallet_posts (P := P) userId db) fun wallet db₁ ⟨hmoves, hfind, hown⟩ => ?_
  rw [wp_bind, wp_update]
  intro _ _
  rw [wp_bind, wp_createUnique]
  intro hfresh
  rw [wp_pure]
  refine trans_of (WalletPosts P) hmoves ?_
  exact .post (by decide) rfl hfind rfl hfresh (fun j t x ht hx => beq_iff_eq.mpr (ht.trans hx.symm))
    (hP _ _ hown)

/-- The wallet that a conditional debit has met is the one that is read afterwards. -/
theorem wallet_of_debit {userId : ℕ} {amount : ℚ} {wallets : Table Wallet}
    (ho : walletLedger.Owned wallets)
    (hcount : (wallets.many fun _ w => w.userId == userId && decide (amount ≤ w.balance)).length ≠ 0) :
    ∃ i w, wallets.find i = some w ∧ w.userId = userId ∧ amount ≤ w.balance ∧
      wallets.updateMany (fun _ w => w.userId == userId && decide (amount ≤ w.balance))
          (fun w => { w with balance := w.balance - amount }) =
        wallets.update i (fun w => { w with balance := w.balance - amount }) ∧
      ∀ r, (wallets.update i fun w => { w with balance := w.balance - amount }).first
        (fun _ w => w.userId == userId) = some r → r.1 = i := by
  obtain ⟨⟨i, w⟩, hmem⟩ := List.exists_mem_of_length_pos (Nat.pos_of_ne_zero hcount)
  obtain ⟨hfind, hp⟩ := Table.mem_many.mp hmem
  have hmet := hp
  rw [Bool.and_eq_true, beq_iff_eq, decide_eq_true_eq] at hp
  refine ⟨i, w, hfind, hp.1, hp.2, Table.updateMany_eq_update hfind hmet (fun j v hv hv' => ?_) _, fun r hr => ?_⟩
  · rw [Bool.and_eq_true, beq_iff_eq] at hv'
    exact ho j v i w hv hfind (hv'.1.trans hp.1.symm)
  · obtain ⟨hr, huser⟩ := Table.find_of_first hr
    rw [beq_iff_eq] at huser
    rw [Table.find_update] at hr
    split at hr
    · next h => exact h
    · exact ho r.1 r.2 i w hr hfind (huser.trans hp.1.symm)

/-- An amount that is taken out of a wallet which covers it. -/
theorem debit_posts {α : Type} {userId : ℕ} {amount : ℚ} {reference : String} {short : ℕ → Prop}
    [DecidablePred short] {message : Error} {f : ℕ → Tx α} (hshort : ∀ n, short n → n ≠ 0)
    (hP : ∀ w i, w.userId = userId → amount ≤ w.balance →
      P w { walletId := i, amount := amount, type := .debit, reference := some reference })
    (hf : ∀ n, Within (WalletPosts P) (f n)) :
    Within (WalletPosts P) (do
      let count ← updateMany .wallet (fun _ w => w.userId == userId && decide (amount ≤ w.balance))
        fun w => { w with balance := w.balance - amount }
      require (short count) message
      let wallet ← first .wallet fun _ w => w.userId == userId
      let wallet ← orThrow wallet .recordNotFound
      let id ← createUnique .walletTransaction (fun _ t => t.reference == some reference)
        { walletId := wallet.1, amount := amount, type := .debit, reference := some reference }
      f id) := fun db => by
  refine walletPosts_of_owned fun ho => ?_
  rw [wp_bind, wp_updateMany, wp_bind, wp_require]
  intro hcount
  obtain ⟨i, w, hfind, huser, hcovers, hupdate, honly⟩ := wallet_of_debit ho (hshort _ hcount)
  rw [hupdate, wp_bind, wp_first, wp_bind, wp_orThrow]
  intro wallet hwallet
  rw [Database.set_self] at hwallet
  rw [wp_bind, wp_createUnique]
  intro hfresh
  refine Within.from ?_ (hf _)
  have hsub : (fun w : Wallet => { w with balance := w.balance - amount }) w =
      walletLedger.move w (walletLedger.amount
        { walletId := wallet.1, amount := amount, type := .debit, reference := some reference }) := by
    simp only [walletLedger, WalletTransactionType.signed, sub_eq_add_neg]
  exact .post (by decide) (honly _ hwallet) hfind hsub hfresh
    (fun j t x ht hx => beq_iff_eq.mpr (ht.trans hx.symm)) (hP _ _ huser hcovers)

/-- Debiting a wallet for a checkout posts one debit. -/
theorem debitWallet_posts {userId : ℕ} {amount : ℚ} {reference : String}
    (hP : ∀ w i, w.userId = userId → amount ≤ w.balance →
      P w { walletId := i, amount := amount, type := .debit, reference := some reference }) :
    Within (WalletPosts P) (Checkout.debitWallet userId amount reference) :=
  debit_posts (fun n hn => by omega) hP fun _ => .pure _

/-- Paying an installment from a wallet posts one debit. -/
theorem repayFromWallet_posts (e : Env) {userId installmentId : ℕ} {amount : ℚ} {reference : String}
    (hP : ∀ w i, w.userId = userId → amount ≤ w.balance →
      P w { walletId := i, amount := amount, type := .debit, reference := some reference }) :
    Within (WalletPosts P) (Payments.repayFromWallet e userId installmentId amount reference) := by
  refine debit_posts (fun n hn => hn) hP fun _ => ?_
  refine .bind (Ledger.posts_of_writes (.createUnique (List.mem_singleton_self _) _ _) (by decide)
    (by decide)) fun _ => ?_
  exact .bind (Ledger.posts_of_writes (Payments.completeBnplRepayment_writes e _) (by decide)
    (by decide)) fun _ => .pure _

/-- A customer's withdrawal takes what the wallet covers. -/
theorem requestWalletWithdrawal_posts (e : Env) {userId : ℕ} {amount : ℚ}
    (hP : ∀ w i, w.userId = userId → amount ≤ w.balance →
      P w { walletId := i, amount := amount, type := .debit
            reference := some ("CW-" ++ (toString userId ++ "-" ++ e.uuid)) }) :
    Within (WalletPosts P) (Wallets.requestWalletWithdrawal e userId amount) := fun db => by
  rw [Wallets.requestWalletWithdrawal, wp_bind, wp_first, wp_bind, wp_orThrow]
  intro wallet hwallet
  obtain ⟨hfirst, hcovers⟩ := Option.filter_eq_some_iff.mp hwallet
  obtain ⟨hfind, huser⟩ := Table.find_of_first hfirst
  rw [wp_bind, wp_update]
  intro _ _
  rw [wp_bind, wp_createUnique]
  intro hfresh
  refine Within.from ?_ (Ledger.posts_of_writes (.create (List.mem_singleton_self _) _) (by decide) (by decide))
  refine .post (by decide) rfl hfind ?_ hfresh (fun j t x ht hx => beq_iff_eq.mpr (ht.trans hx.symm))
    (hP _ _ (beq_iff_eq.mp huser) (decide_eq_true_eq.mp hcovers))
  simp only [walletLedger, WalletTransactionType.signed, sub_eq_add_neg]

/-- A rider's withdrawal takes from the wallet that it was told of, whether or not it is covered. -/
theorem withdrawRider_posts {userId walletId : ℕ} {amount : ℚ} {reference : String} {w : Wallet}
    {db : Database} (hfind : (db .wallet).find walletId = some w) (huser : w.userId = userId)
    (hP : P w { walletId := walletId, amount := amount, type := .debit, reference := some reference }) :
    wp db (Wallets.withdrawRider userId walletId amount reference) fun _ db' => WalletPosts P db db' := by
  refine walletPosts_of_owned fun ho => ?_
  rw [Wallets.withdrawRider, wp_bind, wp_first, wp_bind, wp_orThrow]
  intro wallet hwallet
  obtain ⟨hfind', huser'⟩ := Table.find_of_first hwallet
  obtain rfl := ho _ _ _ _ hfind hfind' (huser.trans (beq_iff_eq.mp huser').symm)
  rw [wp_bind, wp_update]
  intro _ _
  rw [wp_bind, wp_createUnique]
  intro hfresh
  refine Within.from ?_ (Ledger.posts_of_writes (.create (List.mem_singleton_self _) _) (by decide) (by decide))
  refine .post (by decide) rfl hfind ?_ hfresh (fun j t x ht hx => beq_iff_eq.mpr (ht.trans hx.symm)) hP
  simp only [walletLedger, WalletTransactionType.signed, sub_eq_add_neg]

/-- A posting of an amount that is credited to a wallet. -/
theorem creditTopup_posts (e : Env) {paymentId userId : ℕ} {amount : ℚ}
    (hP : ∀ w i, w.userId = userId →
      P w { walletId := i, amount := amount, type := .credit
            reference := some ("TOPUP-CREDIT-" ++ toString paymentId) }) :
    Within (WalletPosts P) (Payments.creditTopup e paymentId userId amount) := by
  refine .bind (.of_reads (.findOrThrow _ _)) fun current => ?_
  split
  · exact .pure _
  · exact .bind (Ledger.posts_of_writes (.update (List.mem_singleton_self _) _ _) (by decide) (by decide))
      fun _ => .bind (creditWallet_posts hP) fun _ => .pure _

/-- A transfer is credited unless its ledger reference has been used. -/
theorem creditFunding_posts (e : Env) {paymentId userId : ℕ} {reference : String} {amount : ℚ}
    (hP : ∀ w i, w.userId = userId →
      P w { walletId := i, amount := amount, type := .credit
            reference := some (Payments.fundingLedgerReference reference) }) :
    Within (WalletPosts P) (Payments.creditFunding e paymentId userId reference amount) := by
  have hpayment (f : Payment → Payment) : Within (WalletPosts P) (update .payment paymentId f) :=
    Ledger.posts_of_writes (.update (List.mem_singleton_self _) _ _) (by decide) (by decide)
  refine .bind (.of_reads (.findOrThrow _ _)) fun current => ?_
  split
  · exact .pure _
  · intro db
    rw [wp_bind]
    refine wp_mono (openWallet_posts (P := P) userId db) fun wallet db₁ hstep => ?_
    obtain ⟨hmoves, hfind, hown⟩ := hstep
    refine wp_mono (Q := fun _ db' => WalletPosts P db₁ db') ?_ fun _ _ => trans_of _ hmoves
    dsimp only
    rw [wp_bind, wp_first]
    refine Within.after ?_ fun _ => .bind (hpayment _) fun _ => .pure _
    rw [wp_when]
    refine ⟨fun _ => ?_, fun _ => refl_of _ _⟩
    rw [wp_bind, wp_update]
    intro _ _
    rw [wp_bind, wp_createUnique]
    intro hfresh
    rw [wp_pure]
    exact .post (by decide) rfl hfind rfl hfresh (fun j t x ht hx => beq_iff_eq.mpr (ht.trans hx.symm))
      (hP _ _ hown)

/-- The fee of a rider is noted under the reference of its delivery. -/
theorem holdRiderEarning_posts {deliveryId : ℕ}
    (hP : ∀ w i amount, P w { walletId := i, amount := amount, type := .hold
                              reference := some ("DELIVERY-HOLD-" ++ toString deliveryId) }) :
    Within (WalletPosts P) (Settlements.holdRiderEarning deliveryId) := by
  refine .bind (.of_reads (.find _ _)) fun delivery => ?_
  split
  · refine .bind (.of_reads (.findOrThrow _ _)) fun order => .bind (.of_reads (.query _)) fun _ => ?_
    refine .bind (.of_reads (.first _ _)) fun _ => .bind (.of_reads (.first _ _)) fun profile => ?_
    cases profile with
    | none => exact .pure ()
    | some profile =>
      refine .when fun db => ?_
      rw [wp_bind]
      refine wp_mono (openWallet_posts (P := P) _ db) fun wallet db₁ ⟨hmoves, hfind, _⟩ => ?_
      refine wp_mono (Q := fun _ db' => WalletPosts P db₁ db') ?_ fun _ _ => trans_of _ hmoves
      rw [wp_bind, wp_create, wp_bind, wp_createUnique]
      intro hfresh
      rw [wp_pure]
      refine trans_of _ (.of_eq (Database.set_of_ne _ _ (by decide)) (Database.set_of_ne _ _ (by decide)))
        (Ledger.Posts.note (by decide) ?_ ?_ hfresh
          (fun j t x ht hx => beq_iff_eq.mpr (ht.trans hx.symm)) (hP wallet.2 _ _))
      · rw [Database.set_of_ne _ _ (by decide)]
        exact hfind
      · simp only [walletLedger, WalletTransactionType.signed, add_zero]
  · exact .pure ()

/-- A settlement notes the fee of a rider who has claimed the delivery already. -/
theorem settleOrder_holds (e : Env) {orderId : ℕ}
    (hP : ∀ w i amount (deliveryId : ℕ), P w { walletId := i, amount := amount, type := .hold
                                               reference := some ("DELIVERY-HOLD-" ++ toString deliveryId) }) :
    Within (WalletPosts P) (Settlements.settleOrder e orderId) :=
  Settlements.settleOrder_within e (fun hm => Ledger.posts_of_writes hm (by decide) (by decide))
    fun i _ db _ => holdRiderEarning_posts (fun w j amount => hP w j amount i) db

/-- The fee that has been held for a rider is released under the reference of its delivery. -/
theorem releaseRiderEarning_posts (now : ℕ) {deliveryId : ℕ}
    (hP : ∀ w i amount, P w { walletId := i, amount := amount, type := .release
                              reference := some ("DELIVERY-RELEASE-" ++ toString deliveryId) }) :
    Within (WalletPosts P) (Settlements.releaseRiderEarning now deliveryId) := by
  refine .bind (.of_reads (.first _ _)) fun earning => ?_
  cases earning with
  | none => exact .pure ()
  | some earning =>
    refine .when (.bind (Ledger.posts_of_writes (.updateMany (List.mem_singleton_self _) _ _) (by decide)
      (by decide)) fun _ => .bind (.of_reads (.findOrThrow _ _)) fun profile => fun db => ?_)
    rw [wp_bind, wp_first, wp_bind, wp_orThrow]
    intro wallet hwallet
    obtain ⟨hfind, -⟩ := Table.find_of_first hwallet
    rw [wp_bind, wp_createUnique]
    intro hfresh
    rw [wp_update]
    intro _ _
    exact .post_rev (by decide) rfl hfind rfl hfresh
      (fun j t x ht hx => beq_iff_eq.mpr (ht.trans hx.symm)) (hP _ _ _)

/-- Claiming referrals posts one credit at most. -/
theorem claimReferrals_posts (e : Env) {userId : ℕ}
    (hP : ∀ w i amount, 0 < amount → w.userId = userId →
      P w { walletId := i, amount := amount, type := .credit
            reference := some ("REFERRAL-" ++ (toString userId ++ "-" ++ e.uuid)) }) :
    Within (WalletPosts P) (Wallets.claimReferrals e userId) := by
  refine .bind (.of_reads (.many _ _)) fun rewards => ?_
  dsimp only
  split
  · exact .pure _
  · next hpos =>
    exact .bind (creditWallet_posts fun w i => hP w i _ (not_le.mp hpos)) fun _ =>
      .bind (Ledger.posts_of_writes (.updateMany (List.mem_singleton_self _) _ _) (by decide) (by decide))
        fun _ => .pure _

/-- Redeeming cashback posts one credit. -/
theorem redeemCashback_posts (e : Env) {userId : ℕ} {amount : ℚ}
    (hP : ∀ w i, w.userId = userId →
      P w { walletId := i, amount := amount, type := .credit
            reference := some ("CASHBACK-" ++ (toString userId ++ "-" ++ e.uuid)) }) :
    Within (WalletPosts P) (Wallets.redeemCashback e userId amount) :=
  .bind (.of_reads (.many _ _)) fun _ => .bind (.of_reads (.require _ _)) fun _ =>
    .bind (Ledger.posts_of_writes (Wallets.redeemRows_writes _ _ _) (by decide) (by decide)) fun _ =>
    .bind (creditWallet_posts hP) fun _ => .bind (.of_reads (.first _ _)) fun _ =>
    .bind (.of_reads (.orThrow _ _)) fun _ => .pure _

end Users

section Stores

variable {P : StorePosting}

/-- The share of a store in an order is credited under the order's reference. -/
theorem settleOrder_posts (e : Env) {orderId : ℕ}
    (hP : ∀ w i amount number, 0 ≤ amount →
      P w { walletId := i, amount := amount, type := .credit
            reference := some (Settlements.settlementReference number), orderId := some orderId }) :
    Within (StorePosts P) (Settlements.settleOrder e orderId) := by
  refine .bind (.of_reads (.findOrThrow _ _)) fun order => .bind (.of_reads (.first _ _)) fun _ => .when ?_
  have hrate (key : String) : Within (StorePosts P) (Settlements.getRate e key) :=
    .of_reads (Settlements.getRate_writes e key)
  refine .bind (hrate _) fun _ => .bind (hrate _) fun _ => .bind (hrate _) fun _ => ?_
  refine .bind (.of_reads (.require _ _)) fun _ => .bind (.of_reads (.ofExcept _)) fun _ => ?_
  refine .bind (.of_reads (.ofExcept _)) fun _ => .bind (.of_reads (.ofExcept _)) fun _ db => ?_
  dsimp only
  rw [wp_bind, wp_require]
  intro hnonneg
  rw [wp_bind]
  have howner (i : ℕ) (w : StoreWallet) : (w.storeId == order.storeId) = true ↔ w.storeId = order.storeId :=
    beq_iff_eq
  refine wp_mono (Ledger.firstOrCreate_posts (L := storeLedger) (P := P) (by decide) howner rfl db)
    fun wallet db₁ ⟨hmoves, _, hfind, _⟩ => ?_
  refine wp_mono (Q := fun _ db' => StorePosts P db₁ db') ?_ fun _ _ => trans_of _ hmoves
  rw [wp_bind, wp_createUnique]
  intro hfresh
  rw [wp_bind, wp_update]
  intro _ _
  refine Within.from (.post_rev (by decide) rfl hfind rfl hfresh
    (fun j t x ht hx => beq_iff_eq.mpr (ht.trans hx.symm)) (hP _ _ _ _ hnonneg)) ?_
  refine .bind (.of_reads (.first _ _)) fun delivery => ?_
  cases delivery with
  | none => exact .pure ()
  | some delivery =>
    exact Ledger.posts_of_writes (Settlements.holdRiderEarning_writes _) (by decide) (by decide)

/-- The settlement of an order that a cancellation takes back, with the wallet that it is taken from. -/
def settlementOf (order : Order) (db : Database) : Option (StoreWallet × ℚ) := do
  let wallet ← (db .storeWallet).first fun _ w => w.storeId == order.storeId
  let settlement ← (db .storeWalletTransaction).first
    fun _ t => t.reference == some (Settlements.settlementReference order.orderNumber)
  pure (wallet.2, settlement.2.amount)

/-- A settlement is taken back whether or not the wallet still covers it. -/
theorem reverseSettlement_posts {orderId : ℕ} {order : Order} {db : Database}
    (hP : ∀ w i amount, settlementOf order db = some (w, amount) →
      P w { walletId := i, amount := amount, type := .debit
            reference := some ("ORDER-CANCEL-" ++ order.orderNumber), orderId := some orderId }) :
    wp db (Orders.reverseSettlement orderId order) fun _ db' => StorePosts P db db' := by
  rw [Orders.reverseSettlement, wp_bind, wp_first, wp_bind, wp_first]
  split
  · next wallet settlement hwallet hsettlement =>
    obtain ⟨hfind, -⟩ := Table.find_of_first hwallet
    rw [wp_bind, wp_update]
    intro _ _
    rw [wp_bind, wp_createUnique]
    intro hfresh
    rw [wp_pure]
    refine .post (by decide) rfl hfind ?_ hfresh
      (fun j t x ht hx => beq_iff_eq.mpr (ht.trans hx.symm)) (hP _ _ _ ?_)
    · simp only [storeLedger, WalletTransactionType.storeSigned, sub_eq_add_neg]
    · simp only [settlementOf, hwallet, hsettlement, Option.bind_eq_bind, Option.bind_some, Option.pure_def]
  · exact (wp_pure _ _ _).mpr (refl_of _ db)

/-- The withdrawal of a store takes from the wallet that it was told of, whether or not it is covered. -/
theorem withdrawStore_posts {storeId walletId : ℕ} {amount : ℚ} {reference : String} {db : Database}
    (hP : ∀ w, (db .storeWallet).find walletId = some w →
      P w { walletId := walletId, amount := amount, type := .debit, reference := some reference }) :
    wp db (Wallets.withdrawStore storeId walletId amount reference) fun _ db' => StorePosts P db db' := by
  rw [Wallets.withdrawStore, wp_bind, wp_update]
  intro w hfind
  rw [wp_bind, wp_createUnique]
  intro hfresh
  refine Within.from ?_ (Ledger.posts_of_writes (.create (List.mem_singleton_self _) _) (by decide) (by decide))
  refine .post (by decide) rfl hfind ?_ hfresh
    (fun j t x ht hx => beq_iff_eq.mpr (ht.trans hx.symm)) (hP w hfind)
  simp only [storeLedger, WalletTransactionType.storeSigned, sub_eq_add_neg]

end Stores

end Superstore

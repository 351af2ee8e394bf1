import Superstore.Properties.Fulfilment
import Superstore.Properties.WalletBalances

/-!
# Overdrawn wallets

The debits of customers are covered by the wallet in the transaction that makes them. Those of
riders and stores, and the reversal of a settlement, take an amount that was compared with the
balance before, or not at all; a wallet stays solvent as far as they happen to be covered.
-/

namespace Superstore

open Interleaving Relational

/-! ## Users -/

/-- The requests of a user that spend what is in the wallet. -/
inductive SpendingRequest : Request Unit → Prop
  | create (userId : ℕ) (input : CreateCheckoutDto) : SpendingRequest (discard (Checkout.create userId input))
  | place (userId : ℕ) (input : CreateCheckoutDto) : SpendingRequest (discard (Checkout.place userId input))
  | confirmBnpl (userId id : ℕ) : SpendingRequest (discard (Checkout.confirmBnpl userId id))
  | payRepayment (userId installmentId : ℕ) (byWallet : Bool) :
      SpendingRequest (Payments.payRepayment userId installmentId byWallet)
  | customerWithdrawal (userId : ℕ) (input : ℚ) :
      SpendingRequest (Wallets.requestCustomerWithdrawal userId input)
  | riderWithdrawal (userId : ℕ) (amount : ℚ) (bankAccountId : Option ℕ) :
      SpendingRequest (Wallets.requestRiderWithdrawal userId amount bankAccountId)

/-- A posting that adds to the balance, or only takes note. -/
def Funded : WalletPosting := fun _ t => t.type ≠ .debit ∧ 0 ≤ t.amount

/-- Any number of requests that spend, while wallets are funded. -/
def spending : System Op Error World Env :=
  { machine with
    starts := SpendingRequest
    background := fun w w' => WalletPosts Funded w.db w'.db }

/-- An operation of the requests that spend. -/
def Op.spends : {α : Type} → Op α → Bool
  | _, .creditTopup _ _ _ => false
  | _, .creditFunding _ _ _ _ => false
  | _, .cancelOrder _ _ _ => false
  | _, .writeDelivery _ _ _ _ _ => false
  | _, .claimReferrals _ => false
  | _, .redeemCashback _ _ => false
  | _, _ => true

/-- An operation does not take more from a rider's wallet than it holds. -/
def Op.sparesRider : {α : Type} → Op α → Env → Database → Bool
  | _, .withdrawRider _ walletId amount _, e, db =>
    e.fails || ((db .wallet).find walletId).all fun w => decide (amount ≤ w.balance)
  | _, _, _, _ => true

/-- Users' wallets stay solvent as far as riders are spared. -/
def solvency : Contract Op World Env where
  inv w := walletLedger.Balanced (w.db .wallet, w.db .walletTransaction) ∧ walletLedger.Solvent (w.db .wallet)
  guar w w' := WalletPosts (fun _ _ => True) w.db w'.db
  known op w := op.spends ∧ op.Located w.db
  allowed op e w := op.sparesRider e w.db
  refl _ := refl_of _ _
  trans := trans_of _

/-- A posting that leaves a solvent wallet solvent. -/
def Sparing : WalletPosting := fun w t => 0 ≤ w.balance → 0 ≤ w.balance + t.type.signed t.amount

/-- What is held takes nothing from the balance. -/
theorem Held.sparing {w : Wallet} {t : WalletTransaction} (h : Held w t) : Sparing w t := fun hw => by
  rw [h.1]
  simpa only [WalletTransactionType.signed, add_zero] using hw

/-- What the balance covers leaves it solvent. -/
theorem Covered.sparing {userId : ℕ} {w : Wallet} {t : WalletTransaction} (h : Covered userId w t) :
    Sparing w t := fun _ => by
  rw [h.1]
  simpa only [WalletTransactionType.signed, ← sub_eq_add_neg, sub_nonneg] using h.2.2

/-- What a checkout posts leaves the wallet solvent. -/
theorem CheckoutPosting.sparing {userId : ℕ} {w : Wallet} {t : WalletTransaction}
    (h : CheckoutPosting userId w t) : Sparing w t :=
  h.elim Held.sparing fun hdebit => hdebit.1.sparing

/-- What funds a wallet leaves it solvent. -/
theorem Funded.sparing {w : Wallet} {t : WalletTransaction} (h : Funded w t) : Sparing w t := fun hw => by
  obtain ⟨htype, hamount⟩ := h
  cases ht : t.type with
  | debit => exact absurd ht htype
  | credit => exact add_nonneg hw hamount
  | release => exact add_nonneg hw hamount
  | hold => simpa only [WalletTransactionType.signed, add_zero] using hw
  | adjustment => simpa only [WalletTransactionType.signed, add_zero] using hw

/-- The postings of an operation of the requests that spend, if it spares the rider. -/
theorem Op.walletPosting_sparing {α : Type} {op : Op α} {e : Env} {db : Database} (hspends : op.spends)
    (hspares : op.sparesRider e db) (hfails : e.fails = false) {w : Wallet} {t : WalletTransaction}
    (h : op.walletPosting db w t) :
    Sparing w t := by
  cases op <;> first | exact h.elim | exact absurd hspends Bool.false_ne_true | skip
  case createCheckout => exact CheckoutPosting.sparing h
  case confirmFinancing => exact CheckoutPosting.sparing h
  case finalizePayment => exact Held.sparing h
  case completeIncomplete => exact Held.sparing h
  case completeKlump => exact Held.sparing h
  case claimDelivery => exact Held.sparing h
  case repayFromWallet => exact h.1.sparing
  case requestWalletWithdrawal => exact h.1.sparing
  case withdrawRider userId walletId amount reference =>
    obtain ⟨hfind, _, htype, rfl, _⟩ := h
    rw [Op.sparesRider, hfails, Bool.false_or, hfind, Option.all_some, decide_eq_true_eq] at hspares
    intro _
    rw [htype]
    simpa only [WalletTransactionType.signed, ← sub_eq_add_neg, sub_nonneg] using hspares

/-- Postings that spare the wallets keep their ledger balanced and none of them overdrawn. -/
theorem solvent_of_posts {db db' : Database} (h : WalletPosts Sparing db db')
    (hinv : walletLedger.Balanced (db .wallet, db .walletTransaction) ∧ walletLedger.Solvent (db .wallet)) :
    walletLedger.Balanced (db' .wallet, db' .walletTransaction) ∧ walletLedger.Solvent (db' .wallet) := by
  have hmoves := h hinv.1.owned
  exact ⟨hmoves.balanced hinv.1, hmoves.solvent (fun _ _ hP => hP) hinv.2⟩

/-- Every operation that spares the wallets leaves them solvent. -/
theorem solvency_safe {α : Type} (op : Op α) : solvency.Safe machine op := fun e w hinv hknown hspares => by
  have hposts : WalletPosts Sparing w.db (op.exec e w).2.db := by
    cases hfails : e.fails with
    | false => exact (hknown.2.walletPosts e).mono fun _ _ => Op.walletPosting_sparing hknown.1 hspares hfails
    | true =>
      rw [exec_fails_db hfails]
      exact refl_of _ _
  exact ⟨solvent_of_posts hposts hinv, hposts.mono fun _ _ _ => trivial⟩

/-- A program of operations that spend, none of which is told of a wallet. -/
abbrev OnlySpends {α : Type} (p : Request α) : Prop := p.All fun _ op => op.spends ∧ ∀ db, op.Located db

/-- An operation that spends, and is told of no wallet. -/
theorem onlySpends_call {α : Type} {op : Op α} (h : op.spends) (hl : ∀ db, op.Located db) : OnlySpends (call op) :=
  (Prog.all_call op).mpr ⟨h, hl⟩

/-- Reading the tables spends nothing. -/
theorem onlySpends_read {α : Type} (f : Database → Except Error α) : OnlySpends (call (.read f)) :=
  onlySpends_call rfl fun _ => trivial

/-- What is done without a call spends nothing. -/
theorem onlySpends_done {α : Type} (r : Except Error α) : OnlySpends (Prog.done r) := Prog.all_done r

/-- What is done under a condition only spends if it does so without. -/
theorem onlySpends_onlyIf {c : Prop} [Decidable c] {p : Request Unit} (h : OnlySpends p) :
    OnlySpends (onlyIf c p) := by
  unfold onlyIf
  split
  · exact h
  · exact Prog.all_done _

/-- Dropping an answer spends nothing. -/
theorem onlySpends_discard {α : Type} {p : Request α} (h : OnlySpends p) : OnlySpends (discard p) :=
  .bind h fun _ => onlySpends_done _

/-- Sending the confirmations of groups spends nothing. -/
theorem Payments.dispatchGroupConfirmations_onlySpends (ids : List ℕ) :
    OnlySpends (dispatchGroupConfirmations ids) :=
  onlySpends_onlyIf (.bind (onlySpends_read _) fun _ => onlySpends_call rfl fun _ => trivial)

/-- Asking to pay spends nothing but what is paid. -/
theorem Payments.initializePayment_onlySpends (userId groupId : ℕ) :
    OnlySpends (initializePayment userId groupId) := by
  refine .bind (onlySpends_call rfl fun _ => trivial) fun claim => onlySpends_onlyIf ?_
  refine .bind (onlySpends_read _) fun _ => .bind (.attempt ?_ fun _ => ?_) fun _ =>
    onlySpends_call rfl fun _ => trivial
  · unfold startPayment
    split
    · exact .bind (onlySpends_call rfl fun _ => trivial) fun _ => .bind (onlySpends_done _) fun _ =>
        .bind (onlySpends_done _) fun _ => onlySpends_done _
    · exact .bind (onlySpends_call rfl fun _ => trivial) fun _ => .bind (onlySpends_done _) fun _ =>
        onlySpends_done _
  · exact .bind (onlySpends_call rfl fun _ => trivial) fun _ => Prog.all_fail _

/-- The requests that spend come to operations that spend, and riders to the wallet they have read. -/
theorem SpendingRequest.ready {p : Request Unit} (h : SpendingRequest p) (s : World) :
    solvency.Ready machine p s := by
  have hplain {p : Request Unit} (hp : OnlySpends p) : solvency.Ready machine p s :=
    Contract.informed_of_all (hp.imp fun _ op hop s => (⟨hop.1, hop.2 s.db⟩ : solvency.known op s)) s
  cases h with
  | create userId input =>
    exact hplain (onlySpends_discard (.bind (onlySpends_call rfl fun _ => trivial) fun _ =>
      .bind (onlySpends_onlyIf (Payments.dispatchGroupConfirmations_onlySpends _)) fun _ => onlySpends_read _))
  | place userId input =>
    refine hplain (onlySpends_discard (.bind (onlySpends_call rfl fun _ => trivial) fun _ => ?_))
    exact .bind (onlySpends_onlyIf (Payments.initializePayment_onlySpends _ _)) fun _ =>
      .bind (onlySpends_onlyIf (Payments.dispatchGroupConfirmations_onlySpends _)) fun _ => onlySpends_read _
  | confirmBnpl userId id =>
    exact hplain (onlySpends_discard (.bind (onlySpends_call rfl fun _ => trivial) fun _ =>
      .bind (onlySpends_read _) fun _ => onlySpends_read _))
  | payRepayment userId installmentId byWallet =>
    refine hplain (.bind (onlySpends_read _) fun _ => .bind (onlySpends_done _) fun _ => ?_)
    refine .bind (onlySpends_read _) fun _ => .bind (onlySpends_call rfl fun _ => trivial) fun _ => ?_
    split
    · exact .bind (onlySpends_call rfl fun _ => trivial) fun _ => onlySpends_done _
    · exact .bind (onlySpends_call rfl fun _ => trivial) fun _ =>
        .bind (onlySpends_call rfl fun _ => trivial) fun _ =>
        .bind (onlySpends_call rfl fun _ => trivial) fun _ => onlySpends_done _
  | customerWithdrawal userId input =>
    exact hplain (.bind (onlySpends_done _) fun _ => .bind (onlySpends_call rfl fun _ => trivial) fun _ =>
      onlySpends_done _)
  | riderWithdrawal userId amount bankAccountId =>
    exact Wallets.requestRiderWithdrawal_ready (fun _ h => h.1.owned) (fun _ _ h => h)
      (fun _ _ => ⟨rfl, trivial⟩) (fun _ => ⟨rfl, trivial⟩) fun _ _ _ h => ⟨rfl, h⟩

/-- The requests that spend leave the wallets solvent. -/
theorem solvency_holds : solvency.Holds spending where
  starts hp s _ := hp.ready s
  performs op := solvency_safe op
  background h hinv :=
    ⟨solvent_of_posts (Ledger.Posts.mono h fun _ _ => Funded.sparing) hinv,
      Ledger.Posts.mono h fun _ _ _ => trivial⟩

/-- In every run in which no rider is debited of more than the wallet holds, no wallet of a user
is ever overdrawn, and its debits never exceed what was credited and released. -/
theorem user_wallets_solvent {w : World} (hb : walletLedger.Balanced (w.db .wallet, w.db .walletTransaction))
    (hs : walletLedger.Solvent (w.db .wallet)) {c : Config Op Error World}
    (hrun : spending.Run (fun op e c => op.sparesRider e c.world.db) ⟨w, []⟩ c) {i : ℕ} {v : Wallet}
    (hv : (c.world.db .wallet).find i = some v) :
    0 ≤ v.balance ∧
      posted c.world.db .debit i ≤ posted c.world.db .credit i + posted c.world.db .release i := by
  have hsound : solvency.Sound spending ⟨w, []⟩ := ⟨⟨hb, hs⟩, by simp⟩
  obtain ⟨⟨⟨hbalanced, hsolvent⟩, -⟩, -⟩ := solvency_holds.run hsound hrun
  have hnonneg : 0 ≤ v.balance := hsolvent i v hv
  have hbalance := balance_of_balanced hbalanced hv
  exact ⟨hnonneg, by linarith⟩

/-- The fee of a delivery. -/
def releasedFee : WalletTransaction where
  walletId := 1
  amount := 100
  type := .release
  reference := some "DELIVERY-RELEASE-1"

/-- A rider who has been paid for one delivery, with a bank account to withdraw to. -/
def creditedRider : World where
  db := (((Database.empty.set .wallet
      ((Table.empty.create { userId := 1 }).update 1 fun w => walletLedger.move w 100)).set
      .walletTransaction (Table.empty.create releasedFee)).set
      .riderProfile (Table.empty.create { userId := 1 })).set .riderBankAccount (Table.empty.create
        { riderId := 1, verificationStatus := "APPROVED", isPrimary := true })

/-- The ledger of the rider's wallet balances, and the wallet is not overdrawn. -/
theorem creditedRider_solvent :
    walletLedger.Balanced (creditedRider.db .wallet, creditedRider.db .walletTransaction) ∧
      walletLedger.Solvent (creditedRider.db .wallet) := by
  have hzero (i : ℕ) (a : Wallet) (ha : (Table.empty.create { userId := 1 }).find i = some a) : a.balance = 0 := by
    rcases Ledger.find_of_create ha with ⟨-, rfl⟩ | hi
    · rfl
    · cases hi
  have hopened : walletLedger.Balanced (Table.empty.create { userId := 1 }, Table.empty) := by
    refine .of_empty (fun i a j b ha hb _ => ?_) hzero fun _ => rfl
    rcases Ledger.find_of_create ha with ⟨hi, -⟩ | hi
    · rcases Ledger.find_of_create hb with ⟨hj, -⟩ | hj
      · exact hi.trans hj.symm
      · cases hj
    · cases hi
  have hstep : walletLedger.Step (fun _ t => 0 ≤ t.amount ∧ t.type = .release)
      (Table.empty.create { userId := 1 }, Table.empty)
      (creditedRider.db .wallet, creditedRider.db .walletTransaction) :=
    .post (e := releasedFee) rfl nofun ⟨by decide, rfl⟩
  refine ⟨hstep.balanced hopened, hstep.solvent (fun a t ht ha => ?_) fun i a ha => (hzero i a ha).ge⟩
  change 0 ≤ a.balance + t.type.signed t.amount
  rw [ht.2]
  exact add_nonneg ha ht.1

/-- The rider asks for the whole balance, twice. -/
def twoWithdrawals : List (Request Unit) :=
  [Wallets.requestRiderWithdrawal 1 100 none, Wallets.requestRiderWithdrawal 1 100 none]

/-- Both requests compare the amount with the balance before either takes it. -/
def bothCompared : List (ℕ × Env) :=
  List.replicate 3 (0, { now := 1 }) ++ List.replicate 3 (1, { now := 2 }) ++
    [(0, { now := 3 }), (1, { now := 4 })]

/-- The balance of a user's wallet. -/
def walletBalance (c : Config Op Error World) (id : ℕ) : Option ℚ := ((c.world.db .wallet).find id).map (·.balance)

/-- The withdrawals of the example can be made. -/
theorem twoWithdrawals_start : ∀ p ∈ twoWithdrawals, spending.starts p := by
  intro p hp
  rcases List.mem_pair.mp hp with rfl | rfl
  · exact .riderWithdrawal 1 100 none
  · exact .riderWithdrawal 1 100 none

/-- A rider's wallet can be overdrawn. -/
theorem user_wallet_overdrawn :
    ¬∀ (w : World) (c : Config Op Error World),
      walletLedger.Balanced (w.db .wallet, w.db .walletTransaction) → walletLedger.Solvent (w.db .wallet) →
        spending.Run System.anyOp ⟨w, []⟩ c → ∀ i b, walletBalance c i = some b → 0 ≤ b := by
  intro h
  have hbalance := h creditedRider _ creditedRider_solvent.1 creditedRider_solvent.2
    (spending.schedule_run twoWithdrawals_start bothCompared) 1 (-100) (by decide +kernel)
  revert hbalance
  decide

/-- The first request is over before the second one compares its amount. -/
def oneAfterTheOther : List (ℕ × Env) := List.replicate 4 (0, { now := 1 }) ++ List.replicate 4 (1, { now := 2 })

/-- Only one of two withdrawals is made where the second one is told what the first has left. -/
theorem user_wallets_solvent_withdrawn :
    ∃ v, ((spending.follow ⟨creditedRider, twoWithdrawals⟩ oneAfterTheOther).world.db .wallet).find 1 = some v ∧
      0 ≤ v.balance := by
  have hallows : spending.allows (fun op e c => op.sparesRider e c.world.db) ⟨creditedRider, twoWithdrawals⟩
      oneAfterTheOther := by decide +kernel
  have hstarted : spending.Run (fun op e c => op.sparesRider e c.world.db) ⟨creditedRider, []⟩
      ⟨creditedRider, twoWithdrawals⟩ := spending.start_all_run twoWithdrawals_start
  have hfind : ((spending.follow ⟨creditedRider, twoWithdrawals⟩ oneAfterTheOther).world.db
      .wallet).find 1 |>.isSome := by decide +kernel
  obtain ⟨v, hv⟩ := Option.isSome_iff_exists.mp hfind
  exact ⟨v, hv, (user_wallets_solvent creditedRider_solvent.1 creditedRider_solvent.2
    (hstarted.trans (spending.follow_run_of hallows)) hv).1⟩

/-! ## Stores -/

/-- An operation does not take more from a store's wallet than it holds, neither for a withdrawal
nor for the reversal of a settlement; a cancellation that is refused takes nothing. -/
def Op.sparesStore : {α : Type} → Op α → Env → Database → Bool
  | _, .cancelOrder userId id _, e, db =>
    e.fails || !Orders.cancellable userId id db || ((db .order).find id).all fun order =>
      (settlementOf order db).all fun s => decide (s.2 ≤ s.1.balance)
  | _, .withdrawStore _ walletId amount _, e, db =>
    e.fails || ((db .storeWallet).find walletId).all fun w => decide (amount ≤ w.balance)
  | _, _, _, _ => true

/-- Stores' wallets stay solvent as far as they are spared. -/
def storeSolvency : Contract Op World Env where
  inv w := storeLedger.Owned (w.db .storeWallet) ∧ storeLedger.Solvent (w.db .storeWallet)
  guar _ _ := True
  known _ _ := True
  allowed op e w := op.sparesStore e w.db
  refl _ := trivial
  trans _ _ := trivial

/-- The postings of an operation that spares the stores, and does something, leave a solvent wallet solvent. -/
theorem Op.storePosting_sparing {α : Type} {op : Op α} {e : Env} {s : World} (hspares : op.sparesStore e s.db)
    (hmoved : (op.exec e s).2.db ≠ s.db) {w : StoreWallet} {t : StoreWalletTransaction}
    (h : op.storePosting s.db w t)
    (hw : 0 ≤ w.balance) : 0 ≤ w.balance + t.type.storeSigned t.amount := by
  have hfails : e.fails = false := Bool.eq_false_iff.mpr fun hfails => hmoved (exec_fails_db hfails)
  have hsettled (h : Settled w t) : 0 ≤ w.balance + t.type.storeSigned t.amount := by
    rw [h.1]
    exact add_nonneg hw h.2
  have hdebit (htype : t.type = .debit) (hcovers : t.amount ≤ w.balance) :
      0 ≤ w.balance + t.type.storeSigned t.amount := by
    rw [htype]
    simpa only [WalletTransactionType.storeSigned, ← sub_eq_add_neg, sub_nonneg] using hcovers
  cases op <;> first | exact h.elim | exact hsettled h | skip
  case cancelOrder userId id reason =>
    obtain ⟨order, amount, horder, hsettlement, htype, rfl⟩ := h
    have hcancellable : Orders.cancellable userId id s.db = true :=
      Classical.not_not.mp fun hrefused => hmoved (exec_cancel_refused hrefused)
    rw [Op.sparesStore, hfails, hcancellable, Bool.not_true, Bool.false_or, Bool.false_or, horder, Option.all_some,
      hsettlement, Option.all_some,
      decide_eq_true_eq] at hspares
    exact hdebit htype hspares
  case withdrawStore =>
    obtain ⟨hfind, htype, rfl⟩ := h
    rw [Op.sparesStore, hfails, Bool.false_or, hfind, Option.all_some, decide_eq_true_eq] at hspares
    exact hdebit htype hspares

/-- Every operation that spares the wallets of stores leaves them solvent. -/
theorem storeSolvency_safe {α : Type} (op : Op α) : storeSolvency.Safe machine op := fun e w hinv _ hspares => by
  refine ⟨?_, trivial⟩
  change storeLedger.Owned ((op.exec e w).2.db .storeWallet) ∧ storeLedger.Solvent ((op.exec e w).2.db .storeWallet)
  by_cases hsame : (op.exec e w).2.db = w.db
  · rw [hsame]
    exact hinv
  · have hmoves := op.storePosts e w hinv.1
    exact ⟨hmoves.owned hinv.1, hmoves.solvent (fun _ _ => Op.storePosting_sparing hspares hsame) hinv.2⟩

/-- The requests of the treasury leave the wallets of stores solvent. -/
theorem storeSolvency_holds : storeSolvency.Holds treasury where
  starts _ s _ := Contract.informed_of_forall (fun _ _ => trivial) _ s
  performs op := storeSolvency_safe op
  background {w w'} h hinv := by
    refine ⟨?_, trivial⟩
    change storeLedger.Owned (w'.db .storeWallet) ∧ storeLedger.Solvent (w'.db .storeWallet)
    rw [h.wallets .storeWallet (by decide)]
    exact hinv

/-- In every run in which neither a withdrawal nor the reversal of a settlement takes more from a
store's wallet than it holds, no wallet of a store is ever overdrawn. -/
theorem store_wallets_solvent {w : World} (ho : storeLedger.Owned (w.db .storeWallet))
    (hs : storeLedger.Solvent (w.db .storeWallet)) {c : Config Op Error World}
    (hrun : treasury.Run (fun op e c => op.sparesStore e c.world.db) ⟨w, []⟩ c) {i : ℕ} {v : StoreWallet}
    (hv : (c.world.db .storeWallet).find i = some v) : 0 ≤ v.balance := by
  have hsound : storeSolvency.Sound treasury ⟨w, []⟩ := ⟨⟨ho, hs⟩, by simp⟩
  exact (storeSolvency_holds.run hsound hrun).1.1.2 i v hv

/-- The balance of a store's wallet. -/
def storeBalance (c : Config Op Error World) (id : ℕ) : Option ℚ :=
  ((c.world.db .storeWallet).find id).map (·.balance)

/-- A customer buys from a store and cancels the order. -/
def boughtAndCancelled : List (Request Unit) :=
  [discard (Checkout.create 1 walletPickup), Wallets.requestStoreWithdrawal 2 1 (165 / 4),
    Orders.cancelOrder 1 1 "Changed my mind."]

/-- The order is settled at once. -/
def settledAtOnce : List (ℕ × Env) := List.replicate 4 (0, { now := 1, orderNumber := fun _ => "A-1" })

/-- The store withdraws its share, before the customer cancels. -/
def withdrawnFirst : List (ℕ × Env) := List.replicate 4 (1, { now := 2 }) ++ [(2, { now := 3 })]

/-- The requests of the example can be made. -/
theorem boughtAndCancelled_start : ∀ p ∈ boughtAndCancelled, treasury.starts p := by
  intro p hp
  simp only [boughtAndCancelled, List.mem_cons, List.not_mem_nil, or_false] at hp
  rcases hp with rfl | rfl | rfl
  · exact .inl (.payment (.create 1 walletPickup))
  · exact .inr (.storeWithdrawal 2 1 _)
  · exact .inl (.payment (.cancelOrder 1 1 _))

/-- No store has a wallet yet. -/
theorem shop_unsettled : storeLedger.Owned (shop.db .storeWallet) ∧ storeLedger.Solvent (shop.db .storeWallet) := by
  have hnone (i : ℕ) : (shop.db .storeWallet).find i = none := rfl
  refine ⟨fun i a _ _ ha => ?_, fun i a ha => ?_⟩ <;> rw [hnone] at ha <;> cases ha

/-- A store's wallet can be overdrawn. -/
theorem store_wallet_overdrawn :
    ¬∀ (w : World) (c : Config Op Error World), storeLedger.Owned (w.db .storeWallet) →
      storeLedger.Solvent (w.db .storeWallet) → treasury.Run System.anyOp ⟨w, []⟩ c →
        ∀ i b, storeBalance c i = some b → 0 ≤ b := by
  intro h
  have hbalance := h shop _ shop_unsettled.1 shop_unsettled.2
    (treasury.schedule_run boughtAndCancelled_start (settledAtOnce ++ withdrawnFirst)) 1 (-165 / 4)
      (by decide +kernel)
  exact absurd hbalance (by decide +kernel)

/-- The customer cancels before the store withdraws its share. -/
def cancelledFirst : List (ℕ × Env) := (2, { now := 2 }) :: List.replicate 4 (1, { now := 3 })

/-- A store is not paid for an order that has been cancelled. -/
theorem store_wallets_solvent_cancelled :
    ∃ v, ((treasury.follow ⟨shop, boughtAndCancelled⟩ (settledAtOnce ++ cancelledFirst)).world.db
      .storeWallet).find 1 = some v ∧ 0 ≤ v.balance := by
  have hallows : treasury.allows (fun op e c => op.sparesStore e c.world.db) ⟨shop, boughtAndCancelled⟩
      (settledAtOnce ++ cancelledFirst) := by decide +kernel
  have hstarted : treasury.Run (fun op e c => op.sparesStore e c.world.db) ⟨shop, []⟩ ⟨shop, boughtAndCancelled⟩ :=
    treasury.start_all_run boughtAndCancelled_start
  have hfind : ((treasury.follow ⟨shop, boughtAndCancelled⟩ (settledAtOnce ++ cancelledFirst)).world.db
      .storeWallet).find 1 |>.isSome := by decide +kernel
  obtain ⟨v, hv⟩ := Option.isSome_iff_exists.mp hfind
  exact ⟨v, hv, store_wallets_solvent shop_unsettled.1 shop_unsettled.2
    (hstarted.trans (treasury.follow_run_of hallows)) hv⟩

end Superstore

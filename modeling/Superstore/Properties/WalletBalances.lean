import Superstore.Wallets.Readiness

/-!
# The ledgers of the wallets balance

Every operation moves the wallets by postings, whatever happens between two operations of a
request. A posting adds to a balance what its entry says, so that the balances of users and of
stores are the sums of their entries in every state of every run.
-/

namespace Superstore

open Interleaving Relational

/-! ## Sums of entries -/

/-- What the entries of one type in a user's wallet add up to. -/
def posted (db : Database) (type : WalletTransactionType) (walletId : ℕ) : ℚ :=
  (db .walletTransaction).total fun _ t => if t.walletId = walletId ∧ t.type = type then t.amount else 0

/-- What the entries of one type in a store's wallet add up to. -/
def storePosted (db : Database) (type : WalletTransactionType) (walletId : ℕ) : ℚ :=
  (db .storeWalletTransaction).total fun _ t => if t.walletId = walletId ∧ t.type = type then t.amount else 0

/-- The balance of a user's wallet is what was credited and released, less what was debited. -/
theorem balance_of_balanced {db : Database} (h : walletLedger.Balanced (db .wallet, db .walletTransaction))
    {i : ℕ} {w : Wallet} (hw : (db .wallet).find i = some w) :
    w.balance = posted db .credit i + posted db .release i - posted db .debit i := by
  have hbalance : w.balance = (db .walletTransaction).total fun _ t =>
      if t.walletId = i then t.type.signed t.amount else 0 := h.balance i w hw
  rw [hbalance, posted, posted, posted, ← Table.total_add, sub_eq_add_neg, ← Table.total_neg, ← Table.total_add]
  refine Table.total_congr fun k t _ => ?_
  by_cases hi : t.walletId = i
  · cases htype : t.type <;> simp [hi, WalletTransactionType.signed]
  · simp [hi]

/-- The balance of a store's wallet is what was credited, less what was debited. -/
theorem storeBalance_of_balanced {db : Database}
    (h : storeLedger.Balanced (db .storeWallet, db .storeWalletTransaction)) {i : ℕ} {w : StoreWallet}
    (hw : (db .storeWallet).find i = some w) :
    w.balance = storePosted db .credit i - storePosted db .debit i := by
  have hbalance : w.balance = (db .storeWalletTransaction).total fun _ t =>
      if t.walletId = i then t.type.storeSigned t.amount else 0 := h.balance i w hw
  rw [hbalance, storePosted, storePosted, sub_eq_add_neg, ← Table.total_neg, ← Table.total_add]
  refine Table.total_congr fun k t _ => ?_
  by_cases hi : t.walletId = i
  · cases htype : t.type <;> simp [hi, WalletTransactionType.storeSigned]
  · simp [hi]

/-! ## Runs -/

/-- The ledgers of users and stores balance. -/
structure LedgersBalanced (db : Database) : Prop where
  users : walletLedger.Balanced (db .wallet, db .walletTransaction)
  stores : storeLedger.Balanced (db .storeWallet, db .storeWalletTransaction)

/-- The wallets of users and stores have only been moved by postings. -/
structure LedgersMove (w w' : World) : Prop where
  users : WalletPosts (fun _ _ => True) w.db w'.db
  stores : StorePosts (fun _ _ => True) w.db w'.db

/-- Moving wallets by postings is reflexive and transitive. -/
instance : IsPreorder World LedgersMove where
  refl _ := ⟨refl_of _ _, refl_of _ _⟩
  trans _ _ _ h h' := ⟨trans_of _ h.users h'.users, trans_of _ h.stores h'.stores⟩

/-- Postings keep the ledgers balanced. -/
theorem LedgersMove.balanced {w w' : World} (h : LedgersMove w w') (hb : LedgersBalanced w.db) :
    LedgersBalanced w'.db :=
  ⟨(h.users hb.users.owned).balanced hb.users, (h.stores hb.stores.owned).balanced hb.stores⟩

/-- What every step keeps of the wallets and their ledgers. -/
def ledgers : Contract Op World Env where
  inv w := LedgersBalanced w.db
  guar := LedgersMove
  known op w := op.Located w.db
  allowed _ _ _ := True
  refl := refl_of LedgersMove
  trans := trans_of LedgersMove

/-- Every operation keeps the ledgers balanced. -/
theorem ledgers_safe {α : Type} (op : Op α) : ledgers.Safe machine op := fun e w hinv hlocated _ => by
  have hmove : LedgersMove w (op.exec e w).2 :=
    ⟨(hlocated.walletPosts e).mono fun _ _ _ => trivial, (op.storePosts e w).mono fun _ _ _ => trivial⟩
  exact ⟨hmove.balanced hinv, hmove⟩

/-- A program that makes no withdrawal of a rider keeps the ledgers. -/
theorem Untold.ledgers_ready {p : Request Unit} (h : Untold p) (s : World) : ledgers.Ready machine p s :=
  Contract.informed_of_all (Prog.All.imp h fun _ _ hop s => hop s.db) s

/-- The requests about wallets debit the wallets that they have read. -/
theorem WalletRequest.ready {p : Request Unit} (h : WalletRequest p) (s : World) :
    ledgers.Ready machine p s := by
  cases h with
  | riderWithdrawal userId amount bankAccountId =>
    exact Wallets.requestRiderWithdrawal_ready (fun _ h => h.users.owned) (fun _ _ h => h.users)
      (fun _ _ => trivial) (fun _ => trivial) fun _ _ _ h => h
  | customerWithdrawal userId input =>
    exact ((Wallets.requestCustomerWithdrawal_uses _ _).untold (by decide)).ledgers_ready s
  | storeWithdrawal userId storeId amount =>
    exact ((Wallets.requestStoreWithdrawal_uses _ _ _).untold (by decide)).ledgers_ready s
  | claim userId => exact ((Wallets.claim_uses _).untold (by decide)).ledgers_ready s
  | redeem userId input => exact ((Wallets.redeem_uses _ _).untold (by decide)).ledgers_ready s

/-- The requests of the system keep the ledgers balanced. -/
theorem ledgers_holds : ledgers.Holds treasury where
  starts {p} hp s _ := by
    rcases hp with hp | hp
    · exact hp.untold.ledgers_ready s
    · exact hp.ready s
  performs op := ledgers_safe op
  background {w w'} h hinv := by
    have hmove : LedgersMove w w' :=
      ⟨.of_eq (h.wallets _ (by decide)) (h.wallets _ (by decide)),
        .of_eq (h.wallets _ (by decide)) (h.wallets _ (by decide))⟩
    exact ⟨hmove.balanced hinv, hmove⟩

/-- An operation that fails leaves the database as it was. -/
theorem exec_error {α : Type} {op : Op α} {e : Env} {w : World} {err : Error}
    (h : (op.exec e w).1 = .error err) : (op.exec e w).2.db = w.db := by
  cases hop : op.transaction with
  | none => exact exec_external hop e w
  | some m =>
    rw [Op.exec, hop] at h ⊢
    dsimp only [runTx] at h ⊢
    split at h
    · next hfails => rw [if_pos hfails]
    · next hfails =>
      rw [if_neg hfails]
      split at h
      · cases h
      · rfl

/-- Wallets in which nothing has happened yet; no user and no store has two. -/
structure EmptyWallets (db : Database) : Prop where
  owned : walletLedger.Owned (db .wallet)
  storeOwned : storeLedger.Owned (db .storeWallet)
  balance : ∀ i w, (db .wallet).find i = some w → w.balance = 0
  storeBalance : ∀ i w, (db .storeWallet).find i = some w → w.balance = 0
  entries : ∀ k, (db .walletTransaction).find k = none
  storeEntries : ∀ k, (db .storeWalletTransaction).find k = none

/-- Ledgers in which nothing has happened balance. -/
theorem EmptyWallets.balanced {db : Database} (h : EmptyWallets db) : LedgersBalanced db where
  users := .of_empty h.owned h.balance h.entries
  stores := .of_empty h.storeOwned h.storeBalance h.storeEntries

/-- In every run from empty wallets, of all requests that move wallet money and any others, and in
every state of it: the balance of every user's wallet is what its entries credit and release less
what they debit, that of every store's wallet is what its entries credit less what they debit, and
an operation that fails there changes neither balances nor ledgers. -/
theorem wallet_ledgers_balance {w : World} (hw : EmptyWallets w.db) {c : Config Op Error World}
    (hrun : treasury.Run System.anyOp ⟨w, []⟩ c) :
    (∀ i v, (c.world.db .wallet).find i = some v →
      v.balance = posted c.world.db .credit i + posted c.world.db .release i - posted c.world.db .debit i) ∧
    (∀ i v, (c.world.db .storeWallet).find i = some v →
      v.balance = storePosted c.world.db .credit i - storePosted c.world.db .debit i) ∧
    ∀ {α : Type} (op : Op α) e err, (op.exec e c.world).1 = .error err →
      ∀ n ∈ walletTables, (op.exec e c.world).2.db n = c.world.db n := by
  have hsound : ledgers.Sound treasury ⟨w, []⟩ := ⟨hw.balanced, by simp⟩
  obtain ⟨⟨hbalanced, -⟩, -⟩ := ledgers_holds.run hsound hrun
  refine ⟨fun i v hv => balance_of_balanced hbalanced.users hv,
    fun i v hv => storeBalance_of_balanced hbalanced.stores hv, fun op e err herr n _ => ?_⟩
  rw [exec_error herr]

/-- A customer has earned a referral reward of 500. -/
def referred : World where
  db := Database.empty.set .referral (Table.empty.create
    { referrerId := 1, referredUserId := 2, status := "QUALIFIED", rewardAmount := 500 })

/-- The customer claims the reward, and withdraws 200 of it. -/
def rewardWithdrawn : Config Op Error World :=
  treasury.follow ⟨referred, [Wallets.claim 1, Wallets.requestCustomerWithdrawal 1 200]⟩
    [(0, { now := 1, uuid := "a" }), (1, { now := 2, uuid := "b" })]

/-- The reward less the withdrawal is in the wallet. -/
theorem wallet_ledgers_balance_withdrawn :
    ∃ v, (rewardWithdrawn.world.db .wallet).find 1 = some v ∧ v.balance = 500 + 0 - 200 := by
  have hempty : EmptyWallets referred.db := ⟨nofun, nofun, nofun, nofun, fun _ => rfl, fun _ => rfl⟩
  have hstarts : ∀ p ∈ [Wallets.claim 1, Wallets.requestCustomerWithdrawal 1 200], treasury.starts p := by
    intro p hp
    rcases List.mem_pair.mp hp with rfl | rfl
    · exact .inr (.claim 1)
    · exact .inr (.customerWithdrawal 1 200)
  have hrun := treasury.schedule_run (s := referred) hstarts
    [(0, { now := 1, uuid := "a" }), (1, { now := 2, uuid := "b" })]
  have hfind : ((rewardWithdrawn.world.db .wallet).find 1).isSome := by decide +kernel
  obtain ⟨v, hv⟩ := Option.isSome_iff_exists.mp hfind
  refine ⟨v, hv, ((wallet_ledgers_balance hempty hrun).1 1 v hv).trans ?_⟩
  decide +kernel

end Superstore

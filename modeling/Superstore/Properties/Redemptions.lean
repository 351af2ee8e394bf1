import Superstore.Requests.Effects
import Superstore.Requests.Wallets

/-!
# Redemptions of cashback

A redemption takes its amount from the oldest rewards first, all that is left of one before it looks at the next,
and stops once the amount is reached. It marks the rewards that it has used up, and credits the amount to the wallet
of the user. A reward that was worth nothing is marked only if the redemption comes to it.
-/

namespace Superstore

open Interleaving Relational Relational.Tx
open Wallets (unredeemed redeemRows oldestFirst)

/-! ## Taking an amount from a list of rewards -/

/-- A reward after some of an amount has been asked of it. -/
def CashbackReward.pay (now : ℕ) (rest : ℚ) (c : CashbackReward) : CashbackReward :=
  if rest ≤ 0 then c
  else
    let redeemedAmount := c.redeemedAmount + min (unredeemed c) rest
    { c with
      redeemedAmount := redeemedAmount
      status := if redeemedAmount = c.amount then "REDEEMED" else "AVAILABLE"
      redeemedAt := if redeemedAmount = c.amount then some now else none }

/-- What is left of a list of rewards. -/
def leftOf (rows : List (ℕ × CashbackReward)) : ℚ := (rows.map (unredeemed ·.2)).sum

/-- What has been redeemed of all rewards. -/
def redeemedTotal (db : Database) : ℚ := (db .cashbackReward).total fun _ c => c.redeemedAmount

/-- What is left of rows is left of the first and of the others. -/
theorem leftOf_cons (row : ℕ × CashbackReward) (rows : List (ℕ × CashbackReward)) :
    leftOf (row :: rows) = unredeemed row.2 + leftOf rows := by
  simp [leftOf]

/-- What is left of rows is not negative. -/
theorem leftOf_nonneg {rows : List (ℕ × CashbackReward)} (h : ∀ row ∈ rows, 0 ≤ unredeemed row.2) :
    0 ≤ leftOf rows := by
  apply List.sum_nonneg
  intro x hx
  obtain ⟨row, hrow, rfl⟩ := List.mem_map.mp hx
  exact h row hrow

/-- A row that nothing is asked of stays as it is. -/
theorem CashbackReward.pay_of_nonpos {now : ℕ} {rest : ℚ} {c : CashbackReward} (h : rest ≤ 0) :
    c.pay now rest = c := if_pos h

/-- A round of the loop rewrites the row that it is at. -/
theorem CashbackReward.pay_of_pos {now : ℕ} {rest : ℚ} {c : CashbackReward} (h : ¬rest ≤ 0) :
    c.pay now rest = { c with
      redeemedAmount := c.redeemedAmount + min (unredeemed c) rest
      status := if c.redeemedAmount + min (unredeemed c) rest = c.amount then "REDEEMED" else "AVAILABLE"
      redeemedAt := if c.redeemedAmount + min (unredeemed c) rest = c.amount then some now else none } :=
  if_neg h

/-- The loop leaves the rewards alone that are not in its list. -/
theorem redeemRows_others (now : ℕ) (rows : List (ℕ × CashbackReward)) (rest : ℚ) (db : Database) :
    wp db (redeemRows now rows rest) fun _ db' =>
      ∀ i, i ∉ rows.map Prod.fst → (db' .cashbackReward).find i = (db .cashbackReward).find i := by
  induction rows generalizing rest db with
  | nil => simp [redeemRows]
  | cons row rows ih =>
    rw [redeemRows]
    split
    · simp
    · rw [wp_bind, wp_update]
      intro _ _
      refine wp_mono (ih _ _) fun _ db' h i hi => ?_
      rw [List.map_cons, List.mem_cons, not_or] at hi
      rw [h i hi.2, Relational.Database.set_self, Table.find_update_of_ne _ _ hi.1]

/-- The loop redeems the amount that it is asked for, if the rewards cover it. -/
theorem redeemRows_total (now : ℕ) (rows : List (ℕ × CashbackReward)) (rest : ℚ) (db : Database)
    (hkeys : (rows.map Prod.fst).Nodup) (hrows : ∀ row ∈ rows, (db .cashbackReward).find row.1 = some row.2)
    (hrest : 0 ≤ rest) (hcovers : 0 < rest → rest ≤ leftOf rows) :
    wp db (redeemRows now rows rest) fun _ db' => redeemedTotal db' = redeemedTotal db + rest := by
  induction rows generalizing rest db with
  | nil =>
    have hzero : rest = 0 := by
      by_contra hne
      have hpos : 0 < rest := lt_of_le_of_ne hrest (Ne.symm hne)
      have := hcovers hpos
      simp [leftOf] at this
      linarith
    simp [redeemRows, hzero]
  | cons row rows ih =>
    rw [redeemRows]
    split
    · next hnone =>
      have hzero : rest = 0 := le_antisymm hnone hrest
      simp [hzero]
    · next hsome =>
      have hfind := hrows row List.mem_cons_self
      rw [List.map_cons, List.nodup_cons] at hkeys
      rw [wp_bind, wp_update]
      intro _ _
      refine wp_mono (ih _ _ hkeys.2 (fun row' hrow' => ?_) ?_ fun hpos => ?_) fun _ db' htotal => ?_
      · have hne : row'.1 ≠ row.1 := fun h => hkeys.1 (h ▸ List.mem_map_of_mem hrow')
        rw [Relational.Database.set_self, Table.find_update_of_ne _ _ hne]
        exact hrows row' (List.mem_cons_of_mem _ hrow')
      · exact sub_nonneg.mpr (min_le_right _ _)
      · -- Something is still asked for, so this reward has been taken as a whole.
        have hall : min (unredeemed row.2) rest = unredeemed row.2 := by
          apply min_eq_left
          by_contra hlt
          rw [min_eq_right (not_le.mp hlt).le, sub_self] at hpos
          exact lt_irrefl _ hpos
        have hle := hcovers (not_le.mp hsome)
        rw [leftOf_cons] at hle
        rw [hall]
        linarith
      · rw [htotal, redeemedTotal, Relational.Database.set_self, Table.total_update hfind, ← redeemedTotal]
        ring

/-- Each reward of the list is asked for what the rewards before it have not covered. -/
theorem redeemRows_pays (now : ℕ) (rows : List (ℕ × CashbackReward)) (rest : ℚ) (db : Database)
    (hkeys : (rows.map Prod.fst).Nodup) (hrows : ∀ row ∈ rows, (db .cashbackReward).find row.1 = some row.2)
    (hleft : ∀ row ∈ rows, 0 ≤ unredeemed row.2) :
    wp db (redeemRows now rows rest) fun _ db' => ∀ before row after, rows = before ++ row :: after →
      (db' .cashbackReward).find row.1 = some (row.2.pay now (rest - leftOf before)) := by
  induction rows generalizing rest db with
  | nil => simp [redeemRows]
  | cons first rows ih =>
    rw [redeemRows]
    split
    · next hnone =>
      rw [wp_pure]
      intro before row after heq
      have hbefore : 0 ≤ leftOf before := leftOf_nonneg fun r hr => hleft r (by simp [heq, hr])
      rw [CashbackReward.pay_of_nonpos (by linarith)]
      exact hrows row (by simp [heq])
    · next hsome =>
      have hfind := hrows first List.mem_cons_self
      rw [List.map_cons, List.nodup_cons] at hkeys
      rw [wp_bind, wp_update]
      intro _ _
      refine wp_mono (wp_and (redeemRows_others now rows _ _) (ih _ _ hkeys.2 (fun row' hrow' => ?_)
        fun row' hrow' => hleft row' (List.mem_cons_of_mem _ hrow'))) fun _ db' h before row after heq => ?_
      · have hne : row'.1 ≠ first.1 := fun h => hkeys.1 (h ▸ List.mem_map_of_mem hrow')
        rw [Relational.Database.set_self, Table.find_update_of_ne _ _ hne]
        exact hrows row' (List.mem_cons_of_mem _ hrow')
      obtain ⟨hothers, hpays⟩ := h
      cases before with
      | nil =>
        obtain ⟨rfl, rfl⟩ := List.cons.inj heq
        have hzero : leftOf [] = 0 := rfl
        rw [hothers _ hkeys.1, Relational.Database.set_self, Table.find_update_self, hfind, Option.map_some, hzero,
          sub_zero, CashbackReward.pay_of_pos hsome]
      | cons b before =>
        obtain ⟨rfl, hrest⟩ := List.cons.inj heq
        rw [hpays before row after hrest, leftOf_cons]
        have hbefore : 0 ≤ leftOf before :=
          leftOf_nonneg fun r hr => hleft r (List.mem_cons_of_mem _ (by simp [hrest, hr]))
        rcases le_total (unredeemed first.2) rest with hle | hle
        · rw [min_eq_left hle, sub_sub]
        · rw [min_eq_right hle, CashbackReward.pay_of_nonpos (by linarith),
            CashbackReward.pay_of_nonpos (by linarith)]

/-! ## Redemptions -/

/-- A reward that a user can redeem. -/
def CashbackReward.availableTo (userId : ℕ) (c : CashbackReward) : Bool :=
  c.userId == userId && c.status == "AVAILABLE"

/-- The rewards that a user can redeem, in the order in which they are redeemed. -/
def redeemable (userId : ℕ) (db : Database) : List (ℕ × CashbackReward) :=
  oldestFirst ((db .cashbackReward).many fun _ c => c.availableTo userId)

/-- What is left of the rewards that a user redeems before a given one. -/
def leftBefore (userId : ℕ) (db : Database) (i : ℕ) : ℚ :=
  leftOf ((redeemable userId db).takeWhile fun row => row.1 != i)

/-- What has been redeemed of a reward is part of it. -/
def CashbackReward.Within (c : CashbackReward) : Prop := 0 ≤ c.redeemedAmount ∧ c.redeemedAmount ≤ c.amount

/-- No more has been redeemed of any reward than there was. -/
def CashbackWithin (db : Database) : Prop := ∀ i c, (db .cashbackReward).find i = some c → c.Within

/-- An amount is credited to the wallet of a user, under a reference. -/
def Credits (userId : ℕ) (amount : ℚ) (reference : String) (db db' : Database) : Prop :=
  ∃ i w, (db' .wallet).find i = some w ∧ w.userId = userId ∧
    w.balance = ((db .wallet).find i).elim 0 (·.balance) + amount ∧
    (∀ j ≠ i, (db' .wallet).find j = (db .wallet).find j) ∧
    db' .walletTransaction = (db .walletTransaction).create
      { walletId := i, amount := amount, type := .credit, reference := some reference }

/-- Each reward of a user is asked for what the older ones have not covered, and no other reward is touched. -/
structure Pays (now userId : ℕ) (amount : ℚ) (db db' : Database) : Prop where
  pays : ∀ i c, (db .cashbackReward).find i = some c → c.availableTo userId →
    (db' .cashbackReward).find i = some (c.pay now (amount - leftBefore userId db i))
  others : ∀ i, (∀ c, (db .cashbackReward).find i = some c → c.availableTo userId = false) →
    (db' .cashbackReward).find i = (db .cashbackReward).find i

/-- An amount of cashback is redeemed by a user: it is taken from their rewards, oldest first, and from each of
them as much as is left of it and the older ones have not covered. -/
structure Redeems (userId : ℕ) (amount : ℚ) (db db' : Database) : Prop where
  total : redeemedTotal db' = redeemedTotal db + amount
  pays : ∃ now, Pays now userId amount db db'
  raised : ∀ i c, (db .cashbackReward).find i = some c → c.availableTo userId →
    ∃ c', (db' .cashbackReward).find i = some c' ∧
      c'.redeemedAmount = c.redeemedAmount + min (unredeemed c) (max 0 (amount - leftBefore userId db i))
  kept : ∀ i c, (db .cashbackReward).find i = some c → ∃ c', (db' .cashbackReward).find i = some c' ∧
    c'.userId = c.userId ∧ c'.amount = c.amount ∧ c.redeemedAmount ≤ c'.redeemedAmount
  within : CashbackWithin db'
  oldestFirst : ∀ i c j d, (db .cashbackReward).find i = some c → (db .cashbackReward).find j = some d →
    c.availableTo userId → c.createdAt < d.createdAt → (db' .cashbackReward).find j ≠ some d →
    ∃ c', (db' .cashbackReward).find i = some c' ∧ c'.redeemedAmount = c'.amount
  marked : ∀ i c c', (db .cashbackReward).find i = some c → (db' .cashbackReward).find i = some c' →
    c.availableTo userId → c.redeemedAmount < c.amount →
    (c'.status = "REDEEMED" ↔ c'.redeemedAmount = c'.amount)
  empty : ∀ i c c', (db .cashbackReward).find i = some c → (db' .cashbackReward).find i = some c' →
    c.availableTo userId → c.redeemedAmount = c.amount →
    c'.redeemedAmount = c.redeemedAmount ∧ (c'.status = "REDEEMED" ↔ leftBefore userId db i < amount)
  others : ∀ i, (∀ c, (db .cashbackReward).find i = some c → c.availableTo userId = false) →
    (db' .cashbackReward).find i = (db .cashbackReward).find i
  credits : ∃ s, Credits userId amount ("CASHBACK-" ++ s) db db'

/-- What is left of a reward is not negative. -/
theorem CashbackReward.Within.unredeemed_nonneg {c : CashbackReward} (h : c.Within) : 0 ≤ unredeemed c :=
  sub_nonneg.mpr h.2

/-- What a reward is asked for leaves it within its amount. -/
theorem CashbackReward.Within.pay {now : ℕ} {rest : ℚ} {c : CashbackReward} (h : c.Within) :
    (c.pay now rest).Within := by
  by_cases hrest : rest ≤ 0
  · rwa [CashbackReward.pay_of_nonpos hrest]
  · rw [CashbackReward.pay_of_pos hrest]
    have hmin : min (unredeemed c) rest ≤ c.amount - c.redeemedAmount := min_le_left _ _
    have hnonneg : 0 ≤ min (unredeemed c) rest := le_min h.unredeemed_nonneg (not_le.mp hrest).le
    constructor
    · exact add_nonneg h.1 hnonneg
    · change c.redeemedAmount + min (unredeemed c) rest ≤ c.amount
      linarith

/-- What a reward is asked for is taken from it as far as something is left. -/
theorem CashbackReward.Within.pay_redeemedAmount {now : ℕ} {rest : ℚ} {c : CashbackReward} (h : c.Within) :
    (c.pay now rest).redeemedAmount = c.redeemedAmount + min (unredeemed c) (max 0 rest) := by
  rcases le_or_gt rest 0 with hrest | hrest
  · rw [CashbackReward.pay_of_nonpos hrest, max_eq_left hrest, min_eq_right h.unredeemed_nonneg, add_zero]
  · rw [CashbackReward.pay_of_pos (not_le.mpr hrest), max_eq_right hrest.le]

/-- A reward stays that of its user, and is worth what it was. -/
theorem CashbackReward.pay_same (now : ℕ) (rest : ℚ) (c : CashbackReward) :
    (c.pay now rest).userId = c.userId ∧ (c.pay now rest).amount = c.amount := by
  rw [CashbackReward.pay]
  split <;> exact ⟨rfl, rfl⟩

/-- The rewards that a user redeems are those that are available to them. -/
theorem mem_redeemable {userId : ℕ} {db : Database} {row : ℕ × CashbackReward} :
    row ∈ redeemable userId db ↔ (db .cashbackReward).find row.1 = some row.2 ∧ row.2.availableTo userId := by
  rw [redeemable, oldestFirst, List.mem_insertionSort, Table.mem_many]

/-- No reward stands twice among those of a user. -/
theorem redeemable_keys (userId : ℕ) (db : Database) : ((redeemable userId db).map Prod.fst).Nodup := by
  have hperm : (redeemable userId db).Perm ((db .cashbackReward).many fun _ c => c.availableTo userId) :=
    List.perm_insertionSort _ _
  rw [(hperm.map Prod.fst).nodup_iff]
  exact (db .cashbackReward).keys_nodup.sublist (List.filter_sublist.map _)

/-- The rewards of a user are in the order in which they have been entered. -/
theorem redeemable_sorted (userId : ℕ) (db : Database) :
    (redeemable userId db).Pairwise fun a b => a.2.createdAt ≤ b.2.createdAt := by
  have htotal : Std.Total fun a b : ℕ × CashbackReward => a.2.createdAt ≤ b.2.createdAt := ⟨fun _ _ => le_total _ _⟩
  have htrans : IsTrans (ℕ × CashbackReward) fun a b => a.2.createdAt ≤ b.2.createdAt := ⟨fun _ _ _ => le_trans⟩
  exact List.pairwise_insertionSort _ _

/-- What comes before a reward is what is taken up to it. -/
theorem leftBefore_eq {userId : ℕ} {db : Database} {row : ℕ × CashbackReward}
    {before after : List (ℕ × CashbackReward)}
    (h : redeemable userId db = before ++ row :: after) : leftBefore userId db row.1 = leftOf before := by
  have hkeys := redeemable_keys userId db
  rw [h, List.map_append, List.map_cons, List.nodup_append] at hkeys
  rw [leftBefore, h, List.takeWhile_append_of_pos]
  · simp
  · intro r hr
    have hne := hkeys.2.2 r.1 (List.mem_map_of_mem hr) row.1 List.mem_cons_self
    simpa using hne

/-- What is left of two lists is left of both. -/
theorem leftOf_append (xs ys : List (ℕ × CashbackReward)) : leftOf (xs ++ ys) = leftOf xs + leftOf ys := by
  simp [leftOf]

/-- What is left of a reward comes before every later one. -/
theorem leftBefore_older {userId : ℕ} {db : Database} (hwithin : CashbackWithin db) {i j : ℕ} {c d : CashbackReward}
    (hi : (i, c) ∈ redeemable userId db) (hj : (j, d) ∈ redeemable userId db) (holder : c.createdAt < d.createdAt) :
    leftBefore userId db i + unredeemed c ≤ leftBefore userId db j := by
  obtain ⟨before, after, heq⟩ := List.append_of_mem hj
  have hsorted := redeemable_sorted userId db
  have hin : (i, c) ∈ before := by
    rw [heq] at hi hsorted
    rcases List.mem_append.mp hi with hbefore | hrest
    · exact hbefore
    · have hle := (List.pairwise_cons.mp (List.pairwise_append.mp hsorted).2.1).1
      rcases List.mem_cons.mp hrest with hsame | hafter
      · obtain ⟨_, rfl⟩ := Prod.mk.inj hsame
        exact absurd holder (lt_irrefl _)
      · exact absurd holder (not_lt.mpr (hle (i, c) hafter))
  obtain ⟨front, back, rfl⟩ := List.append_of_mem hin
  have hback : 0 ≤ leftOf back := leftOf_nonneg fun row hrow => by
    have hmem : row ∈ redeemable userId db := by simp [heq, hrow]
    exact (hwithin _ _ (mem_redeemable.mp hmem).1).unredeemed_nonneg
  have hfront : redeemable userId db = front ++ (i, c) :: (back ++ (j, d) :: after) := by
    rw [heq, List.append_assoc, List.cons_append]
  have hi' := leftBefore_eq hfront
  have hj' := leftBefore_eq heq
  rw [leftOf_append, leftOf_cons] at hj'
  dsimp only at hi' hj'
  linarith

/-- A credit to a wallet that is opened if need be, and its entry. -/
theorem creditWallet_credits (userId : ℕ) (amount : ℚ) (reference : String) (db : Database) :
    wp db (Payments.creditWallet userId amount reference) fun _ db' => Credits userId amount reference db db' := by
  have hcredit {db₁ : Database} {i : ℕ} {w : Wallet} (hfind : (db₁ .wallet).find i = some w)
      (huser : w.userId = userId) (hbalance : w.balance = ((db .wallet).find i).elim 0 (·.balance))
      (hothers : ∀ j ≠ i, (db₁ .wallet).find j = (db .wallet).find j)
      (hentries : db₁ .walletTransaction = db .walletTransaction) :
      wp db₁ (do
        update .wallet i fun w => { w with balance := w.balance + amount }
        let _ ← createUnique .walletTransaction (fun _ t => t.reference == some reference)
          { walletId := i, amount := amount, type := .credit, reference := some reference }
        pure ()) fun _ db' => Credits userId amount reference db db' := by
    rw [wp_bind, wp_update]
    intro _ _
    rw [wp_bind, wp_createUnique]
    intro _
    rw [wp_pure]
    refine ⟨i, { w with balance := w.balance + amount }, ?_, huser, ?_, fun j hj => ?_, ?_⟩
    · rw [Relational.Database.set_of_ne _ _ (by decide), Relational.Database.set_self,
        Table.find_update_self, hfind]
      rfl
    · dsimp only
      rw [hbalance]
    · rw [Relational.Database.set_of_ne _ _ (by decide), Relational.Database.set_self,
        Table.find_update_of_ne _ _ hj,
        hothers j hj]
    · rw [Relational.Database.set_self, Relational.Database.set_of_ne _ _ (by decide), hentries]
  rw [Payments.creditWallet, wp_bind, wp_firstOrCreate]
  constructor
  · rintro ⟨i, w⟩ hfirst
    obtain ⟨hfind, huser⟩ := Table.find_of_first hfirst
    apply hcredit hfind (beq_iff_eq.mp huser) ?_ (fun _ _ => rfl) rfl
    rw [hfind]
    rfl
  · intro _
    apply hcredit
    · rw [Relational.Database.set_self]
      exact Table.find_create_self _ _
    · rfl
    · rw [Table.find_of_next_le le_rfl]
      rfl
    · intro j hj
      rw [Relational.Database.set_self, Table.find_create, if_neg hj]
    · exact Relational.Database.set_of_ne _ _ (by decide)

/-- A redemption pays from the rewards and credits the wallet. -/
theorem redeemCashback_pays (e : Env) (userId : ℕ) (amount : ℚ) (hpos : 0 < amount) (db : Database) :
    wp db (Wallets.redeemCashback e userId amount) fun _ db' =>
    (CashbackWithin db → Pays e.now userId amount db db') ∧
      redeemedTotal db' = redeemedTotal db + amount ∧ (∃ s, Credits userId amount ("CASHBACK-" ++ s) db db') ∧
      db' .referral = db .referral := by
  have hrows : ∀ row ∈ redeemable userId db, (db .cashbackReward).find row.1 = some row.2 := fun row hrow =>
    (mem_redeemable.mp hrow).1
  have hkeys := redeemable_keys userId db
  rw [Wallets.redeemCashback, wp_bind, wp_many]
  extract_lets rows available reference
  change wp db (do
    require (amount ≤ leftOf (redeemable userId db)) (.badRequest "Insufficient cashback balance.")
    redeemRows e.now (redeemable userId db) amount
    _) _
  rw [wp_bind, wp_require]
  intro hcovers
  rw [wp_bind]
  have hleft (hwithin : CashbackWithin db) : ∀ row ∈ redeemable userId db, 0 ≤ unredeemed row.2 := fun row hrow =>
    (hwithin _ _ (hrows row hrow)).unredeemed_nonneg
  refine wp_mono (wp_and (wp_and (redeemRows_others e.now _ _ db)
    (redeemRows_total e.now _ _ db hkeys hrows hpos.le fun _ => hcovers)) (wp_and
    (wp_imp fun hwithin => redeemRows_pays e.now _ amount db hkeys hrows (hleft hwithin))
      (Wallets.redeemRows_writes e.now _ _ db)))
    fun _ db₁ ⟨⟨hothers, htotal⟩, hpays, hwrites⟩ => ?_
  have href : reference = "CASHBACK-" ++ (toString userId ++ "-" ++ e.uuid) := rfl
  rw [wp_bind]
  refine wp_mono (wp_and (creditWallet_credits userId amount _ db₁)
    (Payments.creditWallet_writes userId amount _ db₁))
    fun _ db₂ ⟨hcredits, hwrites₂⟩ => ?_
  rw [wp_bind, wp_first, wp_bind, wp_orThrow]
  intro _ _
  rw [wp_pure]
  have hcashback : db₂ .cashbackReward = db₁ .cashbackReward := hwrites₂ _ (by decide)
  refine ⟨fun hwithin => ⟨fun i c hfind havailable => ?_, fun i hnone => ?_⟩, ?_,
    ⟨toString userId ++ "-" ++ e.uuid, ?_⟩, ?_⟩
  · have hmem : (i, c) ∈ redeemable userId db := mem_redeemable.mpr ⟨hfind, havailable⟩
    obtain ⟨before, after, heq⟩ := List.append_of_mem hmem
    rw [hcashback, hpays hwithin before (i, c) after heq, ← leftBefore_eq heq]
  · rw [hcashback]
    apply hothers
    rintro hmem
    obtain ⟨row, hrow, rfl⟩ := List.mem_map.mp hmem
    obtain ⟨hfind, havailable⟩ := mem_redeemable.mp hrow
    rw [hnone _ hfind] at havailable
    cases havailable
  · rw [redeemedTotal, hcashback]
    exact htotal
  · obtain ⟨i, w, hfind, huser, hbalance, hrest, hentries⟩ := hcredits
    rw [hwrites .wallet (by decide)] at hbalance
    rw [hwrites .wallet (by decide)] at hrest
    rw [hwrites .walletTransaction (by decide), href] at hentries
    exact ⟨i, w, hfind, huser, hbalance, hrest, hentries⟩
  · rw [hwrites₂ _ (by decide), hwrites _ (by decide)]

/-- Paying from the oldest rewards first is a redemption. -/
theorem Pays.redeems {now userId : ℕ} {amount : ℚ} {db db' : Database} (h : Pays now userId amount db db')
    (hwithin : CashbackWithin db) (htotal : redeemedTotal db' = redeemedTotal db + amount)
    (hcredits : ∃ s, Credits userId amount ("CASHBACK-" ++ s) db db') : Redeems userId amount db db' where
  total := htotal
  pays := ⟨now, h⟩
  raised i c hfind havailable := ⟨_, h.pays i c hfind havailable, (hwithin i c hfind).pay_redeemedAmount⟩
  kept i c hfind := by
    by_cases havailable : c.availableTo userId = true
    · obtain ⟨huser, hamount⟩ := CashbackReward.pay_same now (amount - leftBefore userId db i) c
      refine ⟨_, h.pays i c hfind havailable, huser, hamount, ?_⟩
      rw [(hwithin i c hfind).pay_redeemedAmount]
      exact le_add_of_nonneg_right (le_min (hwithin i c hfind).unredeemed_nonneg (le_max_left _ _))
    · refine ⟨c, ?_, rfl, rfl, le_rfl⟩
      rw [h.others i fun c' hc' => ?_, hfind]
      obtain rfl := Option.some.inj (hfind.symm.trans hc')
      exact Bool.eq_false_iff.mpr havailable
  credits := hcredits
  others := h.others
  within i c' hfind' := by
    by_cases hold : ∃ c, (db .cashbackReward).find i = some c ∧ c.availableTo userId
    · obtain ⟨c, hfind, havailable⟩ := hold
      rw [h.pays i c hfind havailable] at hfind'
      obtain rfl := Option.some.inj hfind'
      exact (hwithin i c hfind).pay
    · rw [h.others i fun c hc => Bool.eq_false_iff.mpr fun hav => hold ⟨c, hc, hav⟩] at hfind'
      exact hwithin i c' hfind'
  oldestFirst i c j d hi hj havailable holder hchanged := by
    have havailable' : d.availableTo userId := by
      by_contra hno
      apply hchanged
      rw [h.others j fun c' hc' => ?_, hj]
      obtain rfl := Option.some.inj (hj.symm.trans hc')
      exact Bool.eq_false_iff.mpr hno
    have hrest : ¬amount - leftBefore userId db j ≤ 0 := fun hle => by
      apply hchanged
      rw [h.pays j d hj havailable', CashbackReward.pay_of_nonpos hle]
    have hbefore := leftBefore_older hwithin (mem_redeemable.mpr ⟨hi, havailable⟩)
      (mem_redeemable.mpr ⟨hj, havailable'⟩)
      holder
    have hnonneg := (hwithin i c hi).unredeemed_nonneg
    refine ⟨_, h.pays i c hi havailable, ?_⟩
    rw [CashbackReward.pay_of_pos (by linarith)]
    change c.redeemedAmount + min (unredeemed c) (amount - leftBefore userId db i) = c.amount
    rw [min_eq_left (by linarith), unredeemed]
    ring
  marked i c c' hi hi' havailable hleft := by
    rw [h.pays i c hi havailable] at hi'
    obtain rfl := Option.some.inj hi'
    have hstatus : c.status = "AVAILABLE" := beq_iff_eq.mp (Bool.and_eq_true_iff.mp havailable).2
    by_cases hrest : amount - leftBefore userId db i ≤ 0
    · rw [CashbackReward.pay_of_nonpos hrest, hstatus]
      exact ⟨fun hne => absurd hne (by decide), fun hall => absurd hall hleft.ne⟩
    · rw [CashbackReward.pay_of_pos hrest]
      dsimp only
      split
      · next hall => exact ⟨fun _ => hall, fun _ => rfl⟩
      · next hsome => exact ⟨fun hne => absurd hne (by decide), fun hall => absurd hall hsome⟩
  empty i c c' hi hi' havailable hall := by
    rw [h.pays i c hi havailable] at hi'
    obtain rfl := Option.some.inj hi'
    have hstatus : c.status = "AVAILABLE" := beq_iff_eq.mp (Bool.and_eq_true_iff.mp havailable).2
    have hzero : unredeemed c = 0 := by rw [unredeemed, hall, sub_self]
    by_cases hrest : amount - leftBefore userId db i ≤ 0
    · rw [CashbackReward.pay_of_nonpos hrest, hstatus]
      exact ⟨rfl, fun hne => absurd hne (by decide), fun hlt => absurd hlt (not_lt.mpr (sub_nonpos.mp hrest))⟩
    · rw [CashbackReward.pay_of_pos hrest, hzero, min_eq_left (not_le.mp hrest).le, add_zero]
      exact ⟨rfl, fun _ => sub_pos.mp (not_le.mp hrest), fun _ => if_pos hall⟩

/-- A request to redeem cashback that succeeds redeems the amount that it has been given. -/
theorem redeem_redeems {userId : ℕ} {input : ℚ} {w w' : World}
    (hrun : Prog.Alone machine (Wallets.redeem userId input) w (.ok ()) w') (hwithin : CashbackWithin w.db) :
    ∃ amount, money input = .ok amount ∧ Redeems userId amount w.db w'.db := by
  have hwp : (Wallets.redeem userId input).wpAlone machine (fun r w' => r = .ok () →
      ∃ amount, money input = .ok amount ∧ Redeems userId amount w.db w'.db) w := by
    rw [Wallets.redeem]
    cases hmoney : money input with
    | error err => exact fun h => by cases h
    | ok amount =>
      change ((check (0 < amount) _).bind fun _ => (call (.redeemCashback userId amount)).bind fun _ =>
        call .notify).wpAlone machine _ w
      by_cases hpos : 0 < amount
      · rw [check, ensure, if_pos hpos]
        intro e
        cases hcall : (machine.exec (.redeemCashback userId amount) e w).1 with
        | error err => exact fun h => by cases h
        | ok r =>
          intro e' _
          obtain ⟨hpays, htotal, hcredits, -⟩ :=
            redeemCashback_pays e userId amount hpos w.db _ _ (exec_ok rfl hcall)
          exact ⟨amount, rfl, (hpays hwithin).redeems hwithin htotal hcredits⟩
      · rw [check, ensure, if_neg hpos]
        exact fun h => by cases h
  exact (Prog.wpAlone_iff machine _ _ w).mp hwp _ _ hrun rfl

end Superstore

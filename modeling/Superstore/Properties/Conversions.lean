import Superstore.Properties.Redemptions
import Superstore.Properties.Rewards

/-!
# Rewards that are turned into money

Cashback is redeemed and the rewards of referrals are claimed into the wallet of their user, while orders that are
completed bring new rewards. Over any run of these requests, wallets have been credited for rewards what has been
taken from them.
-/

namespace Superstore

open Interleaving Relational Relational.Tx

/-! ## What wallets have been credited -/

/-- An entry that credits a reward. -/
def WalletTransaction.ofReward (t : WalletTransaction) : Bool :=
  t.type == .credit && t.reference.any fun r =>
    "CASHBACK-".toList.isPrefixOf r.toList || "REFERRAL-".toList.isPrefixOf r.toList

/-- What wallets have been credited for rewards. -/
def rewardCredits (db : Database) : ℚ := (db .walletTransaction).total fun _ t => if t.ofReward then t.amount else 0

/-- The rewards of the referrals that have been claimed. -/
def claimedTotal (db : Database) : ℚ := (db .referral).total fun _ r =>
    if r.status = "CLAIMED" then r.rewardAmount else 0

/-- What wallets have been credited for rewards, less what has been taken from them. -/
def rewardSurplus (db : Database) : ℚ := rewardCredits db - (redeemedTotal db + claimedTotal db)

/-- As much has been credited as has been taken from rewards. -/
def SameSurplus (db db' : Database) : Prop := rewardSurplus db' = rewardSurplus db

/-- Keeping the surplus is reflexive and transitive. -/
instance : IsPreorder Database SameSurplus where
  refl _ := rfl
  trans _ _ _ h h' := h'.trans h

/-- The tables that hold rewards and their credits. -/
def conversionTables : List TableName := [.walletTransaction, .cashbackReward, .referral]

/-- The surplus stays where none of its tables is written. -/
theorem SameSurplus.of_eq {db db' : Database} (h : ∀ n ∈ conversionTables, db' n = db n) : SameSurplus db db' := by
  rw [SameSurplus, rewardSurplus, rewardSurplus, rewardCredits, rewardCredits, redeemedTotal,
    redeemedTotal, claimedTotal,
    claimedTotal, h .walletTransaction (by decide), h .cashbackReward (by decide), h .referral (by decide)]

/-- A transaction that writes none of these tables. -/
theorem sameSurplus_of_writes {α : Type} {m : Tx α} {ns : List TableName} (h : Writes ns m)
    (hns : ∀ n ∈ conversionTables, n ∉ ns) : Tx.Within SameSurplus m :=
  .of_writes h fun _ _ hsame => .of_eq fun n hn => hsame n (hns n hn)

/-- The references of redemptions and claims are those of rewards. -/
theorem ofReward_credit {i : ℕ} {amount : ℚ} {s start : String} (h : start = "CASHBACK-" ∨ start = "REFERRAL-") :
    WalletTransaction.ofReward
    { walletId := i, amount := amount, type := .credit, reference := some (start ++ s) } := by
  rcases h with rfl | rfl
  all_goals
    simp only [WalletTransaction.ofReward, Option.any_some, String.toList_append, Bool.and_eq_true, Bool.or_eq_true,
      List.isPrefixOf_iff_prefix]
  · exact ⟨rfl, .inl (List.prefix_append _ _)⟩
  · exact ⟨rfl, .inr (List.prefix_append _ _)⟩

/-- A credit for rewards adds to what has been credited for them. -/
theorem Credits.adds {userId : ℕ} {amount : ℚ} {s start : String} {db db' : Database}
    (h : Credits userId amount (start ++ s) db db') (hstart : start = "CASHBACK-" ∨ start = "REFERRAL-") :
    rewardCredits db' = rewardCredits db + amount := by
  obtain ⟨i, w, -, -, -, -, hentries⟩ := h
  rw [rewardCredits, hentries, Table.total_create, if_pos (ofReward_credit hstart)]
  rfl

/-- A redemption credits what it takes from the rewards. -/
theorem redeemCashback_surplus (e : Env) (userId : ℕ) (amount : ℚ) (hpos : 0 < amount) :
    Tx.Within SameSurplus (Wallets.redeemCashback e userId amount) := by
  intro db
  refine wp_mono (redeemCashback_pays e userId amount hpos db) fun _ db' ⟨_, htotal, ⟨s, hcredits⟩, hreferral⟩ => ?_
  rw [SameSurplus, rewardSurplus, rewardSurplus, htotal, hcredits.adds (.inl rfl), claimedTotal, claimedTotal,
    hreferral]
  ring

/-- Claiming the rewards that have been found claims what they are worth. -/
theorem claimed_update {t : Table Referral} {p : ℕ → Referral → Bool} (hp : ∀ i r, p i r → r.status = "QUALIFIED")
    (now : ℕ) :
    (t.updateMany (fun i r => ((t.many p).map Prod.fst).contains i && r.status == "QUALIFIED")
      fun r => { r with status := "CLAIMED", claimedAt := some now }).total
        (fun _ r => if r.status = "CLAIMED" then r.rewardAmount else 0) =
      (t.total fun _ r => if r.status = "CLAIMED" then r.rewardAmount else 0) +
        ((t.many p).map (·.2.rewardAmount)).sum := by
  rw [Table.total_updateMany, ← Table.total_ite t p fun _ r => r.rewardAmount, ← Table.total_add]
  apply Table.total_congr
  intro i r hr
  have hmem : ((t.many p).map Prod.fst).contains i = p i r := by
    rw [Bool.eq_iff_iff, List.contains_iff_mem, List.mem_map]
    constructor
    · rintro ⟨⟨j, s⟩, hs, rfl⟩
      obtain ⟨hfind, hps⟩ := Table.mem_many.mp hs
      obtain rfl := Option.some.inj (hr.symm.trans hfind)
      exact hps
    · exact fun hpr => ⟨(i, r), Table.mem_many.mpr ⟨hr, hpr⟩, rfl⟩
  rw [hmem]
  by_cases hpr : p i r
  · simp [hpr, hp i r hpr]
  · simp [hpr]

/-- A claim credits what the claimed referrals are worth. -/
theorem claimReferrals_surplus (e : Env) (userId : ℕ) :
    Tx.Within SameSurplus (Wallets.claimReferrals e userId) := by
  intro db
  rw [Wallets.claimReferrals, wp_bind, wp_many]
  extract_lets amount reference
  split
  · exact (wp_pure _ _ _).mpr rfl
  · rw [wp_bind]
    refine wp_mono (wp_and (creditWallet_credits userId amount reference db)
      (Payments.creditWallet_writes _ _ _ db))
      fun _ db₁ ⟨hcredits, hwrites⟩ => ?_
    rw [wp_bind, wp_updateMany, wp_pure]
    have hcredited : rewardCredits db₁ = rewardCredits db + amount := Credits.adds hcredits (.inr rfl)
    have hclaimed := claimed_update (t := db .referral) (p := fun _ r =>
      r.referrerId == userId && r.status == "QUALIFIED")
      (fun _ r h => beq_iff_eq.mp (Bool.and_eq_true_iff.mp h).2) e.now
    rw [SameSurplus, rewardSurplus, rewardSurplus, rewardCredits, redeemedTotal, claimedTotal,
      Relational.Database.set_self,
      Relational.Database.set_of_ne _ _ (by decide), Relational.Database.set_of_ne _ _ (by decide), ← rewardCredits,
      hcredited, hwrites .referral (by decide), hwrites .cashbackReward (by decide)]
    rw [hclaimed, redeemedTotal, claimedTotal]
    ring

/-- The cashback of a completed order has not been redeemed. -/
theorem cashback_surplus (orderId : ℕ) (row : CashbackReward) (hrow : row.redeemedAmount = 0) :
    Tx.Within SameSurplus (firstOrCreate .cashbackReward (fun _ c => c.orderId == orderId) row) := by
  intro db
  rw [wp_firstOrCreate]
  refine ⟨fun _ _ => rfl, fun _ => ?_⟩
  rw [SameSurplus, rewardSurplus, rewardSurplus, redeemedTotal, Relational.Database.set_self,
    Table.total_create, hrow,
    add_zero]
  rfl

/-- A referral that qualifies has not been claimed, before or after. -/
theorem referral_surplus (e : Env) (userId : ℕ) (answer : ℚ × ℤ) :
    Tx.Within SameSurplus (do
      let referral ← first .referral fun _ r => r.referredUserId == userId
      match referral.filter (·.2.status == "PENDING") with
      | some referral => do
        let amount ← Orders.configured "referral_reward_amount" 1000
        update .referral referral.1 fun r =>
          { r with status := "QUALIFIED", qualifiedAt := some e.now, rewardAmount := amount }
        pure answer
      | none => pure answer) := by
  intro db
  rw [wp_bind, wp_first]
  split
  · next r hr =>
    obtain ⟨hfirst, hpending⟩ := Option.filter_eq_some_iff.mp hr
    obtain ⟨hfind, -⟩ := Table.find_of_first hfirst
    rw [wp_bind]
    refine wp_mono (Orders.configured_reads _ _ db) fun amount db₁ hsame => ?_
    obtain rfl : db₁ = db := funext fun n => hsame n List.not_mem_nil
    rw [wp_bind, wp_update]
    intro _ _
    rw [wp_pure, SameSurplus, rewardSurplus, rewardSurplus, claimedTotal, Relational.Database.set_self,
      Table.total_update hfind, if_neg (by simp), if_neg (by simp [beq_iff_eq.mp hpending]), sub_self, add_zero]
    rfl
  · exact (wp_pure _ _ _).mpr rfl

/-- Completing an order takes nothing from the rewards. -/
theorem completeOrder_surplus (e : Env) (orderId : ℕ) (order : Order) (changedById : Option ℕ) (reason : String) :
    Tx.Within SameSurplus (Orders.completeOrder e orderId order changedById reason) := by
  refine .bind (sameSurplus_of_writes (.update (List.mem_singleton_self _) _ _) (by decide)) fun _ => ?_
  refine .bind (sameSurplus_of_writes (Orders.history_writes _ _ _ _ _) (by decide)) fun _ => ?_
  rw [Orders.reward]
  refine .bind (.of_reads (Orders.configured_reads _ _)) fun percentage => ?_
  refine .bind (.when (.bind (cashback_surplus _ _ rfl) fun _ => .pure ())) fun _ => ?_
  refine .bind (sameSurplus_of_writes (.firstOrCreate (List.mem_singleton_self _) _ _) (by decide))
    fun account => ?_
  refine .bind (sameSurplus_of_writes (.update (List.mem_singleton_self _) _ _) (by decide)) fun _ => ?_
  exact referral_surplus e order.userId _

/-- Releasing the fee of a rider credits no reward. -/
theorem releaseRiderEarning_surplus (now deliveryId : ℕ) :
    Tx.Within SameSurplus (Settlements.releaseRiderEarning now deliveryId) := by
  refine .bind (.of_reads (.first _ _)) fun earning => ?_
  cases earning with
  | none => exact .pure ()
  | some earning =>
    refine .when (.bind
      (sameSurplus_of_writes (.updateMany (List.mem_singleton_self _) _ _) (by decide)) fun _ => ?_)
    refine .bind (.of_reads (.findOrThrow _ _)) fun profile => .bind (.of_reads (.first _ _)) fun wallet => ?_
    refine .bind (.of_reads (.orThrow _ _)) fun wallet => .bind (fun db => ?_) fun _ =>
      sameSurplus_of_writes (.update (List.mem_singleton_self _) _ _) (by decide)
    rw [wp_createUnique]
    intro _
    rw [SameSurplus, rewardSurplus, rewardSurplus, rewardCredits, Relational.Database.set_self, Table.total_create,
      if_neg (by simp [WalletTransaction.ofReward]), add_zero]
    rfl

/-- Handing an order over takes nothing from the rewards. -/
theorem writeDelivery_surplus (e : Env) (id : ℕ) (order : Order) (riderId credentialId deliveryId : ℕ) :
    Tx.Within SameSurplus (Orders.writeDelivery e id order riderId credentialId deliveryId) := by
  refine .bind (sameSurplus_of_writes (Orders.consumeCredential_writes _ _ _) (by decide)) fun _ => ?_
  refine .bind (sameSurplus_of_writes (.update (List.mem_singleton_self _) _ _) (by decide)) fun _ => ?_
  refine .bind (sameSurplus_of_writes (Orders.updateDeliveryOf_writes _ _) (by decide)) fun _ => ?_
  refine .bind (releaseRiderEarning_surplus _ _) fun _ => ?_
  refine .bind (sameSurplus_of_writes (Orders.history_writes _ _ _ _ _) (by decide)) fun _ => ?_
  exact completeOrder_surplus _ _ _ _ _

/-- The intervention of staff takes nothing from the rewards. -/
theorem intervene_surplus (e : Env) (orderId : ℕ) (status : OrderStatus) (reason : String) :
    Tx.Within SameSurplus (Orders.intervene e orderId status reason) := by
  refine .bind (.of_reads (.find _ _)) fun order => .bind (.of_reads (.orThrow _ _)) fun order => ?_
  refine .bind (.of_reads (.require _ _)) fun _ => .bind (.of_reads (.require _ _)) fun _ => ?_
  refine .bind ?_ fun _ => .of_reads (.findOrThrow _ _)
  split
  · exact .bind (completeOrder_surplus _ _ _ _ _) fun _ => .pure ()
  · exact .bind (sameSurplus_of_writes (.update (List.mem_singleton_self _) _ _) (by decide)) fun _ =>
      sameSurplus_of_writes (Orders.history_writes _ _ _ _ _) (by decide)

/-! ## Runs -/

/-- The requests that grant rewards and pay them out. -/
inductive RewardRequest : Request Unit → Prop
  | redeem (userId : ℕ) (input : ℚ) : RewardRequest (Wallets.redeem userId input)
  | claim (userId : ℕ) : RewardRequest (Wallets.claim userId)
  | completion {p : Request Unit} (h : CompletionRequest p) : RewardRequest p

/-- These requests, while other code leaves rewards and the entries of wallets alone. -/
def conversions : System Op Error World Env := { machine with
  starts := RewardRequest
  background := fun w w' => ∀ n ∈ conversionTables, w'.db n = w.db n }

/-- The operations that these requests perform. -/
def Op.converts : {α : Type} → Op α → Prop
  | _, .redeemCashback _ amount => 0 < amount
  | _, .read _ | _, .now | _, .notify | _, .claimReferrals _ | _, .intervene _ _ _ | _,
      .writeDelivery _ _ _ _ _ => True
  | _, _ => False

/-- The surplus of the credits is kept. -/
def conversion : Contract Op World Env where
  inv _ := True
  guar w w' := SameSurplus w.db w'.db
  known op _ := op.converts
  allowed _ _ _ := True
  refl _ := refl_of SameSurplus _
  trans := trans_of SameSurplus

/-- Every operation of the conversions keeps the surplus. -/
theorem conversion_safe {α : Type} (op : Op α) : conversion.Safe machine op := by
  intro e w _ hknown hallowed
  clear hallowed
  refine ⟨trivial, ?_⟩
  change SameSurplus w.db (op.exec e w).2.db
  have hrun {α : Type} {op : Op α} {m : Env → Tx α} (hop : op.transaction = some m)
      (hm : Tx.Within SameSurplus (m e)) : SameSurplus w.db (op.exec e w).2.db :=
    exec_transaction hop (Φ := fun w' => SameSurplus w.db w'.db) (refl_of SameSurplus _) (hm w.db)
  cases op <;> try exact hknown.elim
  case read f => exact .of_eq fun n _ => exec_frame (.read f) e w n List.not_mem_nil
  case now => exact refl_of SameSurplus _
  case notify => exact .of_eq fun n _ => exec_frame .notify e w n List.not_mem_nil
  case intervene => exact hrun rfl (intervene_surplus _ _ _ _)
  case writeDelivery => exact hrun rfl (writeDelivery_surplus _ _ _ _ _ _)
  case claimReferrals => exact hrun rfl (claimReferrals_surplus _ _)
  case redeemCashback => exact hrun rfl (redeemCashback_surplus _ _ _ hknown)

/-- The requests perform these operations only. -/
theorem RewardRequest.converts {p : Request Unit} (h : RewardRequest p) : p.All fun _ op => op.converts := by
  have honlyIf (c : Prop) [Decidable c] : (onlyIf c (call .notify) : Request Unit).All fun _ op => op.converts := by
    rw [onlyIf]
    split
    · exact (Prog.all_call _).mpr trivial
    · trivial
  have hcall {α : Type} {op : Op α} (hop : op.converts) : (call op).All fun _ op => op.converts :=
    (Prog.all_call _).mpr hop
  cases h with
  | redeem userId input =>
    refine Prog.All.bind (Prog.all_done _) fun amount => ?_
    by_cases hpos : 0 < amount
    · exact .bind (Prog.all_done _) fun _ => .bind (hcall hpos) fun _ => hcall trivial
    · change Prog.All _ ((check (0 < amount) _).bind _)
      rw [check, ensure, if_neg hpos]
      trivial
  | claim userId => exact Prog.All.bind (hcall trivial) fun _ => Prog.all_done _
  | completion h =>
    cases h with
    | confirmDelivery riderId id token =>
      exact Prog.All.bind (hcall trivial) fun _ => .bind (hcall trivial) fun _ => .bind (hcall trivial) fun _ =>
        .bind (Prog.all_done _) fun _ => .bind (hcall trivial) fun _ => .bind (hcall trivial) fun _ => honlyIf _
    | updateOrderStatus id status reason =>
      exact Prog.All.bind (hcall trivial) fun _ => .bind (hcall trivial) fun _ => honlyIf _

/-- The requests of the conversions keep the surplus. -/
theorem conversion_holds : conversion.Holds conversions where
  starts h w _ := Contract.informed_of_all (Prog.All.imp h.converts fun _ _ hop _ => hop) w
  performs op := conversion_safe op
  background h _ := ⟨trivial, .of_eq h⟩

/-- A redemption takes its amount from the oldest rewards and credits it, and in every run wallets are credited
what is taken from rewards. -/
theorem rewards_conserved :
    (∀ userId input w w', Prog.Alone machine (Wallets.redeem userId input) w (.ok ()) w' → CashbackWithin w.db →
      ∃ amount, money input = .ok amount ∧ Redeems userId amount w.db w'.db) ∧
    ∀ w c, conversions.Run System.anyOp ⟨w, []⟩ c → rewardCredits w.db = redeemedTotal w.db + claimedTotal w.db →
      rewardCredits c.world.db = redeemedTotal c.world.db + claimedTotal c.world.db := by
  refine ⟨fun userId input w w' hrun hwithin => redeem_redeems hrun hwithin, fun w c hrun hstart => ?_⟩
  have hsound : conversion.Sound conversions ⟨w, []⟩ := ⟨trivial, by simp⟩
  have hrun' : conversions.Run (fun op e c => conversion.allowed op e c.world) ⟨w, []⟩ c :=
    System.Run.mono conversions hrun fun _ _ _ _ => trivial
  have hsame : SameSurplus w.db c.world.db := (conversion_holds.run hsound hrun').2
  rw [SameSurplus, rewardSurplus, rewardSurplus, hstart, sub_self] at hsame
  exact sub_eq_zero.mp hsame

/-! ## A reward that is worth nothing -/

/-- Two orders that have been delivered, one of them too small for any cashback. -/
def smallOrder : World where
  db := Database.empty.set .order ((Table.empty.create
    { orderNumber := "A-1", userId := 1, storeId := 1, fulfillmentType := .delivery, currentStatus := .delivered
      subtotal := 1000, total := 1000, items := [] }).create
    { orderNumber := "A-2", userId := 1, storeId := 1, fulfillmentType := .delivery, currentStatus := .delivered
      subtotal := 2 / 5, total := 2 / 5, items := [] })

/-- Staff complete both orders, one after the other. -/
def smallReward : World :=
  ((Orders.updateOrderStatus 2 .completed "Delivered.").runAlone machine { now := 2 }
    ((Orders.updateOrderStatus 1 .completed "Delivered.").runAlone machine { now := 1 } smallOrder).2).2

/-- No reward is redeemed beyond its amount. -/
theorem smallReward_within : CashbackWithin smallReward.db := by
  have hrows : (smallReward.db .cashbackReward).rows.all fun row =>
      decide (0 ≤ row.2.redeemedAmount) && decide (row.2.redeemedAmount ≤ row.2.amount) := by decide +kernel
  intro i c hc
  have hrow := List.all_eq_true.mp hrows (i, c) (Table.find_eq_some.mp hc)
  rw [Bool.and_eq_true, decide_eq_true_eq, decide_eq_true_eq] at hrow
  exact hrow

/-- The customer redeems ten, which is what the first order has brought. -/
def smallRedemption : World := ((Wallets.redeem 1 10).runAlone machine { now := 3 } smallReward).2

/-- The redemption goes through. -/
theorem smallRedemption_run : Prog.Alone machine (Wallets.redeem 1 10) smallReward (.ok ()) smallRedemption := by
  have hok : ((Wallets.redeem 1 10).runAlone machine { now := 3 } smallReward).1 = .ok () := by
    have hreturns : (((Wallets.redeem 1 10).runAlone machine { now := 3 } smallReward).1.toOption ==
        some ()) = true := by
      decide +kernel
    revert hreturns
    cases ((Wallets.redeem 1 10).runAlone machine { now := 3 } smallReward).1 with
    | ok _ => exact fun _ => rfl
    | error _ => exact fun h => nomatch h
  have hrun := Prog.alone_runAlone machine { now := 3 } (Wallets.redeem 1 10) smallReward
  rw [hok] at hrun
  exact hrun

/-- A reward without value stays available when the amount has been reached before it. -/
theorem empty_reward_stays :
    ¬∀ userId input w w', Prog.Alone machine (Wallets.redeem userId input) w (.ok ()) w' → CashbackWithin w.db →
      ∀ i c c', (w.db .cashbackReward).find i = some c → (w'.db .cashbackReward).find i = some c' →
        c.availableTo userId → (c'.status = "REDEEMED" ↔ c'.redeemedAmount = c'.amount) := by
  intro h
  have hboth := h 1 10 _ _ smallRedemption_run smallReward_within 2
  have hbefore : ((smallReward.db .cashbackReward).find 2).any (·.availableTo 1) = true := by decide +kernel
  have hafter : ((smallRedemption.db .cashbackReward).find 2).any (fun c =>
    c.status == "AVAILABLE" && decide (c.redeemedAmount = c.amount)) = true := by decide +kernel
  obtain ⟨c, hc, havailable⟩ := (Option.any_eq_true _ _).mp hbefore
  obtain ⟨c', hc', hstill⟩ := (Option.any_eq_true _ _).mp hafter
  rw [Bool.and_eq_true, beq_iff_eq, decide_eq_true_eq] at hstill
  have hredeemed := (hboth c c' hc hc' havailable).mpr hstill.2
  rw [hstill.1] at hredeemed
  exact absurd hredeemed (by decide)

/-- Ten are redeemed, and in the run that leads there ten are credited. -/
theorem rewards_conserved_small :
    redeemedTotal smallRedemption.db = 10 ∧ ∃ c : Config Op Error World,
      conversions.Run System.anyOp ⟨smallOrder, []⟩ c ∧ rewardCredits c.world.db = 10 := by
  obtain ⟨amount, hmoney, hredeems⟩ := rewards_conserved.1 1 10 _ _ smallRedemption_run smallReward_within
  have hamount : amount = 10 := by
    have hten : (money 10).toOption = some 10 := by decide +kernel
    rw [hmoney] at hten
    exact Option.some.inj hten
  have hbefore : redeemedTotal smallReward.db = 0 := by decide +kernel
  constructor
  · rw [hredeems.total, hamount, hbefore, zero_add]
  · have hstarts : ∀ p ∈ [Orders.updateOrderStatus 1 .completed "Delivered.", Wallets.redeem 1 10],
        conversions.starts p := by
      intro p hp
      rcases List.mem_pair.mp hp with rfl | rfl
      · exact .completion (.updateOrderStatus 1 .completed _)
      · exact .redeem 1 10
    have hrun := conversions.schedule_run (s := smallOrder) hstarts
      [(0, { now := 1 }), (0, { now := 1 }), (0, { now := 1 }), (1, { now := 2 })]
    refine ⟨_, hrun, ?_⟩
    rw [rewards_conserved.2 _ _ hrun (by decide +kernel)]
    decide +kernel

end Superstore

import Superstore.Relational.Growth
import Superstore.Requests.Checked
import Superstore.Requests.Ready

/-!
# Rewards of completed orders

When an order is completed, its customer gets points and cashback, and whoever referred the customer a
reward. The cashback of an order is entered once, and a referral qualifies once. Points should be granted
once too; but the delivery of an order is confirmed with a status that has been read before, and staff may
have completed the order by then.
-/

namespace Superstore

open Interleaving Relational Relational.Tx
open Orders (completeOrder reward history)
open Payments (setCurrentStatus)

/-- The points that a customer has. -/
def pointsOf (db : Database) (userId : ℕ) : ℤ :=
  (db .rewardAccount).total fun _ a => if a.userId = userId then a.availablePoints else 0

/-- The points that the completed orders of a customer are worth, each of them counted once. -/
def earnedPoints (db : Database) (userId : ℕ) : ℤ :=
  (db .order).total fun _ o => if o.userId = userId ∧ o.currentStatus = .completed then ⌊o.total / 1000⌋ else 0

/-- No order has more than one cashback. -/
def CashbackOnce (db : Database) : Prop :=
  ∀ i j r s, (db .cashbackReward).find i = some r → (db .cashbackReward).find j = some s →
    r.orderId = s.orderId → i = j

/-- A referral qualifies while it is pending only. -/
def Referral.Qualifies (r r' : Referral) : Prop := r.status ≠ "PENDING" → r' = r

/-- Qualifying a referral is reflexive and transitive. -/
instance : IsPreorder Referral Referral.Qualifies where
  refl _ _ := rfl
  trans a b c h h' ha := by
    obtain rfl := h ha
    exact h' ha

/-- The rewards of an order are granted. -/
structure Grants (order : Order) (db db' : Database) : Prop where
  points : ∀ u, pointsOf db' u = pointsOf db u + if order.userId = u then ⌊order.total / 1000⌋ else 0
  cashback : CashbackOnce db → CashbackOnce db'
  referrals : (db .referral).Evolves Referral.Qualifies (db' .referral)

/-- Whether an order has been rewarded depends on the tables of rewards alone. -/
theorem Grants.congr {order : Order} {db db₁ db₂ db' : Database} (h : Grants order db₁ db₂)
    (hbefore : ∀ n ∈ Orders.rewardTables, db₁ n = db n) (hafter : ∀ n ∈ Orders.rewardTables, db' n = db₂ n) :
    Grants order db db' := by
  obtain ⟨hpoints, hcashback, hreferrals⟩ := h
  simp only [pointsOf, CashbackOnce, hbefore .rewardAccount (by decide), hbefore .cashbackReward (by decide),
    hbefore .referral (by decide)] at hpoints hcashback hreferrals
  constructor
  · simpa only [pointsOf, hafter .rewardAccount (by decide)] using hpoints
  · simpa only [CashbackOnce, hafter .cashbackReward (by decide)] using hcashback
  · rwa [hafter .referral (by decide)]

namespace Orders

/-- Looking up the rate of cashback or the reward of a referral. -/
theorem configured_reads (key : String) (default : ℚ) : Writes [] (configured key default) :=
  .bind (.first _ _) fun _ => .ofExcept _

/-- Points are added to the account of the customer, which is opened if need be. -/
theorem account_points (userId : ℕ) (points : ℤ) (db : Database) :
    wp db (do
      let account ← firstOrCreate .rewardAccount (fun _ a => a.userId == userId) { userId := userId }
      update .rewardAccount account.1 fun a => { a with availablePoints := a.availablePoints + points })
      fun _ db' => ∀ u, pointsOf db' u = pointsOf db u + if userId = u then points else 0 := by
  have hupdate {t : Table RewardAccount} {i : ℕ} {a : RewardAccount} (ha : t.find i = some a)
      (huser : a.userId = userId) (u : ℕ) :
      (t.update i fun a => { a with availablePoints := a.availablePoints + points }).total
        (fun _ a => if a.userId = u then a.availablePoints else 0) =
      (t.total fun _ a => if a.userId = u then a.availablePoints else 0) + if userId = u then points else 0 := by
    rw [Table.total_update ha, huser]
    split <;> simp
  rw [wp_bind, wp_firstOrCreate]
  constructor
  · rintro ⟨i, a⟩ hfirst
    obtain ⟨ha, huser⟩ := Table.find_of_first hfirst
    rw [wp_update]
    intro _ _ u
    rw [pointsOf, Database.set_self]
    exact hupdate ha (beq_iff_eq.mp huser) u
  · intro _
    rw [wp_update]
    intro _ _ u
    rw [pointsOf, Database.set_self, Database.set_self, hupdate (Table.find_create_self _ _) rfl,
      Table.total_create, ite_self, add_zero]
    rfl

/-- The cashback of an order is entered once. -/
theorem cashback_once (orderId : ℕ) (row : CashbackReward) (hrow : row.orderId = orderId) (db : Database) :
    wp db (firstOrCreate .cashbackReward (fun _ c => c.orderId == orderId) row)
      fun _ db' => CashbackOnce db → CashbackOnce db' := by
  rw [wp_firstOrCreate]
  refine ⟨fun _ _ => id, fun hnone honce => ?_⟩
  have hnew (i : ℕ) (r : CashbackReward) (hr : (db .cashbackReward).find i = some r) : r.orderId ≠ orderId := by
    simpa using Table.first_eq_none.mp hnone i r hr
  intro i j r s hr hs hsame
  rw [Database.set_self, Table.find_create] at hr hs
  split at hr <;> split at hs
  · next hi hj => exact hi.trans hj.symm
  · obtain rfl := Option.some.inj hr
    exact absurd (hsame.symm.trans hrow) (hnew j s hs)
  · obtain rfl := Option.some.inj hs
    exact absurd (hsame.trans hrow) (hnew i r hr)
  · exact honce i j r s hr hs hsame

/-- A pending referral qualifies, and nothing else changes. -/
theorem referral_qualifies (e : Env) (userId : ℕ) (answer : ℚ × ℤ) (db : Database) :
    wp db (do
      let referral ← first .referral fun _ r => r.referredUserId == userId
      match referral.filter (·.2.status == "PENDING") with
      | some referral => do
        let amount ← configured "referral_reward_amount" 1000
        update .referral referral.1 fun r =>
          { r with status := "QUALIFIED", qualifiedAt := some e.now, rewardAmount := amount }
        pure answer
      | none => pure answer) fun _ db' =>
        (db .referral).Evolves Referral.Qualifies (db' .referral) ∧ ∀ n ∉ [TableName.referral], db' n = db n := by
  rw [wp_bind, wp_first]
  split
  · next r hr =>
    obtain ⟨hfirst, hpending⟩ := Option.filter_eq_some_iff.mp hr
    obtain ⟨hfind, -⟩ := Table.find_of_first hfirst
    rw [wp_bind]
    refine wp_mono (configured_reads _ _ db) fun amount db₁ hsame => ?_
    obtain rfl : db₁ = db := funext fun n => hsame n List.not_mem_nil
    rw [wp_bind, wp_update]
    intro _ _
    rw [wp_pure, Database.set_self]
    constructor
    · refine .update fun r' hr' hsettled => ?_
      obtain rfl := Option.some.inj (hfind.symm.trans hr')
      exact absurd (beq_iff_eq.mp hpending) hsettled
    · exact fun n hn => Database.set_of_ne _ _ fun h => hn (List.mem_singleton.mpr h)
  · exact (wp_pure _ _ _).mpr ⟨.refl _, fun _ _ => rfl⟩

/-- The rewards of an order are granted as a whole. -/
theorem reward_grants (e : Env) (orderId : ℕ) (order : Order) (db : Database) :
    wp db (reward e orderId order) fun _ db' => Grants order db db' := by
  rw [reward]
  refine Writes.before (configured_reads "cashback_rate" defaultCashbackRate) fun percentage db₁ hsame => ?_
  obtain rfl : db₁ = db := funext fun n => hsame n List.not_mem_nil
  extract_lets eligible cashbackAmount points
  have hcashback : wp db₁ (when eligible do
      let _ ← firstOrCreate .cashbackReward (fun _ c => c.orderId == orderId)
        { userId := order.userId, orderId := orderId, percentage := percentage, amount := cashbackAmount
          createdAt := e.now }
      pure ()) fun _ db' => (CashbackOnce db₁ → CashbackOnce db') ∧
        ∀ n ∉ [TableName.cashbackReward], db' n = db₁ n := by
    refine wp_and ?_ (Writes.when (.bind (.firstOrCreate List.mem_cons_self _ _) fun _ => .pure ()) db₁)
    rw [wp_when]
    refine ⟨fun _ => ?_, fun _ => id⟩
    rw [wp_bind]
    exact wp_mono (cashback_once orderId _ rfl db₁) fun _ _ h => (wp_pure _ _ _).mpr h
  rw [wp_bind]
  refine wp_mono hcashback fun _ db₂ ⟨honce, h₂⟩ => ?_
  have hpoints := wp_and (account_points order.userId points db₂)
    (Writes.bind (Writes.firstOrCreate (List.mem_singleton_self TableName.rewardAccount) _ _)
      (fun account => Writes.update (List.mem_singleton_self _) account.1 fun a =>
        { a with availablePoints := a.availablePoints + points }) db₂)
  rw [wp_bind] at hpoints ⊢
  refine wp_mono hpoints fun account db₃ hupdate => ?_
  rw [wp_bind]
  refine wp_mono hupdate fun _ db₄ ⟨hpoints, h₄⟩ => ?_
  refine wp_mono (referral_qualifies e order.userId (cashbackAmount, points) db₄) fun _ db₅ ⟨hreferral, h₅⟩ => ?_
  constructor
  · intro u
    rw [pointsOf, h₅ .rewardAccount (by decide), ← pointsOf, hpoints u, pointsOf, pointsOf,
      h₂ .rewardAccount (by decide)]
  · intro h
    rw [CashbackOnce, h₅ .cashbackReward (by decide), h₄ .cashbackReward (by decide)]
    exact honce h
  · rwa [← h₂ .referral (by decide), ← h₄ .referral (by decide)]

/-- Completing an order grants its rewards. -/
theorem completeOrder_grants (e : Env) (orderId : ℕ) (order : Order) (changedById : Option ℕ) (reason : String)
    (db : Database) :
    wp db (completeOrder e orderId order changedById reason) fun _ db' => Grants order db db' := by
  rw [completeOrder, wp_bind, wp_update]
  intro _ _
  refine (history_writes _ _ _ _ _).before fun _ db₁ h₁ => ?_
  refine wp_mono (reward_grants e orderId order db₁) fun _ db₂ h => h.congr (fun n hn => ?_) fun _ _ => rfl
  have hne : n ≠ .order ∧ n ∉ [TableName.orderStatusHistory] := by revert n; decide
  rw [h₁ n hne.2, Database.set_of_ne _ _ hne.1]

/-- Handing an order over to its customer grants its rewards. -/
theorem writeDelivery_grants (e : Env) (id : ℕ) (order : Order) (riderId credentialId deliveryId : ℕ)
    (db : Database) : wp db (writeDelivery e id order riderId credentialId deliveryId)
      fun _ db' => Grants (setCurrentStatus .delivered order) db db' := by
  have hns (n : TableName) (hn : n ∈ rewardTables) : n ∉ pickupTables ++ Settlements.riderTables := by
    revert n
    decide
  have hbefore : Writes (pickupTables ++ Settlements.riderTables) (do
      consumeCredential e credentialId riderId
      update .order id (setCurrentStatus .delivered)
      updateDeliveryOf id fun d => { d with status := .delivered, deliveredAt := some e.now }
      Settlements.releaseRiderEarning e.now deliveryId
      history id order.currentStatus .delivered (some riderId) (some "Customer delivery QR verified.")) :=
    .bind ((consumeCredential_writes _ _ _).mono (by decide)) fun _ => .bind (.update (by decide) _ _) fun _ =>
      .bind ((updateDeliveryOf_writes _ _).mono (by decide)) fun _ =>
      .bind ((Settlements.releaseRiderEarning_writes _ _).mono (by decide)) fun _ =>
      (history_writes _ _ _ _ _).mono (by decide)
  have hfinal : wp db _ fun _ db' => Grants (setCurrentStatus .delivered order) db db' :=
    hbefore.before (f := fun _ => completeOrder e id (setCurrentStatus .delivered order) none
      "System completed the order after customer QR verification.") fun _ db₁ h₁ =>
        wp_mono (completeOrder_grants e id _ none _ db₁) fun _ db₂ h =>
          h.congr (fun n hn => h₁ n (hns n hn)) fun _ _ => rfl
  simpa only [writeDelivery, bind_assoc] using hfinal

end Orders

/-! ## Points and completed orders -/

/-- A completed order is worth its points. -/
def Order.worth (o : Order) (userId : ℕ) : ℤ :=
  if o.userId = userId ∧ o.currentStatus = .completed then ⌊o.total / 1000⌋ else 0

/-- Putting an order into a status changes what the completed orders are worth by what it is worth. -/
theorem earnedPoints_put {db db' : Database} {id : ℕ} {o : Order} {s : OrderStatus}
    (ho : (db .order).find id = some o) (h : db' .order = Orders.putStatus (some (id, s)) (db .order)) (u : ℕ) :
    earnedPoints db' u = earnedPoints db u + ((setCurrentStatus s o).worth u - o.worth u) := by
  rw [earnedPoints, h, Orders.putStatus, Option.elim_some, Table.total_update ho]
  rfl

/-- From one database to another, customers get the points of the orders that have been completed, each
of them once; orders have at most one cashback, and referrals qualify at most once. -/
structure RewardedOnce (db db' : Database) : Prop where
  points : ∀ u, pointsOf db' u + earnedPoints db u = pointsOf db u + earnedPoints db' u
  cashback : CashbackOnce db → CashbackOnce db'
  referrals : (db .referral).Evolves Referral.Qualifies (db' .referral)

/-- Rewarding orders once is reflexive and transitive. -/
instance : IsPreorder Database RewardedOnce where
  refl _ := ⟨fun _ => rfl, id, .refl _⟩
  trans _ _ _ h h' := ⟨fun u => by linarith [h.points u, h'.points u], h'.cashback ∘ h.cashback,
    h.referrals.trans h'.referrals⟩

/-- The tables that rewards are about. -/
def rewardsTables : List TableName := .order :: Orders.rewardTables

/-- Rewards that stay have been granted once. -/
theorem RewardedOnce.of_eq {db db' : Database} (h : ∀ n ∈ rewardsTables, db' n = db n) : RewardedOnce db db' where
  points u := by
    rw [pointsOf, pointsOf, earnedPoints, earnedPoints, h .rewardAccount (by decide), h .order (by decide)]
  cashback := by
    rw [CashbackOnce, CashbackOnce, h .cashbackReward (by decide)]
    exact id
  referrals := .of_eq (h .referral (by decide))

/-- An order that was not completed before is completed, and its rewards are granted. -/
theorem RewardedOnce.complete {db db' : Database} {id : ℕ} {o order : Order}
    (ho : (db .order).find id = some o) (hopen : o.currentStatus ≠ .completed)
    (horder : o.userId = order.userId ∧ o.total = order.total) (hgrants : Grants order db db')
    (hput : db' .order = Orders.putStatus (some (id, .completed)) (db .order)) : RewardedOnce db db' where
  points u := by
    have hnone : o.worth u = 0 := if_neg fun h => hopen h.2
    have hworth : (setCurrentStatus .completed o).worth u = if order.userId = u then
        ⌊order.total / 1000⌋ else 0 := by
      rw [← horder.1, ← horder.2]
      exact if_congr (and_iff_left rfl) rfl rfl
    rw [hgrants.points u, earnedPoints_put ho hput u, hworth, hnone]
    ring
  cashback := hgrants.cashback
  referrals := hgrants.referrals

/-- The intervention of staff grants the rewards of an order that it completes. -/
theorem Orders.intervene_rewards (e : Env) (orderId : ℕ) (status : OrderStatus) (reason : String) (db : Database) :
    wp db (intervene e orderId status reason) fun _ db' => RewardedOnce db db' := by
  have hgrants : wp db (intervene e orderId status reason) fun _ db' => ∀ o, (db .order).find orderId = some o →
      if status = .completed then Grants o db db' else ∀ n ∈ rewardTables, db' n = db n := by
    rw [intervene, wp_bind, wp_find, wp_bind, wp_orThrow]
    intro order horder
    rw [wp_bind, wp_require]
    intro _
    rw [wp_bind, wp_require]
    intro _
    rw [wp_bind]
    split
    · next hcompleted =>
      rw [wp_bind]
      refine wp_mono (completeOrder_grants e orderId order none _ db) fun _ db₁ h => ?_
      refine (wp_pure _ _ _).mpr ((wp_findOrThrow _ _ _ _).mpr fun _ _ o ho => ?_)
      obtain rfl := Option.some.inj (horder.symm.trans ho)
      exact h
    · next hother =>
      refine wp_mono ((Writes.bind (.update (by decide) _ _) fun _ => (history_writes _ _ _ _ _).mono (by decide) :
        Writes statusTables _) db) fun _ db₁ h => (wp_findOrThrow _ _ _ _).mpr fun _ _ o ho => ?_
      exact fun n hn => h n (by revert n; decide)
  refine wp_mono (wp_and (intervene_puts e orderId status reason db) hgrants) ?_
  rintro _ db' ⟨⟨o, ho, -, hnext, hput⟩, hgrants⟩
  have hopen : o.currentStatus ≠ .completed := fun h => not_terminal_of_canTransition hnext (.inl h)
  have hrest := hgrants o ho
  split at hrest
  · next hcompleted => exact .complete ho hopen ⟨rfl, rfl⟩ hrest (hcompleted ▸ hput)
  · next hother =>
    refine ⟨fun u => ?_, ?_, .of_eq (hrest .referral (by decide))⟩
    · have hnone : o.worth u = 0 := if_neg fun h => hopen h.2
      have hnone' : (setCurrentStatus status o).worth u = 0 := if_neg fun h => hother h.2
      rw [earnedPoints_put ho hput u, hnone, hnone', sub_self, add_zero, pointsOf, pointsOf,
        hrest .rewardAccount (by decide)]
    · rw [CashbackOnce, CashbackOnce, hrest .cashbackReward (by decide)]
      exact id

/-! ## Runs -/

/-- The requests that complete orders. -/
inductive CompletionRequest : Request Unit → Prop
  | confirmDelivery (riderId id : ℕ) (token : String) : CompletionRequest (Orders.confirmDelivery riderId id token)
  | updateOrderStatus (id : ℕ) (status : OrderStatus) (reason : String) :
      CompletionRequest (Orders.updateOrderStatus id status reason)

/-- The requests that complete orders, while other code leaves orders and rewards alone. -/
def completions : System Op Error World Env := { machine with
  starts := CompletionRequest
  background := fun w w' => ∀ n ∈ rewardsTables, w'.db n = w.db n }

/-- What a delivery's confirmation has made sure of before it completes the order: the order is the one
that it has read, but for its status. -/
def Op.OrderRead : {α : Type} → Op α → Database → Prop
  | _, .writeDelivery id order _ _ _, db => ∃ o, (db .order).find id = some o ∧ order.Restated o
  | _, .read _, _ | _, .now, _ | _, .notify, _ | _, .intervene _ _ _, _ => True
  | _, _, _ => False

/-- A delivery's confirmation does not meet an order that has been completed. -/
def Op.sparesCompleted : {α : Type} → Op α → Env → Database → Bool
  | _, .writeDelivery id _ _ credentialId _, e, db => !Orders.usable e.now credentialId db ||
    ((db .order).find id).all fun o => o.currentStatus != .completed
  | _, _, _, _ => true

/-- What is kept of rewards where completed orders are spared. -/
def rewards : Contract Op World Env where
  inv _ := True
  guar w w' := RewardedOnce w.db w'.db ∧ (w.db .order).Evolves Order.Restated (w'.db .order)
  known op w := op.OrderRead w.db
  allowed op e w := e.fails || op.sparesCompleted e w.db
  refl _ := ⟨refl_of RewardedOnce _, .refl _⟩
  trans h h' := ⟨trans_of RewardedOnce h.1 h'.1, h.2.trans h'.2⟩

/-- Every operation keeps rewards single. -/
theorem rewards_safe {α : Type} (op : Op α) : rewards.Safe machine op := by
  intro e w _ hknown hallowed
  refine ⟨trivial, ?_, exec_restates op e w⟩
  change RewardedOnce w.db (op.exec e w).2.db
  by_cases hfails : e.fails = true
  · rw [exec_fails_db hfails]
    exact refl_of RewardedOnce _
  have hspares := (Bool.or_eq_true_iff.mp hallowed).resolve_left hfails
  have hrun {α : Type} {op : Op α} {m : Env → Tx α} (hop : op.transaction = some m)
      (hm : wp w.db (m e) fun _ db => RewardedOnce w.db db) : RewardedOnce w.db (op.exec e w).2.db :=
    exec_transaction hop (Φ := fun w' => RewardedOnce w.db w'.db) (refl_of RewardedOnce _) hm
  cases op <;> try exact hknown.elim
  case read f => exact .of_eq fun n _ => exec_frame (.read f) e w n List.not_mem_nil
  case now => exact refl_of RewardedOnce _
  case notify => exact .of_eq fun n _ => exec_frame .notify e w n List.not_mem_nil
  case intervene => exact hrun rfl (Orders.intervene_rewards e _ _ _ w.db)
  case writeDelivery id order riderId credentialId deliveryId =>
    obtain ⟨o, ho, hread⟩ := hknown
    refine hrun rfl (wp_mono (wp_and (Orders.writeDelivery_grants e _ _ _ _ _ w.db)
      (Orders.writeDelivery_puts e _ _ _ _ _ w.db)) fun _ db h => ?_)
    obtain ⟨hgrants, husable, hput⟩ := h
    simp only [Op.sparesCompleted, husable, ho, Bool.not_true, Bool.false_or, Option.all_some,
      bne_iff_ne] at hspares
    refine .complete ho hspares ⟨?_, ?_⟩ hgrants hput <;> rw [hread] <;> rfl

/-- A delivery's confirmation has read the order that it completes. -/
theorem CompletionRequest.ready {p : Request Unit} (h : CompletionRequest p) (w : World) :
    rewards.Ready machine p w := by
  have hread {α : Type} (f : Database → Except Error α) (w : World) : rewards.known (.read f) w := trivial
  cases h with
  | confirmDelivery riderId id token =>
    refine ready_selectOrThrow (hread _) fun w₁ r _ _ hr => .then (fun _ _ _ => trivial) fun _ w₂ h₂ _ => ?_
    refine ready_read (hread _) fun w₃ credentialId h₃ _ _ => ready_check fun _ => ?_
    refine .then (fun w₄ h₄ _ => ?_) fun _ _ _ _ => .then (fun _ _ _ => trivial) fun _ _ _ _ =>
      ready_onlyIf fun _ => .call fun _ _ _ => trivial
    exact (h₂.2.trans (h₃.2.trans h₄.2)) id r.1 (Orders.find_of_riderOrder hr)
  | updateOrderStatus id status reason =>
    exact .then (fun _ _ _ => trivial) fun _ _ _ _ => .then (fun _ _ _ => trivial) fun _ _ _ _ =>
      ready_onlyIf fun _ => .call fun _ _ _ => trivial

/-- The requests that complete orders keep rewards single. -/
theorem rewards_holds : rewards.Holds completions where
  starts h w _ := h.ready w
  performs op := rewards_safe op
  background h _ := ⟨trivial, .of_eq h, .of_eq (h .order (by decide))⟩

/-- In every run in which no delivery is confirmed of an order that has been completed by then, customers
get the points of each order once, every order has one cashback at most, and referrals qualify once. -/
theorem rewards_granted_once {w : World} {c : Config Op Error World}
    (hrun : completions.Run (fun op e c => e.fails || op.sparesCompleted e c.world.db) ⟨w, []⟩ c) :
    RewardedOnce w.db c.world.db :=
  (rewards_holds.run (⟨trivial, by simp⟩ : rewards.Sound completions ⟨w, []⟩) hrun).2.1

/-! ## An order that is completed twice -/

/-- An order worth five points that is out for delivery. -/
def outForDelivery : World where
  db := ((Database.empty.set .order (Table.empty.create
      { orderNumber := "A-1", userId := 1, storeId := 1, fulfillmentType := .delivery
        currentStatus := .outForDelivery, subtotal := 5000, total := 5000, items := [] })).set .delivery
      (Table.empty.create { orderId := 1, riderId := some 3, status := .outForDelivery })).set .orderQrCredential
      (Table.empty.create { orderId := 1, purpose := "CUSTOMER_DELIVERY", token := "t", expiresAt := 100 })

/-- The rider confirms the delivery while staff complete the order. -/
def completedTwice : List (Request Unit) :=
  [Orders.confirmDelivery 3 1 "t", Orders.updateOrderStatus 1 .delivered "Reported by phone.",
    Orders.updateOrderStatus 1 .completed "Reported by phone."]

/-- The requests of the example can be made. -/
theorem completedTwice_start : ∀ p ∈ completedTwice, completions.starts p := by
  intro p hp
  simp only [completedTwice, List.mem_cons, List.not_mem_nil, or_false] at hp
  rcases hp with rfl | rfl | rfl
  · exact .confirmDelivery 3 1 "t"
  · exact .updateOrderStatus 1 .delivered _
  · exact .updateOrderStatus 1 .completed _

/-- The rider's request has read the order when staff complete it, and then completes it again. -/
def staffInBetween : List (ℕ × Env) :=
  List.replicate 3 (0, { now := 1 }) ++ [(1, { now := 2 }), (2, { now := 3 }), (0, { now := 4 })]

/-- The rider's request is over before staff look at the order. -/
def staffAfterwards : List (ℕ × Env) :=
  List.replicate 4 (0, { now := 1 }) ++ [(1, { now := 2 }), (2, { now := 3 })]

/-- The customer gets ten points for an order that is worth five. -/
theorem rewards_can_be_granted_twice :
    ¬∀ (w : World) (c : Config Op Error World), completions.Run System.anyOp ⟨w, []⟩ c →
      RewardedOnce w.db c.world.db := by
  intro h
  have honce := (h outForDelivery _ (completions.schedule_run completedTwice_start staffInBetween)).points 1
  revert honce
  decide +kernel

/-- The customer gets five points when staff come too late. -/
theorem rewards_granted_once_late :
    pointsOf (completions.follow ⟨outForDelivery, completedTwice⟩ staffAfterwards).world.db 1 = 5 := by
  have hallows : completions.allows (fun op e c => e.fails || op.sparesCompleted e c.world.db)
      ⟨outForDelivery, completedTwice⟩ staffAfterwards := by decide +kernel
  have hrun : completions.Run (fun op e c => e.fails || op.sparesCompleted e c.world.db) ⟨outForDelivery, []⟩
      (completions.follow ⟨outForDelivery, completedTwice⟩ staffAfterwards) :=
    (completions.start_all_run completedTwice_start).trans (completions.follow_run_of hallows)
  have honce := (rewards_granted_once hrun).points 1
  have hbefore : pointsOf outForDelivery.db 1 = 0 ∧ earnedPoints outForDelivery.db 1 = 0 := by decide +kernel
  have hafter : earnedPoints
      (completions.follow ⟨outForDelivery, completedTwice⟩ staffAfterwards).world.db 1 = 5 := by
    decide +kernel
  rw [hbefore.1, hbefore.2, hafter] at honce
  simpa using honce

end Superstore

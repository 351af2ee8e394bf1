import Superstore.Relational.Growth
import Superstore.Requests.Checked
import Superstore.Requests.Scanning

/-!
# Hand-over credentials

A credential is used up or withdrawn once, and never becomes active again. Of the credentials of one
order for one hand-over at most one should be usable at a time; but the search for a usable one, its
withdrawal and the issue of the next are three statements, so that two requests may both issue one.
-/

namespace Superstore

open Interleaving Relational.Tx

/-- A credential that can be used at some time. -/
def OrderQrCredential.UsableAt (t : ℕ) (c : OrderQrCredential) : Prop := c.status = "ACTIVE" ∧ t < c.expiresAt

/-- A credential stays what it is for, and as it is once it has been used or withdrawn. -/
structure OrderQrCredential.Follows (c c' : OrderQrCredential) : Prop where
  orderId : c'.orderId = c.orderId
  purpose : c'.purpose = c.purpose
  token : c'.token = c.token
  expiresAt : c'.expiresAt = c.expiresAt
  closed : c.status ≠ "ACTIVE" → c' = c

/-- Following on from a code is reflexive and transitive. -/
instance : IsPreorder OrderQrCredential OrderQrCredential.Follows where
  refl _ := ⟨rfl, rfl, rfl, rfl, fun _ => rfl⟩
  trans _ _ _ h h' :=
    ⟨h'.orderId.trans h.orderId, h'.purpose.trans h.purpose, h'.token.trans h.token,
      h'.expiresAt.trans h.expiresAt, fun hc => by
        obtain rfl := h.closed hc
        exact h'.closed hc⟩

/-- A credential that can be used could be used before. -/
theorem OrderQrCredential.Follows.usable {c c' : OrderQrCredential} {t : ℕ} (h : c.Follows c')
    (hc : c'.UsableAt t) : c.UsableAt t := by
  refine ⟨?_, h.expiresAt ▸ hc.2⟩
  by_contra hactive
  obtain rfl := h.closed hactive
  exact hactive hc.1

/-- Credentials follow each other, and none is issued. -/
abbrev CredentialsKept (db db' : Database) : Prop :=
  (db .orderQrCredential).Grows (fun _ => False) OrderQrCredential.Follows (db' .orderQrCredential)

/-- Keeping codes is reflexive and transitive. -/
instance : IsPreorder Database CredentialsKept where
  refl db := .refl (db .orderQrCredential)
  trans _ _ _ := .trans

namespace Orders

/-- A transaction that writes no codes keeps them. -/
theorem kept_of_writes {α : Type} {ns : List TableName} {m : Tx α} (h : Writes ns m)
    (hns : .orderQrCredential ∉ ns) : Within CredentialsKept m :=
  .of_writes h fun _ _ hsame => .of_eq (hsame _ hns)

/-- Active credentials that are closed follow themselves. -/
theorem close_kept {p : ℕ → OrderQrCredential → Bool} {f : OrderQrCredential → OrderQrCredential}
    (hp : ∀ i (c : OrderQrCredential), p i c → c.status = "ACTIVE")
    (hf : ∀ c : OrderQrCredential, c.status = "ACTIVE" → c.Follows (f c)) :
    Within CredentialsKept (updateMany .orderQrCredential p f) :=
  fun _ => grows_updateMany fun i c _ hpc => hf c (hp i c hpc)

/-- Calling off an order revokes its codes, and keeps the others. -/
theorem callOff_kept (now orderId : ℕ) (order : Order) (history : OrderStatusHistory) :
    Within CredentialsKept (Payments.callOff now orderId order history) := by
  have hshelf : Writes [.storeProduct] (order.items.forM Payments.restock) :=
    .forM fun item _ => Payments.restock_writes item
  refine .bind (kept_of_writes hshelf (by decide)) fun _ => ?_
  refine .bind (kept_of_writes (.update (List.mem_singleton_self TableName.order) _ _) (by decide)) fun _ => ?_
  refine .bind
    (kept_of_writes (.updateMany (List.mem_singleton_self TableName.delivery) _ _) (by decide)) fun _ => ?_
  refine .bind (kept_of_writes (.updateMany (List.mem_singleton_self TableName.pickup) _ _) (by decide)) fun _ => ?_
  refine .bind (close_kept (fun _ c hc => ?_) fun c hc => ⟨rfl, rfl, rfl, rfl, fun h => absurd hc h⟩) fun _ => ?_
  · exact beq_iff_eq.mp ((Bool.and_eq_true _ _).mp hc).2
  · exact .bind (kept_of_writes (.create (List.mem_singleton_self TableName.orderStatusHistory) _) (by decide))
      fun _ => .pure _

/-- Placing, confirming and calling off orders, assigning deliveries and the intervention of staff
issue no credential. -/
theorem respects_credentialsKept : Respects OrderStatus.Open (fun _ => True) CredentialsKept where
  frame _ _ hsame := .of_eq (hsame _ (by decide))
  placeOrder e userId q order := kept_of_writes (Checkout.placeOrder_writes e userId q order) (by decide)
  confirmOrder e userId a := kept_of_writes (Payments.confirmOrder_writes e userId a) (by decide)
  callOff _ _ _ _ _ := callOff_kept _ _ _ _ _
  claimDelivery e riderId deliveryId offerId :=
    kept_of_writes (claimDelivery_writes e riderId deliveryId offerId) (by decide)
  intervene e orderId status reason _ := kept_of_writes (intervene_writes e orderId status reason) (by decide)

/-- Using up a code keeps the others. -/
theorem consumeCredential_kept (e : Env) (credentialId riderId : ℕ) :
    Within CredentialsKept (consumeCredential e credentialId riderId) := by
  refine .bind (close_kept (fun _ c hc => ?_) fun c hc => ⟨rfl, rfl, rfl, rfl, fun h => absurd hc h⟩)
    fun _ => .of_reads (.require _ _)
  simp only [Bool.and_eq_true, beq_iff_eq] at hc
  exact hc.1.2

/-- Revoking codes keeps the others. -/
theorem revokeCredentials_kept (orderId : ℕ) (purpose : String) (now : ℕ) :
    Within CredentialsKept (revokeCredentials orderId purpose now) := by
  refine .bind (close_kept (fun _ c hc => ?_) fun c hc => ⟨rfl, rfl, rfl, rfl, fun h => absurd hc h⟩)
    fun _ => .pure _
  exact beq_iff_eq.mp ((Bool.and_eq_true _ _).mp hc).2

end Orders

/-- The order and the hand-over that an operation issues a credential for. -/
def Op.issues : {α : Type} → Op α → Option (ℕ × String)
  | _, .createCredential orderId purpose _ _ => some (orderId, purpose)
  | _, _ => none

/-- An operation that issues no credential keeps them. -/
theorem exec_credentials {α : Type} {op : Op α} (h : op.issues = none) (e : Env) (w : World) :
    CredentialsKept w.db (op.exec e w).2.db := by
  by_cases hwrites : TableName.orderQrCredential ∈ op.writes
  swap
  · exact .of_eq (exec_frame op e w _ hwrites)
  by_cases hchecked : op.checked = true
  · exact Orders.respects_credentialsKept.exec hchecked op.open_of_calls (fun _ _ => trivial) e w
  have hkept {α : Type} {op : Op α} {m : Env → Tx α} (hop : op.transaction = some m)
      (hm : Within CredentialsKept (m e)) : CredentialsKept w.db (op.exec e w).2.db :=
    exec_transaction hop (Φ := fun w' => CredentialsKept w.db w'.db) (refl_of _ _) (hm w.db)
  cases op <;> dsimp only [Op.writes] at hwrites <;>
    first | exact absurd rfl hchecked | exact absurd hwrites (by decide) | clear hwrites hchecked
  case revokeCredentials => exact hkept rfl (Orders.revokeCredentials_kept _ _ _)
  case createCredential => cases h
  case writePickup =>
    refine hkept rfl (.bind (Orders.consumeCredential_kept e _ _) fun _ => ?_)
    refine .bind (Orders.kept_of_writes (.update (List.mem_singleton_self TableName.order) _ _)
      (by decide)) fun _ => ?_
    refine .bind (Orders.kept_of_writes (Orders.updateDeliveryOf_writes _ _) (by decide)) fun _ => ?_
    exact Orders.kept_of_writes (Orders.history_writes _ _ _ _ _) (by decide)
  case writeDelivery =>
    refine hkept rfl (.bind (Orders.consumeCredential_kept e _ _) fun _ => ?_)
    refine .bind (Orders.kept_of_writes (.update (List.mem_singleton_self TableName.order) _ _)
      (by decide)) fun _ => ?_
    refine .bind (Orders.kept_of_writes (Orders.updateDeliveryOf_writes _ _) (by decide)) fun _ => ?_
    refine .bind (Orders.kept_of_writes (Settlements.releaseRiderEarning_writes _ _) (by decide)) fun _ => ?_
    refine .bind (Orders.kept_of_writes (Orders.history_writes _ _ _ _ _) (by decide)) fun _ => ?_
    exact Orders.kept_of_writes (Orders.completeOrder_writes e _ _ _ _) (by decide)

/-! ## One credential at a time -/

/-- Some credential of an order for a hand-over can be used. -/
def issued (t : ℕ) (key : ℕ × String) (db : Database) : Bool :=
  ((db .orderQrCredential).first fun _ c =>
    c.orderId == key.1 && c.purpose == key.2 && c.status == "ACTIVE" && decide (t < c.expiresAt)).isSome

/-- No credential is issued while one for the same hand-over of the order can be used. -/
def Op.sparesIssue {α : Type} (op : Op α) (e : Env) (db : Database) : Bool :=
  op.issues.all fun key => !issued e.now key db

/-- At a time at most one credential of an order can be used for a hand-over. -/
def SingleAt (t : ℕ) (db : Database) : Prop :=
  ∀ i j c d, (db .orderQrCredential).find i = some c → (db .orderQrCredential).find j = some d →
    c.orderId = d.orderId → c.purpose = d.purpose → c.UsableAt t → d.UsableAt t → i = j

/-- A code that can be used has been issued. -/
theorem issued_of_usable {t : ℕ} {db : Database} {i : ℕ} {c : OrderQrCredential}
    (hc : (db .orderQrCredential).find i = some c) (husable : c.UsableAt t) :
    issued t (c.orderId, c.purpose) db := by
  by_contra hnone
  rw [issued, Option.not_isSome_iff_eq_none, Relational.Table.first_eq_none] at hnone
  simpa [husable.1, husable.2] using hnone i c hc

/-- Where credentials are kept, there are no more usable ones than before. -/
theorem SingleAt.kept {t : ℕ} {db db' : Database} (h : SingleAt t db) (hkept : CredentialsKept db db') :
    SingleAt t db' := by
  intro i j c d hc hd horder hpurpose husable husable'
  obtain ⟨c₀, hc₀, hfc⟩ := hkept.back hc
  obtain ⟨d₀, hd₀, hfd⟩ := hkept.back hd
  refine h i j c₀ d₀ hc₀ hd₀ ?_ ?_ (hfc.usable husable) (hfd.usable husable')
  · rw [← hfc.orderId, horder, hfd.orderId]
  · rw [← hfc.purpose, hpurpose, hfd.purpose]

/-- The contract of credentials, for a time that no step comes after. -/
def credentials (t : ℕ) : Contract Op World Env where
  inv w := SingleAt t w.db
  guar w w' := (w.db .orderQrCredential).Evolves OrderQrCredential.Follows (w'.db .orderQrCredential)
  known _ _ := True
  allowed op e w := e.now ≤ t ∧ (e.fails || op.sparesIssue e w.db)
  refl _ := .refl _
  trans := .trans

/-- A credential that is issued while none can be used is the only one. -/
theorem createCredential_single {t : ℕ} {orderId : ℕ} {purpose token : String} {expiresAt : ℕ} {e : Env}
    {db : Database} (h : SingleAt t db) (hnow : e.now ≤ t)
    (hspares : (Op.createCredential orderId purpose token expiresAt).sparesIssue e db) :
    wp db (Orders.createCredential orderId purpose token expiresAt) fun _ db' =>
      SingleAt t db' ∧ (db .orderQrCredential).Evolves OrderQrCredential.Follows (db' .orderQrCredential) := by
  rw [Orders.createCredential, wp_createUnique]
  intro _
  rw [SingleAt, Relational.Database.set_self]
  refine ⟨?_, .create _ _⟩
  have hnone (j : ℕ) (d : OrderQrCredential) (hd : (db .orderQrCredential).find j = some d)
      (horder : d.orderId = orderId) (hpurpose : d.purpose = purpose) : ¬d.UsableAt t := by
    intro husable
    have hissued := issued_of_usable hd ⟨husable.1, hnow.trans_lt husable.2⟩
    rw [horder, hpurpose] at hissued
    simp [Op.sparesIssue, Op.issues, hissued] at hspares
  intro i j c d hc hd horder hpurpose husable husable'
  rw [Relational.Table.find_create] at hc hd
  split at hc <;> split at hd
  · next hi hj => exact hi.trans hj.symm
  · obtain rfl := Option.some.inj hc
    exact absurd husable' (hnone j d hd horder.symm hpurpose.symm)
  · obtain rfl := Option.some.inj hd
    exact absurd husable (hnone i c hc horder hpurpose)
  · exact h i j c d hc hd horder hpurpose husable husable'

/-- Every operation keeps codes single. -/
theorem credentials_safe {t : ℕ} {α : Type} (op : Op α) : (credentials t).Safe machine op := by
  rintro e w hinv - ⟨hnow, hallowed⟩
  rcases Bool.or_eq_true_iff.mp hallowed with hfails | hspares
  · have hsame : (op.exec e w).2.db = w.db := exec_fails_db hfails
    exact ⟨hinv.kept (.of_eq (congrFun hsame _)), .of_eq (congrFun hsame _)⟩
  cases hissues : op.issues with
  | none =>
    have hkept := exec_credentials hissues e w
    exact ⟨hinv.kept hkept, hkept.kept⟩
  | some key =>
    cases op <;> cases hissues
    exact exec_transaction (show (Op.createCredential _ _ _ _).transaction = some fun _ => _ from rfl)
      (Φ := fun w' => SingleAt t w'.db ∧
        (w.db .orderQrCredential).Evolves OrderQrCredential.Follows (w'.db .orderQrCredential))
      ⟨hinv, .refl _⟩ (createCredential_single hinv hnow hspares)

/-- The requests about codes keep them single. -/
theorem credentials_holds {t : ℕ} : (credentials t).Holds scanning where
  starts _ s _ := Contract.informed_of_forall (fun _ _ => trivial) _ s
  performs op := credentials_safe op
  background h hinv := ⟨hinv.kept (.of_eq h.credentials), .of_eq h.credentials⟩

/-- In every run that issues no credential while another one can be used for the same hand-over of the
order, at most one credential can be used for it at any time from the last step on; and whatever the
run does, a credential that has been used or withdrawn stays as it is. -/
theorem credential_single {t : ℕ} {c c' : Config Op Error World} (hsingle : SingleAt t c.world.db)
    (hrun : scanning.Run (fun op e c => e.now ≤ t ∧ (e.fails || op.sparesIssue e c.world.db)) c c') :
    SingleAt t c'.world.db ∧ ∀ i r, (c.world.db .orderQrCredential).find i = some r →
      ∃ r', (c'.world.db .orderQrCredential).find i = some r' ∧ (r.status ≠ "ACTIVE" → r' = r) := by
  have hsound : (credentials t).Sound scanning c :=
    ⟨hsingle, fun p _ => Contract.informed_of_forall (fun _ _ => trivial) p _⟩
  obtain ⟨⟨hinv, -⟩, hguar⟩ := credentials_holds.run hsound hrun
  refine ⟨hinv, fun i r hr => ?_⟩
  obtain ⟨r', hr', hfollows⟩ := hguar i r hr
  exact ⟨r', hr', hfollows.closed⟩

/-! ## Two requests for one hand-over -/

/-- A packed order in a store that is run by its owner. -/
def packedOrder : World where
  db := (Database.empty.set .store (Relational.Table.empty.create
      { ownerUserId := 2 })).set
    .order (Relational.Table.empty.create
      { userId := 1, storeId := 1, orderNumber := "A-1", fulfillmentType := .delivery
        currentStatus := .readyForPickup, subtotal := 100, total := 100, items := [] })

/-- The store asks for the credential of the hand-over twice. -/
def twoHandoffs : List (Request Unit) := List.replicate 2 (discard (Orders.handoffQr 2 1 1))

/-- A request with its own token, at some time. -/
def withToken (token : String) : Env := { now := 1, uuid := token }

/-- Both requests withdraw what there is before either of them issues a credential. -/
def bothIssue : List (ℕ × Env) :=
  List.replicate 5 (0, withToken "a") ++ List.replicate 5 (1, withToken "b") ++
    List.replicate 2 (0, withToken "a") ++ List.replicate 2 (1, withToken "b")

/-- Two credentials of one order can be used for the hand-over at a time. -/
theorem credentials_can_be_two :
    ¬∀ (w : World) (c : Config Op Error World) (t : ℕ), SingleAt t w.db →
      scanning.Run (fun _ e _ => e.now ≤ t) ⟨w, []⟩ c → SingleAt t c.world.db := by
  intro h
  have hstarts : ∀ p ∈ twoHandoffs, scanning.starts p := by
    intro p hp
    rw [List.eq_of_mem_replicate hp]
    exact .inr (.handoffQr 2 1 1)
  have hnone : SingleAt 1 packedOrder.db := fun i j c d hc => by cases hc
  have hrun : scanning.Run (fun _ e _ => e.now ≤ 1) ⟨packedOrder, []⟩
      (scanning.follow ⟨packedOrder, twoHandoffs⟩ bothIssue) :=
    (scanning.start_all_run hstarts).trans (scanning.follow_run_env (Φ := fun e => e.now ≤ 1) (by decide))
  have htwo : ∀ i ∈ [1, 2], (((scanning.follow ⟨packedOrder, twoHandoffs⟩ bothIssue).world.db
      .orderQrCredential).find i).map (fun c => (c.orderId, c.purpose, c.status, c.expiresAt)) =
        some (1, "RIDER_PICKUP", "ACTIVE", 1800001) := by decide +kernel
  obtain ⟨c, hc, hcs⟩ := Option.map_eq_some_iff.mp (htwo 1 (by decide))
  obtain ⟨d, hd, hds⟩ := Option.map_eq_some_iff.mp (htwo 2 (by decide))
  simp only [Prod.mk.injEq] at hcs hds
  have hsame := h packedOrder _ 1 hnone hrun 1 2 c d hc hd (hcs.1.trans hds.1.symm)
    (hcs.2.1.trans hds.2.1.symm) ⟨hcs.2.2.1, by omega⟩ ⟨hds.2.2.1, by omega⟩
  exact absurd hsame (by decide)

/-- The first request ends before the second one begins. -/
def secondReplaces : List (ℕ × Env) :=
  List.replicate 7 (0, withToken "a") ++ List.replicate 7 (1, withToken "b")

/-- One after the other, the requests leave one credential that can be used: the second one, in place
of the first. -/
theorem credential_single_replaced :
    SingleAt 1 (scanning.follow ⟨packedOrder, twoHandoffs⟩ secondReplaces).world.db := by
  have hallows : scanning.allows (fun op e c => decide (e.now ≤ 1) && (e.fails || op.sparesIssue e c.world.db))
      ⟨packedOrder, twoHandoffs⟩ secondReplaces := by decide +kernel
  have hnone : SingleAt 1 packedOrder.db := fun i j c d hc => by cases hc
  have hrun : scanning.Run (fun op e c => e.now ≤ 1 ∧ (e.fails || op.sparesIssue e c.world.db))
      ⟨packedOrder, twoHandoffs⟩ (scanning.follow ⟨packedOrder, twoHandoffs⟩ secondReplaces) :=
    System.Run.mono scanning (scanning.follow_run_of hallows) fun op e c h => by simpa using h
  exact (credential_single hnone hrun).1

end Superstore

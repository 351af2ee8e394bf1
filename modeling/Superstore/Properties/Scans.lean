import Superstore.Requests.Checked
import Superstore.Requests.Scanning

/-!
# Scans of order lines

The lines of an order are scanned before it is packed, and again before its rider takes it. Nobody
packs an order or takes it away before all of its lines have been scanned. A line should not be
scanned more often than it was ordered; but a scan is checked against a list that has been read
before, so that two scans may both find room for the last unit.
-/

namespace Superstore

open Interleaving Relational.Tx
open Orders (scannedQuantity checklistComplete)

/-- The scans that an order counts. -/
theorem Orders.scannedQuantity_create (orderId itemId : ℕ) (phase : String) (db : Database) (s : OrderItemScan) :
    scannedQuantity orderId itemId phase (db.set .orderItemScan ((db .orderItemScan).create s)) =
      scannedQuantity orderId itemId phase db +
        if s.orderId = orderId ∧ s.orderItemId = itemId ∧ s.phase = phase ∧ s.status = "VERIFIED"
          then s.quantity else 0 := by
  rw [scannedQuantity, Relational.Database.set_self, Relational.Table.many_create, List.map_append,
    List.sum_append, scannedQuantity]
  congr 1
  by_cases h : s.orderId = orderId ∧ s.orderItemId = itemId ∧ s.phase = phase ∧ s.status = "VERIFIED"
  · rw [if_pos h, if_pos (by simp [h])]
    exact List.sum_singleton
  · rw [if_neg h, if_neg (by simpa [and_assoc] using h)]
    rfl

/-- Orders keep their lines, and no scan of a line is lost. -/
structure ScansKept (db db' : Database) : Prop where
  orders : (db .order).Evolves Order.Restated (db' .order)
  scans : ∀ orderId itemId phase,
    scannedQuantity orderId itemId phase db ≤ scannedQuantity orderId itemId phase db'

/-- Keeping the scans is reflexive and transitive. -/
instance : IsPreorder Database ScansKept where
  refl _ := ⟨.refl _, fun _ _ _ => le_rfl⟩
  trans _ _ _ h h' := ⟨h.orders.trans h'.orders, fun i j p => (h.scans i j p).trans (h'.scans i j p)⟩

/-- Where the scans stay as they are, their numbers do. -/
theorem Orders.scannedQuantity_congr {db db' : Database} (h : db' .orderItemScan = db .orderItemScan)
    (orderId itemId : ℕ) (phase : String) :
    scannedQuantity orderId itemId phase db' = scannedQuantity orderId itemId phase db := by
  rw [scannedQuantity, scannedQuantity, h]

/-- A line is scanned at most as often as it was ordered, and only lines of orders are scanned. -/
structure ScansBounded (db : Database) : Prop where
  found : ∀ i s, (db .orderItemScan).find i = some s → ∃ o, (db .order).find s.orderId = some o
  bounded : ∀ id o, (db .order).find id = some o → ∀ item ∈ o.items, ∀ phase,
    scannedQuantity id item.id phase db ≤ item.quantity

/-- Nothing of an order that does not exist has been scanned. -/
theorem ScansBounded.scannedQuantity_of_none {db : Database} (h : ScansBounded db) {id : ℕ}
    (hnone : (db .order).find id = none) (itemId : ℕ) (phase : String) :
    scannedQuantity id itemId phase db = 0 := by
  have hempty : ((db .orderItemScan).many fun _ s => s.orderId == id && s.orderItemId == itemId &&
      s.phase == phase && s.status == "VERIFIED") = [] := by
    refine List.eq_nil_iff_forall_not_mem.mpr fun r hr => ?_
    obtain ⟨hfind, hp⟩ := Relational.Table.mem_many.mp hr
    simp only [Bool.and_eq_true, beq_iff_eq] at hp
    obtain ⟨o, ho⟩ := h.found r.1 r.2 hfind
    rw [hp.1.1.1, hnone] at ho
    cases ho
  rw [scannedQuantity, hempty]
  rfl

/-- Where orders keep their lines and the scans stay as they are, the lines stay within bounds. -/
theorem ScansBounded.kept {db db' : Database} (h : ScansBounded db)
    (horders : (db .order).Evolves Order.Restated (db' .order))
    (hscans : db' .orderItemScan = db .orderItemScan) : ScansBounded db' := by
  constructor
  · intro i s hs
    rw [hscans] at hs
    obtain ⟨o, ho⟩ := h.found i s hs
    obtain ⟨o', ho', -⟩ := horders _ o ho
    exact ⟨o', ho'⟩
  · intro id o' ho' item hitem phase
    rw [Orders.scannedQuantity_congr hscans]
    cases ho : (db .order).find id with
    | none =>
      rw [h.scannedQuantity_of_none ho]
      exact Nat.zero_le _
    | some o =>
      obtain ⟨o'', ho'', hrestated⟩ := horders id o ho
      obtain rfl := Option.some.inj (ho'.symm.trans ho'')
      rw [hrestated] at hitem
      exact h.bounded id o ho item hitem phase

/-- A scan that fits its line when it is recorded. -/
def Op.fitsLine : {α : Type} → Op α → Database → Bool
  | _, .createScan s, db => ((db .order).find s.orderId).all fun o => o.items.all fun item =>
      item.id != s.orderItemId ||
        decide (scannedQuantity s.orderId item.id s.phase db + s.quantity ≤ item.quantity)
  | _, _, _ => true

/-- The order that an operation moves on after its lines have been scanned, and the phase. -/
def Op.scanned : {α : Type} → Op α → Option (ℕ × Orders.Phase)
  | _, .writePacked id _ _ => some (id, .packing)
  | _, .writePickup id _ _ _ => some (id, .riderPickup)
  | _, _ => none

/-- Every line of an order has been scanned in a phase as often as it was ordered. -/
def FullyScanned (id : ℕ) (phase : Orders.Phase) (db : Database) : Prop :=
  ∃ o, (db .order).find id = some o ∧
    ∀ item ∈ o.items, item.quantity ≤ scannedQuantity id item.id phase.name db

/-- The scan that an operation records. -/
def Op.scanOf : {α : Type} → Op α → Option OrderItemScan
  | _, .createScan s => some s
  | _, _ => none

/-- What a request has made sure of before an operation on scans, or one that relies on them. -/
structure Op.ScanGrounded {α : Type} (op : Op α) (db : Database) : Prop where
  found : ∀ s, op.scanOf = some s → ∃ o, (db .order).find s.orderId = some o
  scanned : ∀ key, op.scanned = some key → FullyScanned key.1 key.2 db

/-- An order that exists stays. -/
theorem ScansKept.found {db db' : Database} (h : ScansKept db db') {id : ℕ}
    (ho : ∃ o, (db .order).find id = some o) : ∃ o, (db' .order).find id = some o := by
  obtain ⟨o, ho⟩ := ho
  obtain ⟨o', ho', -⟩ := h.orders id o ho
  exact ⟨o', ho'⟩

/-- An order whose lines have been scanned stays so. -/
theorem ScansKept.fullyScanned {db db' : Database} (h : ScansKept db db') {id : ℕ} {phase : Orders.Phase}
    (hfull : FullyScanned id phase db) : FullyScanned id phase db' := by
  obtain ⟨o, ho, hitems⟩ := hfull
  obtain ⟨o', ho', hrestated⟩ := h.orders id o ho
  refine ⟨o', ho', fun item hitem => ?_⟩
  rw [hrestated] at hitem
  exact (hitems item hitem).trans (h.scans id item.id phase.name)

/-- What is kept of orders and scans; under `strict`, recorded scans fit their lines. -/
def scanCounts (strict : Prop) : Contract Op World Env where
  inv w := strict → ScansBounded w.db
  guar w w' := ScansKept w.db w'.db
  known op w := op.ScanGrounded w.db
  allowed op e w := strict → (e.fails || op.fitsLine w.db)
  refl w := refl_of ScansKept w.db
  trans := trans_of ScansKept

/-- A scan of a line with room for it keeps every line within bounds. -/
theorem ScansBounded.create {db : Database} (h : ScansBounded db) {s : OrderItemScan}
    (hfound : ∃ o, (db .order).find s.orderId = some o) (hfits : (Op.createScan s).fitsLine db) :
    ScansBounded (db.set .orderItemScan ((db .orderItemScan).create s)) := by
  constructor
  · intro i s' hs'
    rw [Relational.Database.set_self, Relational.Table.find_create] at hs'
    split at hs'
    · obtain rfl := Option.some.inj hs'
      exact hfound
    · exact h.found i s' hs'
  · intro id o ho item hitem phase
    rw [Orders.scannedQuantity_create]
    have ho : (db .order).find id = some o := ho
    split
    · next hcounts =>
      obtain ⟨rfl, hid, rfl, -⟩ := hcounts
      simp only [Op.fitsLine, ho, Option.all_some, List.all_eq_true, Bool.or_eq_true, bne_iff_ne,
        decide_eq_true_eq] at hfits
      exact (hfits item hitem).resolve_left fun hne => hne hid.symm
    · exact h.bounded id o ho item hitem phase

/-- An operation records a scan, or leaves all scans alone. -/
theorem exec_orderItemScan {α : Type} (op : Op α) (hscan : op.scanOf = none) (e : Env) (w : World) :
    (op.exec e w).2.db .orderItemScan = w.db .orderItemScan := by
  refine exec_frame op e w _ fun hwrites => ?_
  cases op <;> dsimp only [Op.writes] at hwrites <;> first | exact absurd hwrites (by decide) | cases hscan

/-- Every operation keeps the scans within what the lines ask for. -/
theorem scanCounts_safe {strict : Prop} {α : Type} (op : Op α) : (scanCounts strict).Safe machine op := by
  intro e w hinv hknown hallowed
  have horders := exec_restates op e w
  cases hscan : op.scanOf with
  | none =>
    have hsame := exec_orderItemScan op hscan e w
    exact ⟨fun hstrict => (hinv hstrict).kept horders hsame,
      horders, fun i j p => (Orders.scannedQuantity_congr hsame i j p).ge⟩
  | some s =>
    cases op <;> cases hscan
    by_cases hfails : e.fails = true
    · have hsame : (machine.exec (.createScan s) e w).2 = w := exec_fails rfl hfails w
      rw [hsame]
      exact ⟨hinv, refl_of ScansKept _⟩
    refine exec_transaction (show (Op.createScan s).transaction = some fun _ => Orders.createScan s from rfl)
      (Φ := fun w' => (strict → ScansBounded w'.db) ∧ ScansKept w.db w'.db) ⟨hinv, refl_of ScansKept _⟩ ?_
    rw [Orders.createScan, wp_bind, wp_create, wp_pure]
    refine ⟨fun hstrict => (hinv hstrict).create (hknown.found s rfl) ?_, .refl _, fun i j p => ?_⟩
    · exact (Bool.or_eq_true_iff.mp (hallowed hstrict)).resolve_left hfails
    · rw [Orders.scannedQuantity_create]
      exact Nat.le_add_right _ _

/-! ## What the requests make sure of -/

/-- An operation that neither records a scan nor relies on one needs nothing. -/
theorem Op.ScanGrounded.of_none {α : Type} {op : Op α} (hscan : op.scanOf = none) (hscanned : op.scanned = none)
    (db : Database) : op.ScanGrounded db where
  found s hs := by
    rw [hscan] at hs
    cases hs
  scanned key hkey := by
    rw [hscanned] at hkey
    cases hkey

/-- A program that comes to no scan, and moves no order on. -/
theorem Uses.scanReady {strict : Prop} {α : Type} {ks : List OpKind} {p : Request α} (h : Uses ks p)
    (hks : .status ∉ ks ∧ .scan ∉ ks) (w : World) : (scanCounts strict).Ready machine p w := by
  refine Contract.informed_of_all (h.imp fun _ op hop w => ?_) w
  refine .of_none ?_ ?_ w.db <;>
    cases op <;> first | rfl | exact absurd hop hks.1 | exact absurd hop hks.2

/-- A read needs nothing. -/
theorem scanGrounded_read {α : Type} (f : Database → Except Error α) (w : World) : (Op.read f).ScanGrounded w.db :=
  .of_none rfl rfl w.db

namespace Orders

variable {strict : Prop}

/-- An order that has been read, with all lines scanned, stays so. -/
theorem fullyScanned_of_complete {id : ℕ} {phase : Phase} {o : Order} {db db' : Database}
    (ho : (db .order).find id = some o) (h : ScansKept db db')
    (hcomplete : checklistComplete id phase.name o db') : FullyScanned id phase db' := by
  obtain ⟨o', ho', hrestated⟩ := h.orders id o ho
  refine ⟨o', ho', fun item hitem => ?_⟩
  rw [hrestated] at hitem
  rw [checklistComplete, List.all_eq_true] at hcomplete
  exact of_decide_eq_true (hcomplete item hitem)

/-- Packing is completed when every line is scanned. -/
theorem completePacking_scanReady (actorId storeId id : ℕ) (w : World) :
    (scanCounts strict).Ready machine (completePacking actorId storeId id) w := by
  refine ready_selectOrThrow (scanGrounded_read _) fun w₁ o _ _ ho => ?_
  obtain ⟨ho, -⟩ := Option.filter_eq_some_iff.mp ho
  refine ready_select (scanGrounded_read _) fun w₂ h₂ _ => ready_check fun _ => ?_
  refine ready_select (scanGrounded_read _) fun w₃ h₃ _ => ready_check fun hcomplete => ?_
  have hfull : FullyScanned id .packing w₃.db := fullyScanned_of_complete ho (trans_of ScansKept h₂ h₃) hcomplete
  refine ready_selectOrThrow (scanGrounded_read _) fun w₄ _ h₄ _ _ => ready_check fun _ => ?_
  refine .then (fun w₅ h₅ _ => ⟨?_, ?_⟩) fun _ w₅ _ _ => ?_
  · rintro _ ⟨⟩
  · rintro _ ⟨⟩
    exact h₅.fullyScanned (h₄.fullyScanned hfull)
  · exact .then (fun w _ _ => .of_none rfl rfl w.db) fun _ _ _ _ => .call fun w _ _ => .of_none rfl rfl w.db

/-- A pickup is confirmed when every line is scanned. -/
theorem confirmPickup_scanReady (riderId id : ℕ) (token : String) (w : World) :
    (scanCounts strict).Ready machine (confirmPickup riderId id token) w := by
  refine ready_selectOrThrow (scanGrounded_read _) fun w₁ _ _ _ _ => ?_
  refine .then (fun w _ _ => .of_none rfl rfl w.db) fun now _ _ _ => ?_
  refine ready_read (scanGrounded_read _) fun w₂ _ _ _ _ => ?_
  refine ready_selectOrThrow (scanGrounded_read _) fun w₃ r _ _ hr => ?_
  refine ready_select (scanGrounded_read _) fun w₄ h₄ _ => ready_check fun hcomplete => ready_check fun _ => ?_
  have hfull : FullyScanned id .riderPickup w₄.db := fullyScanned_of_complete (find_of_riderOrder hr) h₄ hcomplete
  refine .call fun w₅ h₅ _ => ⟨?_, ?_⟩
  · rintro _ ⟨⟩
  · rintro _ ⟨⟩
    exact h₅.fullyScanned hfull

/-- A checklist needs nothing. -/
theorem checklist_scanReady (actorId id : ℕ) (phase : Phase) (storeId : ℕ) (w : World) :
    (scanCounts strict).Ready machine (checklist actorId id phase storeId) w := by
  have hread {α : Type} (f : Database → Except Error α) (w : World) :
      (scanCounts strict).Ready machine (call (.read f)) w := .call fun w _ _ => scanGrounded_read f w
  refine .bind ?_ fun _ _ => hread _ _
  cases phase with
  | riderPickup => exact .bind (hread _ _) fun _ _ => trivial
  | packing =>
    refine .bind (hread _ _) fun _ _ => .bind (hread _ _) fun _ _ => ready_check fun _ => trivial

/-- A scan is recorded for a line of its order. -/
theorem scanItem_scanReady (actorId id : ℕ) (phase : Phase) (code : String) (quantity storeId : ℕ) (w : World) :
    (scanCounts strict).Ready machine (scanItem actorId id phase code quantity storeId) w := by
  refine .bind (checklist_scanReady _ _ _ _ _) fun rows w₁ => ?_
  refine ready_selectOrThrow (scanGrounded_read _) fun w₂ item _ _ hitem => ?_
  refine ready_decided fun progress _ => ready_check fun _ => ?_
  obtain ⟨o, ho, -⟩ := Option.bind_eq_some_iff.mp hitem
  refine .then (fun w₃ h₃ _ => ⟨?_, ?_⟩) fun _ _ _ _ => checklist_scanReady _ _ _ _ _
  · rintro _ ⟨⟩
    exact h₃.found ⟨o, ho⟩
  · rintro _ ⟨⟩

end Orders

/-- Requests of stores, riders and staff know that an order is fully scanned before they move it on. -/
theorem StatusRequest.scanReady {strict : Prop} {p : Request Unit} (h : StatusRequest p) (w : World) :
    (scanCounts strict).Ready machine p w := by
  have hcall {α : Type} {op : Op α} (hscan : op.scanOf = none) (hscanned : op.scanned = none) (w : World) :
      (scanCounts strict).Ready machine (call op) w := .call fun w _ _ => .of_none hscan hscanned w.db
  have hclaim (riderId deliveryId : ℕ) (offerId : Option ℕ) (w : World) :
      (scanCounts strict).Ready machine (Orders.claim riderId deliveryId offerId) w :=
    .bind (hcall rfl rfl w) fun _ w => hcall rfl rfl w
  cases h with
  | setStatus actorId id status reason =>
    refine .bind (hcall rfl rfl w) fun _ w => ready_check fun _ => ready_check fun _ => ready_check fun _ => ?_
    refine ready_check fun _ => .bind (hcall rfl rfl w) fun _ w => .bind (hcall rfl rfl w) fun _ w => ?_
    exact ready_onlyIf fun _ => hcall rfl rfl w
  | completePacking actorId storeId id => exact Orders.completePacking_scanReady _ _ _ w
  | confirmPickup riderId id token => exact Orders.confirmPickup_scanReady _ _ _ w
  | confirmDelivery riderId id token =>
    refine .bind (hcall rfl rfl w) fun _ w => .bind (hcall rfl rfl w) fun _ w => ?_
    refine .bind (hcall rfl rfl w) fun _ w => ready_check fun _ => .bind (hcall rfl rfl w) fun _ w => ?_
    exact .bind (hcall rfl rfl w) fun _ w => ready_onlyIf fun _ => hcall rfl rfl w
  | updateStatus riderId deliveryId status location note =>
    refine .bind (hcall rfl rfl w) fun _ w => ready_check fun _ => ready_check fun _ => ready_check fun _ => ?_
    exact ready_check fun _ => ready_check fun _ => hcall rfl rfl w
  | claim riderId deliveryId => exact hclaim _ _ _ w
  | accept riderId offerId => exact .bind (hcall rfl rfl w) fun _ w => hclaim _ _ _ w
  | updateOrderStatus id status reason =>
    refine .bind (hcall rfl rfl w) fun _ w => .bind (hcall rfl rfl w) fun _ w => ?_
    exact ready_onlyIf fun _ => hcall rfl rfl w

/-- Requests about scans know that the order exists whose line they scan. -/
theorem ScanRequest.scanReady {strict : Prop} {p : Request Unit} (h : ScanRequest p) (w : World) :
    (scanCounts strict).Ready machine p w := by
  have hcall {α : Type} {op : Op α} (hscan : op.scanOf = none) (hscanned : op.scanned = none) (w : World) :
      (scanCounts strict).Ready machine (call op) w := .call fun w _ _ => .of_none hscan hscanned w.db
  have hissue (orderId : ℕ) (purpose : String) (force : Bool) (w : World) :
      (scanCounts strict).Ready machine (Orders.issue orderId purpose force) w := by
    refine .bind (hcall rfl rfl w) fun _ w => .bind (hcall rfl rfl w) fun _ w => ready_check fun _ => ?_
    refine .bind (ready_onlyIf fun _ => hcall rfl rfl w) fun _ w => .bind (hcall rfl rfl w) fun _ w => ?_
    exact hcall rfl rfl w
  cases h with
  | scanItem actorId id phase code quantity storeId => exact ready_discard (Orders.scanItem_scanReady _ _ _ _ _ _ w)
  | customerQr userId orderId regenerate =>
    exact ready_discard (.bind (hcall rfl rfl w) fun _ w => ready_check fun _ => hissue _ _ _ w)
  | handoffQr userId storeId orderId =>
    exact ready_discard (.bind (hcall rfl rfl w) fun _ w => ready_check fun _ =>
      .bind (hcall rfl rfl w) fun _ w => ready_check fun _ => hissue _ _ _ w)

/-- The requests of scanning keep the scans. -/
theorem scanCounts_holds {strict : Prop} : (scanCounts strict).Holds scanning where
  starts {p} h w _ := by
    rcases h with hstore | hscan
    · cases hstore with
      | payment h => exact h.uses.scanReady (by decide) w
      | refund h => exact h.uses.scanReady (by decide) w
      | status h => exact h.scanReady w
    · exact hscan.scanReady w
  performs op := scanCounts_safe op
  background {w w'} h hinv := by
    have horders : (w.db .order).Evolves Order.Restated (w'.db .order) := .of_eq (h.owned .order (by decide))
    exact ⟨fun hstrict => (hinv hstrict).kept horders h.scans,
      horders, fun i j p => (Orders.scannedQuantity_congr h.scans i j p).ge⟩

/-- In every run, whoever is about to mark an order as packed, or as picked up, has every line of it
scanned for that; and in every run in which each recorded scan still fits its line, no line is scanned
more often than it was ordered. -/
theorem scans_bounded_and_sufficient {w : World} (hw : ScansBounded w.db) {c : Config Op Error World} :
    (scanning.Run (fun op e c => e.fails || op.fitsLine c.world.db) ⟨w, []⟩ c → ScansBounded c.world.db) ∧
    (scanning.Run System.anyOp ⟨w, []⟩ c → ∀ {α : Type} (op : Op α) k, .perform op k ∈ c.threads →
      ∀ key, op.scanned = some key → FullyScanned key.1 key.2 c.world.db) := by
  have hsound (strict : Prop) : (scanCounts strict).Sound scanning ⟨w, []⟩ := ⟨fun _ => hw, by simp⟩
  constructor
  · intro hrun
    have hrun' := System.Run.mono scanning hrun fun op e c h =>
      (show (scanCounts True).allowed op e c.world from fun _ => h)
    exact (scanCounts_holds.run (hsound True) hrun').1.1 trivial
  · intro hrun α op k hmem key hkey
    have hrun' := System.Run.mono scanning hrun fun op e c _ =>
      (show (scanCounts False).allowed op e c.world from False.elim)
    obtain ⟨hinv, hready⟩ := (scanCounts_holds.run (hsound False) hrun').1
    exact ((hready _ hmem { now := 0 } c.world (refl_of ScansKept _) hinv False.elim).1).scanned key hkey

/-! ## Two scans of one line -/

/-- An order of two units of a product, in a store that is run by its owner. -/
def confirmedForScan : World where
  db := (Database.empty.set .store (Relational.Table.empty.create { ownerUserId := 2 })).set .order
    (Relational.Table.empty.create
      { orderNumber := "A-1", userId := 1, storeId := 1, fulfillmentType := .delivery
        currentStatus := .confirmed, subtotal := 100, total := 100
        items := [⟨0, 1, 1, some "SKU-1", 2, 50, 100⟩] })

/-- Two members of the store's staff each scan both units. -/
def twoScans : List (Request Unit) :=
  List.replicate 2 (discard (Orders.scanItem 2 1 .packing " sku-1 " 2 1))

/-- Both read the checklist before either of them records a scan. -/
def bothScan : List (ℕ × Env) :=
  List.replicate 4 (0, { now := 1 }) ++ List.replicate 5 (1, { now := 2 }) ++ [(0, { now := 3 })]

/-- The first scan is recorded before the second request reads the checklist. -/
def scanThenRefused : List (ℕ × Env) :=
  List.replicate 5 (0, { now := 1 }) ++ List.replicate 4 (1, { now := 2 })

/-- Nothing of the order has been scanned at first. -/
theorem confirmedForScan_bounded : ScansBounded confirmedForScan.db where
  found i s hs := by cases hs
  bounded id o ho item hitem phase := Nat.zero_le item.quantity

/-- The requests may be made. -/
theorem twoScans_start : ∀ p ∈ twoScans, scanning.starts p := by
  intro p hp
  rw [List.eq_of_mem_replicate hp]
  exact .inr (.scanItem 2 1 .packing " sku-1 " 2 1)

/-- Four units of a line of two are scanned. -/
theorem scans_can_exceed :
    ¬∀ (w : World) (c : Config Op Error World), ScansBounded w.db →
      scanning.Run System.anyOp ⟨w, []⟩ c → ScansBounded c.world.db := by
  intro h
  have hbounded := h confirmedForScan _ confirmedForScan_bounded (scanning.schedule_run twoScans_start bothScan)
  have hsome : (((scanning.follow ⟨confirmedForScan, twoScans⟩ bothScan).world.db .order).find 1).map
      (fun o => o.items.map fun item => (item.id, item.quantity)) = some [(0, 2)] := by decide +kernel
  obtain ⟨o, ho, hitems⟩ := Option.map_eq_some_iff.mp hsome
  obtain ⟨item, hitem, hpair⟩ : ∃ item ∈ o.items, (item.id, item.quantity) = (0, 2) :=
    List.mem_map.mp (hitems ▸ List.mem_singleton_self (0, 2))
  have hle := hbounded.bounded 1 o ho item hitem "PACKING"
  obtain ⟨hid, hquantity⟩ := Prod.mk.inj hpair
  rw [hid, hquantity] at hle
  revert hle
  decide +kernel

/-- One after the other the line is scanned once; the second scan is refused. -/
theorem scans_bounded_and_sufficient_refused :
    ScansBounded (scanning.follow ⟨confirmedForScan, twoScans⟩ scanThenRefused).world.db := by
  have hallows : scanning.allows (fun op e c => e.fails || op.fitsLine c.world.db) ⟨confirmedForScan, twoScans⟩
      scanThenRefused := by decide +kernel
  exact (scans_bounded_and_sufficient confirmedForScan_bounded).1
    ((scanning.start_all_run twoScans_start).trans (scanning.follow_run_of hallows))

end Superstore

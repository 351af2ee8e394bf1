import Superstore.Orders.Dispatch
import Superstore.Relational.Growth
import Superstore.Relational.Ledger

/-!
# The fees of riders

Whoever delivers an order earns its shipping fee, which is held when the delivery is claimed or the order
is settled, and released when the order is handed over. Transactions move orders and deliveries on below
the fees, and hold and release them.
-/

namespace Superstore

open Relational Relational.Tx
open Payments (setCurrentStatus)

/-- A rider's profile stays with its user. -/
def RiderProfile.Stays (p p' : RiderProfile) : Prop := p'.userId = p.userId

/-- Staying with a user is reflexive and transitive. -/
instance : IsPreorder RiderProfile RiderProfile.Stays where
  refl _ := rfl
  trans _ _ _ h h' := h'.trans h

/-- Every fee is one of a delivery that a rider has claimed, is what its order asks for shipping, and has
been released once the order is completed; no delivery has two, and no order two deliveries. -/
structure Fees (s : Dispatch) (earnings : Table RiderEarning) (profiles : Table RiderProfile) : Prop where
  found : ∀ i d, s.deliveries.find i = some d → ∃ o, s.orders.find d.orderId = some o
  single : ∀ i j d d', s.deliveries.find i = some d → s.deliveries.find j = some d' → d.orderId = d'.orderId → i = j
  unique : ∀ j k r r', earnings.find j = some r → earnings.find k = some r' → r.deliveryId = r'.deliveryId → j = k
  earned : ∀ j r, earnings.find j = some r → ∃ d o p, s.deliveries.find r.deliveryId = some d ∧
    s.orders.find d.orderId = some o ∧ profiles.find r.riderId = some p ∧ d.riderId = some p.userId ∧
    r.amount = o.shippingFee ∧ (r.status = "HELD" ∨ r.status = "RELEASED") ∧
    (o.currentStatus = .completed → r.status = "RELEASED")

namespace Fees

variable {s : Dispatch} {earnings : Table RiderEarning} {profiles : Table RiderProfile}

/-- Orders and deliveries that are rewritten, each row on its own. -/
theorem rewrite (hs : Fees s earnings profiles) {s' : Dispatch} {p : ℕ → Order → Bool} {g : Order → Order}
    {q : ℕ → Delivery → Bool} {f : Delivery → Delivery} (horders : s'.orders = s.orders.updateMany p g)
    (hdeliveries : s'.deliveries = s.deliveries.updateMany q f) (hg : ∀ o, (g o).shippingFee = o.shippingFee)
    (hf : ∀ d, (f d).orderId = d.orderId)
    (hrider : ∀ i d rider, s.deliveries.find i = some d → q i d → d.riderId = some rider →
      (f d).riderId = some rider)
    (hdone : ∀ id o, s.orders.find id = some o → p id o → (g o).currentStatus = .completed →
      o.currentStatus = .completed ∨ ∀ j r d, earnings.find j = some r → s.deliveries.find r.deliveryId = some d →
        d.orderId = id → r.status = "RELEASED") : Fees s' earnings profiles := by
  have hid (i : ℕ) (d : Delivery) : (if q i d then f d else d).orderId = d.orderId := by
    split
    · exact hf d
    · rfl
  have hrow {i : ℕ} {d' : Delivery} (hd' : s'.deliveries.find i = some d') :
      ∃ d, s.deliveries.find i = some d ∧ (if q i d then f d else d) = d' := by
    rw [hdeliveries, Table.find_updateMany] at hd'
    exact Option.map_eq_some_iff.mp hd'
  constructor
  · intro i d' hd'
    obtain ⟨d, hd, rfl⟩ := hrow hd'
    obtain ⟨o, ho⟩ := hs.found i d hd
    rw [hid, horders, Table.find_updateMany, ho]
    exact ⟨_, rfl⟩
  · intro i j d₁ d₂ h₁ h₂ heq
    obtain ⟨d, hd, rfl⟩ := hrow h₁
    obtain ⟨d', hd', rfl⟩ := hrow h₂
    rw [hid, hid] at heq
    exact hs.single i j d d' hd hd' heq
  · exact hs.unique
  · intro j r hr
    obtain ⟨d, o, pr, hd, ho, hp, hown, hamount, hstatus, hreleased⟩ := hs.earned j r hr
    refine ⟨if q r.deliveryId d then f d else d, if p d.orderId o then g o else o,
      pr, ?_, ?_, hp, ?_, ?_, hstatus, ?_⟩
    · rw [hdeliveries, Table.find_updateMany, hd]
      rfl
    · rw [hid, horders, Table.find_updateMany, ho]
      rfl
    · split
      · next hq => exact hrider _ d _ hd hq hown
      · exact hown
    · split
      · rw [hg, hamount]
      · exact hamount
    · split
      · next hpo =>
        intro hcompleted
        rcases hdone d.orderId o ho hpo hcompleted with hbefore | hall
        · exact hreleased hbefore
        · exact hall j r d hr hd rfl
      · exact hreleased

/-- An order changes its status. -/
theorem write (hs : Fees s earnings profiles) {h : OrderStatusHistory}
    (hdone : h.toStatus = .completed → ∀ j r d, earnings.find j = some r → s.deliveries.find r.deliveryId = some d →
      d.orderId = h.orderId → r.status = "RELEASED") : Fees (s.write h) earnings profiles := by
  refine hs.rewrite (p := fun i _ => i == h.orderId) (g := setCurrentStatus h.toStatus) (q := fun _ _ => false)
    (f := id) rfl (Table.updateMany_false _ _).symm (fun _ => rfl) (fun _ => rfl) (fun _ _ _ _ hq => nomatch hq)
    fun id o _ hp hcompleted => .inr fun j r d hr hd hid => ?_
  exact hdone hcompleted j r d hr hd (hid.trans (beq_iff_eq.mp hp))

/-- A delivery changes its status, and stays with its rider. -/
theorem deliver (hs : Fees s earnings profiles) {i : ℕ} {status : DeliveryStatus} {f : Delivery → Delivery}
    (hf : Delivery.Restates status f) : Fees (s.deliver i f) earnings profiles := by
  refine hs.rewrite (p := fun _ _ => false) (g := id) (q := fun j _ => j == i) (f := f)
    (Table.updateMany_false _ _).symm rfl (fun _ => rfl) (fun d => (hf d).2.1) (fun _ d rider _ _ h => ?_)
    fun _ _ _ hp => nomatch hp
  rw [(hf d).2.2, h]

/-- A new order has no fee yet. -/
theorem place (hs : Fees s earnings profiles) (o : Order) {history : Table OrderStatusHistory} :
    Fees ⟨s.orders.create o, s.deliveries, history⟩ earnings profiles where
  found i d hd := by
    obtain ⟨o', ho'⟩ := hs.found i d hd
    exact ⟨o', Table.find_create_of_find o ho'⟩
  single := hs.single
  unique := hs.unique
  earned j r hr := by
    obtain ⟨d, o', p, hd, ho', hrest⟩ := hs.earned j r hr
    exact ⟨d, o', p, hd, Table.find_create_of_find o ho', hrest⟩

/-- Nor has its delivery. -/
theorem placeForDelivery (hs : Fees s earnings profiles) (o : Order) {d : Delivery} (hd : d.orderId = s.orders.next)
    {history : Table OrderStatusHistory} :
    Fees ⟨s.orders.create o, s.deliveries.create d, history⟩ earnings profiles := by
  have hplaced {i : ℕ} {d' : Delivery} (hd' : (s.deliveries.create d).find i = some d') :
      (i = s.deliveries.next ∧ d' = d) ∨ s.deliveries.find i = some d' ∧ d'.orderId ≠ s.orders.next := by
    rcases Ledger.find_of_create hd' with hnew | hold
    · exact .inl hnew
    · obtain ⟨o', ho'⟩ := hs.found i d' hold
      exact .inr ⟨hold, (Table.lt_next ho').ne⟩
  constructor
  · intro i d' hd'
    rcases hplaced hd' with ⟨-, rfl⟩ | ⟨hold, -⟩
    · exact ⟨o, hd ▸ Table.find_create_self _ o⟩
    · obtain ⟨o', ho'⟩ := hs.found i d' hold
      exact ⟨o', Table.find_create_of_find o ho'⟩
  · intro i j d₁ d₂ h₁ h₂ heq
    rcases hplaced h₁ with ⟨rfl, rfl⟩ | ⟨hold, hne⟩ <;> rcases hplaced h₂ with ⟨rfl, rfl⟩ | ⟨hold', hne'⟩
    · rfl
    · exact absurd (heq.symm.trans hd) hne'
    · exact absurd (heq.trans hd) hne
    · exact hs.single i j d₁ d₂ hold hold' heq
  · exact hs.unique
  · intro j r hr
    obtain ⟨d', o', p, hd', ho', hrest⟩ := hs.earned j r hr
    exact ⟨d', o', p, Table.find_create_of_find d hd', Table.find_create_of_find o ho', hrest⟩

/-- A move that does not complete an order leaves the fees as they are. -/
theorem move {calls : OrderStatus → Prop} {s' : Dispatch} (hs : Fees s earnings profiles)
    (h : Dispatch.Move calls (· ≠ .completed) s s') : Fees s' earnings profiles := by
  cases h with
  | place o h ho hcollected hid hfrom hto => exact hs.place o
  | placeForDelivery o h d ho hid hfrom hto hd hpending hfree => exact hs.placeForDelivery o hd
  | advance o h ho hfrom hnext hto =>
    refine hs.write fun hcompleted => ?_
    rcases hto with hto | hto
    · rw [hcompleted] at hto
      cases hto
    · exact absurd hcompleted hto.2
  | callOff o h ho hfrom hcalls hto =>
    have hcancelled : Fees (s.write h) earnings profiles := hs.write fun h => by rw [hto] at h; cases h
    exact hcancelled.rewrite (p := fun _ _ => false) (g := id) (q := fun _ d => d.orderId == h.orderId)
      (f := fun d => { d with status := .cancelled }) (Table.updateMany_false _ _).symm rfl (fun _ => rfl)
      (fun _ => rfl) (fun _ _ _ _ _ h => h) fun _ _ _ hp => nomatch hp
  | claim o d h deliveryId riderId now hd hfree hwaits hid ho hready hfrom hto =>
    have hclaimed : Fees (s.write h) earnings profiles := hs.write fun h => by rw [hto] at h; cases h
    refine hclaimed.rewrite (p := fun _ _ => false) (g := id) (q := fun j _ => j == deliveryId)
      (f := fun d => { d with riderId := some riderId, status := .assigned, assignedAt := some now })
      (Table.updateMany_false _ _).symm rfl (fun _ => rfl) (fun _ => rfl) (fun i d' rider hd' hq hrider => ?_)
      fun _ _ _ hp => nomatch hp
    rw [beq_iff_eq.mp hq] at hd'
    obtain rfl := Option.some.inj (hd.symm.trans hd')
    rw [hfree] at hrider
    cases hrider

/-- A fee is held for the rider of a delivery that has none yet, whose order is not completed. -/
theorem hold (hs : Fees s earnings profiles) {r : RiderEarning} {d : Delivery} {o : Order} {p : RiderProfile}
    (hfresh : ∀ j r', earnings.find j = some r' → r'.deliveryId ≠ r.deliveryId)
    (hd : s.deliveries.find r.deliveryId = some d) (ho : s.orders.find d.orderId = some o)
    (hp : profiles.find r.riderId = some p) (hown : d.riderId = some p.userId) (hamount : r.amount = o.shippingFee)
    (hheld : r.status = "HELD") (hopen : o.currentStatus ≠ .completed) : Fees s (earnings.create r) profiles where
  found := hs.found
  single := hs.single
  unique j k r₁ r₂ h₁ h₂ heq := by
    rcases Ledger.find_of_create h₁ with ⟨rfl, rfl⟩ | hold <;>
      rcases Ledger.find_of_create h₂ with ⟨rfl, rfl⟩ | hold'
    · rfl
    · exact absurd heq.symm (hfresh k r₂ hold')
    · exact absurd heq (hfresh j r₁ hold)
    · exact hs.unique j k r₁ r₂ hold hold' heq
  earned j r' hr' := by
    rcases Ledger.find_of_create hr' with ⟨-, rfl⟩ | hold
    · exact ⟨d, o, p, hd, ho, hp, hown, hamount, .inl hheld, fun h => absurd h hopen⟩
    · exact hs.earned j r' hold

/-- Fees that are released. -/
theorem release (hs : Fees s earnings profiles) {q : ℕ → RiderEarning → Bool} {f : RiderEarning → RiderEarning}
    (hf : ∀ r, (f r).deliveryId = r.deliveryId ∧ (f r).riderId = r.riderId ∧ (f r).amount = r.amount ∧
      (f r).status = "RELEASED") : Fees s (earnings.updateMany q f) profiles := by
  have hrow {j : ℕ} {r' : RiderEarning} (hr' : (earnings.updateMany q f).find j = some r') :
      ∃ r, earnings.find j = some r ∧ r'.deliveryId = r.deliveryId ∧ r'.riderId = r.riderId ∧ r'.amount = r.amount ∧
        (r'.status = r.status ∨ r'.status = "RELEASED") := by
    rw [Table.find_updateMany] at hr'
    obtain ⟨r, hr, rfl⟩ := Option.map_eq_some_iff.mp hr'
    refine ⟨r, hr, ?_⟩
    split
    · obtain ⟨hdelivery, hrider, hamount, hstatus⟩ := hf r
      exact ⟨hdelivery, hrider, hamount, .inr hstatus⟩
    · exact ⟨rfl, rfl, rfl, .inl rfl⟩
  refine ⟨hs.found, hs.single, fun j k r₁ r₂ h₁ h₂ heq => ?_, fun j r' hr' => ?_⟩
  · obtain ⟨r, hr, hdelivery, -⟩ := hrow h₁
    obtain ⟨r', hr', hdelivery', -⟩ := hrow h₂
    exact hs.unique j k r r' hr hr' (hdelivery.symm.trans (heq.trans hdelivery'))
  · obtain ⟨r, hr, hdelivery, hrider, hamount, hstatus⟩ := hrow hr'
    obtain ⟨d, o, p, hd, ho, hp, hown, hfee, hold, hreleased⟩ := hs.earned j r hr
    refine ⟨d, o, p, hdelivery ▸ hd, ho, hrider ▸ hp, hown, hamount.trans hfee, ?_, fun hcompleted => ?_⟩
    · rcases hstatus with hsame | hnew
      · rwa [hsame]
      · exact .inr hnew
    · rcases hstatus with hsame | hnew
      · exact hsame.trans (hreleased hcompleted)
      · exact hnew

/-- Notes on orders and new riders leave the fees as they are. -/
theorem outside (hs : Fees s earnings profiles) {profiles' : Table RiderProfile}
    (hprofiles : profiles.Evolves RiderProfile.Stays profiles') {history : Table OrderStatusHistory} :
    Fees ⟨s.orders, s.deliveries, history⟩ earnings profiles' where
  found := hs.found
  single := hs.single
  unique := hs.unique
  earned j r hr := by
    obtain ⟨d, o, p, hd, ho, hp, hown, hrest⟩ := hs.earned j r hr
    obtain ⟨p', hp', huser⟩ := hprofiles _ p hp
    exact ⟨d, o, p', hd, ho, hp', hown.trans (congrArg some huser.symm), hrest⟩

end Fees

/-- The fees of a database. -/
def FeesKept (db : Database) : Prop := Fees (dispatch db) (db .riderEarning) (db .riderProfile)

/-- The tables that the fees of riders are about. -/
def feeTables : List TableName := dispatchTables ++ [.riderEarning, .riderProfile]

/-- The fees are kept where none of their tables is written. -/
theorem FeesKept.congr {db db' : Database} (h : FeesKept db) (hsame : ∀ n ∈ feeTables, db' n = db n) :
    FeesKept db' := by
  rw [FeesKept, dispatch_congr fun n hn => hsame n (List.mem_append_left _ hn), hsame .riderEarning (by decide),
    hsame .riderProfile (by decide)]
  exact h

/-- A transaction that writes none of these tables. -/
theorem feesKept_of_writes {α : Type} {ns : List TableName} {m : Tx α} (h : Writes ns m)
    (hns : ∀ n ∈ feeTables, n ∉ ns) : Within (Keeps FeesKept) m :=
  .of_writes h fun _ _ hsame hkept => hkept.congr fun n hn => hsame n (hns n hn)

namespace Settlements

/-- The fees are kept, and the order of a delivery is not completed. -/
def FeesDue (deliveryId : ℕ) (db : Database) : Prop :=
  FeesKept db ∧ ∀ d o, (db .delivery).find deliveryId = some d → (db .order).find d.orderId = some o →
    o.currentStatus ≠ .completed

/-- The fee of a delivery whose order is not completed is held. -/
theorem holdRiderEarning_fees {deliveryId : ℕ} {db : Database} (hdue : FeesDue deliveryId db) :
    wp db (holdRiderEarning deliveryId) fun _ db' => FeesKept db' := by
  obtain ⟨hkept, hopen⟩ := hdue
  rw [holdRiderEarning, wp_bind, wp_find]
  split
  · next orderId riderId hdelivery =>
    obtain ⟨d, hd, hrider⟩ := Option.bind_eq_some_iff.mp hdelivery
    obtain ⟨rider, hown, heq⟩ := Option.map_eq_some_iff.mp hrider
    obtain ⟨rfl, rfl⟩ := Prod.mk.inj heq
    rw [wp_bind, wp_findOrThrow]
    intro o ho
    rw [funded, wp_bind, wp_query, wp_bind, wp_first, wp_bind, wp_first]
    split
    · next profileId profile hprofile =>
      obtain ⟨hp, huser⟩ := Table.find_of_first hprofile
      rw [wp_when]
      refine ⟨fun ⟨_, _, hnone⟩ => ?_, fun _ => hkept⟩
      refine Writes.before (.firstOrCreate (List.mem_singleton_self TableName.wallet) _ _) fun wallet db₂ h₂ => ?_
      have hkept₂ : FeesKept db₂ := hkept.congr fun n hn => h₂ n (by revert n; decide)
      have hsame (n : TableName) (hn : n ∈ feeTables) : db₂ n = db n := h₂ n (by revert n; decide)
      rw [wp_bind, wp_create]
      refine wp_mono (Within.from (R := Keeps FeesKept) ?_ (.bind (feesKept_of_writes
        (.createUnique (List.mem_singleton_self TableName.walletTransaction) _ _) (by decide)) fun _ => .pure ()))
        fun _ _ h => h hkept₂
      intro _
      change Fees (dispatch db₂) ((db₂ .riderEarning).create _) (db₂ .riderProfile)
      rw [dispatch_congr fun n hn => hsame n (List.mem_append_left _ hn), hsame .riderEarning (by decide),
        hsame .riderProfile (by decide)]
      refine Fees.hold hkept (fun j r hr heq => ?_) hd ho hp ?_ rfl rfl (hopen d o hd ho)
      · have hnone' := Table.first_eq_none.mp (Option.isNone_iff_eq_none.mp hnone) j r hr
        simp [heq] at hnone'
      · rw [hown, beq_iff_eq.mp huser]
    · exact (wp_pure _ _ _).mpr hkept
  · exact (wp_pure _ _ _).mpr hkept

/-- The fees are kept, and an order is not completed. -/
def FeesOpen (orderId : ℕ) (db : Database) : Prop :=
  FeesKept db ∧ ∀ o, (db .order).find orderId = some o → o.currentStatus ≠ .completed

/-- The settlement of an order that is not completed holds the fee of its rider, if there is one. -/
theorem settleOrder_fees (e : Env) (orderId : ℕ) : Within (Keeps (FeesOpen orderId)) (settleOrder e orderId) := by
  refine settleOrder_within e (fun hm => .of_writes hm fun _ _ hsame ⟨hkept, hopen⟩ =>
    ⟨hkept.congr fun n hn => ?_, ?_⟩)
    fun i d db hfirst => wp_keeps fun ⟨hkept, hopen⟩ => ?_
  · exact hsame n (by revert n; decide)
  · rwa [hsame .order (by decide)]
  · obtain ⟨hd, hid⟩ := Table.find_of_first hfirst
    have hheld : wp db (holdRiderEarning i) fun _ db' => FeesKept db' := by
      refine holdRiderEarning_fees ⟨hkept, fun d' o hd' ho => ?_⟩
      obtain rfl := Option.some.inj (hd.symm.trans hd')
      rw [beq_iff_eq.mp hid] at ho
      exact hopen o ho
    refine wp_mono (wp_and hheld (holdRiderEarning_writes i db)) fun _ db' ⟨hkept', hsame⟩ => ⟨hkept', ?_⟩
    rwa [hsame .order (by decide)]

/-- The fee of a delivery is released, if one is held. -/
theorem releaseRiderEarning_fees (now deliveryId : ℕ) {s : Dispatch} {db : Database}
    (hs : Fees s (db .riderEarning) (db .riderProfile)) :
    wp db (releaseRiderEarning now deliveryId) fun _ db' => Fees s (db' .riderEarning) (db' .riderProfile) ∧
      ∀ j r, (db' .riderEarning).find j = some r → r.deliveryId = deliveryId → r.status = "RELEASED" := by
  rw [releaseRiderEarning, wp_bind, wp_first]
  split
  · next earningId earning hfirst =>
    obtain ⟨hearning, hdelivery⟩ := Table.find_of_first hfirst
    have hunique {j : ℕ} {r : RiderEarning} (hr : (db .riderEarning).find j = some r)
        (hid : r.deliveryId = deliveryId) : j = earningId :=
      hs.unique _ _ _ _ hr hearning (hid.trans (beq_iff_eq.mp hdelivery).symm)
    rw [wp_when]
    refine ⟨fun hheld => ?_, fun hnot => ⟨hs, fun j r hr hid => ?_⟩⟩
    · rw [wp_bind, wp_updateMany]
      refine wp_mono (Writes.bind (.findOrThrow _ _) (fun _ => .bind (.first _ _)
        fun _ => .bind (.orThrow _ _) fun _ => .bind (.createUnique (by decide) _ _) fun _ =>
          .update (by decide) _ _)
        _) fun _ db' (hsame : ∀ n ∉ [TableName.wallet, .walletTransaction], db' n = _) => ?_
      rw [hsame .riderEarning (by decide), hsame .riderProfile (by decide), Database.set_self,
        Database.set_of_ne _ _ (by decide)]
      refine ⟨hs.release fun r => ⟨rfl, rfl, rfl, rfl⟩, fun j r hr hid => ?_⟩
      rw [Table.find_updateMany] at hr
      obtain ⟨r₀, hr₀, rfl⟩ := Option.map_eq_some_iff.mp hr
      have hid₀ : r₀.deliveryId = deliveryId := by
        rw [← hid]
        split <;> rfl
      obtain rfl := hunique hr₀ hid₀
      obtain rfl := Option.some.inj (hearning.symm.trans hr₀)
      rw [if_pos (by simp [hheld])]
    · obtain rfl := hunique hr hid
      obtain rfl := Option.some.inj (hearning.symm.trans hr)
      obtain ⟨_, _, _, _, _, _, _, _, hstatus, _⟩ := hs.earned j earning hr
      exact hstatus.resolve_left hnot
  · next hnone =>
    refine (wp_pure _ _ _).mpr ⟨hs, fun j r hr hid => ?_⟩
    have hfalse := Table.first_eq_none.mp hnone j r hr
    simp [hid] at hfalse

end Settlements

namespace Orders

/-- Moves that write no fees and complete no order. -/
theorem feesKept_of_moves {calls : OrderStatus → Prop} {db db' : Database} (hkept : FeesKept db)
    (hmoves : Moving calls (· ≠ .completed) db db') (hearnings : db' .riderEarning = db .riderEarning)
    (hprofiles : db' .riderProfile = db .riderProfile) : FeesKept db' := by
  have hall : ∀ s', Dispatch.Moves calls (· ≠ .completed) (dispatch db) s' →
      Fees s' (db .riderEarning) (db .riderProfile) := by
    intro s' h
    induction h with
    | refl => exact hkept
    | tail _ hmove ih => exact ih.move hmove
  rw [FeesKept, hearnings, hprofiles]
  exact hall _ hmoves

/-- A claim holds the fee after everything that it does to orders and deliveries. -/
theorem claimDelivery_holds (e : Env) (riderId deliveryId : ℕ) (offerId : Option ℕ) (db : Database) :
    wp db (claimDelivery e riderId deliveryId offerId) fun _ db' => ∃ db₁, dispatch db₁ = dispatch db' ∧
      db₁ .riderEarning = db .riderEarning ∧ db₁ .riderProfile = db .riderProfile ∧
      (Settlements.FeesDue deliveryId db₁ → FeesKept db') := by
  let R (db db' : Database) : Prop := db' .riderEarning = db .riderEarning ∧ db' .riderProfile = db .riderProfile
  have : IsPreorder Database R :=
    { refl := fun _ => ⟨rfl, rfl⟩, trans := fun _ _ _ h h' => ⟨h'.1.trans h.1, h'.2.trans h.2⟩ }
  have hwrites {α : Type} {ns : List TableName} {m : Tx α} (hm : Writes ns m)
      (hearning : TableName.riderEarning ∉ ns) (hprofile : TableName.riderProfile ∉ ns) : Within R m :=
    .of_writes hm fun _ _ hsame => ⟨hsame _ hearning, hsame _ hprofile⟩
  refine Within.then (R := R) (refl_of R db) (.of_reads (.ofExcept _)) fun _ db₁ hs => ?_
  refine Within.then hs (.of_reads (.find _ _)) fun current db₁ hs => ?_
  refine Within.then hs (.of_reads (.orThrow _ _)) fun current db₁ hs => ?_
  refine Within.then hs (.of_reads (.require _ _)) fun _ db₁ hs => ?_
  refine Within.then hs (.of_reads (.findOrThrow _ _)) fun order db₁ hs => ?_
  refine Within.then hs (.of_reads (.require _ _)) fun _ db₁ hs => ?_
  refine Within.then hs (.of_reads (.ofExcept _)) fun _ db₁ hs => ?_
  refine Within.then hs (hwrites (.updateMany (List.mem_singleton_self TableName.delivery) _ _) (by decide)
    (by decide)) fun _ db₁ hs => ?_
  refine Within.then hs (.of_reads (.require _ _)) fun _ db₁ hs => ?_
  refine Within.then hs (hwrites (.updateMany (List.mem_singleton_self TableName.order) _ _) (by decide)
    (by decide)) fun _ db₁ hs => ?_
  refine Within.then hs (.of_reads (.require _ _)) fun _ db₁ hs => ?_
  refine Within.then hs (hwrites (acceptOffer_writes _ _ _) (by decide) (by decide)) fun _ db₁ hs => ?_
  refine Within.then hs (hwrites (.updateMany (List.mem_singleton_self TableName.deliveryOffer) _ _) (by decide)
    (by decide)) fun _ db₁ hs => ?_
  refine Within.then hs (hwrites (history_writes _ _ _ _ _) (by decide) (by decide)) fun _ db₁ hs => ?_
  rw [wp_bind]
  refine wp_mono (wp_and (dispatch_of_writes (Settlements.holdRiderEarning_writes deliveryId) (by decide) db₁)
    (wp_imp Settlements.holdRiderEarning_fees)) fun _ db₂ ⟨hsame, hholds⟩ => ?_
  exact (wp_findOrThrow _ _ _ _).mpr fun _ _ => ⟨db₁, hsame.symm, hs.1, hs.2, hholds⟩

/-- The fees are kept by the transactions that read the orders they write, other than by staff who
complete an order. -/
theorem respects_feesKept {calls : OrderStatus → Prop} : Respects calls (· ≠ .completed) (Keeps FeesKept) where
  frame db db' hsame hkept := hkept.congr fun n hn => hsame n (by revert n; decide)
  placeOrder e userId q order db := by
    refine wp_keeps fun hkept => ?_
    have hmoving : Within (Moving calls (· ≠ .completed)) (Checkout.placeOrder e userId q order) :=
      placeOrder_moving e userId q order
    refine wp_mono (wp_and (hmoving db)
      (Checkout.placeOrder_writes e userId q order db)) fun _ db' hstep => ?_
    obtain ⟨hmoves, hsame⟩ := hstep
    exact feesKept_of_moves hkept hmoves (hsame _ (by decide)) (hsame _ (by decide))
  confirmOrder e userId a db := by
    refine wp_keeps fun hkept => ?_
    rw [Payments.confirmOrder, wp_bind, wp_findOrThrow]
    intro order horder
    have hrest (o : OrderConfirmationOutbox) : Within (Keeps FeesKept) (do
        require (order.currentStatus ≠ .cancelled) (.conflict "Cancelled order cannot be finalized as paid.")
        let _ ← firstOrCreate .orderConfirmationOutbox (fun _ o => o.orderId == a.orderId) o
        pure ()) := .bind (.of_reads (.require _ _)) fun _ =>
      .bind (feesKept_of_writes (.firstOrCreate (List.mem_singleton_self _) _ _) (by decide)) fun _ => .pure ()
    rw [wp_bind, wp_when]
    refine ⟨fun hreceived => ?_, fun _ => wp_mono (hrest _ db) fun _ _ h => h hkept⟩
    rw [wp_bind, wp_update]
    intro _ _
    rw [wp_bind, wp_create]
    refine wp_mono (Settlements.settleOrder_fees e a.orderId _) fun _ db₁ h₁ => ?_
    refine wp_mono (hrest _ db₁) fun _ _ h => h (h₁ ⟨?_, fun o ho => ?_⟩).1
    · let note : OrderStatusHistory :=
        { orderId := a.orderId, fromStatus := some .orderReceived, toStatus := .confirmed
          reason := some "Payment or approved financing confirmed." }
      exact Fees.write (h := note) hkept fun h => by cases h
    · obtain ⟨o₀, -, rfl⟩ := Option.map_eq_some_iff.mp ((Table.find_update_self _ _ _).symm.trans ho)
      exact OrderStatus.noConfusion
  callOff {now orderId order history db} horder hcalls hid hfrom hto := by
    refine wp_keeps fun hkept => ?_
    subst hid
    refine wp_mono (wp_and (callOff_dispatch now order history hto db) (Payments.callOff_writes _ _ _ _ db))
      fun _ db' hstep => ?_
    obtain ⟨h₁, hsame⟩ := hstep
    have hmoves : Moving calls (· ≠ .completed) db db' := by
      rw [Moving, h₁]
      exact .single (.callOff order history horder hfrom hcalls hto)
    exact feesKept_of_moves hkept hmoves (hsame _ (by decide)) (hsame _ (by decide))
  claimDelivery e riderId deliveryId offerId db := by
    refine wp_keeps fun hkept => ?_
    refine wp_mono (wp_and (claimDelivery_dispatch e riderId deliveryId offerId db)
      (claimDelivery_holds e riderId deliveryId offerId db)) ?_
    rintro _ db' ⟨⟨d, o, h, hd, hfree, hwaits, ho, hready, ⟨hid, hfrom, hto⟩, h₁⟩, db₁, hsame, hearnings,
      hprofiles, hholds⟩
    have hmove : Dispatch.Move calls (· ≠ .completed) (dispatch db)
        (((dispatch db).write h).assign deliveryId riderId e.now) :=
      .claim o d h deliveryId riderId e.now hd hfree hwaits hid (hid ▸ ho) hready hfrom hto
    have hkept₁ : FeesKept db₁ := by
      rw [FeesKept, hsame, h₁, hearnings, hprofiles]
      exact Fees.move hkept hmove
    refine hholds ⟨hkept₁, fun d' o' hd' ho' => ?_⟩
    have horders : db₁ .order = ((dispatch db).write h).orders := congrArg Dispatch.orders (hsame.trans h₁)
    have hdeliveries : db₁ .delivery = (((dispatch db).write h).assign deliveryId riderId e.now).deliveries :=
      congrArg Dispatch.deliveries (hsame.trans h₁)
    rw [hdeliveries] at hd'
    obtain ⟨d₀, hd₀, rfl⟩ := Option.map_eq_some_iff.mp ((Table.find_update_self _ _ _).symm.trans hd')
    obtain rfl := Option.some.inj (hd.symm.trans hd₀)
    rw [horders, ← hid] at ho'
    obtain ⟨o₀, -, rfl⟩ := Option.map_eq_some_iff.mp ((Table.find_update_self _ _ _).symm.trans ho')
    change h.toStatus ≠ .completed
    rw [hto]
    decide
  intervene e orderId status reason hsets db := by
    refine wp_keeps fun hkept => ?_
    have hmoving : Within (Moving calls (· ≠ .completed)) (intervene e orderId status reason) :=
      intervene_moving e orderId status reason hsets
    refine wp_mono (wp_and (hmoving db) (intervene_writes e orderId status reason db)) fun _ db' hstep => ?_
    obtain ⟨hmoves, hsame⟩ := hstep
    exact feesKept_of_moves hkept hmoves (hsame _ (by decide)) (hsame _ (by decide))

/-- A hand-over releases the fee of the delivery that it has been told of, which is the one of its order. -/
theorem writeDelivery_fees (e : Env) {id : ℕ} (order : Order) (riderId credentialId : ℕ) {deliveryId : ℕ}
    {db : Database} (hkept : FeesKept db)
    (hdelivery : ∃ d, (db .delivery).find deliveryId = some d ∧ d.orderId = id) :
    wp db (writeDelivery e id order riderId credentialId deliveryId) fun _ db' => FeesKept db' := by
  have hreleased : wp db (writeDelivery e id order riderId credentialId deliveryId) fun _ db' =>
      Fees (dispatch db) (db' .riderEarning) (db' .riderProfile) ∧
        ∀ j r, (db' .riderEarning).find j = some r → r.deliveryId = deliveryId → r.status = "RELEASED" := by
    refine Writes.before (consumeCredential_writes _ _ _) fun _ db₁ h₁ => ?_
    refine Writes.before (.update (List.mem_singleton_self TableName.order) _ _) fun _ db₂ h₂ => ?_
    refine Writes.before (updateDeliveryOf_writes _ _) fun _ db₃ h₃ => ?_
    have hearnings : db₃ .riderEarning = db .riderEarning :=
      (h₃ _ (by decide)).trans ((h₂ _ (by decide)).trans (h₁ _ (by decide)))
    have hprofiles : db₃ .riderProfile = db .riderProfile :=
      (h₃ _ (by decide)).trans ((h₂ _ (by decide)).trans (h₁ _ (by decide)))
    have hfees : Fees (dispatch db) (db₃ .riderEarning) (db₃ .riderProfile) := by
      rw [hearnings, hprofiles]
      exact hkept
    rw [wp_bind]
    refine wp_mono (Settlements.releaseRiderEarning_fees e.now deliveryId hfees) fun _ db₄ h₄ => ?_
    refine wp_mono (Writes.bind ((history_writes _ _ _ _ _).mono (by decide))
      (fun _ => completeOrder_writes _ _ _ _ _) db₄) fun _ db' (hsame : ∀ n ∉ rewardedTables, db' n = db₄ n) => ?_
    rwa [hsame .riderEarning (by decide), hsame .riderProfile (by decide)]
  refine wp_mono (wp_and (writeDelivery_dispatch e id order riderId credentialId deliveryId db) hreleased) ?_
  rintro _ db' ⟨⟨h, h', i, f, -, ⟨hid, hfrom, hto⟩, ⟨hid', hfrom', hto'⟩, ⟨-, hf⟩, hdb⟩, hfees, hall⟩
  have hdelivered : Fees (((dispatch db).write h).deliver i f) (db' .riderEarning) (db' .riderProfile) := by
    refine (hfees.write fun h => ?_).deliver hf
    rw [hto] at h
    cases h
  rw [FeesKept, hdb]
  refine hdelivered.write fun _ j r d hr hd hdid => hall j r hr ?_
  obtain ⟨d₀, hd₀, hd₀id⟩ := hdelivery
  obtain ⟨d₁, hd₁, rfl⟩ := Option.map_eq_some_iff.mp ((Table.find_updateMany _ _ _ _).symm.trans hd)
  refine hfees.single _ _ d₁ d₀ hd₁ hd₀ ?_
  rw [hd₀id, ← hid', ← hdid]
  split
  · rw [(hf d₁).2.1]
  · rfl

end Orders

end Superstore

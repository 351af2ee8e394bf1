import Superstore.Payments.Settlement
import Superstore.Relational.Errors
import Superstore.Relational.Returns

/-!
# The deductions of a settlement

Three parts of a subtotal are deducted, each rounded by itself, and the store is credited with the
rest. Rates that leave next to nothing can round to more than the subtotal; the settlement is then
refused, and whoever asked for it fails as well. That takes a remainder of less than a cent.
-/

namespace Superstore

/-! ## Rounding -/

/-- Rounding adds at most half a cent. -/
theorem toDecimalPlaces2_le (x : ℚ) : toDecimalPlaces2 x ≤ x + 1 / 200 := by
  have hfloor := Int.floor_le (x * 100 + 1 / 2)
  rw [toDecimalPlaces2]
  linarith

/-- An amount of whole cents below nothing is at least a cent below. -/
theorem Cents.le_of_neg {x : ℚ} (hx : Cents x) (h : x < 0) : x ≤ -(1 / 100) := by
  obtain ⟨n, rfl⟩ := hx
  have hn : (n : ℚ) < 0 := by linarith
  have hle : n ≤ -1 := by exact Int.le_sub_one_of_lt (by exact_mod_cast hn)
  have hcast : (n : ℚ) ≤ -1 := by exact_mod_cast hle
  linarith

end Superstore

namespace Superstore.Settlements

open Relational.Tx (Returns bind_of_ok bind_of_error require_of when_of)

/-! ## The rates -/

/-- Three rates that are deducted from a subtotal. -/
structure Rates where
  vat : ℚ
  serviceCharge : ℚ
  platformFee : ℚ

namespace Rates

variable (r : Rates) (subtotal : ℚ)

/-- What the rates add up to. -/
def sum : ℚ := r.vat + r.serviceCharge + r.platformFee

/-- The tax on the goods of an order. -/
def vatAmt : ℚ := toDecimalPlaces2 (subtotal * r.vat)

/-- The service charge on the goods of an order. -/
def serviceChargeAmt : ℚ := toDecimalPlaces2 (subtotal * r.serviceCharge)

/-- The platform's fee on the goods of an order. -/
def platformFeeAmt : ℚ := toDecimalPlaces2 (subtotal * r.platformFee)

/-- What is left for the store. -/
def storeAmt : ℚ := subtotal - r.vatAmt subtotal - r.serviceChargeAmt subtotal - r.platformFeeAmt subtotal

/-- The rates are accepted: each lies between nothing and everything, and so does their sum. -/
structure Accepted : Prop where
  vat : 0 ≤ r.vat ∧ r.vat ≤ 1
  serviceCharge : 0 ≤ r.serviceCharge ∧ r.serviceCharge ≤ 1
  platformFee : 0 ≤ r.platformFee ∧ r.platformFee ≤ 1
  sum_le : r.sum ≤ 1

/-- The rates are those that a settlement reads. -/
structure Configured (e : Env) (db : Database) : Prop where
  vat : getRate e "vat_rate" db = .ok (r.vat, db)
  serviceCharge : getRate e "service_charge_rate" db = .ok (r.serviceCharge, db)
  platformFee : getRate e "platform_fee_rate" db = .ok (r.platformFee, db)

end Rates

/-- What is left for the store is a number of whole cents. -/
theorem Rates.storeAmt_cents (r : Rates) {subtotal : ℚ} (h : Cents subtotal) : Cents (r.storeAmt subtotal) :=
  ((h.sub (cents_toDecimalPlaces2 _)).sub (cents_toDecimalPlaces2 _)).sub (cents_toDecimalPlaces2 _)

/-- The deductions exceed the subtotal only where the rates leave less than a cent. -/
theorem Rates.remainder_lt (r : Rates) {subtotal : ℚ} (h : Cents subtotal) (hneg : r.storeAmt subtotal < 0) :
    subtotal * (1 - r.sum) < 1 / 100 := by
  have hle := (r.storeAmt_cents h).le_of_neg hneg
  have hvat := toDecimalPlaces2_le (subtotal * r.vat)
  have hservice := toDecimalPlaces2_le (subtotal * r.serviceCharge)
  have hplatform := toDecimalPlaces2_le (subtotal * r.platformFee)
  simp only [storeAmt, vatAmt, serviceChargeAmt, platformFeeAmt] at hle
  simp only [sum]
  linarith

/-! ## The settlement -/

/-- The store of an order is credited: the ledger has one entry more, and its wallet holds as much more. -/
def Credits (order : Order) (orderId : ℕ) (amount : ℚ) (db db' : Database) : Prop :=
  ∃ i t w, (db' .storeWalletTransaction).find i = some t ∧
    t.reference = some (settlementReference order.orderNumber) ∧ t.type = .credit ∧ t.amount = amount ∧
    t.orderId = some orderId ∧ (db' .storeWallet).find t.walletId = some w ∧ w.storeId = order.storeId ∧
    w.balance = (((db .storeWallet).first fun _ w => w.storeId == order.storeId).map (·.2.balance)).getD 0 + amount

/-- The part of a settlement that credits a wallet. -/
def creditStoreWallet (order : Order) (orderId : ℕ) (storeAmt : ℚ) (walletId : ℕ) : Tx Unit := do
  let reference := settlementReference order.orderNumber
  let _ ← createUnique .storeWalletTransaction (fun _ t => t.reference == some reference)
    { walletId := walletId, amount := storeAmt, type := .credit, reference := some reference,
      orderId := some orderId }
  update .storeWallet walletId fun w => { w with balance := w.balance + storeAmt }
  let delivery ← first .delivery fun _ d => d.orderId == orderId
  match delivery with
  | some (deliveryId, _) => holdRiderEarning deliveryId
  | none => pure ()

/-- The part of a settlement after the deductions. -/
def creditStore (order : Order) (orderId : ℕ) (storeAmt : ℚ) : Tx Unit := do
  let wallet ← firstOrCreate .storeWallet (fun _ w => w.storeId == order.storeId)
    { storeId := order.storeId }
  creditStoreWallet order orderId storeAmt wallet.1

section Settling

variable {e : Env} {db : Database} {orderId : ℕ} {order : Order} {r : Rates}

/-- The amount of a deduction, which is never refused. -/
theorem money_of_rate {subtotal rate : ℚ} (hsub : 0 ≤ subtotal) (hrate : 0 ≤ rate) :
    (ofExcept (money (subtotal * rate)) : Tx ℚ) db = .ok (toDecimalPlaces2 (subtotal * rate), db) := by
  have hmoney : money (subtotal * rate) = .ok (toDecimalPlaces2 (subtotal * rate)) :=
    money_eq_ok.mpr ⟨mul_nonneg hsub hrate, rfl⟩
  rw [ofExcept, hmoney]
  rfl

/-- Nothing is found under the reference of an order that has not been settled. -/
theorem first_of_new {orderNumber : String} (hnew : ¬Settled db orderNumber) :
    (db .storeWalletTransaction).first
    (fun _ t => t.reference == some (settlementReference orderNumber)) = none := by
  apply Relational.Table.first_eq_none.mpr
  intro i t ht
  rw [beq_eq_false_iff_ne]
  exact fun href => hnew ⟨i, t, ht, href⟩

/-- A settlement that has not taken place yet comes down to the sign of what is left for the store. -/
theorem settleOrder_eq (hfound : (db .order).find orderId = some order) (hsub : 0 ≤ order.subtotal)
    (hnew : ¬Settled db order.orderNumber) (hr : r.Accepted) (hconf : r.Configured e db) :
    settleOrder e orderId db =
      if 0 ≤ r.storeAmt order.subtotal then creditStore order orderId (r.storeAmt order.subtotal) db
      else .error (.badRequest "Settlement deductions exceed the order subtotal.") := by
  have horder : (findOrThrow .order orderId : Tx Order) db = .ok (order, db) := by
    simp only [Relational.Tx.findOrThrow, hfound]
  have hnone := first_of_new hnew
  rw [settleOrder, bind_of_ok horder]
  have hfirst : (first .storeWalletTransaction
      fun _ t => t.reference == some (settlementReference order.orderNumber) : Tx _) db = .ok (none, db) := by
    simp only [Relational.Tx.first, Relational.Tx.query, hnone]
  rw [bind_of_ok hfirst]
  refine (when_of (by rfl) _ db).trans ?_
  rw [bind_of_ok hconf.vat, bind_of_ok hconf.serviceCharge, bind_of_ok hconf.platformFee]
  have hsum : r.vat + r.serviceCharge + r.platformFee ≤ 1 := hr.sum_le
  rw [bind_of_ok (require_of hsum _ db)]
  rw [bind_of_ok (money_of_rate hsub hr.vat.1), bind_of_ok (money_of_rate hsub hr.serviceCharge.1),
    bind_of_ok (money_of_rate hsub hr.platformFee.1)]
  split
  · next h => exact bind_of_ok (require_of h _ db)
  · next h =>
    apply bind_of_error
    exact if_neg h

end Settling

/-! ## The credit -/

/-- Holding the fee of the order's delivery meets no entry that is there already. -/
def HoldFree (db : Database) (orderId : ℕ) : Prop :=
  ∀ i d, (db .delivery).first (fun _ d => d.orderId == orderId) = some (i, d) → d.riderId.isSome →
    (db .walletTransaction).first (fun _ t => t.reference == some ("DELIVERY-HOLD-" ++ toString i)) = none

/-- The fee of a delivery is held without failing. -/
theorem holdRiderEarning_returns {db : Database} {i : ℕ} {d : Delivery} (hd : (db .delivery).find i = some d)
    (horder : ((db .order).find d.orderId).isSome)
    (hfree : d.riderId.isSome → (db .walletTransaction).first
      (fun _ t => t.reference == some ("DELIVERY-HOLD-" ++ toString i)) = none) :
    Returns db (holdRiderEarning i) fun _ _ => True := by
  rw [holdRiderEarning, Relational.Tx.returns_bind, Relational.Tx.returns_find, hd]
  cases hrider : d.riderId with
  | none => simp [hrider]
  | some riderId =>
    obtain ⟨order, hfound⟩ := Option.isSome_iff_exists.mp horder
    have hnone := hfree (by rw [hrider]; rfl)
    simp only [Option.bind_some, hrider, Option.map_some, Relational.Tx.returns_bind,
      Relational.Tx.returns_findOrThrow, hfound, Relational.Tx.returns_first]
    refine ⟨order, rfl, ?_⟩
    rw [funded, Relational.Tx.returns_query]
    cases (db .riderProfile).first fun _ r => r.userId == riderId with
    | none => simp
    | some profile =>
      refine (Relational.Tx.returns_when _ _ _ _).mpr ⟨fun _ => ?_, fun _ => trivial⟩
      rw [Relational.Tx.returns_bind, Relational.Tx.returns_firstOrCreate]
      constructor <;> intros <;>
        simpa [Relational.Tx.returns_of_ok (m := create .riderEarning _) rfl] using hnone

/-- Once the store has a wallet, it is credited, and the fee of the order's delivery is held. -/
theorem creditStoreWallet_returns {db : Database} {orderId walletId : ℕ} {order : Order}
    {w : StoreWallet} {storeAmt : ℚ}
    (hfound : (db .order).find orderId = some order)
    (hnone : (db .storeWalletTransaction).first
      (fun _ t => t.reference == some (settlementReference order.orderNumber)) = none)
    (hfree : HoldFree db orderId) (hw : (db .storeWallet).find walletId = some w) :
    Returns db (creditStoreWallet order orderId storeAmt walletId) fun _ db' =>
      (∃ i, (db' .storeWalletTransaction).find i = some
        { walletId := walletId, amount := storeAmt, type := .credit,
          reference := some (settlementReference order.orderNumber), orderId := some orderId }) ∧
        (db' .storeWallet).find walletId = some { w with balance := w.balance + storeAmt } := by
  rw [creditStoreWallet, Relational.Tx.returns_bind, Relational.Tx.returns_createUnique]
  refine ⟨hnone, ?_⟩
  rw [Relational.Tx.returns_bind, Relational.Tx.returns_update, Relational.Database.set_of_ne _ _ (by decide), hw]
  refine ⟨rfl, ?_⟩
  rw [Relational.Tx.returns_bind, Relational.Tx.returns_first]
  generalize hdb : ((db.set .storeWalletTransaction _).set .storeWallet _ : Database) = db'
  have hentry : ∃ i, (db' .storeWalletTransaction).find i = some
      { walletId := walletId, amount := storeAmt, type := .credit,
        reference := some (settlementReference order.orderNumber), orderId := some orderId } := by
    refine ⟨(db .storeWalletTransaction).next, ?_⟩
    rw [← hdb, Relational.Database.set_of_ne _ _ (by decide), Relational.Database.set_self]
    exact Relational.Table.find_create_self _ _
  have hbalance : (db' .storeWallet).find walletId = some { w with balance := w.balance + storeAmt } := by
    rw [← hdb, Relational.Database.set_self, Relational.Table.find_update_self, hw]
    rfl
  have hother (n : TableName) (hn : n ≠ .storeWallet) (hn' : n ≠ .storeWalletTransaction) : db' n = db n := by
    rw [← hdb, Relational.Database.set_of_ne _ _ hn, Relational.Database.set_of_ne _ _ hn']
  rw [hother .delivery (by decide) (by decide)]
  cases hdelivery : (db .delivery).first fun _ d => d.orderId == orderId with
  | none => exact (Relational.Tx.returns_pure _ _ _).mpr ⟨hentry, hbalance⟩
  | some delivery =>
    obtain ⟨hd, hof⟩ := Relational.Table.find_of_first hdelivery
    have hhold : Returns db' (holdRiderEarning delivery.1) fun _ _ => True := by
      apply holdRiderEarning_returns (d := delivery.2)
      · rw [hother .delivery (by decide) (by decide)]
        exact hd
      · rw [hother .order (by decide) (by decide), beq_iff_eq.mp hof, hfound]
        rfl
      · rw [hother .walletTransaction (by decide) (by decide)]
        exact hfree _ _ hdelivery
    refine (hhold.and_wp (holdRiderEarning_writes delivery.1 db')).mono fun _ db'' h => ?_
    rw [h.2 _ (by decide), h.2 _ (by decide)]
    exact ⟨hentry, hbalance⟩

/-- The store is credited with what is left, and nothing fails on the way. -/
theorem creditStore_returns {db : Database} {orderId : ℕ} {order : Order} (storeAmt : ℚ)
    (hfound : (db .order).find orderId = some order) (hnew : ¬Settled db order.orderNumber)
    (hfree : HoldFree db orderId) :
    Returns db (creditStore order orderId storeAmt) fun _ db' => Credits order orderId storeAmt db db' := by
  have hnone : (db .storeWalletTransaction).first
      (fun _ t => t.reference == some (settlementReference order.orderNumber)) = none := first_of_new hnew
  rw [creditStore, Relational.Tx.returns_bind, Relational.Tx.returns_firstOrCreate]
  constructor
  · intro s hs
    obtain ⟨hw, hstore⟩ := Relational.Table.find_of_first hs
    refine (creditStoreWallet_returns hfound hnone hfree hw).mono fun _ db' ⟨⟨i, ht⟩, hw'⟩ => ?_
    refine ⟨i, _, _, ht, rfl, rfl, rfl, rfl, hw', beq_iff_eq.mp hstore, ?_⟩
    rw [hs]
    rfl
  · intro hs
    have hother (n : TableName) (hn : n ≠ .storeWallet) :
        db.set .storeWallet ((db .storeWallet).create { storeId := order.storeId }) n = db n :=
      Relational.Database.set_of_ne db _ hn
    have hw : ((db.set .storeWallet ((db .storeWallet).create { storeId := order.storeId }) : Database)
        .storeWallet).find (db .storeWallet).next = some { storeId := order.storeId } := by
      rw [Relational.Database.set_self]
      exact Relational.Table.find_create_self _ _
    refine (creditStoreWallet_returns ?_ ?_ ?_ hw).mono fun _ db' ⟨⟨i, ht⟩, hw'⟩ => ?_
    · rw [hother .order (by decide)]
      exact hfound
    · rw [hother .storeWalletTransaction (by decide)]
      exact hnone
    · intro i d
      rw [hother .delivery (by decide), hother .walletTransaction (by decide)]
      exact hfree i d
    · refine ⟨i, _, _, ht, rfl, rfl, rfl, rfl, hw', rfl, ?_⟩
      rw [hs]
      rfl

/-! ## What a settlement comes to -/

/-- A settlement credits the store with exactly what the rounded deductions leave. Where they leave less than
nothing it is refused, which takes rates that leave less than a cent. -/
theorem settlement_splits {e : Env} {db : Database} {orderId : ℕ} {order : Order} {r : Rates}
    (hfound : (db .order).find orderId = some order) (hcents : Cents order.subtotal) (hsub : 0 ≤ order.subtotal)
    (hnew : ¬Settled db order.orderNumber) (hr : r.Accepted) (hconf : r.Configured e db)
    (hfree : HoldFree db orderId) :
    (0 ≤ r.storeAmt order.subtotal →
      ∃ db', settleOrder e orderId db = .ok ((), db') ∧ Credits order orderId (r.storeAmt order.subtotal) db db') ∧
    (r.storeAmt order.subtotal < 0 →
      settleOrder e orderId db = .error (.badRequest "Settlement deductions exceed the order subtotal.")) ∧
    r.vatAmt order.subtotal + r.serviceChargeAmt order.subtotal + r.platformFeeAmt order.subtotal +
      r.storeAmt order.subtotal = order.subtotal ∧
    (1 / 100 ≤ order.subtotal * (1 - r.sum) → 0 ≤ r.storeAmt order.subtotal) := by
  have heq := settleOrder_eq hfound hsub hnew hr hconf
  refine ⟨fun h => ?_, fun h => ?_, ?_, fun h => ?_⟩
  · obtain ⟨a, db', hrun, hcredits⟩ := creditStore_returns (r.storeAmt order.subtotal) hfound hnew hfree
    rw [if_pos h] at heq
    exact ⟨db', heq.trans hrun, hcredits⟩
  · rw [if_neg (not_le.mpr h)] at heq
    exact heq
  · rw [Rates.storeAmt]
    ring
  · by_contra hneg
    exact absurd (r.remainder_lt hcents (not_le.mp hneg)) (not_lt.mpr h)

/-! ## One order -/

/-- An order of one piece at a price. -/
def pricedOrder (price : ℚ) : Order where
  orderNumber := "NG-1"
  userId := 1
  storeId := 1
  fulfillmentType := .pickup
  subtotal := price
  total := price
  items := [
    { id := 0, storeProductId := 1, productId := 1, quantity := 1, unitPrice := price, totalPrice := price }]

/-- A database that holds nothing but an order of one piece. -/
def pricedOrders (price : ℚ) : Database :=
  Relational.Database.set Database.empty .order (Relational.Table.empty.create (pricedOrder price))

/-- Half of a subtotal is deducted twice, and nothing a third time. -/
def halves : Rates := ⟨1 / 2, 1 / 2, 0⟩

/-- The rates of the environment are halves. -/
def halvesConfigured : Env where
  now := 0
  config := fun key => some (if key = "platform_fee_rate" then 0 else 1 / 2)

/-- The rates that hold where nothing is configured. -/
def defaultRates : Rates := ⟨75 / 1000, 5 / 100, 5 / 100⟩

/-- A rate is read from the environment where the database has none. -/
theorem getRate_of_config {e : Env} {db : Database} {key : String} {rate : ℚ}
    (hrow : (db .platformConfig).first (fun _ c => c.key == key) = none)
    (hrate : (e.config key).getD (defaults key) = rate) (h : 0 ≤ rate ∧ rate ≤ 1) :
    getRate e key db = .ok (rate, db) := by
  have hread : (first .platformConfig fun _ c => c.key == key : Tx _) db = .ok (none, db) := by
    simp only [Relational.Tx.first, Relational.Tx.query, hrow]
  rw [getRate, bind_of_ok hread]
  subst hrate
  exact (bind_of_ok rfl).trans (bind_of_ok (require_of h _ db))

/-- The only order is the one that is priced. -/
theorem pricedOrders_order (price : ℚ) : (pricedOrders price .order).find 1 = some (pricedOrder price) := by
  rw [pricedOrders, Relational.Database.set_self]
  rfl

/-- All other tables are empty. -/
theorem pricedOrders_of_ne (price : ℚ) {n : TableName} (hn : n ≠ .order) : pricedOrders price n = .empty :=
  Relational.Database.set_of_ne _ _ hn

/-- The order has not been settled yet. -/
theorem pricedOrders_new (price : ℚ) : ¬Settled (pricedOrders price) (pricedOrder price).orderNumber := by
  rintro ⟨i, t, ht, _⟩
  rw [pricedOrders_of_ne price (by decide)] at ht
  cases ht

/-- Nothing has been held back for the order yet. -/
theorem pricedOrders_holdFree (price : ℚ) : HoldFree (pricedOrders price) 1 := by
  intro i d hd
  rw [pricedOrders_of_ne price (by decide)] at hd
  cases hd

/-- Two halves of a cent round to two cents: the settlement of an order for one cent is refused, though the
rates are accepted. -/
theorem settlement_refused : halves.Accepted ∧ halves.Configured halvesConfigured (pricedOrders (1 / 100)) ∧
    Cents (pricedOrder (1 / 100)).subtotal ∧
    settleOrder halvesConfigured 1 (pricedOrders (1 / 100)) =
      .error (.badRequest "Settlement deductions exceed the order subtotal.") := by
  have haccepted : halves.Accepted := ⟨by decide +kernel, by decide +kernel, by decide +kernel, by decide +kernel⟩
  have hnone (key : String) : (pricedOrders (1 / 100) .platformConfig).first (fun _ c => c.key == key) = none := by
    rw [pricedOrders_of_ne _ (by decide)]
    rfl
  have hconf : halves.Configured halvesConfigured (pricedOrders (1 / 100)) :=
    ⟨getRate_of_config (hnone _) (by decide +kernel) haccepted.vat,
      getRate_of_config (hnone _) (by decide +kernel) haccepted.serviceCharge,
      getRate_of_config (hnone _) (by decide +kernel) haccepted.platformFee⟩
  refine ⟨haccepted, hconf, ⟨1, by norm_num [pricedOrder]⟩, ?_⟩
  rw [settleOrder_eq (pricedOrders_order _) (by decide +kernel) (pricedOrders_new _) haccepted hconf]
  exact if_neg (by decide +kernel)

/-- The default rates leave the store of an order for a hundred 82.50. -/
theorem settlement_splits_default : ∃ db', settleOrder { now := 0 } 1 (pricedOrders 100) = .ok ((), db') ∧
    Credits (pricedOrder 100) 1 (165 / 2) (pricedOrders 100) db' := by
  have haccepted : defaultRates.Accepted :=
    ⟨by decide +kernel, by decide +kernel, by decide +kernel, by decide +kernel⟩
  have hnone (key : String) : (pricedOrders 100 .platformConfig).first (fun _ c => c.key == key) = none := by
    rw [pricedOrders_of_ne _ (by decide)]
    rfl
  have hconf : defaultRates.Configured { now := 0 } (pricedOrders 100) :=
    ⟨getRate_of_config (hnone _) (by decide +kernel) haccepted.vat,
      getRate_of_config (hnone _) (by decide +kernel) haccepted.serviceCharge,
      getRate_of_config (hnone _) (by decide +kernel) haccepted.platformFee⟩
  have hsplit := (settlement_splits (pricedOrders_order 100) ⟨10000, by norm_num [pricedOrder]⟩ (by decide +kernel)
    (pricedOrders_new 100) haccepted hconf (pricedOrders_holdFree 100)).1 (by decide +kernel)
  have hamount : defaultRates.storeAmt (pricedOrder 100).subtotal = 165 / 2 := by decide +kernel
  rwa [hamount] at hsplit

end Superstore.Settlements

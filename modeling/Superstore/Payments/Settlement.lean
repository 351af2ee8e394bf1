import Superstore.Store.Environment
import Superstore.Store.Money

/-!
# Settlement of a paid order

The store is credited with the subtotal less three deductions, once for each order number.
The fee of a rider is held while the order is on its way and released at delivery.
-/

namespace Superstore.Settlements

/-- The rates used where nothing is configured. -/
def defaults : String → ℚ
  | "vat_rate" => 75 / 1000
  | "service_charge_rate" => 5 / 100
  | "platform_fee_rate" => 5 / 100
  | _ => 0

/-- The configured rate under a key, which has to lie between nothing and everything. -/
def getRate (e : Env) (key : String) : Tx ℚ := do
  let row ← first .platformConfig fun _ c => c.key == key
  let rate ← ofExcept (match row with
    | some (_, ⟨_, .decimal value⟩) => .ok value
    | some (_, ⟨_, .checkoutSettings _ _⟩) =>
      .error (.badRequest "Invalid settlement rate configuration.")
    | none => .ok ((e.config key).getD (defaults key)))
  require (0 ≤ rate ∧ rate ≤ 1) (.badRequest "Invalid settlement rate configuration.")
  pure rate

/-- The ledger reference of a settled order. -/
def settlementReference (orderNumber : String) : String := "ORDER-" ++ orderNumber

/-- Whether a payment group that carries an order has been paid. -/
def funded (orderId : ℕ) : Tx Bool := Relational.Tx.query fun db =>
  (db .checkoutPaymentGroup).rows.any fun g =>
    g.2.allocations.any (fun a => a.orderId == orderId) &&
      (g.2.status == .paid ||
        ((g.2.paymentId.bind (db .payment).find).map (·.status)) == some .paid)

/-- Hold the fee of the rider of a delivery. -/
def holdRiderEarning (deliveryId : ℕ) : Tx Unit := do
  let delivery ← find .delivery deliveryId
  match delivery.bind fun d => d.riderId.map fun riderId => (d.orderId, riderId) with
  | some (orderId, riderId) => do
    let order ← findOrThrow .order orderId
    let isFunded ← funded orderId
    let earning ← first .riderEarning fun _ r => r.deliveryId == deliveryId
    let profile ← first .riderProfile fun _ r => r.userId == riderId
    match profile with
    | some (profileId, _) =>
      when (0 < order.shippingFee ∧ isFunded ∧ earning.isNone) do
        let wallet ← firstOrCreate .wallet (fun _ w => w.userId == riderId)
          { userId := riderId }
        let _ ← create .riderEarning
          { riderId := profileId, deliveryId := deliveryId, amount := order.shippingFee }
        let reference := some ("DELIVERY-HOLD-" ++ toString deliveryId)
        let _ ← createUnique .walletTransaction (fun _ t => t.reference == reference)
          { walletId := wallet.1, amount := order.shippingFee, type := .hold, reference := reference }
        pure ()
    | none => pure ()
  | none => pure ()

/-- Credit the store of an order once. -/
def settleOrder (e : Env) (orderId : ℕ) : Tx Unit := do
  let order ← findOrThrow .order orderId
  let reference := settlementReference order.orderNumber
  let settled ← first .storeWalletTransaction fun _ t => t.reference == some reference
  when settled.isNone do
    let vatRate ← getRate e "vat_rate"
    let serviceChargeRate ← getRate e "service_charge_rate"
    let platformFeeRate ← getRate e "platform_fee_rate"
    require (vatRate + serviceChargeRate + platformFeeRate ≤ 1)
      (.badRequest "Settlement deductions exceed the order subtotal.")
    let vatAmt ← ofExcept (money (order.subtotal * vatRate))
    let serviceChargeAmt ← ofExcept (money (order.subtotal * serviceChargeRate))
    let platformFeeAmt ← ofExcept (money (order.subtotal * platformFeeRate))
    let storeAmt := order.subtotal - vatAmt - serviceChargeAmt - platformFeeAmt
    require (0 ≤ storeAmt) (.badRequest "Settlement deductions exceed the order subtotal.")
    let wallet ← firstOrCreate .storeWallet (fun _ w => w.storeId == order.storeId)
      { storeId := order.storeId }
    let _ ← createUnique .storeWalletTransaction (fun _ t => t.reference == some reference)
      { walletId := wallet.1, amount := storeAmt, type := .credit, reference := some reference,
        orderId := some orderId }
    update .storeWallet wallet.1 fun w => { w with balance := w.balance + storeAmt }
    let delivery ← first .delivery fun _ d => d.orderId == orderId
    match delivery with
    | some (deliveryId, _) => holdRiderEarning deliveryId
    | none => pure ()

/-- Release the held fee of the rider of a delivery. -/
def releaseRiderEarning (now deliveryId : ℕ) : Tx Unit := do
  let earning ← first .riderEarning fun _ r => r.deliveryId == deliveryId
  match earning with
  | some (earningId, earning) =>
    when (earning.status = "HELD") do
      let _ ← updateMany .riderEarning (fun i r => i == earningId && r.status == "HELD")
        fun r => { r with status := "RELEASED", releasedAt := some now }
      let profile ← findOrThrow .riderProfile earning.riderId
      let wallet ← first .wallet fun _ w => w.userId == profile.userId
      let wallet ← orThrow wallet .recordNotFound
      let reference := some ("DELIVERY-RELEASE-" ++ toString deliveryId)
      let _ ← createUnique .walletTransaction (fun _ t => t.reference == reference)
        { walletId := wallet.1, amount := earning.amount, type := .release, reference := reference }
      update .wallet wallet.1 fun w => { w with balance := w.balance + earning.amount }
  | none => pure ()

/-! ## What a settlement writes -/

open Relational.Tx (Writes)

/-- The tables of the fees held for riders. -/
def riderTables : List TableName := [.riderEarning, .wallet, .walletTransaction]

/-- The tables that the settlement of an order writes. -/
def tables : List TableName := [.storeWallet, .storeWalletTransaction] ++ riderTables

/-- Reading a rate writes nothing. -/
theorem getRate_writes (e : Env) (key : String) : Writes [] (getRate e key) :=
  .bind (.first _ _) fun _ => .bind (.ofExcept _) fun _ => .bind (.require _ _) fun _ => .pure _

/-- Holding a fee writes the tables of fees. -/
theorem holdRiderEarning_writes (deliveryId : ℕ) :
    Writes riderTables (holdRiderEarning deliveryId) := by
  refine .bind (.find _ _) fun delivery => ?_
  split
  · refine .bind (.findOrThrow _ _) fun order => .bind (.query _) fun _ => ?_
    refine .bind (.first _ _) fun _ => .bind (.first _ _) fun profile => ?_
    cases profile with
    | none => exact .pure ()
    | some profile =>
      exact .when (.bind (.firstOrCreate (by decide) _ _) fun _ => .bind (.create (by decide) _)
        fun _ => .bind (.createUnique (by decide) _ _) fun _ => .pure ())
  · exact .pure ()

/-- A settlement touches no order, no payment and no stock. -/
theorem settleOrder_writes (e : Env) (orderId : ℕ) : Writes tables (settleOrder e orderId) := by
  refine .bind (.findOrThrow _ _) fun order => .bind (.first _ _) fun _ => .when ?_
  have hrate (key : String) : Writes tables (getRate e key) :=
    (getRate_writes e key).mono (List.nil_subset _)
  refine .bind (hrate _) fun _ => .bind (hrate _) fun _ => .bind (hrate _) fun _ => ?_
  refine .bind (.require _ _) fun _ => ?_
  refine .bind (.ofExcept _) fun _ => .bind (.ofExcept _) fun _ => .bind (.ofExcept _) fun _ => ?_
  refine .bind (.require _ _) fun _ => .bind (.firstOrCreate (by decide) _ _) fun _ => ?_
  refine .bind (.createUnique (by decide) _ _) fun _ => .bind (.update (by decide) _ _) fun _ => ?_
  refine .bind (.first _ _) fun delivery => ?_
  cases delivery with
  | none => exact .pure ()
  | some delivery => exact (holdRiderEarning_writes _).mono (by decide)

/-- Releasing a fee writes the tables of fees. -/
theorem releaseRiderEarning_writes (now deliveryId : ℕ) :
    Writes riderTables (releaseRiderEarning now deliveryId) := by
  refine .bind (.first _ _) fun earning => ?_
  cases earning with
  | none => exact .pure ()
  | some earning =>
    exact .when (.bind (.updateMany (by decide) _ _) fun _ => .bind (.findOrThrow _ _) fun _ =>
      .bind (.first _ _) fun _ => .bind (.orThrow _ _) fun _ =>
      .bind (.createUnique (by decide) _ _) fun _ => .update (by decide) _ _)

open Relational.Tx (Within wp wp_bind wp_first wp_pure) in
/-- A settlement writes the wallets of stores, and may hold the fee of the order's delivery. -/
theorem settleOrder_within {R : Database → Database → Prop} [IsPreorder Database R] (e : Env) {orderId : ℕ}
    (hframe : ∀ {α : Type} {m : Tx α}, Writes [.storeWallet, .storeWalletTransaction] m → Within R m)
    (hhold : ∀ i d db, (db .delivery).first (fun _ d => d.orderId == orderId) = some (i, d) →
      wp db (holdRiderEarning i) fun _ db' => R db db') : Within R (settleOrder e orderId) := by
  refine .bind (.of_reads (.findOrThrow _ _)) fun order => .bind (.of_reads (.first _ _)) fun _ => .when ?_
  have hrate (key : String) : Within R (getRate e key) := .of_reads (getRate_writes e key)
  refine .bind (hrate _) fun _ => .bind (hrate _) fun _ => .bind (hrate _) fun _ => ?_
  refine .bind (.of_reads (.require _ _)) fun _ => .bind (.of_reads (.ofExcept _)) fun _ => ?_
  refine .bind (.of_reads (.ofExcept _)) fun _ => .bind (.of_reads (.ofExcept _)) fun _ => ?_
  dsimp only
  refine .bind (.of_reads (.require _ _)) fun _ => ?_
  refine .bind (hframe (.firstOrCreate (by decide) _ _)) fun wallet => ?_
  refine .bind (hframe (.createUnique (by decide) _ _)) fun _ => ?_
  refine .bind (hframe (.update (by decide) _ _)) fun _ db => ?_
  rw [wp_bind, wp_first]
  split
  · next i d hfirst => exact hhold i d db hfirst
  · exact (wp_pure _ _ _).mpr (refl_of R db)

/-! ## Settled orders -/

/-- An order number has been settled: the ledger has an entry under its reference. -/
def Settled (db : Database) (orderNumber : String) : Prop :=
  ∃ i t, (db .storeWalletTransaction).find i = some t ∧
    t.reference = some (settlementReference orderNumber)

end Superstore.Settlements

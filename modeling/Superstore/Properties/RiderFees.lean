import Superstore.Orders.Fees
import Superstore.Properties.WalletBalances
import Superstore.Requests.Checked
import Superstore.Wallets.Fees

/-!
# The fees of riders

A delivery has one fee, held once and released once, in the wallet of its rider and of the amount that its
order asks for shipping. Handing the order over releases the fee. Staff can complete an order without
its being handed over; as far as they complete none whose fee is held, every fee of a completed order
has been released.
-/

namespace Superstore

open Interleaving Relational Relational.Tx
open Orders (Moving)

/-! ## Operations -/

/-- An intervention of staff does not complete an order whose rider's fee is held. -/
def Op.leavesNoFee : {α : Type} → Op α → Database → Bool
  | _, .intervene id status _, db =>
    status != .completed || ((db .order).find id).all (fun o => !canTransitionOrder o.currentStatus .completed) ||
      ((db .riderEarning).many fun _ r =>
        r.status == "HELD" && ((db .delivery).find r.deliveryId).any (·.orderId == id)).isEmpty
  | _, _, _ => true

/-- What a request has made sure of before an operation that is told a status, a delivery or a wallet. -/
def Op.FeeGrounded : {α : Type} → Op α → Database → Prop
  | _, .writeStatus _ _ status _ _, _ => status ≠ .completed
  | _, .writeDelivery id _ _ _ deliveryId, db => ∃ d, (db .delivery).find deliveryId = some d ∧ d.orderId = id
  | _, .withdrawRider userId walletId _ _, db => ∃ w, (db .wallet).find walletId = some w ∧ w.userId = userId
  | _, _, _ => True

/-- Whether an operation needs any of that. -/
def Op.needsFee : {α : Type} → Op α → Bool
  | _, .writeStatus _ _ _ _ _ => true
  | _, .writeDelivery _ _ _ _ _ => true
  | _, .withdrawRider _ _ _ _ => true
  | _, _ => false

/-- Other operations need no fee. -/
theorem Op.FeeGrounded.of_not {α : Type} {op : Op α} (h : op.needsFee = false) (db : Database) :
    op.FeeGrounded db := by
  cases op <;> first | exact trivial | cases h

/-- An operation that knows its fee knows its wallet. -/
theorem Op.FeeGrounded.located {α : Type} {op : Op α} {db : Database} (h : op.FeeGrounded db) : op.Located db := by
  cases op <;> first | exact trivial | exact h

/-- A debit of a checkout is no entry of a fee. -/
theorem debitWallet_noted (userId : ℕ) (amount : ℚ) (reference : String) :
    Within (Keeps FeesNoted) (Checkout.debitWallet userId amount reference) := by
  intro db
  refine wp_mono (wp_and (debitWallet_posts (P := Plain) (fun _ _ _ _ => Plain.of_debit rfl) db)
    (Checkout.debitWallet_writes userId amount reference db)) fun _ db' ⟨hposts, hsame⟩ h => ?_
  exact h.posts hposts (hsame _ (by decide)) (.of_eq (hsame _ (by decide)))

/-- Every operation notes the fees that it holds and releases. -/
theorem exec_feesNoted {α : Type} {op : Op α} {w : World} (hlocated : op.Located w.db) (e : Env)
    (h : FeesNoted w.db) : FeesNoted (op.exec e w).2.db := by
  have hprofiles : (op.exec e w).2.db .riderProfile = w.db .riderProfile :=
    exec_frame op e w _ (by cases op <;> dsimp only [Op.writes] <;> decide)
  by_cases hwrites : TableName.riderEarning ∈ op.writes
  swap
  · refine h.posts ((hlocated.walletPosts e).mono fun v t hpost => ?_) (exec_frame op e w _ hwrites)
      (.of_eq hprofiles)
    cases op <;> dsimp only [Op.walletPosting] at hpost <;>
      first | exact hpost.elim | exact absurd (by dsimp only [Op.writes]; decide) hwrites | clear hwrites
    case repayFromWallet => exact Plain.of_debit hpost.1.1
    case creditTopup => exact Plain.of_credit hpost.1.1
    case creditFunding => exact Plain.of_credit hpost.1.1
    case cancelOrder => exact Plain.of_credit hpost.1.1
    case requestWalletWithdrawal => exact Plain.of_debit hpost.1.1
    case withdrawRider => exact Plain.of_debit hpost.2.2.1
    case claimReferrals => exact Plain.of_credit hpost.1.1
    case redeemCashback => exact Plain.of_credit hpost.1.1
  have hrun {α : Type} {op : Op α} {m : Env → Tx α} (hop : op.transaction = some m)
      (hm : Within (Keeps FeesNoted) (m e)) : FeesNoted (op.exec e w).2.db :=
    exec_transaction hop (Φ := fun w' => FeesNoted w'.db) h (wp_mono (hm w.db) fun _ _ h' => h' h)
  cases op <;> dsimp only [Op.writes] at hwrites <;>
    first | exact absurd hwrites (by decide) | clear hwrites
  case createCheckout =>
    exact hrun rfl (settling_feesNoted.createInTransaction e _ _ fun _ _ _ => debitWallet_noted _ _ _)
  case confirmFinancing => exact hrun rfl (settling_feesNoted.confirm e _ fun _ _ _ => debitWallet_noted _ _ _)
  case finalizePayment => exact hrun rfl (settling_feesNoted.finalizePayment e _ _ _)
  case completeIncomplete => exact hrun rfl (settling_feesNoted.completeIncomplete e _)
  case completeKlump => exact hrun rfl (settling_feesNoted.completeTransaction e _ _ _)
  case writeDelivery =>
    exact hrun rfl (accounting_feesNoted.writeDelivery e _ _ _ _ (Settlements.releaseRiderEarning_noted _ _))
  case claimDelivery =>
    exact hrun rfl (accounting_feesNoted.claimDelivery e _ _ (Settlements.holdRiderEarning_noted _))

/-- Deliveries stay with their orders. -/
def Delivery.Stays (d d' : Delivery) : Prop := d'.orderId = d.orderId

/-- Staying a delivery is reflexive and transitive. -/
instance : IsPreorder Delivery Delivery.Stays where
  refl _ := rfl
  trans _ _ _ h h' := h'.trans h

/-- A move leaves deliveries with their orders. -/
theorem Dispatch.Moves.stay {calls sets : OrderStatus → Prop} {s s' : Dispatch}
    (h : Dispatch.Moves calls sets s s') :
    s.deliveries.Evolves Delivery.Stays s'.deliveries := by
  induction h with
  | refl => exact .refl _
  | tail _ hmove ih =>
    refine ih.trans ?_
    cases hmove with
    | place => exact .refl _
    | placeForDelivery o h d => exact .create _ d
    | advance => exact .refl _
    | callOff => exact .updateMany fun _ _ _ _ => rfl
    | claim => exact .update fun _ _ => rfl

/-- Every operation keeps the fees where staff complete no order whose fee is held, and leaves deliveries with
their orders. -/
theorem exec_feesKept {α : Type} {op : Op α} {e : Env} {w : World} (h : FeesKept w.db)
    (hknown : op.FeeGrounded w.db)
    (hleaves : op.leavesNoFee w.db) :
    FeesKept (op.exec e w).2.db ∧ (w.db .delivery).Evolves Delivery.Stays ((op.exec e w).2.db .delivery) := by
  by_cases hwrites : ∃ n ∈ feeTables, n ∈ op.writes
  swap
  · have hsame (n : TableName) (hn : n ∈ feeTables) : (op.exec e w).2.db n = w.db n :=
      exec_frame op e w n fun hmem => hwrites ⟨n, hn, hmem⟩
    exact ⟨h.congr hsame, .of_eq (hsame _ (by decide))⟩
  by_cases hchecked : op.checked = true ∧ op.sets .completed = false
  · have hsets (s : OrderStatus) (hs : op.sets s) : s ≠ .completed := by
      rintro rfl
      rw [hs] at hchecked
      exact absurd hchecked.2 (by decide)
    have hmoves : Moving OrderStatus.Open (· ≠ .completed) w.db (op.exec e w).2.db :=
      Orders.respects_moving.exec hchecked.1 op.open_of_calls hsets e w
    have hrespects : Orders.Respects OrderStatus.Open (· ≠ .completed) (Keeps FeesKept) := Orders.respects_feesKept
    exact ⟨hrespects.exec hchecked.1 op.open_of_calls hsets e w h,
      Dispatch.Moves.stay hmoves⟩
  have hrun {α : Type} {op : Op α} {m : Env → Tx α} (hop : op.transaction = some m)
      (hm : wp w.db (m e) fun _ db => FeesKept db ∧ (w.db .delivery).Evolves Delivery.Stays (db .delivery)) :
      FeesKept (op.exec e w).2.db ∧ (w.db .delivery).Evolves Delivery.Stays ((op.exec e w).2.db .delivery) :=
    exec_transaction hop (Φ := fun w' => FeesKept w'.db ∧ (w.db .delivery).Evolves Delivery.Stays (w'.db .delivery))
      ⟨h, .refl _⟩ hm
  have hfees {ns : List TableName} {db : Database} {s : Dispatch} (hs : dispatch db = s)
      (hsame : ∀ n ∉ ns, db n = w.db n) (hearning : TableName.riderEarning ∉ ns)
        (hprofile : TableName.riderProfile ∉ ns)
      (hs' : Fees s (w.db .riderEarning) (w.db .riderProfile)) : FeesKept db := by
    rw [FeesKept, hs, hsame _ hearning, hsame _ hprofile]
    exact hs'
  have hdelivered {i : ℕ} {status : DeliveryStatus} {f : Delivery → Delivery} (hf : Delivery.Restates status f) :
      (w.db .delivery).Evolves Delivery.Stays ((w.db .delivery).update i f) := .update fun d _ => (hf d).2.1
  cases op <;> dsimp only [Op.writes] at hwrites <;>
    first
    | exact absurd hwrites (by decide)
    | exact absurd ⟨rfl, rfl⟩ hchecked
    | clear hwrites
  case intervene id status reason =>
    refine hrun rfl (wp_mono (wp_and (Orders.intervene_dispatch e id status reason w.db)
      (Orders.intervene_writes e id status reason w.db)) ?_)
    rintro _ db ⟨⟨o, n, ho, -, hnext, ⟨rfl, -, rfl⟩, hdb⟩, hsame⟩
    refine ⟨hfees hdb hsame (by decide) (by decide) (h.write fun hcompleted j r d hr hd hid => ?_),
      .of_eq (congrArg Dispatch.deliveries hdb)⟩
    obtain ⟨_, _, _, _, _, _, _, _, hstatus, _⟩ := h.earned j r hr
    refine hstatus.resolve_left fun hheld => ?_
    rw [hcompleted] at hnext
    simp only [Op.leavesNoFee, hcompleted, ho, hnext, bne_self_eq_false, Option.all_some, Bool.not_true,
      Bool.or_self, Bool.false_or, List.isEmpty_iff] at hleaves
    have hmem : (j, r) ∈ (w.db .riderEarning).many fun _ r =>
        r.status == "HELD" && ((w.db .delivery).find r.deliveryId).any (·.orderId == n.orderId) := by
      refine Table.mem_many.mpr ⟨hr, ?_⟩
      have hfound : (w.db .delivery).find r.deliveryId = some d := hd
      simp [hheld, hfound, hid]
    rw [hleaves] at hmem
    cases hmem
  case writeStatus id fromStatus status actorId reason =>
    refine hrun rfl (wp_mono (wp_and (Orders.writeStatus_dispatch id fromStatus status actorId reason w.db)
      (Orders.writeStatus_writes id fromStatus status actorId reason w.db)) ?_)
    rintro _ db ⟨⟨n, ⟨-, -, rfl⟩, hdb⟩, hsame⟩
    exact ⟨hfees hdb hsame (by decide) (by decide) (h.write fun hcompleted => absurd hcompleted hknown),
      .of_eq (congrArg Dispatch.deliveries hdb)⟩
  case writePacked id fromStatus actorId =>
    refine hrun rfl (wp_mono (wp_and (Orders.writePacked_dispatch id fromStatus actorId w.db)
      (Orders.writePacked_writes id fromStatus actorId w.db)) ?_)
    rintro _ db ⟨⟨n, ⟨-, -, hto⟩, hdb⟩, hsame⟩
    exact ⟨hfees hdb hsame (by decide) (by decide) (h.write fun hcompleted =>
      absurd (hto.symm.trans hcompleted) (by decide)),
      .of_eq (congrArg Dispatch.deliveries hdb)⟩
  case writePickup id fromStatus riderId credentialId =>
    refine hrun rfl (wp_mono (wp_and (Orders.writePickup_dispatch e id fromStatus riderId credentialId w.db)
      (Orders.writePickup_writes e id fromStatus riderId credentialId w.db)) ?_)
    rintro _ db ⟨⟨n, i, f, -, ⟨-, -, hto⟩, ⟨-, hf⟩, hdb⟩, hsame⟩
    have hwritten := h.write (h := n) fun hcompleted => absurd (hto.symm.trans hcompleted) (by decide)
    have hdeliveries : db .delivery = _ := congrArg Dispatch.deliveries hdb
    exact ⟨hfees hdb hsame (by decide) (by decide) (hwritten.deliver hf), hdeliveries.symm ▸ hdelivered hf⟩
  case writeDelivery id order riderId credentialId deliveryId =>
    refine hrun rfl (wp_mono (wp_and (Orders.writeDelivery_dispatch e id order riderId credentialId deliveryId w.db)
      (Orders.writeDelivery_fees e order riderId credentialId h hknown)) ?_)
    rintro _ db ⟨⟨n, n', i, f, -, -, -, ⟨-, hf⟩, hdb⟩, hkept⟩
    have hdeliveries : db .delivery = _ := congrArg Dispatch.deliveries hdb
    exact ⟨hkept, hdeliveries.symm ▸ hdelivered hf⟩
  case writeProgress deliveryId status orderId orderStatus riderId location note =>
    refine hrun rfl (wp_mono (wp_and (Orders.writeProgress_dispatch e deliveryId status orderId orderStatus riderId
      location note w.db) (Orders.writeProgress_writes e deliveryId status orderId orderStatus riderId location note
      w.db)) ?_)
    rintro _ db ⟨⟨f, hf, ⟨-, hdb⟩ | ⟨n, s, htarget, ⟨-, -, hto⟩, hdb⟩⟩, hsame⟩
    · have hdeliveries : db .delivery = _ := congrArg Dispatch.deliveries hdb
      exact ⟨hfees hdb hsame (by decide) (by decide) (h.deliver hf), hdeliveries.symm ▸ hdelivered hf⟩
    · have hdeliveries : db .delivery = _ := congrArg Dispatch.deliveries hdb
      refine ⟨hfees hdb hsame (by decide) (by decide) ((h.deliver hf).write fun hcompleted => ?_),
        hdeliveries.symm ▸ hdelivered hf⟩
      rw [hto, (Orders.progressTarget_eq_some htarget).2.2.2] at hcompleted
      cases hcompleted

/-! ## Runs -/

/-- A change made outside of the requests that leaves wallets, deliveries and fees alone as well. -/
structure FeeChange (w w' : World) : Prop extends OutsideWallets w w' where
  fees : ∀ n ∈ [TableName.delivery, .riderEarning], w'.db n = w.db n
  profiles : (w.db .riderProfile).Evolves RiderProfile.Stays (w'.db .riderProfile)

/-- The store with everything that moves money, where nobody else writes deliveries and fees. -/
def courier : System Op Error World Env :=
  { machine with
    starts := fun p => StoreRequest p ∨ WalletRequest p
    background := FeeChange }

/-- What is kept of the fees of riders where staff complete no order whose fee is held. -/
def fees : Contract Op World Env where
  inv w := FeesKept w.db ∧ FeesNoted w.db ∧ LedgersBalanced w.db
  guar w w' := (w.db .delivery).Evolves Delivery.Stays (w'.db .delivery) ∧ LedgersMove w w'
  known op w := op.FeeGrounded w.db
  allowed op e w := e.fails || op.leavesNoFee w.db
  refl _ := ⟨.refl _, refl_of LedgersMove _⟩
  trans h h' := ⟨h.1.trans h'.1, trans_of LedgersMove h.2 h'.2⟩

/-- Every operation keeps the fees. -/
theorem fees_safe {α : Type} (op : Op α) : fees.Safe machine op := by
  rintro e w ⟨hkept, hnoted, hbalanced⟩ hknown hallowed
  obtain ⟨hbalanced', hmove⟩ := ledgers_safe op e w hbalanced hknown.located trivial
  by_cases hfails : e.fails = true
  · have hsame : (machine.exec op e w).2.db = w.db := exec_fails_db hfails
    exact ⟨⟨by rwa [hsame], by rwa [hsame], hbalanced'⟩, .of_eq (congrFun hsame _), hmove⟩
  · have hleaves := (Bool.or_eq_true_iff.mp hallowed).resolve_left hfails
    obtain ⟨hkept', hstays⟩ := exec_feesKept (e := e) hkept hknown hleaves
    exact ⟨⟨hkept', exec_feesNoted hknown.located e hnoted, hbalanced'⟩, hstays, hmove⟩

/-- A program that comes to no operation which needs to know anything. -/
theorem Uses.fees {α : Type} {ks : List OpKind} {p : Request α} (h : Uses ks p)
    (hks : .status ∉ ks ∧ .riderWithdrawal ∉ ks) (w : World) : fees.Ready machine p w := by
  refine Contract.informed_of_all (h.imp fun _ op hop w => Op.FeeGrounded.of_not ?_ w.db) w
  cases op <;> first | rfl | exact absurd hop hks.1 | exact absurd hop hks.2

/-- Requests that write a status have made sure of the delivery whose fee they release. -/
theorem StatusRequest.fees {p : Request Unit} (h : StatusRequest p) (w : World) : fees.Ready machine p w := by
  have hcall {α : Type} {op : Op α} (hop : op.needsFee = false) (w : World) :
      Superstore.fees.Ready machine (call op) w :=
    .call fun w _ _ => .of_not hop w.db
  have hclaim (riderId deliveryId : ℕ) (offerId : Option ℕ) (w : World) :
      Superstore.fees.Ready machine (Orders.claim riderId deliveryId offerId) w :=
    .bind (hcall rfl w) fun _ w => hcall rfl w
  cases h with
  | setStatus actorId id status reason =>
    refine .bind (hcall rfl w) fun _ w => ready_check fun _ => ready_check fun _ => ready_check fun hmanaged => ?_
    refine ready_check fun _ => .then (fun _ _ _ => ?_) fun _ w _ _ => ?_
    · rintro rfl
      exact absurd hmanaged (by decide)
    · exact .bind (hcall rfl w) fun _ w => ready_onlyIf fun _ => hcall rfl w
  | completePacking actorId storeId id =>
    refine .bind (hcall rfl w) fun _ w => .bind (hcall rfl w) fun _ w => ready_check fun _ => ?_
    refine .bind (hcall rfl w) fun _ w => ready_check fun _ => .bind (hcall rfl w) fun _ w =>
      ready_check fun _ => ?_
    exact .bind (hcall rfl w) fun _ w => .bind (hcall rfl w) fun _ w => hcall rfl w
  | confirmPickup riderId id token =>
    refine .bind (hcall rfl w) fun _ w => .bind (hcall rfl w) fun _ w => .bind (hcall rfl w) fun _ w => ?_
    refine .bind (hcall rfl w) fun _ w => .bind (hcall rfl w) fun _ w => ?_
    exact ready_check fun _ => ready_check fun _ => hcall rfl w
  | confirmDelivery riderId id token =>
    refine ready_selectOrThrow (fun _ => trivial) fun w₁ r _ _ hr => ?_
    simp only [Orders.riderOrder, Option.bind_eq_bind, Option.bind_eq_some_iff, Option.pure_def,
      Option.some.injEq] at hr
    obtain ⟨⟨i, d⟩, hfirst, o, -, rfl⟩ := hr
    obtain ⟨hd, hmatch⟩ := Table.find_of_first hfirst
    simp only [Bool.and_eq_true, beq_iff_eq] at hmatch
    have hplaced {w : World} (hguar : Superstore.fees.guar w₁ w) :
        ∃ d, (w.db .delivery).find i = some d ∧ d.orderId = id := by
      obtain ⟨d', hd', hstays⟩ := hguar.1 i d hd
      exact ⟨d', hd', hstays.trans hmatch.1⟩
    refine .then (fun _ _ _ => trivial) fun _ w₂ h₂ _ => ?_
    refine ready_read (fun _ => trivial) fun w₃ _ h₃ _ _ => ready_check fun _ => ?_
    refine .then (fun w₄ h₄ _ => hplaced (Superstore.fees.trans h₂ (Superstore.fees.trans h₃ h₄))) fun _ w _ _ => ?_
    exact .bind (hcall rfl w) fun _ w => ready_onlyIf fun _ => hcall rfl w
  | updateStatus riderId deliveryId status location note =>
    refine .bind (hcall rfl w) fun _ w => ready_check fun _ => ready_check fun _ => ready_check fun _ => ?_
    exact ready_check fun _ => ready_check fun _ => hcall rfl w
  | claim riderId deliveryId => exact hclaim _ _ _ w
  | accept riderId offerId => exact .bind (hcall rfl w) fun _ w => hclaim _ _ _ w
  | updateOrderStatus id status reason =>
    exact .bind (hcall rfl w) fun _ w => .bind (hcall rfl w) fun _ w => ready_onlyIf fun _ => hcall rfl w

/-- Every request about wallets knows the fees that it pays. -/
theorem WalletRequest.fees {p : Request Unit} (h : WalletRequest p) (w : World) : fees.Ready machine p w := by
  cases h with
  | riderWithdrawal userId amount bankAccountId =>
    exact Wallets.requestRiderWithdrawal_ready (fun _ h => h.2.2.users.owned) (fun _ _ h => h.2.users)
      (fun _ _ => trivial) (fun _ => trivial) fun _ _ _ h => h
  | customerWithdrawal userId input => exact (Wallets.requestCustomerWithdrawal_uses _ _).fees (by decide) w
  | storeWithdrawal userId storeId amount => exact (Wallets.requestStoreWithdrawal_uses _ _ _).fees (by decide) w
  | claim userId => exact (Wallets.claim_uses _).fees (by decide) w
  | redeem userId input => exact (Wallets.redeem_uses _ _).fees (by decide) w

/-- The requests of riders keep the fees. -/
theorem fees_holds : fees.Holds courier where
  starts {p} hp w _ := by
    rcases hp with hp | hp
    · cases hp with
      | payment h => exact h.uses.fees (by decide) w
      | refund h => exact h.uses.fees (by decide) w
      | status h => exact h.fees w
    · exact hp.fees w
  performs op := fees_safe op
  background {w w'} h hinv := by
    obtain ⟨hkept, hnoted, hbalanced⟩ := hinv
    have hmove : LedgersMove w w' :=
      ⟨.of_eq (h.wallets _ (by decide)) (h.wallets _ (by decide)),
        .of_eq (h.wallets _ (by decide)) (h.wallets _ (by decide))⟩
    refine ⟨⟨?_, ?_, hmove.balanced hbalanced⟩, .of_eq (h.fees _ (by decide)), hmove⟩
    · rw [FeesKept, dispatch, h.owned .order (by decide), h.fees .delivery (by decide),
        h.fees .riderEarning (by decide)]
      exact hkept.outside h.profiles
    · exact hnoted.posts (.of_eq (h.wallets _ (by decide)) (h.wallets _ (by decide)))
        (h.fees _ (by decide)) h.profiles

/-! ## Entries -/

/-- An entry of a type with a reference. -/
def Entered (db : Database) (type : WalletTransactionType) (reference : String) (k : ℕ)
    (t : WalletTransaction) : Prop :=
  (db .walletTransaction).find k = some t ∧ t.type = type ∧ t.reference = some reference

/-- At most one entry is made for a delivery: of what its order asks for shipping, in the wallet of its rider. -/
structure OneEntry (db : Database) (type : WalletTransactionType) (reference : String) (d : Delivery) (o : Order) :
    Prop where
  unique : ∀ k l t u, Entered db type reference k t → Entered db type reference l u → k = l
  amount : ∀ k t, Entered db type reference k t → t.amount = o.shippingFee
  rider : ∀ k t, Entered db type reference k t →
    ∃ v, (db .wallet).find t.walletId = some v ∧ d.riderId = some v.userId

/-- Entries that are all about a fee are at most one for each delivery. -/
theorem oneEntry_of_notes {db : Database} (hkept : FeesKept db) (hbalanced : LedgersBalanced db)
    {type : WalletTransactionType} {reference : ℕ → String} (hinj : Function.Injective reference)
    (hnotes : ∀ k t, (db .walletTransaction).find k = some t → t.type = type →
      ∃ j r, (db .riderEarning).find j = some r ∧ NotesFee db reference t r)
    {i : ℕ} {d : Delivery} {o : Order} (hd : (db .delivery).find i = some d)
    (ho : (db .order).find d.orderId = some o) :
    OneEntry db type (reference i) d o := by
  have hfee {k : ℕ} {t : WalletTransaction} (ht : Entered db type (reference i) k t) :
      t.amount = o.shippingFee ∧ ∃ v, (db .wallet).find t.walletId = some v ∧ d.riderId = some v.userId := by
    obtain ⟨hfind, htype, href⟩ := ht
    obtain ⟨j, r, hr, href', hamount, p, v, hp, hv, hown⟩ := hnotes k t hfind htype
    obtain rfl : r.deliveryId = i := hinj (Option.some.inj (href'.symm.trans href))
    obtain ⟨d', o', p', hd', ho', hp', hrider, hfee, -⟩ := hkept.earned j r hr
    obtain rfl := Option.some.inj (hd.symm.trans hd')
    obtain rfl := Option.some.inj (ho.symm.trans ho')
    obtain rfl := Option.some.inj (hp.symm.trans hp')
    exact ⟨hamount.trans hfee, v, hv, hrider.trans (congrArg some hown.symm)⟩
  exact
    { unique := fun k l t u ht hu => hbalanced.users.unique k t l u _ ht.1 hu.1 ht.2.2 hu.2.2
      amount := fun k t ht => (hfee ht).1
      rider := fun k t ht => (hfee ht).2 }

/-- In every run in which staff complete no order whose rider's fee is held, and at every delivery with its
order: at most one entry holds the fee and at most one releases it, each is what the order asks for shipping
and is in the wallet of the rider, a fee is released only if it was held, and has been if the order is
completed; and every balance is what has been credited and released less what has been debited. -/
theorem rider_fees_released_once {w : World} (hkept : FeesKept w.db) (hnoted : FeesNoted w.db)
    (hbalanced : LedgersBalanced w.db) {c : Config Op Error World}
    (hrun : courier.Run (fun op e c => e.fails || op.leavesNoFee c.world.db) ⟨w, []⟩ c) :
    (∀ i d, (c.world.db .delivery).find i = some d → ∃ o, (c.world.db .order).find d.orderId = some o ∧
      OneEntry c.world.db .hold (holdReference i) d o ∧ OneEntry c.world.db .release (releaseReference i) d o ∧
      ((∃ k t, Entered c.world.db .release (releaseReference i) k t) →
        ∃ k t, Entered c.world.db .hold (holdReference i) k t) ∧
      (o.currentStatus = .completed → (∃ k t, Entered c.world.db .hold (holdReference i) k t) →
        ∃ k t, Entered c.world.db .release (releaseReference i) k t)) ∧
    ∀ l v, (c.world.db .wallet).find l = some v →
      v.balance = posted c.world.db .credit l + posted c.world.db .release l - posted c.world.db .debit l := by
  have hsound : fees.Sound courier ⟨w, []⟩ := ⟨⟨hkept, hnoted, hbalanced⟩, by simp⟩
  obtain ⟨⟨⟨hkept, hnoted, hbalanced⟩, -⟩, -⟩ := fees_holds.run hsound hrun
  refine ⟨fun i d hd => ?_, fun l v hv => balance_of_balanced hbalanced.users hv⟩
  obtain ⟨o, ho⟩ := hkept.found i d hd
  refine ⟨o, ho, oneEntry_of_notes hkept hbalanced holdReference_injective hnoted.holds hd ho,
    oneEntry_of_notes hkept hbalanced releaseReference_injective (fun k t ht htype => ?_) hd ho, ?_, ?_⟩
  · obtain ⟨j, r, hr, -, hnotes⟩ := hnoted.releases k t ht htype
    exact ⟨j, r, hr, hnotes⟩
  · rintro ⟨k, t, ht, htype, href⟩
    obtain ⟨j, r, hr, -, href', -⟩ := hnoted.releases k t ht htype
    obtain rfl : r.deliveryId = i := releaseReference_injective (Option.some.inj (href'.symm.trans href))
    exact hnoted.held j r hr
  · rintro hcompleted ⟨k, t, ht, htype, href⟩
    obtain ⟨j, r, hr, href', -⟩ := hnoted.holds k t ht htype
    obtain rfl : r.deliveryId = i := holdReference_injective (Option.some.inj (href'.symm.trans href))
    obtain ⟨d', o', p, hd', ho', -, -, -, -, hreleased⟩ := hkept.earned j r hr
    obtain rfl := Option.some.inj (hd.symm.trans hd')
    obtain rfl := Option.some.inj (ho.symm.trans ho')
    exact hnoted.released j r hr (hreleased hcompleted)

/-! ## An order that staff complete -/

/-- A store before the first fee: no wallet has been used, and no order has two deliveries. -/
structure Unearned (db : Database) : Prop extends EmptyWallets db where
  found : ∀ i d, (db .delivery).find i = some d → ∃ o, (db .order).find d.orderId = some o
  single : ∀ i j d d', (db .delivery).find i = some d → (db .delivery).find j = some d' →
    d.orderId = d'.orderId → i = j
  earnings : ∀ j, (db .riderEarning).find j = none

/-- Before the first delivery no fees have been held. -/
theorem Unearned.kept {db : Database} (h : Unearned db) : FeesKept db where
  found := h.found
  single := h.single
  unique j k r r' hr := absurd hr (by simp [h.earnings j])
  earned j r hr := absurd hr (by simp [h.earnings j])

/-- Before the first delivery no fees have been noted. -/
theorem Unearned.noted {db : Database} (h : Unearned db) : FeesNoted db where
  owned := h.owned
  holds k t ht := absurd ht (by simp [h.entries k])
  held j r hr := absurd hr (by simp [h.earnings j])
  releases k t ht := absurd ht (by simp [h.entries k])
  released j r hr := absurd hr (by simp [h.earnings j])

/-- An order that has been paid for and waits for a rider, with the credential of its customer. -/
def waitingFee : World where
  db := ((((Database.empty.set .order (Table.empty.create
      { orderNumber := "A-1", userId := 1, storeId := 1, fulfillmentType := .delivery
        currentStatus := .readyForPickup, subtotal := 100, shippingFee := 20, total := 120, items := [] })).set
      .delivery (Table.empty.create { orderId := 1 })).set .checkoutPaymentGroup (Table.empty.create
      { userId := 1, totalAmount := 120, status := .paid, allocations := [⟨1, 120⟩]
        orders_nodup := by decide })).set .riderProfile (Table.empty.create { userId := 3 })).set
      .orderQrCredential (Table.empty.create
      { orderId := 1, purpose := "CUSTOMER_DELIVERY", token := "t", expiresAt := 100 })

/-- Nothing has been earned yet. -/
theorem waitingFee_unearned : Unearned waitingFee.db where
  owned := nofun
  storeOwned := nofun
  balance := nofun
  storeBalance := nofun
  entries _ := rfl
  storeEntries _ := rfl
  found i d hd := by
    obtain ⟨rfl, rfl⟩ := Table.eq_of_find_single hd
    exact ⟨_, rfl⟩
  single i j d d' hd hd' _ := by
    obtain ⟨rfl, -⟩ := Table.eq_of_find_single hd
    obtain ⟨rfl, -⟩ := Table.eq_of_find_single hd'
    rfl
  earnings _ := rfl

/-- A rider claims the delivery, and staff complete the order once it has been picked up. -/
def completedByStaff : Config Op Error World :=
  courier.follow ⟨waitingFee, [Orders.claim 3 1 none, Orders.updateOrderStatus 1 .pickedUp "",
    Orders.updateOrderStatus 1 .completed ""]⟩ [(0, { now := 1 }), (1, { now := 2 }), (2, { now := 3 })]

/-- The fee of an order that staff complete stays held. -/
theorem rider_fee_can_stay_held :
    ¬∀ w c, Unearned w.db → courier.Run System.anyOp ⟨w, []⟩ c → ∀ i d, (c.world.db .delivery).find i = some d →
      ∃ o, (c.world.db .order).find d.orderId = some o ∧
        (o.currentStatus = .completed → (∃ k t, Entered c.world.db .hold (holdReference i) k t) →
          ∃ k t, Entered c.world.db .release (releaseReference i) k t) := by
  intro h
  have hstarts : ∀ p ∈ [Orders.claim 3 1 none, Orders.updateOrderStatus 1 .pickedUp "",
      Orders.updateOrderStatus 1 .completed ""], courier.starts p := by
    intro p hp
    rw [List.mem_cons, List.mem_pair] at hp
    rcases hp with rfl | rfl | rfl
    · exact .inl (.status (.claim 3 1))
    · exact .inl (.status (.updateOrderStatus 1 .pickedUp ""))
    · exact .inl (.status (.updateOrderStatus 1 .completed ""))
  have hrun : courier.Run System.anyOp ⟨waitingFee, []⟩ completedByStaff := courier.schedule_run hstarts _
  have hdelivery : ((completedByStaff.world.db .delivery).find 1).map (·.orderId) = some 1 := by decide +kernel
  have horder : ((completedByStaff.world.db .order).find 1).map (·.currentStatus) = some .completed :=
    by decide +kernel
  have hheld : ((completedByStaff.world.db .walletTransaction).find 1).map (fun t => (t.type, t.reference)) =
      some (.hold, some (holdReference 1)) := by decide +kernel
  have hnone : ((completedByStaff.world.db .walletTransaction).first fun _ t => t.type == .release).isNone := by
    decide +kernel
  obtain ⟨d, hd, hid⟩ := Option.map_eq_some_iff.mp hdelivery
  obtain ⟨o, ho, hcompleted⟩ := Option.map_eq_some_iff.mp horder
  obtain ⟨t, ht, heq⟩ := Option.map_eq_some_iff.mp hheld
  obtain ⟨htype, href⟩ := Prod.mk.inj heq
  obtain ⟨o', ho', hreleased⟩ := h _ _ waitingFee_unearned hrun 1 d hd
  rw [hid] at ho'
  obtain rfl := Option.some.inj (ho.symm.trans ho')
  obtain ⟨l, u, hu, hrelease, -⟩ := hreleased hcompleted ⟨1, t, ht, htype, href⟩
  have hfree := Table.first_eq_none.mp (Option.isNone_iff_eq_none.mp hnone) l u hu
  rw [hrelease] at hfree
  exact absurd hfree (by decide)

/-- The rider claims the delivery, sets out with the order and hands it over. -/
def deliveringRider : List (Request Unit) :=
  [Orders.claim 3 1 none, Orders.updateOrderStatus 1 .pickedUp "", Orders.updateOrderStatus 1 .outForDelivery "",
    Orders.confirmDelivery 3 1 "t"]

/-- The order has been completed by the scan of its customer's credential. -/
def completedByScan : Config Op Error World :=
  courier.follow ⟨waitingFee, deliveringRider⟩ [(0, { now := 1 }), (1, { now := 2 }), (2, { now := 3 }),
    (3, { now := 4 }),
    (3, { now := 4 }), (3, { now := 4 }), (3, { now := 4 })]

/-- The fee of an order that is completed by a scan has been released. -/
theorem rider_fees_released_once_scan : ∃ k t,
    Entered completedByScan.world.db .release (releaseReference 1) k t ∧ t.amount = 20 := by
  have hstarts : ∀ p ∈ deliveringRider, courier.starts p := by
    intro p hp
    rw [deliveringRider, List.mem_cons, List.mem_cons, List.mem_pair] at hp
    rcases hp with rfl | rfl | rfl | rfl
    · exact .inl (.status (.claim 3 1))
    · exact .inl (.status (.updateOrderStatus 1 .pickedUp ""))
    · exact .inl (.status (.updateOrderStatus 1 .outForDelivery ""))
    · exact .inl (.status (.confirmDelivery 3 1 "t"))
  have hallows : courier.allows (fun op e c => e.fails || op.leavesNoFee c.world.db) ⟨waitingFee, deliveringRider⟩
      [(0, { now := 1 }), (1, { now := 2 }), (2, { now := 3 }), (3, { now := 4 }), (3, { now := 4 }),
        (3, { now := 4 }),
        (3, { now := 4 })] := by decide +kernel
  have hrun : courier.Run (fun op e c => e.fails || op.leavesNoFee c.world.db) ⟨waitingFee, []⟩ completedByScan :=
    (courier.start_all_run hstarts).trans (courier.follow_run_of hallows)
  have hdelivery : ((completedByScan.world.db .delivery).find 1).map (·.orderId) = some 1 := by decide +kernel
  have horder : ((completedByScan.world.db .order).find 1).map (fun o => (o.currentStatus, o.shippingFee)) =
      some (.completed, 20) := by decide +kernel
  have hheld : ((completedByScan.world.db .walletTransaction).find 1).map (fun t => (t.type, t.reference)) =
      some (.hold, some (holdReference 1)) := by decide +kernel
  obtain ⟨d, hd, hid⟩ := Option.map_eq_some_iff.mp hdelivery
  obtain ⟨o, ho, hcompleted⟩ := Option.map_eq_some_iff.mp horder
  obtain ⟨hcompleted, hshipping⟩ := Prod.mk.inj hcompleted
  obtain ⟨t, ht, heq⟩ := Option.map_eq_some_iff.mp hheld
  obtain ⟨htype, href⟩ := Prod.mk.inj heq
  obtain ⟨o', ho', -, hrelease, -, hreleased⟩ := (rider_fees_released_once waitingFee_unearned.kept
    waitingFee_unearned.noted waitingFee_unearned.balanced hrun).1 1 d hd
  rw [hid] at ho'
  obtain rfl := Option.some.inj (ho.symm.trans ho')
  obtain ⟨k, u, hu⟩ := hreleased hcompleted ⟨1, t, ht, htype, href⟩
  exact ⟨k, u, hu, (hrelease.amount k u hu).trans hshipping⟩

end Superstore

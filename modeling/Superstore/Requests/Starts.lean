import Superstore.Requests.Charges

/-!
# Requests that start payments

A request asks Paystack to start a payment after it has claimed or entered it: at that time the
payment is on record with its reference and its amount, whatever happens in between. All other
requests ask for nothing.
-/

namespace Superstore

open Interleaving Relational Relational.Tx Contract
open Payments (Claim Starts)

variable {kept only : Prop} {w : World}

/-- A request that asks Paystack only for what is on record, from a state on. -/
abbrev Charging (kept only : Prop) {α : Type} (p : Request α) (w : World) : Prop :=
  (charging kept only).Ready machine p w

/-- The kinds of operations that are about how a payment is started. -/
def groundedKinds : List OpKind := [.charge, .topupCharge, .startUpdate, .topupUpdate, .paymentEntry]

/-- A request that comes to none of these operations asks for nothing. -/
theorem Uses.charging {ks : List OpKind} {α : Type} {p : Request α} (h : Uses ks p)
    (hks : ∀ k ∈ ks, k ∉ groundedKinds) : Charging kept only p w := by
  refine informed_of_all (Prog.All.imp h fun _ op hop w => ?_) w
  have hkind := hks _ hop
  have hcharge {asked : Charge} (hasked : asked.kind ∉ groundedKinds) (hne : asked.kind ≠ .repaymentCharge) :
      Recorded only w.db asked := by
    refine absurd ?_ hasked
    unfold Charge.kind at hne ⊢
    split_ifs at hne ⊢ <;> first | decide | exact absurd rfl hne
  cases op <;> try exact trivial
  case initializeTransaction => exact hcharge hkind
  case createBankTransferCharge => exact hcharge hkind
  case updatePayment id u =>
    cases u <;> first
      | exact .inl rfl
      | exact absurd (by dsimp only [Op.kind, Payments.PaymentUpdate.kind]; decide) hkind
  case createPayment => exact absurd (by dsimp only [Op.kind]; decide) hkind

/-- A call that is grounded everywhere asks only for what is on record. -/
theorem charging_call {α : Type} {op : Op α} (h : ∀ db, op.Grounded only db) : Charging kept only (call op) w :=
  .call fun s _ _ => h s.db

namespace Payments

/-! ## Checkouts -/

/-- A claimed payment is on record: it is the one that its group is linked to. -/
structure Claimed (only : Prop) (groupId : ℕ) (claim : Claim) (db : Database) : Prop where
  row : ∃ r, (db .payment).find claim.paymentId = some r ∧
    r.transactionRef = some (claim.payment.transactionRef.getD "") ∧ r.amount = claim.payment.amount ∧
    r.paymentMethod = claim.payment.paymentMethod ∧ (only → r.provider = .paystack)
  linked : ∃ g, (db .checkoutPaymentGroup).find groupId = some g ∧ g.paymentId = some claim.paymentId

/-- A payment that has been claimed stays so. -/
theorem Claimed.later {w w' : World} {groupId : ℕ} {claim : Claim} (h : Claimed only groupId claim w.db)
    (hlater : (charging kept only).guar w w') : Claimed only groupId claim w'.db := by
  obtain ⟨⟨r, hr, href, hamount, hmethod, hprovider⟩, g, hg, hlinked⟩ := h
  obtain ⟨r', hr', hstays⟩ := hlater.2 _ r hr
  obtain ⟨_, hg', hl⟩ := hlater.1.group groupId _ (books_group hg).1
  obtain ⟨g', hfind, rfl⟩ := find_of_books_group hg'
  exact ⟨⟨r', hr', hstays.transactionRef.trans href, hstays.amount.trans hamount,
    hstays.paymentMethod.trans hmethod, fun ho => hstays.provider.trans (hprovider ho)⟩,
    g', hfind, hl.paymentId _ hlinked⟩

/-- A charge for a claimed payment is recorded. -/
theorem Claimed.recorded {groupId : ℕ} {claim : Claim} {db : Database} (h : Claimed only groupId claim db)
    {asked : Charge} (href : asked.reference = claim.payment.transactionRef.getD "")
    (hamount : asked.amount = claim.payment.amount) (hgroup : asked.metadata.paymentGroupId = some groupId) :
    Recorded only db asked := by
  obtain ⟨⟨r, hr, href', hamount', -, hprovider⟩, hlinked⟩ := h
  refine ⟨_, r, hr, href ▸ href', hamount'.trans hamount.symm, hprovider, fun i hi => ?_⟩
  obtain rfl := Option.some.inj (hgroup.symm.trans hi)
  exact hlinked

/-- What records the start of a claimed payment goes with its method. -/
theorem Claimed.fits {groupId : ℕ} {claim : Claim} {db : Database} (h : Claimed only groupId claim db)
    {u : PaymentUpdate} (hu : Starts claim.payment u) :
    ∃ r, (db .payment).find claim.paymentId = some r ∧ u.Fits r.paymentMethod := by
  obtain ⟨⟨r, hr, -, -, hmethod, -⟩, -⟩ := h
  refine ⟨r, hr, ?_⟩
  rw [hmethod]
  cases hu with
  | transfer h => exact h
  | url h => exact h

/-- A claim that is granted is one of a payment on record. -/
theorem claimInitialization_answer (e : Env) (userId groupId : ℕ) {db : Database}
    (hsound : ∀ p r, (db .payment).find p = some r → r.Sound)
    (honly : only → (Op.claimInitialization userId groupId).claimsPaystack e db) :
    wp db (claimInitialization e userId groupId) fun claim db' =>
      claim.start → Claimed only groupId claim db' := by
  rw [claimInitialization, wp_bind, wp_find, wp_bind, wp_orThrow]
  intro group hgroup
  obtain ⟨hfind, hown⟩ := Option.filter_eq_some_iff.mp hgroup
  rw [wp_bind, wp_require]
  intro hopen
  have hstartable : startable userId groupId db = true := by
    rw [startable, hfind, Option.any_some, hown, Bool.true_and, bne_iff_ne]
    exact hopen
  split
  · next p hlinked =>
    rw [claimExisting, wp_bind, wp_findOrThrow]
    intro payment hpayment
    split
    · exact (wp_pure _ _ _).mpr fun h => absurd h Bool.false_ne_true
    · next hstarted =>
      rw [wp_bind, wp_update]
      intro _ _
      rw [wp_bind, wp_findOrThrow, Database.set_self]
      intro claimed hclaimed
      rw [Table.find_update_self, hpayment] at hclaimed
      obtain rfl := Option.some.inj hclaimed
      obtain ⟨reference, href⟩ := Option.isSome_iff_exists.mp (hsound p payment hpayment).reference
      refine (wp_pure _ _ _).mpr fun _ => ⟨⟨_, ?_, ?_, rfl, rfl, fun ho => ?_⟩, group, ?_, hlinked⟩
      · rw [Database.set_self, Table.find_update_self, hpayment]
        rfl
      · simp [href]
      · have hpaystack := honly ho
        simpa [Op.claimsPaystack, hstartable, hfind, hlinked, hpayment, hstarted] using hpaystack
      · rw [Database.set_of_ne _ _ (by decide)]
        exact hfind
  · rw [claimNew, wp_bind, wp_require]
    intro _
    rw [wp_bind, wp_createUnique]
    intro _
    rw [wp_bind, wp_update, Database.set_of_ne _ _ (by decide)]
    intro _ _
    have hcreated (payment : Payment) :
        ((db .payment).create payment).find (db .payment).next = some payment := Table.find_create_self _ _
    refine (wp_pure _ _ _).mpr fun _ => ⟨?_, ?_⟩
    · simp [hcreated]
    · simp [Table.find_update_self, hfind]

/-- Starting a payment asks for what has been claimed. -/
theorem startPayment_charging (userId : ℕ) {groupId : ℕ} {claim : Claim} (h : Claimed only groupId claim w.db) :
    Charging kept only (startPayment userId groupId claim.payment (claim.payment.transactionRef.getD "")) w := by
  unfold startPayment
  split
  · exact .then (fun _ hs _ _ => (h.later hs).recorded rfl rfl rfl) fun _ _ _ _ =>
      ready_check fun _ => ready_check fun _ => trivial
  · exact .then (fun _ hs _ _ => (h.later hs).recorded rfl rfl rfl) fun _ _ _ _ => ready_check fun _ => trivial

/-- Asking to pay asks for what has been claimed. -/
theorem initializePayment_charging (userId groupId : ℕ) :
    Charging kept only (initializePayment userId groupId) w := by
  refine .call_bind (fun _ _ _ => trivial) fun e w₁ _ hinv hallowed _ _ claim hclaim =>
    ready_onlyIf fun hstart => ?_
  have honly : only → (Op.claimInitialization userId groupId).claimsPaystack e w₁.db := by
    rcases hallowed with hfails | ⟨-, honly⟩
    · exact absurd hclaim (exec_fails_error rfl hfails w₁)
    · exact honly
  have hclaimed := claimInitialization_answer e userId groupId hinv.sound honly claim _ (exec_ok rfl hclaim) hstart
  refine ready_selectOrThrow (fun _ => trivial) fun w₂ _ h₂ _ _ => ?_
  have hstable (w w' : World) (hlater : (charging kept only).guar w w') (h : Claimed only groupId claim w.db) :
      Claimed only groupId claim w'.db := h.later hlater
  have hclaimed₂ := hclaimed.later h₂
  have hready : Charging kept only (Prog.attempt
      (startPayment userId groupId claim.payment (claim.payment.transactionRef.getD "")) fun err => do
        call (.updatePayment claim.paymentId .clearMetadata)
        Prog.fail err) w₂ := by
    refine .attempt_with hstable hclaimed₂ (startPayment_charging userId hclaimed₂) fun err w₃ h₃ => ?_
    refine .then (fun w₄ h₄ _ => .inr ?_) fun _ _ _ _ => trivial
    obtain ⟨⟨r, hr, -⟩, -⟩ := h₃.later h₄
    exact ⟨r, hr, trivial⟩
  have hstarts : Prog.Yields (fun r => ∀ u, r = .ok u → Starts claim.payment u) (Prog.attempt
      (startPayment userId groupId claim.payment (claim.payment.transactionRef.getD "")) fun err => do
        call (.updatePayment claim.paymentId .clearMetadata)
        Prog.fail err) := by
    refine .attempt (startPayment_yields _ _ _ _) fun err => .bind_ok _ fun _ u hu => ?_
    cases hu
  refine Informed.seq (P := fun u w => Starts claim.payment u ∧ Claimed only groupId claim w.db) ?_
    fun u w₃ h => Ready.call fun w₄ h₄ _ => .inr ((h.2.later h₄).fits h.1)
  exact ((hready.yields hstarts).and (hready.carry hstable hclaimed₂)).mono fun _ _ h u hu => ⟨h.1 u hu, h.2⟩

/-- Taking up a checkout again asks for what has been claimed. -/
theorem resumeCheckout_charging (userId id : ℕ) : Charging kept only (resumeCheckout userId id) w := by
  refine ready_selectOrThrow (fun _ => trivial) fun _ _ _ _ _ => ready_check fun _ => ?_
  exact .bind (ready_onlyIf fun _ => initializePayment_charging _ _) fun _ _ => charging_call fun _ => trivial

/-! ## Wallets -/

/-- A payment is on record as it has been entered. -/
def Entry (payment : Payment) (p : ℕ) (db : Database) : Prop :=
  ∃ r, (db .payment).find p = some r ∧ r.transactionRef = payment.transactionRef ∧ r.amount = payment.amount ∧
    r.paymentMethod = payment.paymentMethod ∧ r.provider = payment.provider

/-- A payment that has been entered stays so. -/
theorem Entry.later {w w' : World} {payment : Payment} {p : ℕ} (h : Entry payment p w.db)
    (hlater : (charging kept only).guar w w') : Entry payment p w'.db := by
  obtain ⟨r, hr, href, hamount, hmethod, hprovider⟩ := h
  obtain ⟨r', hr', hstays⟩ := hlater.2 _ r hr
  exact ⟨r', hr', hstays.transactionRef.trans href, hstays.amount.trans hamount,
    hstays.paymentMethod.trans hmethod, hstays.provider.trans hprovider⟩

/-- That a payment is on record is a fact that stays. -/
theorem Entry.stable (payment : Payment) (p : ℕ) (w w' : World) (hlater : (charging kept only).guar w w')
    (h : Entry payment p w.db) : Entry payment p w'.db := h.later hlater

/-- A new payment is entered as it has been asked for. -/
theorem createPayment_entry (e : Env) (payment : Payment) (db : Database) :
    wp db (createPayment e payment) fun b db' => Entry payment b.1 db' := by
  rw [createPayment, wp_bind, wp_createUnique]
  intro _
  rw [wp_pure, Entry, Database.set_self, Table.find_create_self]
  exact ⟨_, rfl, rfl, rfl, rfl, rfl⟩

/-- A charge for a payment that has been entered is recorded. -/
theorem Entry.recorded {payment : Payment} {p : ℕ} {db : Database} (h : Entry payment p db) {asked : Charge}
    (href : payment.transactionRef = some asked.reference) (hamount : payment.amount = asked.amount)
    (hprovider : payment.provider = .paystack) (hgroup : asked.metadata.paymentGroupId = none) :
    Recorded only db asked := by
  obtain ⟨r, hr, href', hamount', -, hprovider'⟩ := h
  refine ⟨p, r, hr, href'.trans href, hamount'.trans hamount, fun _ => hprovider'.trans hprovider, fun i hi => ?_⟩
  rw [hgroup] at hi
  cases hi

/-- What records the start of an entered payment goes with its method. -/
theorem Entry.fits {payment : Payment} {p : ℕ} {db : Database} (h : Entry payment p db) {u : PaymentUpdate}
    (hu : u.Fits payment.paymentMethod) : ∃ r, (db .payment).find p = some r ∧ u.Fits r.paymentMethod := by
  obtain ⟨r, hr, -, -, hmethod, -⟩ := h
  exact ⟨r, hr, hmethod ▸ hu⟩

/-- A top-up that Paystack could not start is marked failed, which relies on nothing. -/
theorem failTopup_charging {α : Type} (p : ℕ) (err : Error) :
    Charging kept only (do
      call (.updatePayment p (.failTopup none))
      call .notify
      (Prog.fail err : Request α)) w :=
  .then (fun _ _ _ => .inl rfl) fun _ _ _ _ => .then (fun _ _ _ => trivial) fun _ _ _ _ => trivial

/-- Paying into a wallet asks for what has been entered. -/
theorem topupWallet_charging (userId : ℕ) (amount : ℚ) : Charging kept only (topupWallet userId amount) w := by
  refine ready_selectOrThrow (fun _ => trivial) fun _ _ _ _ _ => ?_
  refine .then (fun _ _ _ => trivial) fun token _ _ _ => .then (fun _ _ _ => trivial) fun now _ _ _ => ?_
  refine ready_transaction rfl (fun _ _ _ => ?_) (fun e w _ _ => createPayment_entry e _ w.db)
    fun w₁ payment _ _ hp => ?_
  · exact ⟨rfl, rfl, fun h => PaymentProvider.noConfusion h, fun _ => rfl⟩
  refine .bind_with (Entry.stable _ payment.1) hp
    (.attempt (.call fun w₂ h₂ _ _ => (hp.later h₂).recorded rfl rfl rfl rfl) fun _ _ => failTopup_charging _ _)
    fun _ w₂ h₂ => Ready.call fun w₃ h₃ _ => .inr ((h₂.later h₃).fits ?_)
  exact PaymentMethod.noConfusion

/-- Paying into a wallet by transfer asks for what has been entered. -/
theorem topupWalletByTransfer_charging (userId : ℕ) (amount : ℚ) :
    Charging kept only (topupWalletByTransfer userId amount) w := by
  refine ready_selectOrThrow (fun _ => trivial) fun _ _ _ _ _ => .then (fun _ _ _ => trivial) fun token _ _ _ => ?_
  refine ready_transaction rfl (fun _ _ _ => ?_) (fun e w _ _ => createPayment_entry e _ w.db)
    fun w₁ payment _ _ hp => ?_
  · exact ⟨rfl, rfl, fun h => PaymentProvider.noConfusion h, fun _ => rfl⟩
  refine .attempt ?_ fun _ _ => failTopup_charging _ _
  refine .then (fun w₂ h₂ _ _ => (hp.later h₂).recorded rfl rfl rfl rfl) fun charge w₂ h₂ _ =>
    ready_check fun _ => ?_
  exact Ready.call fun w₃ h₃ _ => .inr (((hp.later h₂).later h₃).fits rfl)

/-! ## Repayments -/

/-- Paying an installment asks for what has been entered. -/
theorem payRepayment_charging (userId installmentId : ℕ) (byWallet : Bool) :
    Charging kept only (payRepayment userId installmentId byWallet) w := by
  refine ready_selectOrThrow (fun _ => trivial) fun _ _ _ _ _ => ready_check fun _ => ?_
  refine ready_selectOrThrow (fun _ => trivial) fun _ _ _ _ _ => .then (fun _ _ _ => trivial) fun _ _ _ _ => ?_
  dsimp only
  split
  · exact .then (fun _ _ _ => trivial) fun _ _ _ _ => trivial
  · refine .then (fun _ _ _ hne => absurd rfl hne) fun _ _ _ _ => ?_
    refine .then (fun _ _ _ => ?_) fun _ _ _ _ => .then (fun _ _ _ => trivial) fun _ _ _ _ => trivial
    exact ⟨rfl, rfl, fun h => PaymentProvider.noConfusion h, fun _ => rfl⟩

end Payments

/-! ## All requests -/

/-- Every request that starts payments asks only for what is on record. -/
theorem StartingRequest.charging {p : Request Unit} (h : StartingRequest p) : Charging kept only p w := by
  cases h with
  | place userId input =>
    refine ready_discard (.then (fun _ _ _ => trivial) fun _ _ _ _ => ?_)
    refine .bind (ready_onlyIf fun _ => Payments.initializePayment_charging _ _) fun _ _ => ?_
    refine .bind (ready_onlyIf fun _ =>
      (Payments.dispatchGroupConfirmations_uses _).charging (by decide)) fun _ _ => ?_
    exact charging_call fun _ => trivial
  | initializePayment userId groupId => exact Payments.initializePayment_charging _ _
  | resumeCheckout userId id => exact ready_discard (Payments.resumeCheckout_charging _ _)
  | topupWallet userId amount => exact Payments.topupWallet_charging _ _
  | topupWalletByTransfer userId amount => exact Payments.topupWalletByTransfer_charging _ _
  | payRepayment userId installmentId byWallet => exact Payments.payRepayment_charging _ _ _

/-- Every request of the store asks Paystack only for what is on record. -/
theorem StoreRequest.charging {p : Request Unit} (h : StoreRequest p) : Charging kept only p w := by
  cases h with
  | payment h =>
    rcases h.passive with hpassive | hstarting
    · exact hpassive.charging (by decide)
    · exact hstarting.charging
  | refund h => exact h.uses.charging (by decide)
  | status h => exact h.uses.charging (by decide)

/-- The store keeps account of its charges. -/
theorem chargedBooks_holds : (chargedBooks kept only).Holds store where
  starts h _ _ := (h.books.both h.charging).mono fun _ _ _ => trivial
  performs op := chargedBooks_safe op
  background {w w'} h hinv := by
    obtain ⟨hB', hlater⟩ := bookkeeping_holds.background h hinv.1
    have hpayment : w'.db .payment = w.db .payment := h.owned _ (by decide)
    have hguar : (Superstore.charging kept only).guar w w' := ⟨hlater, .of_eq hpayment⟩
    refine ⟨⟨hB', ?_, ?_, ?_⟩, hlater, hguar⟩
    · rw [hpayment]
      exact hinv.2.sound
    · rw [hpayment, h.owned .klumpTransaction (by decide)]
      exact hinv.2.klump
    · intro c hc hkind
      rw [h.charged] at hc
      exact (hinv.2.charged c hc hkind).later hguar

end Superstore

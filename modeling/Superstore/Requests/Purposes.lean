import Superstore.Requests.Starts

/-!
# What payments are for

Whether a payment tops a wallet up is decided when it is entered. A request that starts a payment knows
which kind it has entered or claimed, and a verification has read it; the outcome of a checkout or of a
repayment is never written for a top-up.
-/

namespace Superstore

open Interleaving Relational Relational.Tx Contract

variable {w : World} {α : Type}

/-- A payment keeps its amount, and whether it tops a wallet up. -/
structure Payment.SamePurpose (p q : Payment) : Prop where
  topup : q.topup = p.topup
  amount : q.amount = p.amount

/-- Serving the same purpose is reflexive and transitive. -/
instance : IsPreorder Payment Payment.SamePurpose where
  refl _ := ⟨rfl, rfl⟩
  trans _ _ _ h h' := ⟨h'.topup.trans h.topup, h'.amount.trans h.amount⟩

/-- A payment is on record, as a top-up or as something else. -/
def OnRecord (topup : Bool) (db : Database) (p : ℕ) : Prop :=
  ∃ r, (db .payment).find p = some r ∧ r.topup = topup

/-- A top-up of an amount is on record. -/
def TopupOf (db : Database) (p : ℕ) (amount : ℚ) : Prop :=
  ∃ r, (db .payment).find p = some r ∧ r.topup = true ∧ r.amount = amount

/-- What an operation relies on about the payment that it writes. -/
def Op.Purposed : {α : Type} → Op α → Database → Prop
  | _, .updatePayment id u, db => OnRecord u.topup db id
  | _, .finalizePayment p _ _, db => OnRecord false db p
  | _, .settleRepayment _ p _, db => OnRecord false db p
  | _, .creditTopup p _ amount, db => TopupOf db p amount
  | _, .createPayment payment, _ => payment.Entered
  | _, _, _ => True

/-- The contract of purposes: each payment keeps its own. -/
def purposes : Contract Op World Env where
  inv _ := True
  guar w w' := (w.db .payment).Evolves Payment.SamePurpose (w'.db .payment)
  known op w := op.Purposed w.db
  allowed _ _ _ := True
  refl _ := .refl _
  trans h h' := h.trans h'

/-- A request that knows what the payments that it writes are for. -/
abbrev Purposeful (p : Request α) (w : World) : Prop := purposes.Ready machine p w

/-- What is on record of a payment stays on record. -/
theorem OnRecord.later {b : Bool} {w w' : World} {p : ℕ} (h : OnRecord b w.db p) (hlater : purposes.guar w w') :
    OnRecord b w'.db p := by
  obtain ⟨r, hr, htopup⟩ := h
  obtain ⟨r', hr', hsame⟩ := hlater p r hr
  exact ⟨r', hr', hsame.topup.trans htopup⟩

/-- What a payment is for is a fact that stays. -/
theorem OnRecord.stable (b : Bool) (p : ℕ) (w w' : World) (hlater : purposes.guar w w') (h : OnRecord b w.db p) :
    OnRecord b w'.db p := h.later hlater

/-- A payment for a top-up stays one. -/
theorem TopupOf.later {w w' : World} {p : ℕ} {amount : ℚ} (h : TopupOf w.db p amount)
    (hlater : purposes.guar w w') :
    TopupOf w'.db p amount := by
  obtain ⟨r, hr, htopup, hamount⟩ := h
  obtain ⟨r', hr', hsame⟩ := hlater p r hr
  exact ⟨r', hr', hsame.topup.trans htopup, hsame.amount.trans hamount⟩

/-- A payment for a top-up is on record as one. -/
theorem TopupOf.onRecord {db : Database} {p : ℕ} {amount : ℚ} (h : TopupOf db p amount) : OnRecord true db p := by
  obtain ⟨r, hr, htopup, -⟩ := h
  exact ⟨r, hr, htopup⟩

/-- The kinds of operations that are told of a payment to write. -/
def purposedKinds : List OpKind :=
  [.startUpdate, .topupUpdate, .topupFailure, .outcome, .repayment, .topup, .paymentEntry]

/-- A request that comes to none of these operations needs to know nothing. -/
theorem Uses.purposes {ks : List OpKind} {p : Request α} (h : Uses ks p) (hks : ∀ k ∈ ks, k ∉ purposedKinds) :
    Purposeful p w := by
  refine informed_of_all (Prog.All.imp h fun _ op hop w => ?_) w
  have hkind := hks _ hop
  cases op <;> try exact trivial
  case updatePayment id u =>
    cases u <;> exact absurd (by dsimp only [Op.kind, Payments.PaymentUpdate.kind]; decide) hkind
  all_goals exact absurd (by dsimp only [Op.kind]; decide) hkind

/-- A call that relies on nothing keeps to the purposes. -/
theorem purposes_call {op : Op α} (h : ∀ db, op.Purposed db) : Purposeful (call op) w := .call fun s _ _ => h s.db

namespace Payments

/-! ## Verifications -/

/-- A payment that is read by its reference is on record. -/
theorem knownPayment_onRecord {reference : String} {db : Database} {k : KnownPayment}
    (h : knownPayment reference db = some k) : (db .payment).find k.id = some k.payment := by
  obtain ⟨⟨p, row⟩, hfirst, rfl⟩ := Option.map_eq_some_iff.mp h
  exact (Table.find_of_first hfirst).1

/-- Verifying a payment that is paid already keeps to the purposes. -/
theorem verifyPaid_purposes (k : KnownPayment) : Purposeful (verifyPaid k) w :=
  .bind (ready_onlyIf fun _ => purposes_call fun _ => trivial) fun _ _ =>
    .bind ((dispatchGroupConfirmations_uses _).purposes (by decide)) fun _ _ => trivial

/-- Verifying a repayment keeps to the purposes. -/
theorem verifyRepayment_purposes {k : KnownPayment} (reference : String) (hk : OnRecord false w.db k.id) :
    Purposeful (verifyRepayment k reference) w := by
  refine ready_selectOrThrow (fun _ => trivial) fun w₁ _ h₁ _ _ => ?_
  refine .then (fun _ _ _ => trivial) fun v w₂ h₂ _ => ready_decided fun _ _ => ?_
  have hk₂ := (hk.later h₁).later h₂
  split
  · exact trivial
  · exact .then (fun _ h₃ _ => hk₂.later h₃) fun _ _ _ _ => trivial
  · exact .then (fun _ h₃ _ => hk₂.later h₃) fun _ _ _ _ => trivial

/-- Verifying a top-up keeps to the purposes. -/
theorem verifyTopup_purposes {k : KnownPayment} (reference : String) (hk : TopupOf w.db k.id k.payment.amount) :
    Purposeful (verifyTopup k reference) w := by
  refine .then (fun _ _ _ => trivial) fun v w₁ h₁ _ => ready_decided fun _ _ => ?_
  have hk₁ := hk.later h₁
  split
  · refine .then (fun _ _ _ => trivial) fun now w₂ h₂ _ => ?_
    split
    · exact .then (fun _ h₃ _ => ((hk₁.later h₂).later h₃).onRecord) fun _ _ _ _ =>
        .then (fun _ _ _ => trivial) fun _ _ _ _ => trivial
    · exact trivial
  · exact .then (fun _ h₂ _ => hk₁.later h₂) fun _ _ _ _ =>
      .bind (ready_onlyIf fun _ => purposes_call fun _ => trivial) fun _ _ => trivial
  · exact .then (fun _ h₂ _ => (hk₁.later h₂).onRecord) fun _ _ _ _ =>
      .then (fun _ _ _ => trivial) fun _ _ _ _ => trivial

/-- Applying what Paystack reports on a checkout keeps to the purposes. -/
theorem applyOutcome_purposes {k : KnownPayment} (success : Bool) (hk : OnRecord false w.db k.id) :
    Purposeful (applyOutcome k success) w := by
  refine .then (fun _ h₁ _ => hk.later h₁) fun lateRefundIds w₁ _ _ => ?_
  split
  · refine .bind (.forkEach fun id _ => ?_) fun _ _ => trivial
    exact .bind ((processRefund_uses id).purposes (by decide)) fun _ _ => trivial
  · split
    · exact .bind ((dispatchGroupConfirmations_uses _).purposes (by decide)) fun _ _ => trivial
    · exact .bind (ready_onlyIf fun _ => .forkEach fun _ _ => purposes_call fun _ => trivial) fun _ _ => trivial

/-- Verifying the payment of a checkout keeps to the purposes. -/
theorem verifyCheckout_purposes {k : KnownPayment} (reference : String) (hk : OnRecord false w.db k.id) :
    Purposeful (verifyCheckout k reference) w := by
  refine .then (fun _ _ _ => trivial) fun v w₁ h₁ _ => ready_decided fun _ _ => ?_
  have hk₁ := hk.later h₁
  split
  · exact applyOutcome_purposes true hk₁
  · exact applyOutcome_purposes false hk₁
  · refine .then (fun _ _ _ => trivial) fun now w₂ h₂ _ => ?_
    split
    · exact applyOutcome_purposes false (hk₁.later h₂)
    · exact trivial

/-- A verification goes by the purpose that it has read. -/
theorem verifyReference_purposes (reference : String) : Purposeful (verifyReference reference) w := by
  refine ready_select (fun _ => trivial) fun w₁ _ _ => ready_decided fun k hk => ?_
  obtain ⟨hknown, -⟩ := Option.filter_eq_some_iff.mp (fromOption_eq_ok.mp hk)
  have hrow := knownPayment_onRecord hknown
  split
  · exact trivial
  · split
    · exact verifyPaid_purposes k
    · split
      · next hpurpose =>
        exact verifyRepayment_purposes _ ⟨_, hrow, by rw [Payment.topup, hpurpose]; rfl⟩
      · next hpurpose => exact verifyTopup_purposes _ ⟨_, hrow, by rw [Payment.topup, hpurpose]; rfl, rfl⟩
      · next hpurpose => exact verifyTopup_purposes _ ⟨_, hrow, by rw [Payment.topup, hpurpose]; rfl, rfl⟩
      · next htopup htransfer =>
        refine verifyCheckout_purposes _ ⟨_, hrow, ?_⟩
        rw [Payment.topup, beq_eq_false_iff_ne.mpr htopup, beq_eq_false_iff_ne.mpr htransfer]
        rfl

/-- The summary of a checkout keeps to the purposes. -/
theorem summary_purposes (userId id : ℕ) : Purposeful (summary userId id) w := purposes_call fun _ => trivial

/-- Asking for the status of a checkout keeps to the purposes. -/
theorem status_purposes (userId groupId : ℕ) (verify : Bool) : Purposeful (status userId groupId verify) w := by
  have hsummary (w : World) : Purposeful (summary userId groupId) w := summary_purposes userId groupId
  refine .bind (hsummary w) fun s w₁ => ?_
  split
  · exact .bind (verifyReference_purposes _) fun _ w => hsummary w
  · exact hsummary w₁

/-- Releasing a checkout that is not paid keeps to the purposes. -/
theorem cancelUnpaid_purposes (userId id : ℕ) : Purposeful (cancelUnpaid userId id) w :=
  .then (fun _ _ _ => trivial) fun _ _ _ _ => summary_purposes _ _

/-- Cancelling a checkout keeps to the purposes. -/
theorem cancelCheckout_purposes (userId id : ℕ) : Purposeful (cancelCheckout userId id) w := by
  have hsummary (w : World) : Purposeful (summary userId id) w := summary_purposes userId id
  refine ready_selectOrThrow (fun _ => trivial) fun _ w₁ _ _ _ => ready_check fun _ => ?_
  split
  · exact hsummary _
  · split
    · exact cancelUnpaid_purposes _ _
    · refine .bind (verifyReference_purposes _) fun verified _ => ready_check fun _ => ?_
      split
      · exact hsummary _
      · exact cancelUnpaid_purposes _ _

/-- Working on a notice of Paystack keeps to the purposes. -/
theorem dispatchEvent_purposes (event : WebhookEvent) : Purposeful (dispatchEvent event) w := by
  unfold dispatchEvent
  split
  · refine ready_select (fun _ => trivial) fun _ _ _ => ?_
    split
    · exact .bind (verifyReference_purposes _) fun _ _ => ready_check fun _ => trivial
    · exact .bind ((completeDedicatedAccountFunding_uses _).purposes (by decide)) fun _ _ => trivial
  · split
    · exact .bind ((applyRefundWebhook_uses _).purposes (by decide)) fun _ _ => trivial
    · split
      · exact .bind ((completeDedicatedAccountAssignment_uses _).purposes (by decide)) fun _ _ => trivial
      · split
        · exact .bind ((failDedicatedAccountAssignment_uses _).purposes (by decide)) fun _ _ => trivial
        · exact trivial

/-- Taking in a notice of Paystack keeps to the purposes. -/
theorem handleWebhook_purposes (event : WebhookEvent) : Purposeful (handleWebhook event) w := by
  refine ready_select (fun _ => trivial) fun _ _ _ => ready_onlyIf fun _ => .attempt ?_ fun _ _ => ?_
  · refine .bind (dispatchEvent_purposes _) fun outcome _ => ?_
    cases outcome with
    | none => exact trivial
    | some paymentId => exact purposes_call fun _ => trivial
  · exact .then (fun _ _ _ => trivial) fun _ _ _ _ => trivial

/-- The scheduled check of payments keeps to the purposes. -/
theorem reconcilePending_purposes : Purposeful reconcilePending w := by
  have htolerate {β : Type} {p : Request β} (h : ∀ w, Purposeful p w) (w : World) : Purposeful (tolerate p) w :=
    .attempt (.bind (h w) fun _ _ => trivial) fun _ _ => trivial
  refine .then (fun _ _ _ => trivial) fun now _ _ _ => ready_select (fun _ => trivial) fun _ _ _ => ?_
  refine .bind (.forEach fun _ _ w => htolerate (fun _ => verifyReference_purposes _) w) fun _ _ => ?_
  exact ready_select (fun _ => trivial) fun _ _ _ =>
    .forEach fun _ _ w => htolerate (fun _ => (processRefund_uses _).purposes (by decide)) w

/-! ## Starts -/

/-- A payment whose start is claimed is no top-up. -/
theorem claimInitialization_onRecord (e : Env) (userId groupId : ℕ) (db : Database) :
    wp db (claimInitialization e userId groupId) fun claim db' =>
      claim.start → OnRecord false db' claim.paymentId := by
  rw [claimInitialization, wp_bind, wp_find, wp_bind, wp_orThrow]
  intro group _
  rw [wp_bind, wp_require]
  intro _
  split
  · next p _ =>
    rw [claimExisting, wp_bind, wp_findOrThrow]
    intro payment hpayment
    split
    · exact (wp_pure _ _ _).mpr fun h => absurd h Bool.false_ne_true
    · rw [wp_bind, wp_update]
      intro _ _
      rw [wp_bind, wp_findOrThrow, Database.set_self]
      intro claimed hclaimed
      refine (wp_pure _ _ _).mpr fun _ => ⟨claimed, ?_, ?_⟩
      · rw [Database.set_self]
        exact hclaimed
      · rw [Table.find_update_self, hpayment] at hclaimed
        obtain rfl := Option.some.inj hclaimed
        rfl
  · rw [claimNew, wp_bind, wp_require]
    intro _
    rw [wp_bind, wp_createUnique]
    intro _
    rw [wp_bind, wp_update, Database.set_of_ne _ _ (by decide)]
    intro _ _
    refine (wp_pure _ _ _).mpr fun _ => ?_
    rw [OnRecord, Database.set_of_ne _ _ (by decide), Database.set_self, Table.find_create_self]
    exact ⟨_, rfl, rfl⟩

/-- What records the start of a payment of a checkout does not make it a top-up. -/
theorem Starts.not_topup {payment : Payment} {u : PaymentUpdate} (h : Starts payment u) : u.topup = false := by
  cases h <;> rfl

/-- Starting a payment keeps to the purposes. -/
theorem startPayment_purposes (userId groupId : ℕ) (payment : Payment) (reference : String) :
    Purposeful (startPayment userId groupId payment reference) w := by
  unfold startPayment
  split
  · exact .then (fun _ _ _ => trivial) fun _ _ _ _ => ready_check fun _ => ready_check fun _ => trivial
  · exact .then (fun _ _ _ => trivial) fun _ _ _ _ => ready_check fun _ => trivial

/-- Asking to pay keeps to the purposes. -/
theorem initializePayment_purposes (userId groupId : ℕ) : Purposeful (initializePayment userId groupId) w := by
  refine .call_bind (fun _ _ _ => trivial) fun e w₁ _ _ _ _ _ claim hclaim => ready_onlyIf fun hstart => ?_
  have hrecord := claimInitialization_onRecord e userId groupId w₁.db claim _ (exec_ok rfl hclaim) hstart
  refine ready_selectOrThrow (fun _ => trivial) fun w₂ _ h₂ _ _ => ?_
  have hrecord₂ := hrecord.later h₂
  have hstable := OnRecord.stable false claim.paymentId
  have hready : Purposeful (Prog.attempt
      (startPayment userId groupId claim.payment (claim.payment.transactionRef.getD "")) fun err => do
        call (.updatePayment claim.paymentId .clearMetadata)
        Prog.fail err) w₂ := by
    refine .attempt_with hstable hrecord₂ (startPayment_purposes userId groupId _ _) fun err w₃ h₃ => ?_
    exact .then (fun w₄ h₄ _ => h₃.later h₄) fun _ _ _ _ => trivial
  have hstarts : Prog.Yields (fun r => ∀ u, r = .ok u → Starts claim.payment u) (Prog.attempt
      (startPayment userId groupId claim.payment (claim.payment.transactionRef.getD "")) fun err => do
        call (.updatePayment claim.paymentId .clearMetadata)
        Prog.fail err) := by
    refine .attempt (startPayment_yields _ _ _ _) fun err => .bind_ok _ fun _ u hu => ?_
    cases hu
  refine Informed.seq (P := fun u w => Starts claim.payment u ∧ OnRecord false w.db claim.paymentId) ?_
    fun u w₃ h => Ready.call fun w₄ h₄ _ => ?_
  · exact ((hready.yields hstarts).and (hready.carry hstable hrecord₂)).mono fun _ _ h u hu => ⟨h.1 u hu, h.2⟩
  · change OnRecord u.topup w₄.db claim.paymentId
    rw [h.1.not_topup]
    exact h.2.later h₄

/-- Taking up a checkout again keeps to the purposes. -/
theorem resumeCheckout_purposes (userId id : ℕ) : Purposeful (resumeCheckout userId id) w := by
  refine ready_selectOrThrow (fun _ => trivial) fun _ _ _ _ _ => ready_check fun _ => ?_
  exact .bind (ready_onlyIf fun _ => initializePayment_purposes _ _) fun _ _ => purposes_call fun _ => trivial

/-- A new payment is on record with what it is for. -/
theorem createPayment_onRecord (e : Env) (payment : Payment) (db : Database) :
    wp db (createPayment e payment) fun b db' => OnRecord payment.topup db' b.1 := by
  rw [createPayment, wp_bind, wp_createUnique]
  intro _
  rw [wp_pure, OnRecord, Database.set_self, Table.find_create_self]
  exact ⟨_, rfl, rfl⟩

/-- A top-up that Paystack could not start is marked failed. -/
theorem failTopup_purposes {p : ℕ} {err : Error} (hp : OnRecord true w.db p) :
    Purposeful (do
      call (.updatePayment p (.failTopup none))
      call .notify
      (Prog.fail err : Request α)) w :=
  .then (fun _ h _ => hp.later h) fun _ _ _ _ => .then (fun _ _ _ => trivial) fun _ _ _ _ => trivial

/-- Paying into a wallet keeps to the purposes. -/
theorem topupWallet_purposes (userId : ℕ) (amount : ℚ) : Purposeful (topupWallet userId amount) w := by
  refine ready_selectOrThrow (fun _ => trivial) fun _ _ _ _ _ => ?_
  refine .then (fun _ _ _ => trivial) fun token _ _ _ => .then (fun _ _ _ => trivial) fun now _ _ _ => ?_
  refine ready_transaction rfl (fun _ _ _ => ?_) (fun e w _ _ => createPayment_onRecord e _ w.db)
    fun w₁ payment _ _ hp => ?_
  · exact ⟨rfl, rfl, fun h => PaymentProvider.noConfusion h, fun _ => rfl⟩
  have hstable := OnRecord.stable true payment.1
  refine .bind_with hstable hp (.attempt_with hstable hp (purposes_call fun _ => trivial)
    fun err w₂ h₂ => failTopup_purposes h₂) fun _ w₂ h₂ => Ready.call fun w₃ h₃ _ => h₂.later h₃

/-- Paying into a wallet by transfer keeps to the purposes. -/
theorem topupWalletByTransfer_purposes (userId : ℕ) (amount : ℚ) :
    Purposeful (topupWalletByTransfer userId amount) w := by
  refine ready_selectOrThrow (fun _ => trivial) fun _ _ _ _ _ => .then (fun _ _ _ => trivial) fun token _ _ _ => ?_
  refine ready_transaction rfl (fun _ _ _ => ?_) (fun e w _ _ => createPayment_onRecord e _ w.db)
    fun w₁ payment _ _ hp => ?_
  · exact ⟨rfl, rfl, fun h => PaymentProvider.noConfusion h, fun _ => rfl⟩
  refine .attempt_with (OnRecord.stable true payment.1) hp ?_ fun err w₂ h₂ => failTopup_purposes h₂
  refine .then (fun _ _ _ => trivial) fun charge w₂ h₂ _ => ready_check fun _ => ?_
  exact Ready.call fun w₃ h₃ _ => (hp.later h₂).later h₃

/-- Paying an installment keeps to the purposes. -/
theorem payRepayment_purposes (userId installmentId : ℕ) (byWallet : Bool) :
    Purposeful (payRepayment userId installmentId byWallet) w := by
  refine ready_selectOrThrow (fun _ => trivial) fun _ _ _ _ _ => ready_check fun _ => ?_
  refine ready_selectOrThrow (fun _ => trivial) fun _ _ _ _ _ => .then (fun _ _ _ => trivial) fun _ _ _ _ => ?_
  dsimp only
  split
  · exact .then (fun _ _ _ => trivial) fun _ _ _ _ => trivial
  · refine .then (fun _ _ _ => trivial) fun _ _ _ _ => ?_
    refine .then (fun _ _ _ => ?_) fun _ _ _ _ => .then (fun _ _ _ => trivial) fun _ _ _ _ => trivial
    exact ⟨rfl, rfl, fun h => PaymentProvider.noConfusion h, fun _ => rfl⟩

end Payments

/-! ## All requests -/

/-- Every request about payments keeps to the purposes. -/
theorem PaymentRequest.purposes {p : Request Unit} (h : PaymentRequest p) : Purposeful p w := by
  cases h with
  | create userId input => exact (uses_discard (Checkout.create_uses _ _)).purposes (by decide)
  | place userId input =>
    refine ready_discard (.then (fun _ _ _ => trivial) fun _ _ _ _ => ?_)
    refine .bind (ready_onlyIf fun _ => Payments.initializePayment_purposes _ _) fun _ _ => ?_
    refine .bind (ready_onlyIf fun _ =>
      (Payments.dispatchGroupConfirmations_uses _).purposes (by decide)) fun _ _ => ?_
    exact purposes_call fun _ => trivial
  | confirmBnpl userId id =>
    exact ready_discard (.then (fun _ _ _ => trivial) fun _ _ _ _ => ready_selectOrThrow (fun _ => trivial)
      fun _ _ _ _ _ => purposes_call fun _ => trivial)
  | initializeKlump userId input =>
    exact ready_discard (.then (fun _ _ _ => trivial) fun _ _ _ _ =>
      .bind ((Checkout.create_uses _ _).purposes (by decide)) fun _ _ => purposes_call fun _ => trivial)
  | verifyKlump userId reference =>
    exact .bind ((Klump.verifyProviderTransaction_uses _ _).purposes (by decide)) fun _ _ =>
      purposes_call fun _ => trivial
  | klumpWebhook event => exact (Klump.handleWebhook_uses _).purposes (by decide)
  | initializePayment userId groupId => exact Payments.initializePayment_purposes _ _
  | resumeCheckout userId id => exact ready_discard (Payments.resumeCheckout_purposes _ _)
  | status userId groupId verify => exact ready_discard (Payments.status_purposes _ _ _)
  | cancelCheckout userId id => exact ready_discard (Payments.cancelCheckout_purposes _ _)
  | verifyReference reference => exact ready_discard (Payments.verifyReference_purposes _)
  | handleWebhook event => exact Payments.handleWebhook_purposes _
  | reconcilePending => exact Payments.reconcilePending_purposes
  | topupWallet userId amount => exact Payments.topupWallet_purposes _ _
  | topupWalletByTransfer userId amount => exact Payments.topupWalletByTransfer_purposes _ _
  | payRepayment userId installmentId byWallet => exact Payments.payRepayment_purposes _ _ _
  | transferAccount userId =>
      exact (uses_discard (Payments.createWalletTransferAccount_uses _)).purposes (by decide)
  | cancelOrder userId id reason => exact (Orders.cancelOrder_uses _ _ _).purposes (by decide)

/-- Every request of the store knows what the payments that it writes are for. -/
theorem StoreRequest.purposes {p : Request Unit} (h : StoreRequest p) : Purposeful p w := by
  cases h with
  | payment h => exact h.purposes
  | refund h => exact h.uses.purposes (by decide)
  | status h => exact h.uses.purposes (by decide)

end Superstore

import Superstore.Properties.Captured
import Superstore.Properties.PaymentStart

/-!
# What is asked of Paystack

Every reference that a checkout is charged under, or that a refund is asked for, should be that of a
payment through Paystack. A claim to start a payment takes the payment that the group is linked to,
through whomever it is made, and the refund of a cancelled order goes to Paystack unless the order was
paid by Klump or out of the wallet. Where neither of them meets another payment, the boundary is kept.
-/

namespace Superstore

open Interleaving Relational.Tx Contract

namespace Books

variable {B B' : Books}

/-- A payment that is made through Paystack. -/
def Paystack (B : Books) (p : ℕ) : Prop := ∃ q, B.payment p = some q ∧ q.provider = .paystack

/-- A reference of a payment that is made through Paystack. -/
def PaystackReference (B : Books) (reference : String) : Prop :=
  ∃ p q, B.payment p = some q ∧ q.provider = .paystack ∧ q.reference = some reference

/-- A reference stays that of its payment. -/
theorem PaystackReference.later {reference : String} (h : B.PaystackReference reference) (hlater : B.Later B') :
    B'.PaystackReference reference := by
  obtain ⟨p, q, hq, hprovider, href⟩ := h
  obtain ⟨q', hq', -, hprovider', href'⟩ := hlater.payment p q hq
  exact ⟨p, q', hq', hprovider'.trans hprovider, href'.trans href⟩

end Books

/-- A refund keeps its payment and its provider. -/
def Refund.SameProvider (r r' : Refund) : Prop := r'.provider = r.provider ∧ r'.paymentId = r.paymentId

/-- Staying with a provider is reflexive and transitive. -/
instance : IsPreorder Refund Refund.SameProvider where
  refl _ := ⟨rfl, rfl⟩
  trans _ _ _ h h' := ⟨h'.1.trans h.1, h'.2.trans h.2⟩

/-- A refund through Paystack belongs to a payment through Paystack. -/
def Refund.OfPaystack (B : Books) (r : Refund) : Prop := r.provider = .paystack → B.Paystack r.paymentId

/-- Refunds through Paystack belong to payments through Paystack, and so do the refunds that Paystack has
been asked for. -/
structure PaystackRefunds (w : World) : Prop where
  rows : ∀ k r, (w.db .refund).find k = some r → r.OfPaystack (books w.db)
  asked : ∀ x ∈ w.paystack.refunds, (books w.db).PaystackReference x.transaction

/-- An order that is cancelled was paid out of the wallet, by Klump or through Paystack; a cancellation that is
refused does not count. -/
def Op.cancelsPaystack : {α : Type} → Op α → Database → Bool
  | _, .cancelOrder userId id _, db => !Orders.cancellable userId id db || (Orders.allocationOf id db).all fun a =>
      a.2.1.paymentMethod == .wallet ||
      (a.2.1.paymentId.bind (db .payment).find).any fun p => p.provider == .klump || p.provider == .paystack
  | _, _, _ => true

/-- The reference that an operation asks Paystack to refund. -/
def Op.refunded : {α : Type} → Op α → Option String
  | _, .createRefund transaction _ _ => some transaction
  | _, _ => none

/-- What is asked of Paystack about refunds. -/
def asking : Contract Op World Env where
  inv := PaystackRefunds
  guar w w' := (books w.db).Later (books w'.db)
  known op w := ∀ t, op.refunded = some t → (books w.db).PaystackReference t
  allowed op e w := e.fails ∨ op.cancelsPaystack w.db
  refl := booksLater_refl
  trans := booksLater_trans

/-! ## Refunds -/

/-- Refunds are entered through Paystack only for payments through Paystack. -/
abbrev RefundsGrow (B : Books) (db db' : Database) : Prop :=
  (db .refund).Grows (Refund.OfPaystack B) Refund.SameProvider (db' .refund)

/-- Growing by refunds of the right payments is reflexive and transitive. -/
instance (B : Books) : IsPreorder Database (RefundsGrow B) where
  refl db := .refl (db .refund)
  trans _ _ _ := .trans

/-- A transaction that writes no refund. -/
theorem refundsGrow_of_writes {α : Type} {B : Books} {ns : List TableName} {m : Tx α} (h : Writes ns m)
    (hns : .refund ∉ ns) : Within (RefundsGrow B) m :=
  .of_writes h fun _ _ hsame => .of_eq (hsame _ hns)

namespace Payments

/-- A refund of a late payment is made by Paystack, where the payment was. -/
theorem lateRefund_ofPaystack {B : Books} {p : ℕ} (hp : B.Paystack p) (groupId : ℕ) (group : CheckoutPaymentGroup)
    (allocation : Allocation) : Within (RefundsGrow B) (lateRefund p groupId group allocation) := by
  refine .bind (.of_reads (.first _ _)) fun existing => ?_
  cases existing with
  | some existing => exact .pure _
  | none => exact grows_createUnique _ fun _ => hp

/-- The refunds of a late payment belong to it. -/
theorem finalizePayment_ofPaystack {B : Books} (e : Env) {p : ℕ} (hp : B.Paystack p) (groups : List (ℕ × ℕ))
    (success : Bool) : Within (RefundsGrow B) (finalizePayment e p groups success) := by
  have hlock : Writes Cart.tables (groups.forM fun g => do let _ ← Cart.lock g.2; pure ()) :=
    .forM fun g _ => .bind (Cart.lock_writes _) fun _ => .pure ()
  have hpayment (f : Payment → Payment) : Within (RefundsGrow B) (update .payment p f) :=
    refundsGrow_of_writes (.update (List.mem_singleton_self TableName.payment) _ _) (by decide)
  refine .bind (refundsGrow_of_writes hlock (by decide)) fun _ =>
    .bind (.of_reads (.findOrThrow _ _)) fun current => ?_
  split
  · exact .pure _
  · split
    · split
      · refine .bind (hpayment _) fun _ => .bind (.of_reads (.many _ _)) fun _ => ?_
        exact .bind (.mapM fun _ _ => .mapM fun _ _ => lateRefund_ofPaystack hp _ _ _) fun _ => .pure _
      · exact .pure _
    · split
      · refine .bind (hpayment _) fun _ => ?_
        exact .bind (.forM fun g _ => refundsGrow_of_writes (completeGroup_writes e g.1) (by decide)) fun _ =>
          .pure _
      · refine .bind (hpayment _) fun _ => ?_
        exact .bind (.forM fun g _ => refundsGrow_of_writes (failGroup_writes e g.1) (by decide)) fun _ => .pure _

end Payments

namespace Orders

/-- The refund of a cancelled order is noted with the provider of its payment. -/
theorem noteRefund_ofPaystack {B : Books} (e : Env) (userId orderId p : ℕ) (order : Order) (allocation : Allocation)
    (isWallet isKlump : Bool) (reason : String) (hp : isWallet = false → isKlump = false → B.Paystack p) :
    Within (RefundsGrow B) (noteRefund e userId orderId p order allocation isWallet isKlump reason) := by
  refine .bind (.of_reads (.first _ _)) fun existing => ?_
  cases existing with
  | some existing => exact .pure _
  | none =>
    refine .bind (grows_createUnique _ fun hprovider => ?_) fun _ => .pure _
    cases isWallet with
    | true => cases hprovider
    | false =>
      cases isKlump with
      | true => cases hprovider
      | false => exact hp rfl rfl

/-- The refund of a cancelled order goes to Paystack only for a payment through Paystack. -/
theorem cancel_ofPaystack (e : Env) (userId id : ℕ) (reason : String) {db : Database}
    (hspares : (Orders.allocationOf id db).all fun a => a.2.1.paymentMethod == .wallet ||
      (a.2.1.paymentId.bind (db .payment).find).any fun p => p.provider == .klump || p.provider == .paystack) :
    wp db (cancel e userId id reason) fun _ db' => RefundsGrow (books db) db db' := by
  rw [cancel, wp_bind, wp_find, wp_bind, wp_orThrow]
  intro order _
  rw [wp_bind, wp_require]
  intro _
  refine (Payments.callOff_writes _ _ _ _).before fun _ db₁ hsame => ?_
  have hallocation : allocationOf id db₁ = allocationOf id db := by
    rw [allocationOf, hsame _ (by decide)]
    rfl
  have hpayment : db₁ .payment = db .payment := hsame _ (by decide)
  have hrefund : db₁ .refund = db .refund := hsame _ (by decide)
  rw [wp_bind, wp_query, wp_bind, wp_orThrow]
  intro located hlocated
  obtain ⟨a, ha, hlinked⟩ := Option.bind_eq_some_iff.mp hlocated
  obtain ⟨p, hp, rfl⟩ := Option.map_eq_some_iff.mp hlinked
  rw [hallocation] at ha
  rw [ha, Option.all_some, hp, Option.bind_some] at hspares
  rw [wp_bind, wp_query, hpayment]
  have hpaystack (hwallet : (a.2.1.paymentMethod == .wallet) = false)
      (hklump : (((db .payment).find p).any (·.provider == .klump)) = false) : (books db).Paystack p := by
    rw [hwallet, Bool.false_or] at hspares
    cases hq : (db .payment).find p with
    | none =>
      rw [hq] at hspares
      cases hspares
    | some q =>
      rw [hq, Option.any_some] at hklump hspares
      rw [hklump, Bool.false_or] at hspares
      exact ⟨q.terms, (books_payment hq).1, beq_iff_eq.mp hspares⟩
  have hrest : Within (RefundsGrow (books db)) (do
      when (a.2.1.paymentMethod == .wallet) do
        Payments.creditWallet userId order.total ("ORDER-CANCEL-" ++ toString id)
      let refund ← noteRefund e userId id p order a.2.2 (a.2.1.paymentMethod == .wallet)
        (((db .payment).find p).any (·.provider == .klump)) reason
      when (refund.2.status = .succeeded) do syncInTransaction p
      reverseSettlement id order
      let _ ← updateMany .cashbackReward (fun _ c => c.orderId == id && c.status == "AVAILABLE")
        fun c => { c with status := "REVERSED" }
      pure (⟨refund.1, refund.2, a.2.1.paymentMethod == .wallet⟩ : CancelResult)) := by
    refine .bind (.when (refundsGrow_of_writes (Payments.creditWallet_writes _ _ _) (by decide))) fun _ => ?_
    refine .bind (noteRefund_ofPaystack e _ _ _ _ _ _ _ _ hpaystack) fun _ => ?_
    refine .bind (.when (refundsGrow_of_writes (syncInTransaction_writes _) (by decide))) fun _ => ?_
    refine .bind (refundsGrow_of_writes (reverseSettlement_writes _ _) (by decide)) fun _ => ?_
    refine .bind (refundsGrow_of_writes (.updateMany (List.mem_singleton_self TableName.cashbackReward) _ _)
      (by decide)) fun _ => ?_
    exact .pure _
  refine wp_mono (hrest db₁) fun _ db' hgrows => ?_
  change (db .refund).Grows _ _ _
  rw [← hrefund]
  exact hgrows

end Orders

namespace Payments

/-- What Paystack reports about a refund changes neither its payment nor its provider. -/
theorem RefundUpdate.sameProvider (now : ℕ) (u : RefundUpdate) (r : Refund) : r.SameProvider (u.apply now r) := by
  cases u <;> exact ⟨rfl, rfl⟩

end Payments

/-- Every operation enters refunds through Paystack only for payments through Paystack. -/
theorem exec_ofPaystack {α : Type} (op : Op α) (e : Env) {w : World} (hlegit : op.Legitimate False (books w.db))
    (hspares : op.cancelsPaystack w.db) : RefundsGrow (books w.db) w.db (op.exec e w).2.db := by
  by_cases hwrites : TableName.refund ∈ op.writes
  swap
  · exact .of_eq (exec_frame op e w _ hwrites)
  have hgrows {α : Type} {op : Op α} {m : Env → Tx α} (hop : op.transaction = some m)
      (hm : wp w.db (m e) fun _ db => RefundsGrow (books w.db) w.db db) :
      RefundsGrow (books w.db) w.db (op.exec e w).2.db :=
    exec_transaction hop (Φ := fun w' => RefundsGrow (books w.db) w.db w'.db) (refl_of _ _) hm
  cases op <;> dsimp only [Op.writes] at hwrites <;>
    first | exact absurd hwrites (by decide) | clear hwrites
  case finalizePayment => exact hgrows rfl (Payments.finalizePayment_ofPaystack e hlegit.1 _ _ w.db)
  case cancelOrder userId id reason =>
    by_cases hcancellable : Orders.cancellable userId id w.db = true
    · rw [Op.cancelsPaystack, hcancellable, Bool.not_true, Bool.false_or] at hspares
      exact hgrows rfl (Orders.cancel_ofPaystack e _ _ _ hspares)
    · rw [exec_cancel_refused hcancellable]
      exact refl_of (RefundsGrow (books w.db)) w.db
  case claimRefund => exact hgrows rfl (grows_updateMany fun _ _ _ _ => ⟨rfl, rfl⟩)
  case reopenRefund => exact hgrows rfl (grows_updateMany fun _ _ _ _ => ⟨rfl, rfl⟩)
  case updateRefund id u =>
    exact hgrows rfl (Within.after (grows_update fun r _ => Payments.RefundUpdate.sameProvider _ u r) fun _ =>
      .of_reads (.findOrThrow _ _))
  case completeManual =>
    exact hgrows rfl (Within.after (grows_update fun _ _ => ⟨rfl, rfl⟩) fun _ => .of_reads (.findOrThrow _ _))

/-- Paystack has been asked for the refunds that it had been asked for before, and for what the operation asks. -/
theorem exec_refunded {α : Type} {op : Op α} {e : Env} {w : World} {x : RefundRequest}
    (hx : x ∈ (op.exec e w).2.paystack.refunds) : x ∈ w.paystack.refunds ∨ op.refunded = some x.transaction := by
  cases hop : op.transaction with
  | some m =>
    rw [exec_paystack hop] at hx
    exact .inl hx
  | none =>
    rw [Op.exec, hop] at hx
    cases op <;> dsimp only [Op.external] at hx <;> try exact .inl hx
    case initializeTransaction => unfold charge at hx; split at hx <;> exact .inl hx
    case createBankTransferCharge => unfold charge at hx; split at hx <;> exact .inl hx
    case createRefund transaction amount merchantNote =>
      unfold requestRefund at hx
      split at hx
      · exact .inl hx
      · rcases List.mem_append.mp hx with hold | hnew
        · exact .inl hold
        · rw [List.mem_singleton.mp hnew]
          exact .inr rfl

/-- The contract of charges and refunds at Paystack. -/
abbrev boundary : Contract Op World Env := (chargedBooks False True).both asking

/-- Every operation keeps what is asked of Paystack within the boundary where its facts are known. -/
theorem boundary_safe {α : Type} (op : Op α) : boundary.Safe machine op := by
  intro e w hinv hknown hallowed
  obtain ⟨hcharged, hrefunds⟩ := hinv
  obtain ⟨hcharged', hguar⟩ := chargedBooks_safe op e w hcharged hknown.1 hallowed.1
  have hlater : (books w.db).Later (books (op.exec e w).2.db) := hguar.1
  have hrows : RefundsGrow (books w.db) w.db (op.exec e w).2.db := by
    rcases hallowed.2 with hfails | hspares
    · exact .of_eq (congrFun (exec_fails_db hfails) _)
    · exact exec_ofPaystack op e hknown.1.1 hspares
  refine ⟨⟨hcharged', ?_, fun x hx => ?_⟩, hguar, hlater⟩
  · refine hrows.forall (S := Refund.OfPaystack (books (op.exec e w).2.db))
      (fun k r hr hprovider => hlater.paystack (hrefunds.rows k r hr hprovider))
      (fun r hr hprovider => hlater.paystack (hr hprovider)) fun a b hsame ha hprovider => ?_
    rw [hsame.2]
    exact ha (hsame.1.symm.trans hprovider)
  · rcases exec_refunded hx with hold | hnew
    · exact (hrefunds.asked x hold).later hlater
    · exact (hknown.2 _ hnew).later hlater

/-! ## Requests -/

/-- A request that asks Paystack to refund payments through Paystack only, from whichever state on. -/
abbrev Asks {α : Type} (p : Request α) : Prop := ∀ w, asking.Ready machine p w

/-- A request that asks for no refund. -/
theorem Uses.asks {α : Type} {ks : List OpKind} {p : Request α} (h : Uses ks p) (hks : .refund ∉ ks) : Asks p := by
  refine informed_of_all (Prog.All.imp h fun _ op hop _ t ht => ?_)
  cases op <;> first | exact absurd hop hks | cases ht

/-- A call that asks for no refund asks Paystack for none of others. -/
theorem asks_call {α : Type} {op : Op α} (h : op.refunded = none) : Asks (call op) :=
  fun _ => .call fun _ _ _ t ht => by rw [h] at ht; cases ht

/-- What is done without a call asks for no refund. -/
theorem asks_done {α : Type} (r : Except Error α) : Asks (Prog.done r) := fun _ => trivial

/-- A sequence asks for refunds of Paystack's payments only if its parts do. -/
theorem Asks.bind {α β : Type} {p : Request α} {f : α → Request β} (h : Asks p) (hf : ∀ a, Asks (f a)) :
    Asks (p.bind f) :=
  fun w => Ready.bind (h w) fun a w' => hf a w'

/-- A request whose errors are handled asks for refunds as it and the handler do. -/
theorem Asks.attempt {α : Type} {p : Request α} {handler : Error → Request α} (h : Asks p)
    (hh : ∀ err, Asks (handler err)) : Asks (p.attempt handler) :=
  fun w => Ready.attempt (h w) fun err w' => hh err w'

/-- What is done under a condition asks for refunds as it does without. -/
theorem asks_onlyIf {c : Prop} [Decidable c] {p : Request Unit} (h : Asks p) : Asks (onlyIf c p) :=
  fun w => ready_onlyIf fun _ => h w

/-- Dropping an answer asks for no refund. -/
theorem asks_discard {α : Type} {p : Request α} (h : Asks p) : Asks (discard p) := h.bind fun _ => asks_done _

namespace Payments

/-- Failures that are ignored ask for no refund. -/
theorem tolerate_asks {α : Type} {p : Request α} (h : Asks p) : Asks (tolerate p) :=
  .attempt (.bind h fun _ => asks_done _) fun _ => asks_done _

/-- Telling a customer of a refund asks for none. -/
theorem notifyRefund_asks (id : ℕ) : Asks (notifyRefund id) := .bind (asks_call rfl) fun _ => asks_call rfl

/-- The status of a payment follows its refunds without asking for one. -/
theorem syncPaymentRefundStatus_asks (paymentId : ℕ) : Asks (syncPaymentRefundStatus paymentId) :=
  .bind (asks_call rfl) fun _ => .bind (asks_call rfl) fun _ => asks_call rfl

/-- Asking how a refund stands asks for none. -/
theorem pollRefund_asks (id : ℕ) (providerRefundId : String) : Asks (pollRefund id providerRefundId) :=
  .bind (asks_call rfl) fun _ => .bind (asks_call rfl) fun _ =>
    .bind (asks_onlyIf (syncPaymentRefundStatus_asks _)) fun _ =>
    .bind (asks_onlyIf (notifyRefund_asks _)) fun _ => asks_done _

/-- A refund is asked for with a reference of Paystack. -/
theorem submitRefund_asks (id : ℕ) (refund : Refund) {transaction : String} {w : World}
    (href : (books w.db).PaystackReference transaction) :
    asking.Ready machine (submitRefund id refund transaction) w := by
  refine .attempt (.then (fun w₁ h₁ _ t ht => ?_) fun provider w₁ _ _ => ?_) fun err w₁ => ?_
  · obtain rfl := Option.some.inj ht
    exact href.later h₁
  · exact Asks.bind (asks_call rfl) (fun _ => .bind (asks_onlyIf (syncPaymentRefundStatus_asks _)) fun _ =>
      .bind (notifyRefund_asks _) fun _ => asks_done _) w₁
  · exact Asks.bind (asks_call rfl) (fun _ => .bind (notifyRefund_asks _) fun _ => asks_done _) w₁

/-- The refund that is submitted is one of a payment through Paystack. -/
theorem processRefund_asks (id : ℕ) : Asks (processRefund id) := by
  intro w
  refine ready_selectOrThrow (fun _ t ht => by cases ht) fun w₁ rp _ hinv hrp => ?_
  obtain ⟨refund, payment⟩ := rp
  obtain ⟨r, hr, hsome⟩ := Option.bind_eq_some_iff.mp hrp
  obtain ⟨q, hq, hpair⟩ := Option.bind_eq_some_iff.mp hsome
  obtain ⟨rfl, rfl⟩ := Prod.mk.inj (Option.some.inj hpair)
  dsimp only
  split
  · exact trivial
  · next hmanual =>
    split
    · split
      · exact trivial
      · exact Asks.bind (asks_call rfl) (fun _ => .bind (notifyRefund_asks _) fun _ => asks_done _) w₁
    · next hklump =>
      split
      · split
        · exact trivial
        · exact pollRefund_asks _ _ w₁
      · refine ready_decided fun transaction href => ?_
        have hprovider : r.provider = .paystack := by
          cases h : r.provider with
          | paystack => rfl
          | manual => exact absurd (.inr h) hmanual
          | klump => exact absurd h hklump
        have hpaystack : (books w₁.db).PaystackReference transaction := by
          obtain ⟨terms, hterms, hthrough⟩ := hinv.rows id r hr hprovider
          obtain rfl := Option.some.inj ((books_payment hq).1.symm.trans hterms)
          exact ⟨_, _, hterms, hthrough, fromOption_eq_ok.mp href⟩
        refine .then (fun _ _ _ t ht => by cases ht) fun claimed w₂ h₂ _ => ?_
        split
        · exact trivial
        · exact submitRefund_asks id r (hpaystack.later h₂)

/-- A notice of a refund asks for none. -/
theorem applyRefundWebhook_asks (event : WebhookEvent) : Asks (applyRefundWebhook event) :=
  .bind (asks_call rfl) fun _ => .bind (asks_call rfl) fun _ =>
    .bind (asks_onlyIf (syncPaymentRefundStatus_asks _)) fun _ => .bind (notifyRefund_asks _) fun _ => asks_done _

/-- Applying what Paystack reports on a checkout asks for refunds of Paystack's payments only. -/
theorem applyOutcome_asks (k : KnownPayment) (success : Bool) : Asks (applyOutcome k success) := by
  refine .bind (asks_call rfl) fun ids => ?_
  split
  · refine .bind (fun w => .forkEach fun id _ => ?_) fun _ => asks_done _
    exact Asks.bind (processRefund_asks id) (fun _ => asks_done _) w
  · split
    · exact .bind ((dispatchGroupConfirmations_uses _).asks (by decide)) fun _ => asks_done _
    · exact .bind (asks_onlyIf fun w => .forkEach fun _ _ => asks_call rfl w) fun _ => asks_done _

/-- Verifying the payment of a checkout asks for refunds of Paystack's payments only. -/
theorem verifyCheckout_asks (k : KnownPayment) (reference : String) : Asks (verifyCheckout k reference) := by
  refine .bind (asks_call rfl) fun v => .bind (asks_done _) fun _ => ?_
  split
  · exact applyOutcome_asks _ _
  · exact applyOutcome_asks _ _
  · refine .bind (asks_call rfl) fun _ => ?_
    split
    · exact applyOutcome_asks _ _
    · exact asks_done _

/-- Verifying a top-up asks for refunds of Paystack's payments only. -/
theorem verifyTopup_asks (k : KnownPayment) (reference : String) : Asks (verifyTopup k reference) := by
  refine .bind (asks_call rfl) fun v => .bind (asks_done _) fun _ => ?_
  split
  · refine .bind (asks_call rfl) fun _ => ?_
    split
    · exact .bind (asks_call rfl) fun _ => .bind (asks_call rfl) fun _ => asks_done _
    · exact asks_done _
  · exact .bind (asks_call rfl) fun _ => .bind (asks_onlyIf (asks_call rfl)) fun _ => asks_done _
  · exact .bind (asks_call rfl) fun _ => .bind (asks_call rfl) fun _ => asks_done _

/-- Verifying a repayment asks for refunds of Paystack's payments only. -/
theorem verifyRepayment_asks (k : KnownPayment) (reference : String) : Asks (verifyRepayment k reference) := by
  refine .bind (asks_call rfl) fun _ => .bind (asks_call rfl) fun v => .bind (asks_done _) fun _ => ?_
  split
  · exact asks_done _
  · exact .bind (asks_call rfl) fun _ => asks_done _
  · exact .bind (asks_call rfl) fun _ => asks_done _

/-- Verifying a reference asks for refunds of Paystack's payments only. -/
theorem verifyReference_asks (reference : String) : Asks (verifyReference reference) := by
  refine .bind (asks_call rfl) fun known => .bind (asks_done _) fun k => ?_
  split
  · exact asks_done _
  · split
    · exact .bind (asks_onlyIf (asks_call rfl)) fun _ =>
        .bind ((dispatchGroupConfirmations_uses _).asks (by decide)) fun _ => asks_done _
    · split
      · exact verifyRepayment_asks _ _
      · exact verifyTopup_asks _ _
      · exact verifyTopup_asks _ _
      · exact verifyCheckout_asks _ _

/-- Asking for the status of a checkout asks for refunds of Paystack's payments only. -/
theorem status_asks (userId groupId : ℕ) (verify : Bool) : Asks (status userId groupId verify) := by
  refine .bind (asks_call rfl) fun s => ?_
  split
  · exact .bind (verifyReference_asks _) fun _ => asks_call rfl
  · exact asks_call rfl

/-- Cancelling a checkout asks for refunds of Paystack's payments only. -/
theorem cancelCheckout_asks (userId id : ℕ) : Asks (cancelCheckout userId id) := by
  have hunpaid : Asks (cancelUnpaid userId id) := .bind (asks_call rfl) fun _ => asks_call rfl
  refine .bind (asks_call rfl) fun existing => .bind (asks_done _) fun _ => ?_
  split
  · exact asks_call rfl
  · split
    · exact hunpaid
    · refine .bind (verifyReference_asks _) fun _ => .bind (asks_done _) fun _ => ?_
      split
      · exact asks_call rfl
      · exact hunpaid

/-- Taking in a notice of Paystack asks for refunds of Paystack's payments only. -/
theorem handleWebhook_asks (event : WebhookEvent) : Asks (handleWebhook event) := by
  have hdispatch : Asks (dispatchEvent event) := by
    unfold dispatchEvent
    split
    · refine .bind (asks_call rfl) fun known => ?_
      split
      · exact .bind (verifyReference_asks _) fun _ => .bind (asks_done _) fun _ => asks_done _
      · exact .bind ((completeDedicatedAccountFunding_uses _).asks (by decide)) fun _ => asks_done _
    · split
      · exact .bind (applyRefundWebhook_asks _) fun _ => asks_done _
      · split
        · exact .bind ((completeDedicatedAccountAssignment_uses _).asks (by decide)) fun _ => asks_done _
        · split
          · exact .bind ((failDedicatedAccountAssignment_uses _).asks (by decide)) fun _ => asks_done _
          · exact asks_done _
  refine .bind (asks_call rfl) fun _ => asks_onlyIf (.attempt (.bind hdispatch fun outcome => ?_) fun _ => ?_)
  · split
    · exact asks_call rfl
    · exact asks_done _
  · exact .bind (asks_call rfl) fun _ => asks_done _

/-- The scheduled check of payments asks for refunds of Paystack's payments only. -/
theorem reconcilePending_asks : Asks reconcilePending :=
  .bind (asks_call rfl) fun _ => .bind (asks_call rfl) fun _ =>
    .bind (fun _ => .forEach fun _ _ w => tolerate_asks (verifyReference_asks _) w) fun _ =>
    .bind (asks_call rfl) fun _ => fun _ => .forEach fun _ _ w => tolerate_asks (processRefund_asks _) w

end Payments

/-- Cancelling an order asks for a refund of Paystack's payments only. -/
theorem Orders.cancelOrder_asks (userId id : ℕ) (reason : String) : Asks (Orders.cancelOrder userId id reason) := by
  refine .bind (asks_call rfl) fun _ => ?_
  split
  · exact Payments.tolerate_asks (Payments.processRefund_asks _)
  · exact asks_call rfl

/-- Every request about payments asks for refunds of Paystack's payments only. -/
theorem PaymentRequest.asks {p : Request Unit} (h : PaymentRequest p) : Asks p := by
  cases h with
  | create userId input => exact (uses_discard (Checkout.create_uses _ _)).asks (by decide)
  | place userId input => exact (uses_discard (Checkout.place_uses _ _)).asks (by decide)
  | confirmBnpl userId id =>
    exact asks_discard (.bind (asks_call rfl) fun _ => .bind (asks_call rfl) fun _ => asks_call rfl)
  | initializeKlump userId input =>
    exact asks_discard (.bind (asks_call rfl) fun _ => .bind ((Checkout.create_uses _ _).asks (by decide))
      fun _ => asks_call rfl)
  | verifyKlump userId reference =>
    exact .bind ((Klump.verifyProviderTransaction_uses _ _).asks (by decide)) fun _ => asks_call rfl
  | klumpWebhook event => exact (Klump.handleWebhook_uses _).asks (by decide)
  | initializePayment userId groupId => exact (Payments.initializePayment_uses _ _).asks (by decide)
  | resumeCheckout userId id => exact (uses_discard (Payments.resumeCheckout_uses _ _)).asks (by decide)
  | status userId groupId verify => exact asks_discard (Payments.status_asks _ _ _)
  | cancelCheckout userId id => exact asks_discard (Payments.cancelCheckout_asks _ _)
  | verifyReference reference => exact asks_discard (Payments.verifyReference_asks _)
  | handleWebhook event => exact Payments.handleWebhook_asks _
  | reconcilePending => exact Payments.reconcilePending_asks
  | topupWallet userId amount => exact (Payments.topupWallet_uses _ _).asks (by decide)
  | topupWalletByTransfer userId amount => exact (Payments.topupWalletByTransfer_uses _ _).asks (by decide)
  | payRepayment userId installmentId byWallet => exact (Payments.payRepayment_uses _ _ _).asks (by decide)
  | transferAccount userId => exact (uses_discard (Payments.createWalletTransferAccount_uses _)).asks (by decide)
  | cancelOrder userId id reason => exact Orders.cancelOrder_asks _ _ _

/-- Every request of the staff about refunds asks for refunds of Paystack's payments only. -/
theorem RefundRequest.Staff.asks {p : Request Unit} (h : RefundRequest.Staff p) : Asks p := by
  cases h with
  | processRefund id => exact asks_discard (Payments.processRefund_asks id)
  | retryRefund id =>
    exact asks_discard (.bind (asks_call rfl) fun _ => .bind (asks_done _) fun _ =>
      .bind (asks_call rfl) fun _ => .bind (asks_done _) fun _ => Payments.processRefund_asks id)
  | completeManualRefund id providerReference =>
    refine asks_discard (.bind (asks_call rfl) fun _ => .bind (asks_done _) fun _ => ?_)
    split
    · exact asks_done _
    · exact .bind (asks_done _) fun _ => .bind (asks_call rfl) fun _ =>
        .bind (Payments.syncPaymentRefundStatus_asks _) fun _ =>
        .bind (Payments.notifyRefund_asks _) fun _ => asks_done _
  | resolveRefundAttention id =>
    exact asks_discard (.bind (asks_call rfl) fun _ => .bind (asks_done _) fun _ =>
      .bind (asks_call rfl) fun _ => .bind (asks_call rfl) fun _ =>
      .bind (Payments.notifyRefund_asks _) fun _ => asks_done _)

/-- Every request asks Paystack to refund payments through Paystack only. -/
theorem StoreRequest.asks {p : Request Unit} (h : StoreRequest p) : Asks p := by
  cases h with
  | payment h => exact h.asks
  | refund h => exact h.asks
  | status h => exact h.uses.asks (by decide)

/-- A request that Paystack has made progress with is still about its transaction. -/
theorem RefundRequest.Progress.exists_of_mem {l l' : List RefundRequest}
    (h : List.Forall₂ RefundRequest.Progress l l') {x : RefundRequest} (hx : x ∈ l') :
    ∃ y ∈ l, x.transaction = y.transaction := by
  induction h with
  | nil => cases hx
  | cons hprogress _ ih =>
    rcases List.mem_cons.mp hx with rfl | hx
    · refine ⟨_, List.mem_cons_self, ?_⟩
      rcases hprogress with rfl | rfl <;> rfl
    · obtain ⟨y, hy, hsame⟩ := ih hx
      exact ⟨y, List.mem_cons_of_mem _ hy, hsame⟩

/-- The store keeps within what its providers have been asked for. -/
theorem boundary_holds : boundary.Holds store where
  starts h w _ := ((h.books.both h.charging).both (h.asks w)).mono fun _ _ _ => trivial
  performs op := boundary_safe op
  background {w w'} h hinv := by
    obtain ⟨hcharged, hguar⟩ := chargedBooks_holds.background h hinv.1
    have hlater : (books w.db).Later (books w'.db) := hguar.1
    have hrefund : w'.db .refund = w.db .refund := h.owned _ (by decide)
    refine ⟨⟨hcharged, fun k r hr hprovider => ?_, fun x hx => ?_⟩, hguar, hlater⟩
    · rw [hrefund] at hr
      exact hlater.paystack (hinv.2.rows k r hr hprovider)
    · obtain ⟨y, hy, hsame⟩ := RefundRequest.Progress.exists_of_mem h.refunds hx
      rw [hsame]
      exact (hinv.2.asked y hy).later hlater

/-! ## Runs -/

/-- No refund has been entered in a store before its first checkout. -/
theorem Fresh.paystackRefunds {w : World} (h : Fresh w) (hrefunds : w.paystack.refunds = []) :
    PaystackRefunds w where
  rows k r hr := by
    rw [h .refund (by decide) k] at hr
    cases hr
  asked x hx := by
    rw [hrefunds] at hx
    cases hx

/-- Paystack is asked about payments that are made through it only. -/
structure WithinBoundary (w : World) : Prop where
  charged : ∀ a ∈ w.paystack.charged, a.kind ≠ .repaymentCharge → ∃ p r, (w.db .payment).find p = some r ∧
    r.transactionRef = some a.reference ∧ r.provider = .paystack
  refunded : ∀ x ∈ w.paystack.refunds, ∃ p r, (w.db .payment).find p = some r ∧
    r.transactionRef = some x.transaction ∧ r.provider = .paystack

/-- A payment of the books is a row of the store. -/
theorem find_of_paystackReference {db : Database} {reference : String}
    (h : (books db).PaystackReference reference) :
    ∃ p r, (db .payment).find p = some r ∧ r.transactionRef = some reference ∧ r.provider = .paystack := by
  obtain ⟨p, q, hq, hprovider, href⟩ := h
  obtain ⟨r, hr, rfl⟩ := Option.map_eq_some_iff.mp hq
  exact ⟨p, r, hr, href, hprovider⟩

/-- In every run of the store in which no claim takes up a payment that is not through Paystack, and no order is
cancelled that was financed here, Paystack is asked about payments that are made through it only. -/
theorem provider_boundary {w : World} (hw : Fresh w) (hcharged : w.paystack.charged = [])
    (hrefunds : w.paystack.refunds = []) {c : Config Op Error World}
    (hrun : store.Run (fun op e c => e.fails || (op.claimsPaystack e c.world.db && op.cancelsPaystack c.world.db))
      ⟨w, []⟩ c) : WithinBoundary c.world := by
  have hallowed {β : Type} (op : Op β) (e : Env) (c : Config Op Error World)
      (h : (e.fails || (op.claimsPaystack e c.world.db && op.cancelsPaystack c.world.db)) = true) :
      boundary.allowed op e c.world := by
    rcases Bool.or_eq_true_iff.mp h with hfails | hmeets
    · exact ⟨⟨False.elim, .inl hfails⟩, .inl hfails⟩
    · obtain ⟨hclaims, hcancels⟩ := Bool.and_eq_true_iff.mp hmeets
      exact ⟨⟨False.elim, .inr ⟨False.elim, fun _ => hclaims⟩⟩, .inr hcancels⟩
  have hfresh : boundary.Sound store ⟨w, []⟩ :=
    ⟨⟨⟨hw.consistent, hw.chargesSound hcharged⟩, hw.paystackRefunds hrefunds⟩, by simp⟩
  obtain ⟨hc, -⟩ := boundary_holds.run hfresh (System.Run.mono store hrun hallowed)
  constructor
  · intro a ha hkind
    obtain ⟨p, r, hr, href, -, hpaystack, -⟩ := hc.1.1.2.charged a ha hkind
    exact ⟨p, r, hr, href, hpaystack trivial⟩
  · intro x hx
    exact find_of_paystackReference (hc.1.2.asked x hx)

/-! ## Another payment -/

/-- A customer starts a checkout through Klump and then asks for its payment. -/
def klumpThenPaystack : List (Request Unit) :=
  [discard (Klump.initializeCheckout 1 walletPickup), Payments.initializePayment 1 1]

/-- The checkout is started through Klump; the second request asks Paystack. -/
def klumpCharged : Config Op Error World :=
  store.follow ⟨shop, klumpThenPaystack⟩
    (List.replicate 6 (0, { now := 1, uuid := "u", orderNumber := fun _ => "A-1" }) ++
      List.replicate 3 (1, { now := 2 }))

/-- Paystack is asked to charge a customer under the reference of a Klump payment. -/
theorem boundary_can_be_crossed :
    ¬∀ (w : World) (c : Config Op Error World), Fresh w → w.paystack.charged = [] → w.paystack.refunds = [] →
      store.Run System.anyOp ⟨w, []⟩ c → WithinBoundary c.world := by
  intro h
  have hstarts : ∀ p ∈ klumpThenPaystack, store.starts p := by
    intro p hp
    rcases List.mem_pair.mp hp with rfl | rfl
    · exact .payment (.initializeKlump 1 walletPickup)
    · exact .payment (.initializePayment 1 1)
  have hwithin := h shop klumpCharged fresh_shop rfl rfl (store.schedule_run hstarts _)
  have hasked : klumpCharged.world.paystack.charged.head?.map (fun a => (a.reference, a.kind)) =
      some ("PURSE-KLUMP-1-u", .charge) := by decide +kernel
  obtain ⟨a, ha, hvalues⟩ := Option.map_eq_some_iff.mp hasked
  obtain ⟨-, hkind⟩ := Prod.mk.inj hvalues
  obtain ⟨p, r, hr, -, hprovider⟩ := hwithin.charged a (List.mem_of_mem_head? ha) (by rw [hkind]; decide)
  have hthrough : ((klumpCharged.world.db .payment).first fun _ r => r.provider == .paystack).isNone := by
    decide +kernel
  have hnone := Relational.Table.first_eq_none.mp (Option.isNone_iff_eq_none.mp hthrough) p r hr
  rw [hprovider] at hnone
  cases hnone

/-- A checkout that is paid by card stays within the boundary. -/
theorem provider_boundary_paid :
    ∃ p r, (paidByCard.world.db .payment).find p = some r ∧ r.transactionRef = some "PUR-1-u" ∧
      r.provider = .paystack := by
  have hstarts : ∀ p ∈ cardRequests, store.starts p := by
    intro p hp
    rcases List.mem_pair.mp hp with rfl | rfl
    · exact .payment (.place 1 cardPickup)
    · exact .payment (.verifyReference "PUR-1-u")
  have hallows : store.allows
      (fun op e c => e.fails || (op.claimsPaystack e c.world.db && op.cancelsPaystack c.world.db))
      ⟨shop, cardRequests⟩ (List.replicate 6 (0, paystackPays) ++ List.replicate 5 (1, paystackPays)) := by
    decide +kernel
  have hwithin := provider_boundary fresh_shop rfl rfl
    ((store.start_all_run hstarts).trans (store.follow_run_of hallows))
  have hasked : paidByCard.world.paystack.charged.head?.map (fun a => (a.reference, a.kind)) =
      some ("PUR-1-u", .charge) := by decide +kernel
  obtain ⟨a, ha, hvalues⟩ := Option.map_eq_some_iff.mp hasked
  obtain ⟨href, hkind⟩ := Prod.mk.inj hvalues
  rw [← href]
  exact hwithin.charged a (List.mem_of_mem_head? ha) (by rw [hkind]; decide)

end Superstore

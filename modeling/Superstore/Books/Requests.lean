import Superstore.Books.Legitimate
import Superstore.Requests.Kinds

/-!
# Requests that keep the books

Every request of the store has made sure of the facts that its operations rely on when it
comes to them: it has read them, or an operation before has answered with them, and they are
stable.
-/

namespace Superstore

open Interleaving Relational.Tx Contract

/-- Paystack reports a transfer to a dedicated account under a reference of its own, which is
never one that a checkout is paid under. -/
def Env.Honest (e : Env) : Prop :=
  ∀ reference v, e.verify reference = .ok v → v.channel = some "dedicated_nuban" →
    ∀ s, reference ≠ "PUR-" ++ s

/-- The books of a state come after themselves. -/
theorem booksLater_refl (w : World) : (books w.db).Later (books w.db) := .refl _

/-- Later books come after earlier ones in between. -/
theorem booksLater_trans {w w' w'' : World} (h : (books w.db).Later (books w'.db))
    (h' : (books w'.db).Later (books w''.db)) : (books w.db).Later (books w''.db) := h.trans h'

/-- The contract of the books: they stay consistent, and every step leads to later books. -/
def bookkeeping (spared : Prop) : Contract Op World Env where
  inv w := Consistent (books w.db)
  guar w w' := (books w.db).Later (books w'.db)
  known op w := op.Legitimate spared (books w.db)
  allowed _ e _ := spared → e.Honest
  refl := booksLater_refl
  trans := booksLater_trans

variable {spared : Prop} {α β : Type} {w : World}

/-- An operation keeps the contract of the books where its facts are known. -/
theorem bookkeeping_safe (op : Op α) : (bookkeeping spared).Safe machine op := fun e _ hinv hknown _ =>
  Books.Steps.advances (Op.Legitimate.refines hknown e hinv) hinv

/-- A request that keeps the books from a state on. -/
abbrev Bookkeeping (spared : Prop) (p : Request α) (w : World) : Prop :=
  (bookkeeping spared).Ready machine p w

/-- A request none of whose operations relies on anything. -/
theorem bookkeeping_of_all {p : Request α}
    (h : p.All fun _ op => ∀ B, op.Legitimate spared B) : Bookkeeping spared p w :=
  informed_of_all (h.imp fun _ _ hop w => hop (books w.db)) w

/-- The requests that only ask for a transfer account rely on nothing. -/
theorem Uses.books {ks : List OpKind} {p : Request α} (h : Uses ks p) (hks : ks ⊆ accountKinds) :
    Bookkeeping spared p w := by
  refine bookkeeping_of_all (Prog.All.imp h fun _ op hop _ => ?_)
  cases op
  case updatePayment id u =>
    cases u <;> exact absurd (hks hop) (by dsimp only [Op.kind, Payments.PaymentUpdate.kind]; decide)
  all_goals first | trivial | exact absurd (hks hop) (by dsimp only [Op.kind]; decide)

/-- A read that the rest of a request makes no use of. -/
theorem bookkeeping_call {op : Op α} (h : ∀ B, op.Legitimate spared B) : Bookkeeping spared (call op) w :=
  .call fun _ _ _ => h _

namespace Payments

/-! ## Refunds -/

/-- The refund status of a payment is synchronized where the payment has a refund. -/
theorem syncPaymentRefundStatus_books {p : ℕ}
    (h : ∃ k r, (books w.db).refund k = some r ∧ r.paymentId = p) :
    Bookkeeping spared (syncPaymentRefundStatus p) w := by
  refine ready_selectOrThrow (fun _ => trivial) fun w₁ payment h₁ _ _ => ?_
  refine ready_select (fun _ => trivial) fun w₂ h₂ _ => .call fun w₃ h₃ _ => ⟨?_, ?_⟩
  · exact ((h₁.trans h₂).trans h₃).refunded h
  · exact refundedStatus_refunded _ _

/-- Telling a customer of a refund keeps the books. -/
theorem notifyRefund_books (id : ℕ) : Bookkeeping spared (notifyRefund id) w :=
  ready_selectOrThrow (fun _ => trivial) fun _ _ _ _ _ => bookkeeping_call fun _ => trivial

/-- A statement that is followed by a read of its row answers with the row that it leaves. -/
theorem answer_of_findOrThrow {γ : Type} {m : Tx γ} {n : TableName} {id : ℕ} {db : Database} :
    wp db (m >>= fun _ => findOrThrow n id) fun r db' => (db' n).find id = some r :=
  wp_bind_of_forall fun _ db' => (wp_findOrThrow n id _ db').mpr fun _ hr => hr

/-- Asking Paystack how a refund stands keeps the books. -/
theorem pollRefund_books (id : ℕ) (providerRefundId : String) :
    Bookkeeping spared (pollRefund id providerRefundId) w := by
  refine .then (fun _ _ _ => trivial) fun provider w₁ _ _ => ?_
  refine ready_transaction rfl (fun _ _ _ => trivial) (fun _ _ _ _ => answer_of_findOrThrow)
    fun w₂ updated _ _ hrow => ?_
  refine .bind (ready_onlyIf fun _ => syncPaymentRefundStatus_books ⟨_, _, books_refund hrow, rfl⟩) fun _ _ => ?_
  exact .bind (ready_onlyIf fun _ => notifyRefund_books id) fun _ _ => trivial

/-- Asking Paystack for a refund keeps the books. -/
theorem submitRefund_books (id : ℕ) (refund : Refund) (transaction : String) :
    Bookkeeping spared (submitRefund id refund transaction) w := by
  refine .attempt ?_ fun err w₁ => ?_
  · refine .then (fun _ _ _ => trivial) fun provider w₁ _ _ => ?_
    refine ready_transaction rfl (fun _ _ _ => trivial) (fun _ _ _ _ => answer_of_findOrThrow)
      fun w₂ updated _ _ hrow => ?_
    refine .bind (ready_onlyIf fun _ => syncPaymentRefundStatus_books ⟨_, _, books_refund hrow, rfl⟩) fun _ _ => ?_
    exact .bind (notifyRefund_books id) fun _ _ => trivial
  · exact .then (fun _ _ _ => trivial) fun _ _ _ _ => .bind (notifyRefund_books id) fun _ _ => trivial

/-- Working on a refund keeps the books. -/
theorem processRefund_books (id : ℕ) : Bookkeeping spared (processRefund id) w := by
  refine ready_selectOrThrow (fun _ => trivial) fun w₁ r _ _ _ => ?_
  dsimp only
  split
  · exact trivial
  · split
    · split
      · exact trivial
      · exact .then (fun _ _ _ => trivial) fun _ _ _ _ => .bind (notifyRefund_books id) fun _ _ => trivial
    · split
      · split
        · exact trivial
        · exact pollRefund_books _ _
      · refine ready_decided fun _ _ => .then (fun _ _ _ => trivial) fun claimed w₂ _ _ => ?_
        split
        · exact trivial
        · exact submitRefund_books _ _ _

/-- Taking in a notice of a refund keeps the books. -/
theorem applyRefundWebhook_books (event : WebhookEvent) :
    Bookkeeping spared (applyRefundWebhook event) w := by
  refine ready_selectOrThrow (fun _ => trivial) fun w₁ refund _ _ _ => ?_
  refine ready_transaction rfl (fun _ _ _ => trivial) (fun _ _ _ _ => answer_of_findOrThrow)
    fun w₂ updated _ _ hrow => ?_
  refine .bind (ready_onlyIf fun _ => syncPaymentRefundStatus_books ⟨_, _, books_refund hrow, rfl⟩) fun _ _ => ?_
  exact .bind (notifyRefund_books _) fun _ _ => trivial

/-- Trying a refund once more keeps the books. -/
theorem retryRefund_books (id : ℕ) : Bookkeeping spared (retryRefund id) w := by
  refine ready_select (fun _ => trivial) fun w₁ _ _ => ready_check fun _ => ?_
  exact .then (fun _ _ _ => trivial) fun _ _ _ _ => ready_check fun _ => processRefund_books id

/-- Completing a refund by hand keeps the books. -/
theorem completeManualRefund_books (id : ℕ) (providerReference : String) :
    Bookkeeping spared (completeManualRefund id providerReference) w := by
  refine ready_selectOrThrow (fun _ => trivial) fun w₁ refund _ _ _ => ready_check fun _ => ?_
  split
  · exact trivial
  · refine ready_check fun _ => ?_
    refine ready_transaction rfl (fun _ _ _ => trivial) (fun _ _ _ _ => answer_of_findOrThrow)
      fun w₂ updated _ _ hrow => ?_
    refine .bind (syncPaymentRefundStatus_books ⟨_, _, books_refund hrow, rfl⟩) fun _ _ => ?_
    exact .bind (notifyRefund_books _) fun _ _ => trivial

/-- Looking after a refund that needs attention keeps the books. -/
theorem resolveRefundAttention_books (id : ℕ) : Bookkeeping spared (resolveRefundAttention id) w := by
  refine ready_select (fun _ => trivial) fun w₁ _ _ => ready_decided fun _ _ => ?_
  refine .then (fun _ _ _ => trivial) fun _ _ _ _ => .then (fun _ _ _ => trivial) fun _ _ _ _ => ?_
  exact .bind (notifyRefund_books _) fun _ _ => trivial

/-! ## Starting a payment -/

/-- Starting a payment keeps the books. -/
theorem startPayment_books (userId groupId : ℕ) (payment : Payment) (reference : String) :
    Bookkeeping spared (startPayment userId groupId payment reference) w := by
  unfold startPayment
  split
  · exact .then (fun _ _ _ => trivial) fun _ _ _ _ => ready_check fun _ => ready_check fun _ => trivial
  · exact .then (fun _ _ _ => trivial) fun _ _ _ _ => ready_check fun _ => trivial

/-- Asking to pay keeps the books. -/
theorem initializePayment_books (userId groupId : ℕ) :
    Bookkeeping spared (initializePayment userId groupId) w := by
  refine .then (fun _ _ _ => trivial) fun claim w₁ _ _ => ready_onlyIf fun _ => ?_
  refine ready_selectOrThrow (fun _ => trivial) fun w₂ _ _ _ _ => ?_
  have hupdate {id : ℕ} {u : PaymentUpdate} (hu : u.topup = false) (w : World) :
      Bookkeeping spared (call (.updatePayment id u)) w :=
    bookkeeping_call fun B h => by rw [hu] at h; cases h
  refine Informed.seq (P := fun u _ => Starts claim.payment u) ?_ fun u w₃ hu => by
    cases hu <;> exact hupdate rfl w₃
  refine Ready.yields (.attempt (startPayment_books _ _ _ _) fun err w₃ => ?_)
    (.attempt (startPayment_yields _ _ _ _) fun err => .bind_ok _ fun _ u hu => ?_)
  · exact .bind (hupdate rfl _) fun _ _ => trivial
  · cases hu

/-- Sending the confirmations of groups keeps the books. -/
theorem dispatchGroupConfirmations_books (groupIds : List ℕ) :
    Bookkeeping spared (dispatchGroupConfirmations groupIds) w :=
  ready_onlyIf fun _ => ready_select (fun _ => trivial) fun _ _ _ => bookkeeping_call fun _ => trivial

/-- The summary of a checkout keeps the books. -/
theorem summary_books (userId id : ℕ) : Bookkeeping spared (summary userId id) w :=
  bookkeeping_call fun _ => trivial

/-- Taking up a checkout again keeps the books. -/
theorem resumeCheckout_books (userId id : ℕ) : Bookkeeping spared (resumeCheckout userId id) w := by
  refine ready_selectOrThrow (fun _ => trivial) fun _ _ _ _ _ => ready_check fun _ => ?_
  exact .bind (ready_onlyIf fun _ => initializePayment_books _ _) fun _ _ => summary_books _ _

/-! ## Verification -/

/-- What is known of a payment that has been read with its groups: Paystack processes it, the groups
are those that it pays for, and one that funds a wallet or repays an installment has none. -/
structure KnownPayment.Read (k : KnownPayment) (B : Books) : Prop where
  paystack : ∃ q, B.payment k.id = some q ∧ q.provider = .paystack
  carries : B.Carries k.id (k.groups.map Prod.fst)
  special : k.payment.special = true → B.Unlinked k.id

/-- What has been read of a payment stays true of later books. -/
theorem KnownPayment.Read.later {k : KnownPayment} {B B' : Books} (h : k.Read B)
    (hlater : B.Later B') : k.Read B' := by
  have hsome : (B.payment k.id).isSome := by
    obtain ⟨q, hq, -⟩ := h.paystack
    rw [hq]
    rfl
  exact ⟨hlater.paystack h.paystack, h.carries.later hsome hlater, fun hs => (h.special hs).later hlater⟩

/-- The groups that a payment pays for are those that are read with it. -/
theorem carries_groupsOf (p : ℕ) (db : Database) : (books db).Carries p ((groupsOf p db).map Prod.fst) := by
  refine fun i => ⟨fun hi => ?_, fun ⟨g, hg, hlinked⟩ => ?_⟩
  · obtain ⟨⟨j, g⟩, hg, rfl⟩ := List.mem_map.mp hi
    obtain ⟨hfind, hlinked⟩ := Relational.Table.mem_many.mp hg
    exact ⟨g.terms, (books_group hfind).1, by simpa [CheckoutPaymentGroup.terms] using hlinked⟩
  · obtain ⟨g, hfind, rfl⟩ := find_of_books_group hg
    refine List.mem_map.mpr ⟨(i, g), Relational.Table.mem_many.mpr ⟨hfind, ?_⟩, rfl⟩
    simpa [CheckoutPaymentGroup.terms] using hlinked

/-- A special payment pays for no checkout. -/
theorem unlinked_of_special {p : ℕ} {row : Payment} {db : Database} (hB : Consistent (books db))
    (hrow : (db .payment).find p = some row) (hspecial : row.special = true) :
    (books db).Unlinked p := by
  have hpayment := (books_payment hrow).1
  refine ⟨by rw [hpayment]; rfl, fun i g hg hlinked => ?_⟩
  obtain ⟨q, hq, -, hnot, -⟩ := hB.linked i g p hg hlinked
  obtain rfl := Option.some.inj (hpayment.symm.trans hq)
  rw [Payment.terms, hspecial] at hnot
  cases hnot

/-- Reading a Paystack payment by its reference. -/
theorem read_of_knownPayment {reference : String} {db : Database} {k : KnownPayment}
    (hB : Consistent (books db)) (hk : knownPayment reference db = some k)
    (hprovider : k.payment.provider = .paystack) : k.Read (books db) := by
  obtain ⟨⟨p, row⟩, hfirst, rfl⟩ := Option.map_eq_some_iff.mp hk
  obtain ⟨hrow, -⟩ := Relational.Table.find_of_first hfirst
  exact ⟨⟨_, (books_payment hrow).1, hprovider⟩, carries_groupsOf p db, unlinked_of_special hB hrow⟩

/-- Verifying a payment that is paid already keeps the books. -/
theorem verifyPaid_books {k : KnownPayment} (hk : k.Read (books w.db)) :
    Bookkeeping spared (verifyPaid k) w := by
  refine .bind (ready_onlyIf fun _ => .call fun w₁ h₁ _ => ?_) fun _ _ => ?_
  · intro x hx
    obtain ⟨g, hg, rfl⟩ := List.mem_map.mp hx
    obtain ⟨g', hg', hlinked⟩ := ((hk.later h₁).carries g.1).mp
      (List.mem_map_of_mem (List.mem_of_mem_filter hg))
    exact ⟨g', hg', by rw [hlinked]; rfl⟩
  · exact .bind (dispatchGroupConfirmations_books _) fun _ _ => trivial

/-- Verifying a repayment keeps the books. -/
theorem verifyRepayment_books {k : KnownPayment} (reference : String)
    (hk : (books w.db).Unlinked k.id) : Bookkeeping spared (verifyRepayment k reference) w := by
  refine ready_selectOrThrow (fun _ => trivial) fun w₁ _ h₁ _ _ => ?_
  refine .then (fun _ _ _ => trivial) fun v w₂ h₂ _ => ready_decided fun _ _ => ?_
  have hk₂ := hk.later (h₁.trans h₂)
  split
  · exact trivial
  · exact .then (fun _ h₃ _ => hk₂.later h₃) fun _ _ _ _ => trivial
  · exact .then (fun _ h₃ _ => hk₂.later h₃) fun _ _ _ _ => trivial

/-- Verifying a top-up keeps the books. -/
theorem verifyTopup_books {k : KnownPayment} (reference : String)
    (hk : (books w.db).Unlinked k.id) : Bookkeeping spared (verifyTopup k reference) w := by
  refine .then (fun _ _ _ => trivial) fun v w₁ h₁ _ => ready_decided fun _ _ => ?_
  have hk₁ := hk.later h₁
  split
  · refine .then (fun _ _ _ => trivial) fun now w₂ h₂ _ => ?_
    split
    · exact .then (fun _ h₃ _ _ => hk₁.later (h₂.trans h₃)) fun _ _ _ _ =>
        .then (fun _ _ _ => trivial) fun _ _ _ _ => trivial
    · exact trivial
  · exact .then (fun _ h₂ _ => hk₁.later h₂) fun _ _ _ _ =>
      .bind (ready_onlyIf fun _ => bookkeeping_call fun _ => trivial) fun _ _ => trivial
  · exact .then (fun _ h₂ _ _ => hk₁.later h₂) fun _ _ _ _ =>
      .then (fun _ _ _ => trivial) fun _ _ _ _ => trivial

/-- Applying what Paystack reports on a checkout keeps the books. -/
theorem applyOutcome_books {k : KnownPayment} (success : Bool) (hk : k.Read (books w.db)) :
    Bookkeeping spared (applyOutcome k success) w := by
  refine .then (fun w₁ h₁ _ => ?_) fun lateRefundIds w₁ _ _ => ?_
  · have hread := hk.later h₁
    refine ⟨hread.paystack, ?_⟩
    rw [KnownPayment.owners, List.map_map]
    exact hread.carries
  · split
    · refine .bind (.forkEach fun id _ => .bind (processRefund_books id) fun _ _ => trivial) fun _ _ => trivial
    · split
      · exact .bind (dispatchGroupConfirmations_books _) fun _ _ => trivial
      · exact .bind (ready_onlyIf fun _ => .forkEach fun _ _ => bookkeeping_call fun _ => trivial)
          fun _ _ => trivial

/-- Verifying the payment of a checkout keeps the books. -/
theorem verifyCheckout_books {k : KnownPayment} (reference : String) (hk : k.Read (books w.db)) :
    Bookkeeping spared (verifyCheckout k reference) w := by
  refine .then (fun _ _ _ => trivial) fun v w₁ h₁ _ => ready_decided fun _ _ => ?_
  split
  · exact applyOutcome_books true (hk.later h₁)
  · exact applyOutcome_books false (hk.later h₁)
  · refine .then (fun _ _ _ => trivial) fun now w₂ h₂ _ => ?_
    split
    · exact applyOutcome_books false (hk.later (h₁.trans h₂))
    · exact trivial

/-- Verifying a reference keeps the books. -/
theorem verifyReference_books (reference : String) : Bookkeeping spared (verifyReference reference) w := by
  refine ready_select (fun _ => trivial) fun w₁ _ hB => ready_decided fun k hk => ?_
  obtain ⟨hknown, hprovider⟩ := Option.filter_eq_some_iff.mp (fromOption_eq_ok.mp hk)
  have hread := read_of_knownPayment hB hknown (beq_iff_eq.mp hprovider)
  split
  · exact trivial
  · split
    · exact verifyPaid_books hread
    · split
      · next hpurpose => exact verifyRepayment_books _ (hread.special (by rw [Payment.special, hpurpose]))
      · next hpurpose => exact verifyTopup_books _ (hread.special (by rw [Payment.special, hpurpose]))
      · next hpurpose => exact verifyTopup_books _ (hread.special (by rw [Payment.special, hpurpose]))
      · exact verifyCheckout_books _ hread

/-- Asking for the status of a checkout keeps the books. -/
theorem status_books (userId groupId : ℕ) (verify : Bool) :
    Bookkeeping spared (status userId groupId verify) w := by
  refine .bind (summary_books _ _) fun s w₁ => ?_
  split
  · exact .bind (verifyReference_books _) fun _ _ => summary_books _ _
  · exact summary_books _ _

/-- Releasing a checkout that is not paid keeps the books. -/
theorem cancelUnpaid_books (userId id : ℕ) : Bookkeeping spared (cancelUnpaid userId id) w :=
  .then (fun _ _ _ => trivial) fun _ _ _ _ => summary_books _ _

/-- Cancelling a checkout keeps the books. -/
theorem cancelCheckout_books (userId id : ℕ) : Bookkeeping spared (cancelCheckout userId id) w := by
  refine ready_selectOrThrow (fun _ => trivial) fun _ _ _ _ _ => ready_check fun _ => ?_
  split
  · exact summary_books _ _
  · split
    · exact cancelUnpaid_books _ _
    · refine .bind (verifyReference_books _) fun verified _ => ready_check fun _ => ?_
      split
      · exact summary_books _ _
      · exact cancelUnpaid_books _ _

/-! ## Wallets -/

/-- A new payment pays for no checkout. -/
theorem createPayment_answer (e : Env) (payment : Payment) {db : Database} (hB : Consistent (books db)) :
    wp db (createPayment e payment) fun b db' => (books db').Unlinked b.1 := by
  rw [createPayment, wp_bind, wp_createUnique]
  intro _
  rw [wp_pure, books_create_payment]
  refine ⟨?_, fun i g hg => Books.not_linked_of_fresh hB (books_payment_next db) hg⟩
  exact Option.isSome_iff_exists.mpr ⟨_, Books.enter_self⟩

/-- That a payment pays for no checkout is a fact that stays. -/
theorem unlinked_stable (p : ℕ) (w w' : World) (h : (bookkeeping spared).guar w w')
    (hp : (books w.db).Unlinked p) : (books w'.db).Unlinked p := hp.later h

/-- A top-up that Paystack could not start is marked failed. -/
theorem failTopup_books {p : ℕ} {err : Error} (hp : (books w.db).Unlinked p) :
    Bookkeeping spared (do
      call (.updatePayment p (.failTopup none))
      call .notify
      (Prog.fail err : Request α)) w :=
  .then (fun _ h _ _ => hp.later h) fun _ _ _ _ => .then (fun _ _ _ => trivial) fun _ _ _ _ => trivial

/-- Paying into a wallet keeps the books. -/
theorem topupWallet_books (userId : ℕ) (amount : ℚ) : Bookkeeping spared (topupWallet userId amount) w := by
  refine ready_selectOrThrow (fun _ => trivial) fun _ _ _ _ _ => ?_
  refine .then (fun _ _ _ => trivial) fun token _ _ _ => .then (fun _ _ _ => trivial) fun now _ _ _ => ?_
  refine ready_transaction rfl (fun _ _ _ => trivial) (fun e _ _ hB => createPayment_answer e _ hB)
    fun w₁ payment _ _ hp => ?_
  refine .bind_with (unlinked_stable payment.1) hp (.attempt_with (unlinked_stable payment.1) hp ?_ ?_)
    fun _ w₂ hp₂ => Ready.call fun w₃ h₃ _ _ => hp₂.later h₃
  · exact bookkeeping_call fun _ => trivial
  · exact fun err w₂ hp₂ => failTopup_books hp₂

/-- Paying into a wallet by transfer keeps the books. -/
theorem topupWalletByTransfer_books (userId : ℕ) (amount : ℚ) :
    Bookkeeping spared (topupWalletByTransfer userId amount) w := by
  refine ready_selectOrThrow (fun _ => trivial) fun _ _ _ _ _ => .then (fun _ _ _ => trivial) fun token _ _ _ => ?_
  refine ready_transaction rfl (fun _ _ _ => trivial) (fun e _ _ hB => createPayment_answer e _ hB)
    fun w₁ payment _ _ hp => ?_
  refine .attempt_with (unlinked_stable payment.1) hp ?_ fun err w₂ hp₂ => failTopup_books hp₂
  refine .then (fun _ _ _ => trivial) fun charge w₂ h₂ _ => ready_check fun _ => ?_
  exact Ready.call fun w₃ h₃ _ _ => (hp.later h₂).later h₃

/-- The payment of a transfer to a dedicated account is under the reference of the transfer. -/
theorem upsertFundingPayment_answer (e : Env) (reference : String) (userId : ℕ) (amount : ℚ)
    (providerRef : String) (db : Database) :
    wp db (upsertFundingPayment e reference userId amount providerRef) fun b db' =>
      ∃ q, (books db').payment b.1 = some q ∧ q.reference = some reference := by
  rw [upsertFundingPayment, wp_firstOrCreate]
  refine ⟨fun r hfirst => ?_, fun _ => ?_⟩
  · obtain ⟨hr, href⟩ := Relational.Table.find_of_first hfirst
    exact ⟨_, (books_payment hr).1, beq_iff_eq.mp href⟩
  · rw [books_create_payment]
    exact ⟨_, Books.enter_self, rfl⟩

/-- A payment under a reference that no checkout is paid under pays for none. -/
theorem not_paysFor_of_reference {B : Books} (hB : Consistent B) {p : ℕ} {reference : String}
    (hp : ∃ q, B.payment p = some q ∧ q.reference = some reference)
    (href : ∀ s, reference ≠ "PUR-" ++ s) (i : ℕ) (g : GroupTerms) : ¬B.PaysFor p i g := by
  intro hpays
  obtain ⟨q, hq, hr⟩ := hp
  obtain ⟨q', hq', hpaystack⟩ := hpays.paystack
  obtain ⟨q'', hq'', -, -, hpurchase⟩ := hB.linked i g p hpays.group hpays.linked
  obtain rfl := Option.some.inj (hq.symm.trans hq')
  obtain rfl := Option.some.inj (hq.symm.trans hq'')
  obtain ⟨s, hs⟩ := hpurchase hpaystack
  exact href s (Option.some.inj (hr.symm.trans hs))

/-- Crediting a transfer to the account of a customer keeps the books. -/
theorem completeDedicatedAccountFunding_books (reference : String) :
    Bookkeeping spared (completeDedicatedAccountFunding reference) w := by
  refine .call_bind (fun _ _ _ => trivial) fun e w₁ _ _ hhonest _ _ v hv => ?_
  refine ready_decided fun amount _ => ready_check fun hchannel => ?_
  refine ready_selectOrThrow (fun _ => trivial) fun w₂ account _ _ _ => ?_
  refine ready_transaction rfl (fun _ _ _ => trivial) (fun e w _ _ => upsertFundingPayment_answer e _ _ _ _ w.db)
    fun w₃ payment _ _ hp => ?_
  refine .then (fun w₄ h₄ hB hspared => ?_) fun _ _ _ _ => ?_
  · obtain ⟨q, hq, href⟩ := hp
    obtain ⟨q', hq', -, -, hsame⟩ := Books.Later.payment h₄ _ q hq
    exact not_paysFor_of_reference hB ⟨q', hq', hsame.trans href⟩ (hhonest hspared reference v hv hchannel)
  · exact .bind (ready_onlyIf fun _ => bookkeeping_call fun _ => trivial) fun _ _ => trivial

/-- Paying an installment keeps the books. -/
theorem payRepayment_books (userId installmentId : ℕ) (byWallet : Bool) :
    Bookkeeping spared (payRepayment userId installmentId byWallet) w := by
  refine ready_selectOrThrow (fun _ => trivial) fun _ _ _ _ _ => ready_check fun _ => ?_
  refine ready_selectOrThrow (fun _ => trivial) fun _ _ _ _ _ => .then (fun _ _ _ => trivial) fun _ _ _ _ => ?_
  dsimp only
  split
  · exact .then (fun _ _ _ => trivial) fun _ _ _ _ => trivial
  · exact .then (fun _ _ _ => trivial) fun _ _ _ _ => .then (fun _ _ _ => trivial) fun _ _ _ _ =>
      .then (fun _ _ _ => trivial) fun _ _ _ _ => trivial

/-! ## The webhook and the timer -/

/-- Working on a notice of Paystack keeps the books. -/
theorem dispatchEvent_books (event : WebhookEvent) : Bookkeeping spared (dispatchEvent event) w := by
  unfold dispatchEvent
  split
  · refine ready_select (fun _ => trivial) fun _ _ _ => ?_
    split
    · exact .bind (verifyReference_books _) fun _ _ => ready_check fun _ => trivial
    · exact .bind (completeDedicatedAccountFunding_books _) fun _ _ => trivial
  · split
    · exact .bind (applyRefundWebhook_books _) fun _ _ => trivial
    · split
      · exact .bind ((completeDedicatedAccountAssignment_uses _).books (by decide)) fun _ _ => trivial
      · split
        · exact .bind ((failDedicatedAccountAssignment_uses _).books (by decide)) fun _ _ => trivial
        · exact trivial

/-- Taking in a notice of Paystack keeps the books. -/
theorem handleWebhook_books (event : WebhookEvent) : Bookkeeping spared (handleWebhook event) w := by
  refine ready_select (fun _ => trivial) fun _ _ _ => ready_onlyIf fun _ => .attempt ?_ fun _ _ => ?_
  · refine .bind (dispatchEvent_books _) fun outcome _ => ?_
    cases outcome with
    | none => exact trivial
    | some paymentId => exact bookkeeping_call fun _ => trivial
  · exact .then (fun _ _ _ => trivial) fun _ _ _ _ => trivial

/-- A request whose errors are ignored. -/
theorem tolerate_books {p : Request α} (h : Bookkeeping spared p w) : Bookkeeping spared (tolerate p) w :=
  .attempt (.bind h fun _ _ => trivial) fun _ _ => trivial

/-- The scheduled check of payments keeps the books. -/
theorem reconcilePending_books : Bookkeeping spared reconcilePending w := by
  refine .then (fun _ _ _ => trivial) fun now _ _ _ => ready_select (fun _ => trivial) fun _ _ _ => ?_
  refine .bind (.forEach fun _ _ _ => tolerate_books (verifyReference_books _)) fun _ _ => ?_
  exact ready_select (fun _ => trivial) fun _ _ _ => .forEach fun _ _ _ => tolerate_books (processRefund_books _)

end Payments

/-! ## Checkouts -/

namespace Checkout

/-- Placing a checkout keeps the books. -/
theorem create_books (userId : ℕ) (input : CreateCheckoutDto) : Bookkeeping spared (create userId input) w :=
  .then (fun _ _ _ => trivial) fun _ _ _ _ =>
    .bind (ready_onlyIf fun _ => Payments.dispatchGroupConfirmations_books _) fun _ _ =>
    Payments.summary_books _ _

/-- Placing a checkout and starting its payment keeps the books. -/
theorem place_books (userId : ℕ) (input : CreateCheckoutDto) : Bookkeeping spared (place userId input) w :=
  .then (fun _ _ _ => trivial) fun _ _ _ _ =>
    .bind (ready_onlyIf fun _ => Payments.initializePayment_books _ _) fun _ _ =>
    .bind (ready_onlyIf fun _ => Payments.dispatchGroupConfirmations_books _) fun _ _ =>
    Payments.summary_books _ _

/-- Confirming an application for installments keeps the books. -/
theorem confirmBnpl_books (userId id : ℕ) : Bookkeeping spared (confirmBnpl userId id) w :=
  .then (fun _ _ _ => trivial) fun _ _ _ _ =>
    ready_selectOrThrow (fun _ => trivial) fun _ _ _ _ _ => Payments.summary_books _ _

end Checkout

namespace Klump

/-- Starting a payment at Klump keeps the books. -/
theorem initializeCheckout_books (userId : ℕ) (input : CreateCheckoutDto) :
    Bookkeeping spared (initializeCheckout userId input) w :=
  .then (fun _ _ _ => trivial) fun _ _ _ _ => .bind (Checkout.create_books _ _) fun _ _ =>
    bookkeeping_call fun _ => trivial

/-- Asking Klump for a transaction keeps the books. -/
theorem verifyProviderTransaction_books (reference : String) (expectedUserId : Option ℕ) :
    Bookkeeping spared (verifyProviderTransaction reference expectedUserId) w := by
  refine .then (fun _ _ _ => trivial) fun v _ _ _ => ?_
  refine ready_selectOrThrow (fun _ => trivial) fun w₁ r _ _ hr => ?_
  simp only [verifiedTransaction, Option.bind_eq_bind, Option.bind_eq_some_iff, Option.pure_def,
    Option.some.injEq] at hr
  obtain ⟨transaction, hfirst, payment, _, rfl⟩ := hr
  obtain ⟨hrow, -⟩ := Relational.Table.find_of_first hfirst
  refine ready_decided fun providerReference _ => ?_
  split
  · exact .then (fun _ _ _ => trivial) fun _ _ _ _ => trivial
  · refine .then (fun w₂ h₂ _ => ⟨transaction.1, ?_⟩) fun _ _ _ _ => ?_
    · exact Books.Later.klump h₂ _ _ (books_klump hrow)
    · exact .bind (Payments.dispatchGroupConfirmations_books _) fun _ _ => trivial

/-- Verifying a transaction of Klump for its customer keeps the books. -/
theorem verify_books (userId : ℕ) (reference : String) : Bookkeeping spared (verify userId reference) w :=
  .bind (verifyProviderTransaction_books _ _) fun _ _ => bookkeeping_call fun _ => trivial

/-- Working on a notice of Klump keeps the books. -/
theorem dispatchEvent_books (event : WebhookEvent) : Bookkeeping spared (dispatchEvent event) w := by
  unfold dispatchEvent
  split
  · exact ready_decided fun _ _ => .bind (verifyProviderTransaction_books _ _) fun _ _ => trivial
  · split
    · refine ready_select (fun _ => trivial) fun _ _ _ => ?_
      split
      · exact .then (fun _ _ _ => trivial) fun _ _ _ _ => trivial
      · exact trivial
    · exact trivial

/-- Taking in a notice of Klump keeps the books. -/
theorem handleWebhook_books (event : WebhookEvent) : Bookkeeping spared (handleWebhook event) w := by
  refine ready_select (fun _ => trivial) fun _ _ _ => ready_onlyIf fun _ => ?_
  refine .then (fun _ _ _ => trivial) fun _ _ _ _ => .attempt ?_ fun _ _ => ?_
  · exact .bind (dispatchEvent_books _) fun _ _ => bookkeeping_call fun _ => trivial
  · exact .then (fun _ _ _ => trivial) fun _ _ _ _ => trivial

end Klump

/-! ## Orders -/

namespace Orders

/-- Cancelling an order keeps the books. -/
theorem cancelOrder_books (userId id : ℕ) (reason : String) :
    Bookkeeping spared (cancelOrder userId id reason) w := by
  refine .then (fun _ _ _ => trivial) fun result _ _ _ => ?_
  split
  · exact Payments.tolerate_books (Payments.processRefund_books _)
  · exact bookkeeping_call fun _ => trivial

/-- A status that the store sets keeps the books. -/
theorem setStatus_books (actorId id : ℕ) (status : OrderStatus) (reason : Option String) :
    Bookkeeping spared (setStatus actorId id status reason) w := by
  refine ready_selectOrThrow (fun _ => trivial) fun w₁ r _ hB hr => ?_
  obtain ⟨o, ho, rfl⟩ := Option.map_eq_some_iff.mp hr
  refine ready_check fun _ => ready_check fun hreceived => ready_check fun hmanaged => ready_check fun hnext => ?_
  have hpaid := orderPaid_of_transition hB ho hreceived hnext
  refine .then (fun w₂ h₂ _ => ⟨(managed_not_financial (.inl hmanaged)).1, hpaid.later h₂⟩) fun _ _ _ _ => ?_
  exact .then (fun _ _ _ => trivial) fun _ _ _ _ => ready_onlyIf fun _ => bookkeeping_call fun _ => trivial

/-- Completing the packing keeps the books. -/
theorem completePacking_books (actorId storeId id : ℕ) :
    Bookkeeping spared (completePacking actorId storeId id) w := by
  refine ready_selectOrThrow (fun _ => trivial) fun _ _ _ _ _ => ?_
  refine ready_select (fun _ => trivial) fun _ _ _ => ready_check fun _ => ?_
  refine ready_select (fun _ => trivial) fun _ _ _ => ready_check fun _ => ?_
  refine ready_selectOrThrow (fun _ => trivial) fun w₁ o _ hB ho => ready_check fun hstatus => ?_
  have hpaid : (books w₁.db).OrderPaid id := by
    refine orderPaid_of_find hB ho ?_ ?_ <;> rcases hstatus with hs | hs <;> rw [hs] <;> decide
  refine .then (fun w₂ h₂ _ => hpaid.later h₂) fun _ _ _ _ => ?_
  exact .then (fun _ _ _ => trivial) fun _ _ _ _ => bookkeeping_call fun _ => trivial

/-- Confirming a pickup keeps the books. -/
theorem confirmPickup_books (riderId id : ℕ) (token : String) :
    Bookkeeping spared (confirmPickup riderId id token) w := by
  refine ready_selectOrThrow (fun _ => trivial) fun w₁ r _ hB hr => ?_
  refine .then (fun _ _ _ => trivial) fun now w₂ h₂ _ => ?_
  refine ready_read (fun _ => trivial) fun w₃ _ h₃ _ _ => ?_
  refine ready_selectOrThrow (fun _ => trivial) fun w₄ _ h₄ _ _ => ?_
  refine ready_select (fun _ => trivial) fun w₅ h₅ _ => ready_check fun _ => ready_check fun hstatus => ?_
  have hpaid : (books w₁.db).OrderPaid id := by
    refine orderPaid_of_find hB (find_of_riderOrder hr) ?_ ?_ <;>
      rcases hstatus with hs | hs <;> rw [hs] <;> decide
  exact .call fun w₆ h₆ _ => hpaid.later ((((h₂.trans h₃).trans h₄).trans h₅).trans h₆)

/-- Confirming a delivery keeps the books. -/
theorem confirmDelivery_books (riderId id : ℕ) (token : String) :
    Bookkeeping spared (confirmDelivery riderId id token) w := by
  refine ready_selectOrThrow (fun _ => trivial) fun w₁ r _ hB hr => ?_
  refine .then (fun _ _ _ => trivial) fun now w₂ h₂ _ => ?_
  refine ready_read (fun _ => trivial) fun w₃ _ h₃ _ _ => ready_check fun hstatus => ?_
  have hpaid : (books w₁.db).OrderPaid id :=
    orderPaid_of_find hB (find_of_riderOrder hr) (by rw [hstatus]; decide) (by rw [hstatus]; decide)
  refine .then (fun w₄ h₄ _ => hpaid.later ((h₂.trans h₃).trans h₄)) fun _ _ _ _ => ?_
  exact .then (fun _ _ _ => trivial) fun _ _ _ _ => ready_onlyIf fun _ => bookkeeping_call fun _ => trivial

/-- A status that the rider reports keeps the books. -/
theorem updateStatus_books (riderId deliveryId : ℕ) (status : DeliveryStatus)
    (location note : Option String) :
    Bookkeeping spared (updateStatus riderId deliveryId status location note) w := by
  refine ready_selectOrThrow (fun _ => trivial) fun w₁ r _ hB hr => ?_
  simp only [deliveryWithOrder, Option.bind_eq_bind, Option.bind_eq_some_iff, Option.pure_def,
    Option.some.injEq] at hr
  obtain ⟨d, _, o, ho, rfl⟩ := hr
  refine ready_check fun _ => ready_check fun _ => ready_check fun _ => ready_check fun _ => ?_
  refine ready_check fun hnext => .call fun w₂ h₂ _ htarget => ?_
  obtain ⟨⟨_, s⟩, htarget⟩ := Option.isSome_iff_exists.mp htarget
  obtain ⟨hs, hne, rfl, rfl⟩ := progressTarget_eq_some htarget
  rw [hs, Option.all_some, Bool.or_eq_true, beq_iff_eq] at hnext
  have hcan := hnext.resolve_left hne
  refine (orderPaid_of_transition hB ho (fun hreceived => ?_) hcan).later h₂
  rw [hreceived] at hcan
  exact absurd hcan (by decide)

/-- Claiming a delivery keeps the books. -/
theorem claim_books (riderId deliveryId : ℕ) (offerId : Option ℕ) :
    Bookkeeping spared (claim riderId deliveryId offerId) w :=
  .then (fun _ _ _ => trivial) fun _ _ _ _ => bookkeeping_call fun _ => trivial

/-- Accepting an offer keeps the books. -/
theorem accept_books (riderId offerId : ℕ) : Bookkeeping spared (accept riderId offerId) w :=
  ready_selectOrThrow (fun _ => trivial) fun _ _ _ _ _ => claim_books _ _ _

/-- A status that the staff set keeps the books. -/
theorem updateOrderStatus_books (id : ℕ) (status : OrderStatus) (reason : String) :
    Bookkeeping spared (updateOrderStatus id status reason) w :=
  .then (fun _ _ _ => trivial) fun _ _ _ _ => .then (fun _ _ _ => trivial) fun _ _ _ _ =>
    ready_onlyIf fun _ => bookkeeping_call fun _ => trivial

end Orders

/-! ## All requests -/

/-- Every request about payments keeps the books. -/
theorem PaymentRequest.books {p : Request Unit} (h : PaymentRequest p) : Bookkeeping spared p w := by
  cases h with
  | create userId input => exact ready_discard (Checkout.create_books _ _)
  | place userId input => exact ready_discard (Checkout.place_books _ _)
  | confirmBnpl userId id => exact ready_discard (Checkout.confirmBnpl_books _ _)
  | initializeKlump userId input => exact ready_discard (Klump.initializeCheckout_books _ _)
  | verifyKlump userId reference => exact Klump.verify_books _ _
  | klumpWebhook event => exact Klump.handleWebhook_books _
  | initializePayment userId groupId => exact Payments.initializePayment_books _ _
  | resumeCheckout userId id => exact ready_discard (Payments.resumeCheckout_books _ _)
  | status userId groupId verify => exact ready_discard (Payments.status_books _ _ _)
  | cancelCheckout userId id => exact ready_discard (Payments.cancelCheckout_books _ _)
  | verifyReference reference => exact ready_discard (Payments.verifyReference_books _)
  | handleWebhook event => exact Payments.handleWebhook_books _
  | reconcilePending => exact Payments.reconcilePending_books
  | topupWallet userId amount => exact Payments.topupWallet_books _ _
  | topupWalletByTransfer userId amount => exact Payments.topupWalletByTransfer_books _ _
  | payRepayment userId installmentId byWallet => exact Payments.payRepayment_books _ _ _
  | transferAccount userId =>
    exact ready_discard ((Payments.createWalletTransferAccount_uses _).books (by decide))
  | cancelOrder userId id reason => exact Orders.cancelOrder_books _ _ _

/-- Every request of the staff about refunds keeps the books. -/
theorem RefundRequest.Staff.books {p : Request Unit} (h : RefundRequest.Staff p) :
    Bookkeeping spared p w := by
  cases h with
  | processRefund id => exact ready_discard (Payments.processRefund_books _)
  | retryRefund id => exact ready_discard (Payments.retryRefund_books _)
  | completeManualRefund id reference => exact ready_discard (Payments.completeManualRefund_books _ _)
  | resolveRefundAttention id => exact ready_discard (Payments.resolveRefundAttention_books _)

/-- Every request about statuses keeps the books. -/
theorem StatusRequest.books {p : Request Unit} (h : StatusRequest p) : Bookkeeping spared p w := by
  cases h with
  | setStatus actorId id status reason => exact Orders.setStatus_books _ _ _ _
  | completePacking actorId storeId id => exact Orders.completePacking_books _ _ _
  | confirmPickup riderId id token => exact Orders.confirmPickup_books _ _ _
  | confirmDelivery riderId id token => exact Orders.confirmDelivery_books _ _ _
  | updateStatus riderId deliveryId status location note => exact Orders.updateStatus_books _ _ _ _ _
  | claim riderId deliveryId => exact Orders.claim_books _ _ _
  | accept riderId offerId => exact Orders.accept_books _ _
  | updateOrderStatus id status reason => exact Orders.updateOrderStatus_books _ _ _

/-- Every request of the store keeps the books. -/
theorem StoreRequest.books {p : Request Unit} (h : StoreRequest p) : Bookkeeping spared p w := by
  cases h with
  | payment h => exact h.books
  | refund h => exact h.books
  | status h => exact h.books

/-- Changes made outside of the requests leave the books alone, or settle orders. -/
theorem OtherChange.refines {w w' : World} (h : OtherChange w w') : Refines spared w.db w'.db :=
  .of_frame (fun n hn => h.owned n hn) fun i t ht => ⟨t, h.ledger i t ht, rfl⟩

/-- The store keeps the books. -/
theorem bookkeeping_holds : (bookkeeping spared).Holds store where
  starts h _ _ := h.books
  performs op := bookkeeping_safe op
  background h hB := Books.Steps.advances (@OtherChange.refines spared _ _ h hB) hB

end Superstore

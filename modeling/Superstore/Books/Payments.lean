import Superstore.Books.Groups

/-!
# Payments in the books

The transactions that write payments are legitimate steps of the books. What such a
transaction has to be told correctly, such as the groups that a payment pays for, is a
hypothesis.
-/

namespace Superstore

open Relational.Tx
open Payments (setCurrentStatus)

variable {spared : Prop}

/-- The groups that a payment pays for, by their keys. -/
def Books.Carries (B : Books) (p : ℕ) (ids : List ℕ) : Prop :=
  ∀ i, i ∈ ids ↔ ∃ g, B.group i = some g ∧ g.paymentId = some p

/-- A payment that no group is linked to pays for none. -/
theorem Books.Unlinked.not_paysFor {B : Books} {p : ℕ} (h : B.Unlinked p) (i : ℕ) (g : GroupTerms) :
    ¬B.PaysFor p i g := fun hpays => h.2 i g hpays.group hpays.linked

namespace Payments

/-! ## Starting a payment -/

/-- Whether a single statement is about a top-up. -/
def PaymentUpdate.topup : PaymentUpdate → Bool
  | .topupUrl _ _ _ | .topupInstructions _ _ _ | .failTopup _ => true
  | .transferInstructions _ _ | .paymentUrl _ _ | .clearMetadata => false

/-- Claiming a payment that is there refines the books. -/
theorem claimExisting_refines (e : Env) (paymentId : ℕ) :
    Within (Refines spared) (claimExisting e paymentId) := by
  intro db
  rw [claimExisting, wp_bind, wp_findOrThrow]
  intro r hr
  rw [wp_ite]
  refine ⟨fun _ => (wp_pure _ _ _).mpr (refl_of _ db), fun _ => ?_⟩
  refine Within.after ?_ fun _ => .bind (.of_reads (.findOrThrow _ _)) fun _ => .pure _
  rw [wp_update]
  exact fun _ _ => refines_set_payment hr rfl rfl rfl (fun h => by cases h) (.inl rfl)

/-- Claiming a new payment refines the books. -/
theorem claimNew_refines (e : Env) {groupId : ℕ} {group : CheckoutPaymentGroup} {db : Database}
    (hg : (db .checkoutPaymentGroup).find groupId = some group) (hnone : group.paymentId = none)
    (hfailed : group.status ≠ .failed) :
    wp db (claimNew e groupId group) fun _ db' => Refines spared db db' := by
  refine refines_of_steps fun hB => ?_
  obtain ⟨hterms, hstatus⟩ := books_group hg
  rw [claimNew, wp_bind, wp_require]
  intro _
  rw [wp_bind, wp_createUnique]
  intro _
  rw [wp_bind, wp_update]
  intro _ _
  rw [wp_pure]
  have hpaid := hB.unpaid hterms hnone
  rw [books_create_link hg rfl]
  refine .single (.link (f := (books db).klump) (g := group.terms) (s := .processing) ?_)
  exact
    { group := hterms
      fresh := books_payment_next db
      unlinked := hnone
      amount := rfl
      special := rfl
      reference := fun _ => ⟨_, rfl⟩
      pending := fun _ => rfl
      agree := fun o h => h.received hpaid (hstatus ▸ hfailed)
      status := by decide
      unpaid := hpaid
      unreleased := hstatus ▸ hfailed
      kept := fun _ _ => id
      new := fun _ _ => .inl
      started := fun h => by cases h }

/-- The start of a payment is claimed by a legitimate step. -/
theorem claimInitialization_refines (e : Env) (userId groupId : ℕ) :
    Within (Refines spared) (claimInitialization e userId groupId) := by
  intro db
  rw [claimInitialization, wp_bind, wp_find, wp_bind, wp_orThrow]
  intro group hgroup
  obtain ⟨hg, -⟩ := Option.filter_eq_some_iff.mp hgroup
  rw [wp_bind, wp_require]
  intro hfailed
  cases hp : group.paymentId with
  | some paymentId => exact claimExisting_refines e paymentId db
  | none => exact claimNew_refines e hg hp hfailed

/-- A single statement is legitimate unless it makes a payment special that pays for a checkout, or fails one. -/
theorem updatePayment_refines {id : ℕ} {u : PaymentUpdate} {db : Database}
    (h : u.topup = true → (books db).Unlinked id) :
    wp db (updatePayment id u) fun _ db' => Refines spared db db' := by
  rw [updatePayment, wp_update]
  intro r hr
  cases u with
  | transferInstructions reference instructions =>
    exact refines_set_payment hr rfl rfl rfl (fun h => by cases h) (.inl rfl)
  | paymentUrl reference url =>
    exact refines_set_payment hr rfl rfl rfl (fun h => by cases h) (.inl rfl)
  | clearMetadata => exact refines_set_payment hr rfl rfl rfl (fun h => by cases h) (.inl rfl)
  | topupUrl userId reference url =>
    exact refines_set_payment hr rfl rfl rfl (fun _ => .inr (h rfl)) (.inl rfl)
  | topupInstructions userId reference instructions =>
    exact refines_set_payment hr rfl rfl rfl (fun _ => .inr (h rfl)) (.inl rfl)
  | failTopup reason =>
    exact refines_set_payment hr rfl rfl rfl .inl (.inr (.other fun _ => (h rfl).not_paysFor))

/-! ## The outcome of a checkout payment -/

/-- What noting refunds of a payment does to the refunds: those that were there stay, the new ones
are of some allocations, and each of these has one then. -/
structure Owes (p : ℕ) (as : List Allocation) (f f' : ℕ → Option RefundTerms) : Prop where
  kept : ∀ k r, f k = some r → f' k = some r
  new : ∀ k r, f' k = some r → f k = some r ∨ r.paymentId = p ∧ ⟨r.orderId, r.amount⟩ ∈ as
  unique : (∀ k r l s, f k = some r → f l = some s → r.orderId = s.orderId → k = l) →
    ∀ k r l s, f' k = some r → f' l = some s → r.orderId = s.orderId → k = l
  covers : ∀ a ∈ as, ∃ k r, f' k = some r ∧ r.orderId = a.orderId

/-- Nothing is owed for no allocations. -/
theorem Owes.nil (p : ℕ) (f : ℕ → Option RefundTerms) : Owes p [] f f :=
  ⟨fun _ _ => id, fun _ _ => .inl, id, by simp⟩

/-- What is owed for two lists of allocations is owed for both together. -/
theorem Owes.append {p : ℕ} {as bs : List Allocation} {f f₁ f' : ℕ → Option RefundTerms}
    (h : Owes p as f f₁) (h' : Owes p bs f₁ f') : Owes p (as ++ bs) f f' where
  kept k r hr := h'.kept k r (h.kept k r hr)
  new k r hr := by
    rcases h'.new k r hr with hr | ⟨hp, hmem⟩
    · exact (h.new k r hr).imp_right fun h => ⟨h.1, List.mem_append_left _ h.2⟩
    · exact .inr ⟨hp, List.mem_append_right _ hmem⟩
  unique hf := h'.unique (h.unique hf)
  covers a ha := by
    rcases List.mem_append.mp ha with ha | ha
    · obtain ⟨k, r, hr, hid⟩ := h.covers a ha
      exact ⟨k, r, h'.kept k r hr, hid⟩
    · exact h'.covers a ha

/-- A transaction that does nothing to the books but note refunds. -/
def Refunds (p : ℕ) (as : List Allocation) (db db' : Database) : Prop :=
  books db' = { books db with refund := (books db').refund } ∧
    Owes p as (books db).refund (books db').refund

/-- The refunds of two lists of allocations are the refunds of both together. -/
theorem Refunds.append {p : ℕ} {as bs : List Allocation} {db db₁ db' : Database}
    (h : Refunds p as db db₁) (h' : Refunds p bs db₁ db') : Refunds p (as ++ bs) db db' := by
  refine ⟨?_, h.2.append h'.2⟩
  rw [h'.1, h.1]

/-- A refund of a late payment is one for its allocation. -/
theorem lateRefund_refunds (p groupId : ℕ) (group : CheckoutPaymentGroup) (a : Allocation)
    (db : Database) :
    wp db (lateRefund p groupId group a) fun _ db' => Refunds p [a] db db' := by
  rw [lateRefund, wp_bind, wp_first]
  cases hfirst : (db .refund).first fun _ r => r.orderId == a.orderId with
  | some existing =>
    obtain ⟨hr, hid⟩ := Relational.Table.find_of_first hfirst
    refine (wp_pure _ _ _).mpr ⟨rfl, fun _ _ => id, fun _ _ => .inl, id, ?_⟩
    rw [List.forall_mem_singleton]
    exact ⟨existing.1, existing.2.terms, books_refund hr, by simpa [Refund.terms] using hid⟩
  | none =>
    rw [wp_createUnique]
    intro _
    rw [Refunds, books_create_refund]
    refine ⟨rfl, fun k r hr => Books.enter_of_eq_some (books_refund_next db) hr, fun k r hr => ?_,
      fun hf k r l s hr hs hid => ?_, ?_⟩
    · rcases Books.enter_eq_some hr with ⟨-, rfl⟩ | hold
      · exact .inr ⟨rfl, List.mem_singleton_self _⟩
      · exact .inl hold
    · have hnone (l : ℕ) (s : RefundTerms) (hs : (books db).refund l = some s) :
          s.orderId ≠ a.orderId := by
        obtain ⟨s', hs', rfl⟩ := Option.map_eq_some_iff.mp hs
        simpa [Refund.terms] using Relational.Table.first_eq_none.mp hfirst l s' hs'
      rcases Books.enter_eq_some hr with ⟨rfl, rfl⟩ | hold <;>
        rcases Books.enter_eq_some hs with ⟨rfl, rfl⟩ | hold'
      · rfl
      · exact absurd hid.symm (hnone l s hold')
      · exact absurd hid (hnone k r hold)
      · exact hf k r l s hold hold' hid
    · rw [List.forall_mem_singleton]
      exact ⟨_, _, Books.enter_self, rfl⟩

/-- The refunds of all groups of a payment. -/
theorem lateRefunds_refund (p : ℕ) (groups : List (ℕ × CheckoutPaymentGroup)) (db : Database) :
    wp db (groups.mapM fun g => g.2.allocations.mapM (lateRefund p g.1 g.2))
      fun _ db' => Refunds p (groups.flatMap (·.2.allocations)) db db' := by
  have hnil (db : Database) : Refunds p [] db db := ⟨rfl, .nil p _⟩
  refine wp_mapM_rec (R := fun (gs : List (ℕ × CheckoutPaymentGroup)) _ =>
    Refunds p (gs.flatMap (·.2.allocations))) hnil (fun g _ gs _ db => ?_) db
  have hround (a : Allocation) (_ : a ∈ g.2.allocations) (as : List Allocation) (_ : List ℕ) (db : Database) :
      wp db (lateRefund p g.1 g.2 a) fun _ db₁ => ∀ db', Refunds p as db₁ db' → Refunds p (a :: as) db db' :=
    wp_mono (lateRefund_refunds p g.1 g.2 a db) fun _ _ h _ h' => h.append h'
  refine wp_mono (wp_mapM_rec (R := fun as _ => Refunds p as) hnil hround db) fun _ db₁ h db' h' => ?_
  rw [List.flatMap_cons]
  exact h.append h'

/-- A payment that comes after the release of its groups is owed back. -/
theorem acceptLatePayment_refines (e : Env) {p : ℕ} {db : Database}
    (hpaystack : ∃ q, (books db).payment p = some q ∧ q.provider = .paystack)
    (hfailed : (books db).paymentStatus p = .failed) :
    wp db (acceptLatePayment e p) fun _ db' => Refines spared db db' := by
  refine refines_of_steps fun hB => ?_
  rw [acceptLatePayment, wp_bind, wp_update]
  intro r hr
  rw [wp_bind, wp_many, wp_bind]
  refine wp_mono (lateRefunds_refund p _ _) fun _ db' ⟨hbooks, howes⟩ => ?_
  rw [wp_pure, hbooks]
  rw [books_set_paymentStatus hr rfl] at howes ⊢
  refine .single (.late ⟨hfailed, hpaystack, howes.kept, fun k r hr => ?_, howes.unique hB.refund_unique,
    fun i g hg hp a ha => howes.covers a ?_⟩)
  · refine (howes.new k r hr).imp_right fun ⟨hp, hmem⟩ => ⟨hp, ?_⟩
    obtain ⟨g, hg, hmem⟩ := List.mem_flatMap.mp hmem
    obtain ⟨hfind, hlinked⟩ := Relational.Table.mem_many.mp hg
    exact ⟨g.1, g.2.terms, (books_group hfind).1, by simpa [CheckoutPaymentGroup.terms] using hlinked, hmem⟩
  · obtain ⟨row, hrow, rfl⟩ := find_of_books_group hg
    refine List.mem_flatMap.mpr ⟨(i, row), Relational.Table.mem_many.mpr ⟨hrow, ?_⟩, ha⟩
    simpa [CheckoutPaymentGroup.terms] using hp

/-- The groups that were linked to a payment before some steps are the ones that are linked to it afterwards. -/
theorem Carries.of_steps {B B' : Books} {p : ℕ} {ids : List ℕ} (h : B.Carries p ids)
    (hp : (B.payment p).isSome) (hlater : B.Later B') {i : ℕ} {g : GroupTerms}
    (hg : B'.group i = some g) (hlinked : g.paymentId = some p) : i ∈ ids := by
  obtain ⟨g₀, hg₀, hp₀⟩ := hlater.links i g p hg hlinked hp
  exact (h i).mpr ⟨g₀, hg₀, hp₀⟩

/-- The outcome of a checkout payment is applied by legitimate steps, if the groups are the ones
that it pays for. -/
theorem finalizePayment_refines (e : Env) {p : ℕ} {groups : List (ℕ × ℕ)} (success : Bool)
    {db : Database} (hpaystack : ∃ q, (books db).payment p = some q ∧ q.provider = .paystack)
    (hgroups : (books db).Carries p (groups.map Prod.fst)) :
    wp db (finalizePayment e p groups success) fun _ db' => Refines spared db db' := by
  have hlock : Writes Cart.tables (groups.forM fun g => do let _ ← Cart.lock g.2; pure ()) :=
    .forM fun g _ => .bind (Cart.lock_writes _) fun _ => .pure ()
  have hsome : ((books db).payment p).isSome := by
    obtain ⟨q, hq, -⟩ := hpaystack
    rw [hq]
    rfl
  refine refines_of_steps fun hB => ?_
  rw [finalizePayment, wp_bind]
  refine wp_mono (hlock db) fun _ db₁ hsame => ?_
  have hbooks : books db₁ = books db := books_congr fun n hn => hsame n (by revert n; decide)
  rw [← hbooks] at hB hpaystack hgroups hsome ⊢
  rw [wp_bind, wp_findOrThrow]
  intro r hr
  have hlinked : ∀ x ∈ groups, ∃ g, (books db₁).group x.1 = some g ∧ g.paymentId = some p :=
    fun x hx => (hgroups x.1).mp (List.mem_map_of_mem hx)
  have hset (f : Payment → Payment) (hf : (f r).terms = r.terms) :
      books (db₁.set .payment ((db₁ .payment).update p f)) = (books db₁).setPayment p (f r).status :=
    books_set_paymentStatus hr hf
  rw [wp_ite]
  refine ⟨fun _ => (wp_pure _ _ _).mpr .refl, fun _ => ?_⟩
  rw [wp_ite]
  constructor
  · intro hfailed
    rw [wp_ite]
    refine ⟨fun _ => ?_, fun _ => (wp_pure _ _ _).mpr .refl⟩
    refine wp_mono (acceptLatePayment_refines e hpaystack ?_) fun _ _ h => h hB
    exact (books_payment hr).2.trans hfailed
  · intro _
    rw [wp_ite]
    constructor
    · intro _
      rw [wp_bind, wp_update]
      intro _ _
      rw [wp_bind]
      refine wp_mono (steps_forM spared (.inl rfl) (Φ := fun g => g.paymentId = some p)
        (fun _ _ h hp => h.paymentId p hp) (fun x db B g hB hg hp => completeGroup_steps spared e hB hg ?_)
        (hset _ rfl) hB hlinked) fun _ db' ⟨B', hahead, hpaid⟩ => (wp_pure _ _ _).mpr ?_
      · rw [hp]
        rfl
      · rw [hahead.books]
        refine hahead.steps.tail (.paid fun i g hg hp => ?_)
        obtain ⟨x, hx, rfl⟩ := List.mem_map.mp
          (Carries.of_steps hgroups hsome (Books.Steps.advances hahead.steps hB).2 hg hp)
        exact hpaid x hx
    · intro _
      rw [wp_bind, wp_update]
      intro _ _
      rw [wp_bind]
      refine wp_mono (steps_forM spared (.inr rfl) (Φ := fun g => g.paymentId = some p)
        (fun _ _ h hp => h.paymentId p hp) (fun x db B g hB _ _ => failGroup_steps spared e hB)
        (hset _ rfl) hB hlinked) fun _ db' ⟨B', hahead, hfailed⟩ => (wp_pure _ _ _).mpr ?_
      rw [hahead.books]
      refine hahead.steps.tail (.failed fun i g hg hp => ?_)
      obtain ⟨x, hx, rfl⟩ := List.mem_map.mp
        (Carries.of_steps hgroups hsome (Books.Steps.advances hahead.steps hB).2 hg hp)
      exact hfailed x hx

/-- Groups that have a payment are finished by legitimate steps. -/
theorem completeIncomplete_refines (e : Env) {groups : List (ℕ × ℕ)} {db : Database}
    (h : ∀ x ∈ groups, ∃ g, (books db).group x.1 = some g ∧ g.paymentId.isSome) :
    wp db (completeIncomplete e groups) fun _ db' => Refines spared db db' := by
  refine refines_of_steps fun hB => ?_
  refine wp_mono (steps_forM spared (.inl rfl) (Φ := fun g => g.paymentId.isSome) (fun g g' hlater hp => ?_)
    (fun x db B g hB hg hp => ?_) (Books.setPayment_self (books db) 0).symm hB h)
    fun _ db' ⟨B', hahead, _⟩ => hahead.steps_of_eq
  · obtain ⟨p, hp⟩ := Option.isSome_iff_exists.mp hp
    rw [hlater.paymentId p hp]
    rfl
  · rw [wp_bind]
    refine wp_mono (Cart.lock_writes x.2 db) fun _ db₁ hsame => ?_
    rw [← books_congr fun n hn => hsame n (by revert n; decide)] at hB
    exact completeGroup_steps spared e hB hg hp

/-- A checkout is cancelled by legitimate steps. -/
theorem cancelGroup_refines (e : Env) (userId id : ℕ) :
    Within (Refines spared) (cancelGroup e userId id) := by
  refine .bind (refines_of_writes (Cart.lock_writes userId) (by decide)) fun _ db => ?_
  refine refines_of_steps fun hB => ?_
  rw [wp_bind, wp_find, wp_bind, wp_orThrow]
  intro group hgroup
  obtain ⟨hg, -⟩ := Option.filter_eq_some_iff.mp hgroup
  obtain ⟨hterms, -⟩ := books_group hg
  rw [wp_bind, wp_query, wp_bind, wp_require]
  intro _
  rw [wp_when]
  refine ⟨fun _ => ?_, fun _ => .refl⟩
  rw [wp_bind]
  cases hp : group.paymentId with
  | none =>
    rw [show failPayment none = pure () from rfl, wp_pure]
    exact wp_mono (failGroup_steps spared e (Books.setPayment_self (books db) 0).symm)
      fun _ _ ⟨_, hahead, _⟩ => hahead.steps_of_eq
  | some p =>
    change wp db (update .payment p _) _
    rw [wp_update]
    intro r hr
    refine wp_mono (failGroup_steps spared e (books_set_paymentStatus hr rfl)) ?_
    rintro _ db' ⟨B', hahead, hfailed⟩
    rw [hahead.books]
    refine hahead.steps.tail (.failed fun j g hg' hp' => ?_)
    obtain ⟨hB₁, hlater⟩ := Books.Steps.advances hahead.steps hB
    obtain ⟨g', hg'', hlater'⟩ := hlater.group id _ hterms
    rw [hB₁.payer_unique j g id g' p hg' hg'' hp' (hlater'.paymentId p hp)]
    exact hfailed

/-! ## Payments that pay for no checkout -/

/-- The status of a payment that Paystack does not process for a checkout is free. -/
theorem refines_set_other {p : ℕ} {r : Payment} {f : Payment → Payment} {db : Database}
    (h : spared → ∀ i g, ¬(books db).PaysFor p i g) (hr : (db .payment).find p = some r)
    (hterms : (f r).terms = r.terms) :
    Refines spared db (db.set .payment ((db .payment).update p f)) := by
  intro _
  rw [books_set_paymentStatus hr hterms]
  exact .single (.other h)

/-- Settling a repayment refines the books. -/
theorem settleRepayment_refines (e : Env) (repaymentId : ℕ) {p : ℕ} (success : Bool) {db : Database}
    (h : (books db).Unlinked p) :
    wp db (settleRepayment e repaymentId p success) fun _ db' => Refines spared db db' := by
  rw [settleRepayment, wp_bind, wp_findOrThrow]
  intro _ _
  rw [wp_when]
  refine ⟨fun _ => ?_, fun _ => refl_of _ db⟩
  have hrepaid : Writes [.bnplRepayment, .bnplInstallment]
      (if success then completeBnplRepayment e repaymentId
        else update .bnplRepayment repaymentId fun r => { r with status := .failed }) := by
    split
    · exact completeBnplRepayment_writes e _
    · exact .update (by decide) _ _
  rw [wp_bind]
  refine wp_mono (hrepaid db) fun _ db₁ hsame => ?_
  have hbooks : books db₁ = books db := books_congr fun n hn => hsame n (by revert n; decide)
  rw [wp_update]
  intro r hr
  refine trans_of (Refines spared) (.of_eq hbooks) (refines_set_other (fun _ => ?_) hr rfl)
  rw [hbooks]
  exact h.not_paysFor

/-- Crediting a top-up refines the books. -/
theorem creditTopup_refines (e : Env) {p : ℕ} (userId : ℕ) (amount : ℚ) {db : Database}
    (h : (books db).Unlinked p) :
    wp db (creditTopup e p userId amount) fun _ db' => Refines spared db db' := by
  rw [creditTopup, wp_bind, wp_findOrThrow]
  intro _ _
  rw [wp_ite]
  refine ⟨fun _ => (wp_pure _ _ _).mpr (refl_of _ db), fun _ => ?_⟩
  refine Within.after ?_ fun _ => .bind (refines_of_writes (creditWallet_writes _ _ _) (by decide)) fun _ => .pure _
  rw [wp_update]
  exact fun r hr => refines_set_other (fun _ => h.not_paysFor) hr rfl

/-- Crediting a transfer refines the books. -/
theorem creditFunding_refines (e : Env) {p : ℕ} (userId : ℕ) (reference : String) (amount : ℚ)
    {db : Database} (h : spared → ∀ i g, ¬(books db).PaysFor p i g) :
    wp db (creditFunding e p userId reference amount) fun _ db' => Refines spared db db' := by
  rw [creditFunding, wp_bind, wp_findOrThrow]
  intro _ _
  rw [wp_ite]
  refine ⟨fun _ => (wp_pure _ _ _).mpr (refl_of _ db), fun _ => ?_⟩
  rw [wp_bind]
  refine wp_mono (Writes.firstOrCreate (List.mem_singleton_self .wallet) _ _ db) fun wallet db₁ hsame => ?_
  rw [wp_bind, wp_first, wp_bind]
  have hcredit : Writes [.wallet, .walletTransaction] (when
      ((db₁ .walletTransaction).first fun _ t => t.reference == some (fundingLedgerReference reference)).isNone do
      update .wallet wallet.1 fun w => { w with balance := w.balance + amount }
      let _ ← createUnique .walletTransaction
        (fun _ t => t.reference == some (fundingLedgerReference reference))
        { walletId := wallet.1, amount := amount, type := .credit
          reference := some (fundingLedgerReference reference) }
      pure ()) :=
    .when (.bind (.update (by decide) _ _) fun _ => .bind (.createUnique (by decide) _ _) fun _ => .pure ())
  refine wp_mono (hcredit db₁) fun _ db₂ hsame' => ?_
  have hbooks : books db₂ = books db := by
    rw [books_congr fun n hn => hsame' n (by revert n; decide),
      books_congr fun n hn => hsame n (by revert n; decide)]
  rw [wp_bind, wp_update]
  intro r hr
  rw [wp_pure]
  refine trans_of (Refines spared) (.of_eq hbooks) (refines_set_other ?_ hr rfl)
  rw [hbooks]
  exact h

/-- A new payment, which no group is linked to. -/
theorem createUnique_payment_refines (clash : ℕ → Payment → Bool) (r : Payment) :
    Within (Refines spared) (createUnique .payment clash r) := by
  intro db
  rw [wp_createUnique]
  intro _ _
  rw [books_create_payment]
  exact .single (.addPayment r.status (books_payment_next db))

/-- Entering a payment refines the books. -/
theorem createPayment_refines (e : Env) (payment : Payment) :
    Within (Refines spared) (createPayment e payment) :=
  .bind (createUnique_payment_refines _ _) fun _ => .pure _

/-- Entering the payment of a transfer refines the books. -/
theorem upsertFundingPayment_refines (e : Env) (reference : String) (userId : ℕ) (amount : ℚ)
    (providerRef : String) :
    Within (Refines spared) (upsertFundingPayment e reference userId amount providerRef) := by
  intro db
  rw [upsertFundingPayment, wp_firstOrCreate]
  refine ⟨fun _ _ => refl_of _ db, fun _ _ => ?_⟩
  rw [books_create_payment]
  exact .single (.addPayment _ (books_payment_next db))

/-! ## Refunds -/

/-- An update of a refund leaves its terms alone. -/
theorem RefundUpdate.apply_terms (now : ℕ) (u : RefundUpdate) (r : Refund) :
    (u.apply now r).terms = r.terms := by
  cases u <;> rfl

/-- A statement that rewrites refunds keeps what is fixed about them. -/
theorem updateMany_refund_refines (p : ℕ → Refund → Bool) {f : Refund → Refund}
    (h : ∀ r, (f r).terms = r.terms) : Within (Refines spared) (updateMany .refund p f) := by
  intro db
  rw [wp_updateMany]
  exact .of_eq (books_set_refund db p h)

/-- A change of a refund that leaves its terms alone refines the books. -/
theorem update_refund_refines (id : ℕ) {f : Refund → Refund} (h : ∀ r, (f r).terms = r.terms) :
    Within (Refines spared) (update .refund id f) := by
  intro db
  rw [wp_update]
  exact fun _ _ => .of_eq (books_set_refund db _ h)

/-- Updating a refund refines the books. -/
theorem updateRefund_refines (e : Env) (id : ℕ) (u : RefundUpdate) :
    Within (Refines spared) (updateRefund e id u) :=
  .bind (update_refund_refines id (u.apply_terms e.now)) fun _ => .of_reads (.findOrThrow _ _)

/-- Completing a refund by hand refines the books. -/
theorem completeManual_refines (e : Env) (id : ℕ) (providerReference : String)
    (processingAt : Option ℕ) :
    Within (Refines spared) (completeManual e id providerReference processingAt) :=
  .bind (update_refund_refines id fun _ => rfl) fun _ => .of_reads (.findOrThrow _ _)

/-- The refund status of a payment is written where it has a refund. -/
theorem writeRefundStatus_refines {p : ℕ} {s : PaymentStatus} {db : Database}
    (h : ∃ k r, (books db).refund k = some r ∧ r.paymentId = p) (hs : s ≠ .failed) :
    wp db (writeRefundStatus p s) fun _ db' => Refines spared db db' := by
  obtain ⟨k, r, hr, rfl⟩ := h
  rw [writeRefundStatus, wp_update]
  intro row hrow _
  rw [books_set_paymentStatus hrow rfl]
  exact .single (.refunded hr hs)

end Payments

end Superstore

import Superstore.Checkout.Applications
import Superstore.Properties.Repayments
import Superstore.Requests.References

/-!
# Confirmed financing

An application carries the terms that it was approved under. When it is confirmed, its checkout is paid
for at once and its installments are entered, all in one transaction; whatever has happened to the cart,
the prices or the plan in between, the checkout costs what was applied for, and the installments are
those of the terms.
-/

namespace Superstore

open Interleaving Relational Relational.Tx Contract

/-- A group that costs an amount and is linked to the payment of an application. -/
def FinancedFor (db : Database) (applicationId groupId : ℕ) (total : ℚ) : Prop :=
  ∃ g p r, (db .checkoutPaymentGroup).find groupId = some g ∧ g.totalAmount = total ∧ g.paymentId = some p ∧
    (db .payment).find p = some r ∧ r.transactionRef = some ("BNPL-" ++ toString applicationId)

/-- A group stays what it was financed for. -/
theorem FinancedFor.later {db db' : Database} {i j : ℕ} {total : ℚ} (h : FinancedFor db i j total)
    (hlater : (books db).Later (books db')) : FinancedFor db' i j total := by
  obtain ⟨g, p, r, hg, htotal, hlinked, hr, href⟩ := h
  obtain ⟨_, hg', hl⟩ := hlater.group j _ (books_group hg).1
  obtain ⟨g', hfind, rfl⟩ := find_of_books_group hg'
  obtain ⟨q, hq, -, -, href'⟩ := hlater.payment p _ (books_payment hr).1
  obtain ⟨r', hr', rfl⟩ := Option.map_eq_some_iff.mp hq
  exact ⟨g', p, r', hfind, hl.totalAmount.trans htotal, hl.paymentId p hlinked, hr', href'.trans href⟩

/-- What finances a checkout depends on the groups and the orders alone. -/
theorem FinancedFor.congr {db db' : Database} {i j : ℕ} {total : ℚ} (h : FinancedFor db i j total)
    (hgroup : db' .checkoutPaymentGroup = db .checkoutPaymentGroup) (hpayment : db' .payment = db .payment) :
    FinancedFor db' i j total := by
  rw [FinancedFor, hgroup, hpayment]
  exact h

namespace Checkout

/-- A later state of a group still asks for the same amount, under the same payment. -/
def SameLink (g g' : CheckoutPaymentGroup) : Prop := g'.totalAmount = g.totalAmount ∧ g'.paymentId = g.paymentId

/-- Having the same links is reflexive and transitive. -/
instance : IsPreorder CheckoutPaymentGroup SameLink where
  refl _ := ⟨rfl, rfl⟩
  trans _ _ _ h h' := ⟨h'.1.trans h.1, h'.2.trans h.2⟩

/-- Completing a group keeps its links. -/
theorem completeGroup_sameLink (e : Env) (id : ℕ) :
    Evolves .checkoutPaymentGroup SameLink (Payments.completeGroup e id) := by
  refine .bind (.of_reads (.findOrThrow _ _)) fun group => .when (.bind (.of_reads (.require _ _)) fun _ => ?_)
  refine .bind (.forM fun a _ => .of_writes (Payments.confirmOrder_writes e _ a) (by decide)) fun _ => ?_
  exact .bind (.of_writes (Cart.consume_writes _ _ _) (by decide)) fun _ => .update _ fun _ => ⟨rfl, rfl⟩

/-- A group that is paid at once by financing is linked to the payment of the application. -/
theorem payAtOnce_finances (e : Env) {userId groupId : ℕ} {q : Quote} {method : PaymentMethod} {credit : Credit}
    {g : CheckoutPaymentGroup} {db : Database} (hg : (db .checkoutPaymentGroup).find groupId = some g) :
    wp db (payAtOnce e userId groupId q method (some credit)) fun _ db' =>
      FinancedFor db' credit.applicationId groupId g.totalAmount := by
  unfold payAtOnce
  dsimp only
  refine (Writes.when (debitWallet_writes _ _ _)).before fun _ db₁ hsame => ?_
  rw [wp_bind, wp_createUnique]
  intro _
  rw [wp_bind, wp_update]
  intro g₁ hg₁
  rw [Database.set_of_ne _ _ (by decide), hsame _ (by decide), hg] at hg₁
  obtain rfl := Option.some.inj hg₁
  refine wp_mono (wp_and (completeGroup_sameLink e groupId _) (Payments.completeGroup_writes e groupId _))
    fun _ db₂ h => ?_
  obtain ⟨hkept, hwrites⟩ := h
  have hgroup : (db₁ .checkoutPaymentGroup).find groupId = some g := by
    rw [hsame _ (by decide)]
    exact hg
  obtain ⟨g', hg', htotal, hlinked⟩ := hkept groupId { g with paymentId := some (db₁ .payment).next } (by
    rw [Database.set_self, Database.set_of_ne _ _ (by decide), Table.find_update_self, hgroup]
    rfl)
  have hpayment : ∃ r, (db₂ .payment).find (db₁ .payment).next = some r ∧
      r.transactionRef = some ("BNPL-" ++ toString credit.applicationId) := by
    rw [hwrites _ (by decide), Database.set_of_ne _ _ (by decide), Database.set_self]
    exact ⟨_, Table.find_create_self _ _, rfl⟩
  obtain ⟨r, hr, href⟩ := hpayment
  exact ⟨g', _, r, hg', htotal, hlinked, hr, href⟩

/-- A checkout that is placed by financing costs what its quote says. -/
theorem placeCheckout_finances (e : Env) {userId cartId : ℕ} {input : CreateCheckoutDto} {q : Quote}
    {credit : Credit} (db : Database) :
    wp db (placeCheckout e userId cartId input q (some credit)) fun groupId db' =>
      FinancedFor db' credit.applicationId groupId q.total := by
  refine wp_bind_of_forall fun allocations db₁ => ?_
  rw [wp_bind, wp_ofExcept]
  intro group hgroup
  have htotal : group.totalAmount = q.total := by
    unfold newGroup at hgroup
    split at hgroup
    · obtain rfl := Except.ok.inj hgroup
      rfl
    · cases hgroup
  rw [wp_bind, wp_createUnique]
  intro _
  rw [wp_bind, wp_when]
  refine ⟨fun _ => ?_, fun hnone => absurd (.inr rfl) hnone⟩
  rw [← htotal]
  refine wp_mono (payAtOnce_finances e (g := group) ?_) fun _ _ h => (wp_pure _ _ _).mpr h
  rw [Database.set_self]
  exact Table.find_create_self _ _

/-- A financed checkout costs what was applied for, or fails. -/
theorem createInTransaction_finances (e : Env) {userId : ℕ} {input : CreateCheckoutDto} {credit : Credit}
    (db : Database) :
    wp db (createInTransaction e userId input (some credit)) fun r db' =>
      FinancedFor db' credit.applicationId r.1 credit.expectedQuote.total := by
  refine wp_bind_of_forall fun cart db₁ => ?_
  rw [wp_bind, wp_require]
  intro _
  rw [wp_bind, wp_first]
  cases (db₁ .checkoutPaymentGroup).first fun _ g => g.activeCartId == some cart.1 with
  | some pending =>
    refine (wp_bind _ _ _ _).mpr ((wp_require _ _ _ _).mpr fun hnone => ?_)
    cases hnone.1
  | none =>
    refine (wp_bind _ _ _ _).mpr ((wp_query _ _ _).mpr ?_)
    refine (wp_bind _ _ _ _).mpr ((wp_ofExcept _ _ _).mpr fun q _ => ?_)
    refine (wp_bind _ _ _ _).mpr ((wp_require _ _ _ _).mpr fun hexpected => ?_)
    have hquote : credit.expectedQuote = q := by simpa using hexpected
    refine (wp_bind _ _ _ _).mpr (wp_mono (placeCheckout_finances e db₁) fun id db₂ h => ?_)
    refine (wp_bind _ _ _ _).mpr ((wp_findOrThrow _ _ _ _).mpr fun r _ => (wp_pure _ _ _).mpr ?_)
    rw [hquote]
    exact h

/-! ## Installments -/

/-- The key of an installment is its number within its application. -/
def installmentKey (b : BnplInstallment) : Option (ℕ × ℕ) := some (b.applicationId, b.sequence)

/-- The installments of a plan with these numbers have been entered, and nothing else. -/
structure Installed (id : ℕ) (terms : PlanSnapshot) (indices : List ℕ) (t t' : Table BnplInstallment) : Prop where
  kept : ∀ k b, t.find k = some b → t'.find k = some b
  entered : ∀ k b, t'.find k = some b → t.find k = some b ∨
    b.applicationId = id ∧ ∃ index ∈ indices, b.sequence = index + 1 ∧ b.amount = terms.installment index
  complete : ∀ index ∈ indices, ∃ k b, t'.find k = some b ∧ b.applicationId = id ∧ b.sequence = index + 1
  distinct : t.Distinct installmentKey → t'.Distinct installmentKey

/-- An installment that is there already is not entered again. -/
theorem Installed.found {id index : ℕ} {terms : PlanSnapshot} {t : Table BnplInstallment} {k : ℕ}
    {b : BnplInstallment} (hb : t.find k = some b) (happ : b.applicationId = id) (hseq : b.sequence = index + 1) :
    Installed id terms [index] t t where
  kept _ _ h := h
  entered _ _ := .inl
  complete i hi := by
    obtain rfl := List.mem_singleton.mp hi
    exact ⟨k, b, hb, happ, hseq⟩
  distinct h := h

/-- An installment that is not there yet is entered. -/
theorem Installed.create {id index : ℕ} {terms : PlanSnapshot} {t : Table BnplInstallment}
    (hnone : t.first (fun _ i => i.applicationId == id && i.sequence == index + 1) = none) :
    Installed id terms [index] t
      (t.create { applicationId := id, sequence := index + 1, amount := terms.installment index }) where
  kept _ _ h := Table.find_create_of_find _ h
  entered k b hb := by
    rcases Ledger.find_of_create hb with ⟨-, rfl⟩ | hold
    · exact .inr ⟨rfl, index, List.mem_singleton_self _, rfl, rfl⟩
    · exact .inl hold
  complete i hi := by
    obtain rfl := List.mem_singleton.mp hi
    exact ⟨_, _, Table.find_create_self _ _, rfl, rfl⟩
  distinct hdistinct := by
    apply hdistinct.create
    intro k b c hb hc hbc
    obtain ⟨happ, hseq⟩ := Prod.mk.inj ((Option.some.inj hbc).trans (Option.some.inj hc).symm)
    have hother := Table.first_eq_none.mp hnone k b hb
    rw [happ, hseq, beq_self_eq_true, beq_self_eq_true] at hother
    cases hother

/-- No installments at all are laid out. -/
theorem Installed.refl (id : ℕ) (terms : PlanSnapshot) (t : Table BnplInstallment) : Installed id terms [] t t where
  kept _ _ h := h
  entered _ _ := .inl
  complete _ h := absurd h List.not_mem_nil
  distinct h := h

/-- Installments are laid out one after another. -/
theorem Installed.append {id : ℕ} {terms : PlanSnapshot} {l l' : List ℕ} {t t' t'' : Table BnplInstallment}
    (h : Installed id terms l t t') (h' : Installed id terms l' t' t'') : Installed id terms (l ++ l') t t'' where
  kept k b hb := h'.kept k b (h.kept k b hb)
  entered k b hb := by
    rcases h'.entered k b hb with hold | ⟨happ, index, hi, hrow⟩
    · rcases h.entered k b hold with hold | ⟨happ, index, hi, hrow⟩
      · exact .inl hold
      · exact .inr ⟨happ, index, List.mem_append_left _ hi, hrow⟩
    · exact .inr ⟨happ, index, List.mem_append_right _ hi, hrow⟩
  complete index hi := by
    rcases List.mem_append.mp hi with hi | hi
    · obtain ⟨k, b, hb, hrow⟩ := h.complete index hi
      exact ⟨k, b, h'.kept k b hb, hrow⟩
    · exact h'.complete index hi
  distinct hd := h'.distinct (h.distinct hd)

/-- The installments of the terms are entered. -/
theorem createInstallments_installed (id : ℕ) (terms : PlanSnapshot) (db : Database) :
    wp db (createInstallments id terms) fun _ db' =>
      Installed id terms (List.range terms.months) (db .bnplInstallment) (db' .bnplInstallment) := by
  unfold createInstallments
  generalize List.range terms.months = indices
  induction indices generalizing db with
  | nil => exact (wp_pure _ _ _).mpr (.refl id terms _)
  | cons index rest ih =>
    have hcons (f : ℕ → Tx PUnit) : (index :: rest).forM f = f index >>= fun _ => rest.forM f := rfl
    rw [hcons, wp_bind, wp_bind, wp_firstOrCreate]
    constructor
    · intro s hs
      obtain ⟨hfind, hsame⟩ := Table.find_of_first hs
      obtain ⟨happ, hseq⟩ := Bool.and_eq_true_iff.mp hsame
      refine (wp_pure _ _ _).mpr (wp_mono (ih db) fun _ db₁ hrest => ?_)
      exact (Installed.found hfind (beq_iff_eq.mp happ) (beq_iff_eq.mp hseq)).append hrest
    · intro hnone
      refine (wp_pure _ _ _).mpr (wp_mono (ih _) fun _ db₁ hrest => ?_)
      rw [Database.set_self] at hrest
      exact (Installed.create hnone).append hrest

/-- Laying out installments writes nothing but these. -/
theorem createInstallments_only (id : ℕ) (terms : PlanSnapshot) :
    Writes [.bnplInstallment] (createInstallments id terms) :=
  .forM fun _ _ => .bind (.firstOrCreate (List.mem_singleton_self _) _ _) fun _ => .pure ()

/-- The installments of the terms add up to what is payable. -/
theorem sum_installments {terms : PlanSnapshot} (hmonths : 1 ≤ terms.months)
    (htotal : terms.monthlyAmount * (terms.months - 1) + terms.finalInstallment = terms.totalPayable) :
    ((List.range terms.months).map terms.installment).sum = terms.totalPayable := by
  obtain ⟨n, hn⟩ : ∃ n, terms.months = n + 1 := ⟨terms.months - 1, by omega⟩
  have hlast : terms.installment n = terms.finalInstallment := by
    rw [PlanSnapshot.installment, hn, if_pos (by omega)]
  have hothers : (List.range n).map terms.installment = (List.range n).map fun _ => terms.monthlyAmount := by
    refine List.map_congr_left fun index hi => ?_
    have hlt := List.mem_range.mp hi
    rw [PlanSnapshot.installment, hn, if_neg (by omega)]
  rw [hn, List.range_succ, List.map_append, List.sum_append, hothers, ← htotal, hn]
  simp [hlast]
  ring

end Checkout

/-! ## Applications -/

open Bnpl

/-- The quote of an application is in whole cents, and its terms are those of the price. -/
structure BnplApplication.Agreed (a : BnplApplication) : Prop where
  cents : Cents a.quoteSnapshot.total
  nonneg : 0 ≤ a.quoteSnapshot.total
  months : 1 ≤ a.planSnapshot.months
  terms : installmentTerms a.quoteSnapshot.total a.planSnapshot.months a.planSnapshot.interestRate =
    .ok a.planSnapshot.toInstallmentTerms

/-- An application as it is submitted. -/
structure BnplApplication.Submitted (a : BnplApplication) : Prop extends a.Agreed where
  unconfirmed : a.status ≠ "CONFIRMED"

/-- An application is what was applied for, and is confirmed only if it was already. -/
structure BnplApplication.Stays (a a' : BnplApplication) : Prop where
  quote : a'.quoteSnapshot = a.quoteSnapshot
  plan : a'.planSnapshot = a.planSnapshot
  confirmed : a.status = "CONFIRMED" ∨ a'.status = "CONFIRMED" → a' = a

/-- Staying an application is reflexive and transitive. -/
instance : IsPreorder BnplApplication BnplApplication.Stays where
  refl _ := ⟨rfl, rfl, fun _ => rfl⟩
  trans a b c h h' := ⟨h'.quote.trans h.quote, h'.plan.trans h.plan, fun hc => by
    rcases hc with ha | hc
    · obtain rfl := h.confirmed (.inl ha)
      exact h'.confirmed (.inl ha)
    · obtain rfl := h'.confirmed (.inr hc)
      exact h.confirmed (.inr hc)⟩

/-- An application that stays keeps what has been agreed. -/
theorem BnplApplication.Stays.agreed {a a' : BnplApplication} (h : a.Stays a') (ha : a.Agreed) : a'.Agreed := by
  obtain ⟨hcents, hnonneg, hmonths, hterms⟩ := ha
  rw [← h.quote] at hcents hnonneg hterms
  rw [← h.plan] at hmonths hterms
  exact ⟨hcents, hnonneg, hmonths, hterms⟩

/-- An installment keeps what it is over. -/
structure BnplInstallment.SameDue (b b' : BnplInstallment) : Prop where
  applicationId : b'.applicationId = b.applicationId
  sequence : b'.sequence = b.sequence
  amount : b'.amount = b.amount

/-- Being due as before is reflexive and transitive. -/
instance : IsPreorder BnplInstallment BnplInstallment.SameDue where
  refl _ := ⟨rfl, rfl, rfl⟩
  trans _ _ _ h h' := ⟨h'.applicationId.trans h.applicationId, h'.sequence.trans h.sequence,
    h'.amount.trans h.amount⟩

/-- Confirmed applications, and only they, have the installments of their terms and a group that they finance. -/
structure Financing (db : Database) : Prop where
  plans : ∀ i p, (db .bnplPlan).find i = some p → 1 ≤ p.months
  agreed : ∀ i a, (db .bnplApplication).find i = some a → a.Agreed
  rows : ∀ k b, (db .bnplInstallment).find k = some b → ∃ a, (db .bnplApplication).find b.applicationId = some a ∧
    a.status = "CONFIRMED" ∧ ∃ index < a.planSnapshot.months, b.sequence = index + 1 ∧
      b.amount = a.planSnapshot.installment index
  distinct : (db .bnplInstallment).Distinct Checkout.installmentKey
  complete : ∀ i a, (db .bnplApplication).find i = some a → a.status = "CONFIRMED" →
    ∀ index < a.planSnapshot.months, ∃ k b, (db .bnplInstallment).find k = some b ∧ b.applicationId = i ∧
      b.sequence = index + 1
  financed : ∀ i a, (db .bnplApplication).find i = some a → a.status = "CONFIRMED" →
    ∃ j, a.paymentGroupId = some j ∧ FinancedFor db i j a.quoteSnapshot.total
  references : OwnReferences False db

/-- Applications that stay, beside new ones: what is confirmed was confirmed before. -/
theorem confirmed_before {t t' : Table BnplApplication}
    (h : t.Grows BnplApplication.Submitted BnplApplication.Stays t')
    {i : ℕ} {a : BnplApplication} (ha : t'.find i = some a) (hconfirmed : a.status = "CONFIRMED") :
    t.find i = some a := by
  cases hold : t.find i with
  | none =>
    obtain ⟨a₀, hsubmitted, hstays⟩ := h.entered i a ha hold
    obtain rfl := hstays.confirmed (.inr hconfirmed)
    exact absurd hconfirmed hsubmitted.unconfirmed
  | some a₀ =>
    obtain ⟨a', ha', hstays⟩ := h.kept i a₀ hold
    obtain rfl := Option.some.inj (ha.symm.trans ha')
    rw [hstays.confirmed (.inr hconfirmed)]

/-- A step that confirms nothing. -/
theorem Financing.step {db db' : Database} (h : Financing db)
    (hplans : ∀ i p, (db' .bnplPlan).find i = some p → 1 ≤ p.months)
    (happs : (db .bnplApplication).Grows BnplApplication.Submitted BnplApplication.Stays (db' .bnplApplication))
    (hdue : (db .bnplInstallment).Grows (fun _ => False) BnplInstallment.SameDue (db' .bnplInstallment))
    (hlater : (books db).Later (books db')) (href : OwnReferences False db') : Financing db' where
  plans := hplans
  agreed := happs.forall h.agreed (fun _ hs => hs.toAgreed) fun _ _ hstays ha => hstays.agreed ha
  rows k b hb := by
    obtain ⟨b₀, hb₀, hsame⟩ := hdue.back hb
    obtain ⟨a, ha, hconfirmed, index, hindex, hseq, hamount⟩ := h.rows k b₀ hb₀
    obtain ⟨a', ha', hstays⟩ := happs.kept _ a ha
    obtain rfl := hstays.confirmed (.inl hconfirmed)
    rw [hsame.applicationId]
    exact ⟨a', ha', hconfirmed, index, hindex, hsame.sequence.trans hseq, hsame.amount.trans hamount⟩
  distinct := h.distinct.grows hdue fun a b hsame c hc => by
    rw [← hc, Checkout.installmentKey, Checkout.installmentKey, hsame.applicationId, hsame.sequence]
  complete i a ha hconfirmed index hindex := by
    obtain ⟨k, b, hb, happ, hseq⟩ := h.complete i a (confirmed_before happs ha hconfirmed) hconfirmed index hindex
    obtain ⟨b', hb', hsame⟩ := hdue.kept k b hb
    exact ⟨k, b', hb', hsame.applicationId.trans happ, hsame.sequence.trans hseq⟩
  financed i a ha hconfirmed := by
    obtain ⟨j, hj, hfor⟩ := h.financed i a (confirmed_before happs ha hconfirmed) hconfirmed
    exact ⟨j, hj, hfor.later hlater⟩
  references := href

/-- Confirming an application enters its installments, and its group. -/
theorem Financing.confirm (now : ℕ) {db db' : Database} (h : Financing db) {i j : ℕ} {a : BnplApplication}
    (ha : (db .bnplApplication).find i = some a) (happroved : a.status = "APPROVED")
    (happs : db' .bnplApplication = (db .bnplApplication).update i fun a =>
      { a with status := "CONFIRMED", activeCartId := none, paymentGroupId := some j, confirmedAt := some now })
    (hplans : db' .bnplPlan = db .bnplPlan)
    (hinstalled : Checkout.Installed i a.planSnapshot (List.range a.planSnapshot.months) (db .bnplInstallment)
      (db' .bnplInstallment))
    (hfor : FinancedFor db' i j a.quoteSnapshot.total) (hlater : (books db).Later (books db'))
    (href : OwnReferences False db') : Financing db' := by
  have hself : (db' .bnplApplication).find i = some { a with
      status := "CONFIRMED", activeCartId := none, paymentGroupId := some j, confirmedAt := some now } := by
    rw [happs, Table.find_update_self, ha]
    rfl
  have hother {k : ℕ} (hk : k ≠ i) : (db' .bnplApplication).find k = (db .bnplApplication).find k := by
    rw [happs, Table.find_update_of_ne _ _ hk]
  constructor
  · rw [hplans]
    exact h.plans
  · intro k b hb
    by_cases hk : k = i
    · rw [hk, hself] at hb
      obtain rfl := Option.some.inj hb
      obtain ⟨hcents, hnonneg, hmonths, hterms⟩ := h.agreed i a ha
      exact ⟨hcents, hnonneg, hmonths, hterms⟩
    · rw [hother hk] at hb
      exact h.agreed k b hb
  · intro k b hb
    rcases hinstalled.entered k b hb with hold | ⟨happ, index, hindex, hrow⟩
    · obtain ⟨a', ha', hconfirmed, hrow⟩ := h.rows k b hold
      have hne : b.applicationId ≠ i := by
        intro heq
        rw [heq, ha] at ha'
        obtain rfl := Option.some.inj ha'
        rw [happroved] at hconfirmed
        exact absurd hconfirmed (by decide)
      rw [hother hne]
      exact ⟨a', ha', hconfirmed, hrow⟩
    · rw [happ]
      exact ⟨_, hself, rfl, index, List.mem_range.mp hindex, hrow⟩
  · exact hinstalled.distinct h.distinct
  · intro k b hb hconfirmed index hindex
    by_cases hk : k = i
    · rw [hk] at hb ⊢
      obtain rfl := Option.some.inj (hself.symm.trans hb)
      exact hinstalled.complete index (List.mem_range.mpr hindex)
    · rw [hother hk] at hb
      obtain ⟨l, c, hc, hrow⟩ := h.complete k b hb hconfirmed index hindex
      exact ⟨l, c, hinstalled.kept l c hc, hrow⟩
  · intro k b hb hconfirmed
    by_cases hk : k = i
    · rw [hk] at hb ⊢
      obtain rfl := Option.some.inj (hself.symm.trans hb)
      exact ⟨j, rfl, hfor⟩
    · rw [hother hk] at hb
      obtain ⟨l, hl, hfinanced⟩ := h.financed k b hb hconfirmed
      exact ⟨l, hl, hfinanced.later hlater⟩
  · exact href

/-- Confirming an application keeps what is financed. -/
theorem Checkout.confirm_financing (e : Env) (userId id : ℕ) {db : Database} (h : Financing db) :
    wp db (Checkout.confirm e userId id) fun _ db' =>
      (books db).Later (books db') → OwnReferences False db' → Financing db' := by
  rw [confirm, wp_bind, wp_find, wp_bind, wp_orThrow]
  intro app happ
  obtain ⟨hfind, -⟩ := Option.filter_eq_some_iff.mp happ
  split
  · exact (wp_pure _ _ _).mpr fun _ _ => h
  · rw [confirmApplication, wp_bind, wp_require]
    intro happroved
    rw [wp_bind, wp_findOrThrow]
    intro plan _
    rw [wp_bind, wp_require]
    intro _
    rw [wp_bind]
    refine wp_mono (wp_and (createInTransaction_finances e db) (createInTransaction_writes e _ _ _ db))
      fun group db₁ hgroup => ?_
    obtain ⟨hfor, hsame⟩ := hgroup
    rw [wp_bind, wp_update]
    intro _ _
    rw [wp_bind]
    refine wp_mono (wp_and (createInstallments_installed id app.planSnapshot _)
      (createInstallments_only id app.planSnapshot _))
      fun _ db₂ hinstalled => (wp_pure _ _ _).mpr fun hlater href => ?_
    obtain ⟨hinstalled, honly⟩ := hinstalled
    rw [Database.set_of_ne _ _ (by decide), hsame _ (by decide)] at hinstalled
    refine .confirm e.now h hfind happroved ?_ ?_ hinstalled (hfor.congr ?_ ?_) hlater href
    · rw [honly _ (by decide), Database.set_self, hsame _ (by decide)]
    · rw [honly _ (by decide), Database.set_of_ne _ _ (by decide), hsame _ (by decide)]
    · rw [honly _ (by decide), Database.set_of_ne _ _ (by decide)]
    · rw [honly _ (by decide), Database.set_of_ne _ _ (by decide)]

/-! ## Operations -/

/-- Installments keep what they are over, and none is entered. -/
abbrev DueKept (db db' : Database) : Prop :=
  (db .bnplInstallment).Grows (fun _ => False) BnplInstallment.SameDue (db' .bnplInstallment)

/-- Keeping what is due is reflexive and transitive. -/
instance : IsPreorder Database DueKept where
  refl db := .refl (db .bnplInstallment)
  trans _ _ _ := .trans

/-- A transaction that writes no installments keeps what is due. -/
theorem dueKept_of_writes {α : Type} {ns : List TableName} {m : Tx α} (h : Writes ns m)
    (hns : .bnplInstallment ∉ ns) :
    Within DueKept m :=
  .of_writes h fun _ _ hsame => .of_eq (hsame _ hns)

namespace Payments

/-- Completing a repayment keeps what is due. -/
theorem completeBnplRepayment_due (e : Env) (repaymentId : ℕ) :
    Within DueKept (completeBnplRepayment e repaymentId) := by
  refine .bind (.of_reads (.findOrThrow _ _)) fun repayment =>
    .bind (.of_reads (.findOrThrow _ _)) fun installment => ?_
  refine .when (.bind (dueKept_of_writes (.update (List.mem_singleton_self _) _ _) (by decide)) fun _ db => ?_)
  exact grows_update fun b _ => ⟨rfl, rfl, rfl⟩

/-- Settling a repayment keeps what is due. -/
theorem settleRepayment_due (e : Env) (repaymentId p : ℕ) (success : Bool) :
    Within DueKept (settleRepayment e repaymentId p success) := by
  refine .bind (.of_reads (.findOrThrow _ _)) fun _ => .when (.bind ?_ fun _ => ?_)
  · split
    · exact completeBnplRepayment_due e repaymentId
    · exact dueKept_of_writes (.update (List.mem_singleton_self _) _ _) (by decide)
  · exact dueKept_of_writes (.update (List.mem_singleton_self _) _ _) (by decide)

/-- Repaying out of the wallet keeps what is due. -/
theorem repayFromWallet_due (e : Env) (userId installmentId : ℕ) (amount : ℚ) (reference : String) :
    Within DueKept (repayFromWallet e userId installmentId amount reference) := by
  refine .bind (dueKept_of_writes (.updateMany (List.mem_singleton_self _) _ _) (by decide)) fun _ => ?_
  refine .bind (.of_reads (.require _ _)) fun _ => .bind (.of_reads (.first _ _)) fun _ => ?_
  refine .bind (.of_reads (.orThrow _ _)) fun wallet => ?_
  refine .bind (dueKept_of_writes (.createUnique (List.mem_singleton_self _) _ _) (by decide)) fun _ => ?_
  refine .bind (dueKept_of_writes (.createUnique (List.mem_singleton_self _) _ _) (by decide)) fun repaymentId => ?_
  exact .bind (completeBnplRepayment_due e repaymentId) fun _ => .pure _

end Payments

/-- Every operation keeps what is financed. -/
theorem exec_financing {α : Type} (op : Op α) (e : Env) {w : World} (h : Financing w.db)
    (hlater : (books w.db).Later (books (op.exec e w).2.db)) : Financing (op.exec e w).2.db := by
  have href : OwnReferences False (op.exec e w).2.db := exec_references op e h.references False.elim
  have hplans : (op.exec e w).2.db .bnplPlan = w.db .bnplPlan := by
    refine exec_frame op e w _ ?_
    cases op <;> (dsimp only [Op.writes]; decide)
  have hstep (happs : (op.exec e w).2.db .bnplApplication = w.db .bnplApplication)
      (hdue : DueKept w.db (op.exec e w).2.db) : Financing (op.exec e w).2.db := by
    refine h.step ?_ (.of_eq happs) hdue hlater href
    rw [hplans]
    exact h.plans
  by_cases happs : TableName.bnplApplication ∈ op.writes
  · cases op <;> dsimp only [Op.writes] at happs <;>
      first | exact absurd happs (by decide) | clear happs
    case confirmFinancing userId id =>
      have hop : (Op.confirmFinancing userId id).transaction = some fun e => Checkout.confirm e userId id := rfl
      exact exec_transaction hop
        (Φ := fun w' => (books w.db).Later (books w'.db) → OwnReferences False w'.db → Financing w'.db)
        (fun _ _ => h) (Checkout.confirm_financing e userId id h) hlater href
  · refine hstep (exec_frame op e w _ happs) ?_
    by_cases hdue : TableName.bnplInstallment ∈ op.writes
    · have hkept {α : Type} {op : Op α} {m : Env → Tx α} (hop : op.transaction = some m)
        (hm : Within DueKept (m e)) :
          DueKept w.db (op.exec e w).2.db :=
        exec_transaction hop (Φ := fun w' => DueKept w.db w'.db) (refl_of _ _) (hm w.db)
      cases op <;> dsimp only [Op.writes] at happs hdue <;>
        first | exact absurd hdue (by decide) | exact absurd (by decide) happs | clear hdue happs
      case settleRepayment => exact hkept rfl (Payments.settleRepayment_due e _ _ _)
      case repayFromWallet => exact hkept rfl (Payments.repayFromWallet_due e _ _ _ _)
    · exact .of_eq (exec_frame op e w _ hdue)

/-! ## Applications before they are confirmed -/

/-- What a quote comes to, in whole cents and not less than nothing. -/
theorem quote_total {now userId : ℕ} {input : CreateCheckoutDto} {db : Database} {q : Quote}
    (h : Checkout.quote now userId input db = .ok q) : Cents q.total ∧ 0 ≤ q.total := by
  obtain ⟨⟨p, -, hconsistent⟩, -⟩ := Checkout.quote_consistent h
  rw [← hconsistent.sum, Checkout.sumOrders]
  constructor
  · refine Cents.sum fun x hx => ?_
    obtain ⟨o, ho, rfl⟩ := List.mem_map.mp hx
    exact (hconsistent.cents o ho).2.2.2.2
  · refine List.sum_nonneg fun x hx => ?_
    obtain ⟨o, ho, rfl⟩ := List.mem_map.mp hx
    exact hconsistent.nonneg o ho

/-- An application is submitted with the terms of its price. -/
theorem Bnpl.Call.submits (call : Bnpl.Call) (e : Env) {db : Database}
    (hplans : ∀ i p, (db .bnplPlan).find i = some p → 1 ≤ p.months) :
    wp db (call.transaction e) fun _ db' =>
      (db .bnplApplication).Grows BnplApplication.Submitted BnplApplication.Stays (db' .bnplApplication) := by
  cases call with
  | apply userId dto =>
    rw [Bnpl.Call.transaction, wp_bind]
    refine (Cart.lock_writes userId).before fun _ db₁ hsame => ?_
    have happs : db₁ .bnplApplication = db .bnplApplication := hsame _ (by decide)
    rw [wp_bind, wp_first, wp_bind, wp_require]
    intro _
    rw [wp_bind, wp_first, wp_bind, wp_require]
    intro _
    rw [wp_bind, wp_first, wp_bind, wp_orThrow]
    intro plan hplan
    rw [wp_bind, wp_query, wp_bind, wp_ofExcept]
    intro q hq
    rw [wp_bind, wp_ofExcept]
    intro terms hterms
    rw [wp_createUnique]
    intro _
    rw [wp_pure, Database.set_self, happs]
    have hmonths : 1 ≤ plan.2.months := by
      obtain ⟨hfind, -⟩ := Table.find_of_first hplan
      rw [hsame _ (by decide)] at hfind
      exact hplans _ _ hfind
    obtain ⟨hcents, hnonneg⟩ := quote_total hq
    obtain ⟨terms', hterms', -, hsame', -⟩ :=
      Bnpl.installmentTerms_spec plan.2.interestRate hcents hnonneg hmonths
    obtain rfl := Except.ok.inj (hterms'.symm.trans hterms)
    have hrate : terms'.interestRate = plan.2.interestRate := by
      simp only [installmentTerms, bind_eq_ok] at hterms
      obtain ⟨_, -, hterms⟩ := hterms
      rw [← Except.ok.inj hterms]
    refine .create _ ⟨⟨hcents, hnonneg, ?_, ?_⟩, ?_⟩
    · exact hsame'.symm ▸ hmonths
    · change installmentTerms q.total terms'.months terms'.interestRate = .ok terms'
      rw [hsame', hrate]
      exact hterms
    · exact show ("PENDING_REVIEW" : String) ≠ "CONFIRMED" by decide
  | cancel userId id =>
    rw [Bnpl.Call.transaction, Bnpl.cancel, wp_bind, wp_find, wp_bind, wp_orThrow]
    intro app happ
    obtain ⟨hfind, -⟩ := Option.filter_eq_some_iff.mp happ
    rw [wp_bind, wp_require]
    intro hopen
    refine grows_update fun a ha => ⟨rfl, rfl, fun hconfirmed => ?_⟩
    obtain rfl := Option.some.inj (hfind.symm.trans ha)
    rcases hconfirmed with hconfirmed | hconfirmed
    · rw [hconfirmed] at hopen
      exact absurd hopen (by decide)
    · have h : "CANCELLED" = "CONFIRMED" := hconfirmed
      exact absurd h (by decide)
  | review staffEmail id approved =>
    rw [Bnpl.Call.transaction, Bnpl.review, wp_bind, wp_find, wp_bind, wp_orThrow]
    intro app hfind
    rw [wp_bind, wp_require]
    intro hopen
    rw [wp_bind, wp_findOrThrow]
    intro user _
    rw [wp_bind, wp_require]
    intro _
    refine grows_update fun a ha => ⟨rfl, rfl, fun hconfirmed => ?_⟩
    obtain rfl := Option.some.inj (hfind.symm.trans ha)
    rcases hconfirmed with hconfirmed | hconfirmed
    · rw [hconfirmed] at hopen
      exact absurd hopen (by decide)
    · cases approved with
      | true => exact absurd (show ("APPROVED" : String) = "CONFIRMED" from hconfirmed) (by decide)
      | false => exact absurd (show ("REJECTED" : String) = "CONFIRMED" from hconfirmed) (by decide)

/-! ## Runs -/

/-- Applications and installments are as they were, and plans still run for a month at least. -/
structure TermsKept (db db' : Database) : Prop where
  applications : db' .bnplApplication = db .bnplApplication
  installments : db' .bnplInstallment = db .bnplInstallment
  plans : (∀ i p, (db .bnplPlan).find i = some p → 1 ≤ p.months) →
    ∀ i p, (db' .bnplPlan).find i = some p → 1 ≤ p.months

/-- One call about an application. -/
def ApplicationStep (w w' : World) : Prop :=
  ∃ (call : Bnpl.Call) (e : Env), call.transaction e w.db = .ok ((), w'.db) ∧ w'.paystack = w.paystack

/-- The store, while customers apply for financing, staff review the applications, and other code changes carts,
prices and plans. -/
def lending : System Op Error World Env :=
  { store with background := fun w w' => OtherChange w w' ∧ TermsKept w.db w'.db ∨ ApplicationStep w w' }

/-- A call about an application leaves what the requests of the store own. -/
theorem ApplicationStep.other {w w' : World} (h : ApplicationStep w w') : OtherChange w w' := by
  obtain ⟨call, e, hok, hpaystack⟩ := h
  have hsame {n : TableName} (hn : n ∉ TableName.bnplApplication :: Cart.tables) : w'.db n = w.db n :=
    call.writes e w.db () w'.db hok n hn
  have hstock : w'.db .storeProduct = w.db .storeProduct := hsame (by decide)
  exact
    { owned := fun n hn => by
        simp only [ownedTables, List.mem_cons, List.not_mem_nil, or_false] at hn
        rcases hn with rfl | rfl | rfl | rfl | rfl <;> exact hsame (by decide)
      ledger := fun i t ht => by
        rw [hsame (by decide)]
        exact ht
      stock := fun i p hp => ⟨p, by rw [hstock]; exact hp, rfl⟩
      offered := fun i p hp hnone => by
        rw [hstock, hnone] at hp
        cases hp
      charged := by rw [hpaystack]
      refunds := by
        rw [hpaystack]
        exact List.forall₂_same.mpr fun _ _ => .inl rfl }

/-- The contract of the books, with what is financed. -/
def financingBooks : Contract Op World Env where
  inv w := Consistent (books w.db) ∧ Financing w.db
  guar w w' := (books w.db).Later (books w'.db)
  known op w := op.Legitimate False (books w.db)
  allowed _ _ _ := True
  refl := booksLater_refl
  trans := booksLater_trans

/-- Every operation keeps the books and what is financed. -/
theorem financingBooks_safe {α : Type} (op : Op α) : financingBooks.Safe machine op := by
  intro e w hinv hlegit _
  obtain ⟨hB, hfinancing⟩ := hinv
  obtain ⟨hB', hlater⟩ := bookkeeping_safe op e w hB hlegit fun h => h.elim
  exact ⟨⟨hB', exec_financing op e hfinancing hlater⟩, hlater⟩

/-- The requests of the lender keep the books and what is financed. -/
theorem financingBooks_holds : financingBooks.Holds lending where
  starts {p} hp w _ := by
    have hbooks : (bookkeeping False).Ready machine p w := hp.books
    exact hbooks.strengthen (fun _ h => h.1) (fun _ _ h => h) (fun _ _ _ _ h => h.elim) fun _ _ h => h
  performs op := financingBooks_safe op
  background {w w'} h hinv := by
    have hbooks : (bookkeeping False).Holds store := bookkeeping_holds
    have hother : OtherChange w w' := h.elim (·.1) (·.other)
    obtain ⟨hB', hlater⟩ := hbooks.background hother hinv.1
    have href : OwnReferences False w'.db := hinv.2.references.congr (hother.owned _ (by decide))
    refine ⟨⟨hB', ?_⟩, hlater⟩
    rcases h with ⟨-, hkept⟩ | ⟨call, e, hok, -⟩
    · exact hinv.2.step (hkept.plans hinv.2.plans) (.of_eq hkept.applications)
        (.of_eq hkept.installments) hlater href
    · have hsame {n : TableName} (hn : n ∉ TableName.bnplApplication :: Cart.tables) : w'.db n = w.db n :=
        call.writes e w.db () w'.db hok n hn
      refine hinv.2.step ?_ (call.submits e hinv.2.plans () w'.db hok) (.of_eq (hsame (by decide))) hlater href
      rw [hsame (by decide)]
      exact hinv.2.plans

/-- A store in which nobody has applied for financing, and whose plans run for a month at least. -/
structure Unfinanced (w : World) : Prop where
  fresh : Fresh w
  applications : ∀ i, (w.db .bnplApplication).find i = none
  installments : ∀ k, (w.db .bnplInstallment).find k = none
  plans : ∀ i p, (w.db .bnplPlan).find i = some p → 1 ≤ p.months

/-- Before the first application nothing is financed. -/
theorem Unfinanced.financing {w : World} (h : Unfinanced w) : Financing w.db where
  plans := h.plans
  agreed i a ha := by
    rw [h.applications i] at ha
    cases ha
  rows k b hb := by
    rw [h.installments k] at hb
    cases hb
  distinct := .of_empty h.installments
  complete i a ha := by
    rw [h.applications i] at ha
    cases ha
  financed i a ha := by
    rw [h.applications i] at ha
    cases ha
  references := ⟨.of_empty (h.fresh .payment (by decide)), False.elim⟩

/-- A confirmed application: its installments are those of the approved terms, one for each month, they come to
what is payable, and the one group that it finances costs the principal. -/
structure FinancedExactly (db : Database) (i : ℕ) (a : BnplApplication) : Prop where
  terms : installmentTerms a.quoteSnapshot.total a.planSnapshot.months a.planSnapshot.interestRate =
    .ok a.planSnapshot.toInstallmentTerms
  sequence : ∀ s, (∃ k b, (db .bnplInstallment).find k = some b ∧ b.applicationId = i ∧ b.sequence = s) ↔
    1 ≤ s ∧ s ≤ a.planSnapshot.months
  once : ∀ k l b b', (db .bnplInstallment).find k = some b → (db .bnplInstallment).find l = some b' →
    b.applicationId = i → b'.applicationId = i → b.sequence = b'.sequence → k = l
  sum : ((db .bnplInstallment).total fun _ b => if b.applicationId == i then b.amount else 0) =
    a.planSnapshot.totalPayable
  group : ∃ j, a.paymentGroupId = some j ∧ FinancedFor db i j a.planSnapshot.principal ∧
    ∀ l total, FinancedFor db i l total → l = j

/-- Two groups that are financed by one application are the same. -/
theorem FinancedFor.unique {db : Database} (hB : Consistent (books db)) (href : OwnReferences False db) {i j l : ℕ}
    {total total' : ℚ} (h : FinancedFor db i j total) (h' : FinancedFor db i l total') : l = j := by
  obtain ⟨g, p, r, hg, -, hlinked, hr, hreference⟩ := h
  obtain ⟨g', p', r', hg', -, hlinked', hr', hreference'⟩ := h'
  obtain rfl := href.distinct p p' r r' _ hr hr' hreference hreference'
  exact hB.payer_unique l _ j _ p (books_group hg').1 (books_group hg).1 hlinked' hlinked

/-- What is financed is financed exactly. -/
theorem Financing.exactly {db : Database} (h : Financing db) (hB : Consistent (books db)) {i : ℕ}
    {a : BnplApplication} (ha : (db .bnplApplication).find i = some a) (hconfirmed : a.status = "CONFIRMED") :
    FinancedExactly db i a := by
  obtain ⟨hcents, hnonneg, hmonths, hterms⟩ := h.agreed i a ha
  obtain ⟨terms, hspec, hprincipal, -, hsum, -⟩ :=
    installmentTerms_spec a.planSnapshot.interestRate hcents hnonneg hmonths
  obtain rfl := Except.ok.inj (hspec.symm.trans hterms)
  have hrow {k : ℕ} {b : BnplInstallment} (hb : (db .bnplInstallment).find k = some b)
      (happ : b.applicationId = i) :
      ∃ index < a.planSnapshot.months, b.sequence = index + 1 ∧ b.amount = a.planSnapshot.installment index := by
    obtain ⟨a', ha', -, hrow⟩ := h.rows k b hb
    rw [happ, ha] at ha'
    obtain rfl := Option.some.inj ha'
    exact hrow
  have honce (k l : ℕ) (b b' : BnplInstallment) (hb : (db .bnplInstallment).find k = some b)
      (hb' : (db .bnplInstallment).find l = some b') (happ : b.applicationId = i) (happ' : b'.applicationId = i)
      (hseq : b.sequence = b'.sequence) : k = l := by
    refine h.distinct k l b b' (i, b.sequence) hb hb' ?_ ?_
    · rw [Checkout.installmentKey, happ]
    · rw [Checkout.installmentKey, happ', hseq]
  constructor
  · exact hterms
  · intro s
    constructor
    · rintro ⟨k, b, hb, happ, rfl⟩
      obtain ⟨index, hindex, hseq, -⟩ := hrow hb happ
      omega
    · intro hs
      obtain ⟨k, b, hb, happ, hseq⟩ := h.complete i a ha hconfirmed (s - 1) (by omega)
      exact ⟨k, b, hb, happ, by omega⟩
  · exact honce
  · have hterm : ∀ k b, (db .bnplInstallment).find k = some b → (if b.applicationId == i then b.amount else 0) =
        if b.applicationId == i then a.planSnapshot.installment (b.sequence - 1) else 0 := by
      intro k b hb
      by_cases happ : b.applicationId = i
      · obtain ⟨index, -, hseq, hamount⟩ := hrow hb happ
        rw [happ, beq_self_eq_true, if_pos rfl, if_pos rfl, hamount, hseq, Nat.add_sub_cancel]
      · rw [if_neg (by simpa using happ), if_neg (by simpa using happ)]
    have hrange : ((db .bnplInstallment).total fun _ b =>
        if b.applicationId == i then a.planSnapshot.installment (b.sequence - 1) else 0) =
        ((List.range a.planSnapshot.months).map a.planSnapshot.installment).sum := by
      refine Table.total_eq ?_ ?_ List.nodup_range ?_
      · intro k b hb happ
        obtain ⟨index, hindex, hseq, -⟩ := hrow hb (beq_iff_eq.mp happ)
        rw [hseq, Nat.add_sub_cancel]
        exact List.mem_range.mpr hindex
      · intro k b l c hb happ hc happ' hseq
        obtain ⟨index, -, hindex, -⟩ := hrow hb (beq_iff_eq.mp happ)
        obtain ⟨index', -, hindex', -⟩ := hrow hc (beq_iff_eq.mp happ')
        exact honce k l b c hb hc (beq_iff_eq.mp happ) (beq_iff_eq.mp happ') (by omega)
      · intro index hindex
        obtain ⟨k, b, hb, happ, hseq⟩ := h.complete i a ha hconfirmed index (List.mem_range.mp hindex)
        exact ⟨k, b, hb, beq_iff_eq.mpr happ, by omega⟩
    rw [Table.total_congr hterm, hrange]
    exact Checkout.sum_installments hmonths hsum
  · obtain ⟨j, hj, hfor⟩ := h.financed i a ha hconfirmed
    refine ⟨j, hj, ?_, fun l total hl => hfor.unique hB h.references hl⟩
    rw [hprincipal]
    exact hfor

/-- The terms of a financing are exact: for every principal in whole cents the installments add up to what is
payable, and the last one is the largest, by less than a cent for each month. In every run, whatever happens to
carts, prices and plans after an application, and however often it is confirmed, a confirmed one is financed
exactly. -/
theorem bnpl_terms_exact {w : World} (hw : Unfinanced w) {c : Config Op Error World}
    (hrun : lending.Run System.anyOp ⟨w, []⟩ c) :
    (∀ (principal : ℚ) (months : ℕ) (rate : ℚ), Cents principal → 0 ≤ principal → 1 ≤ months → 0 ≤ rate →
      ∃ terms, installmentTerms principal months rate = .ok terms ∧
        terms.monthlyAmount * (months - 1) + terms.finalInstallment = terms.totalPayable ∧
        terms.monthlyAmount ≤ terms.finalInstallment ∧
        terms.finalInstallment < terms.monthlyAmount + 1 / 100 * months) ∧
    ∀ i a, (c.world.db .bnplApplication).find i = some a → a.status = "CONFIRMED" →
      FinancedExactly c.world.db i a := by
  constructor
  · intro principal months rate hcents hnonneg hmonths _
    obtain ⟨terms, hterms, -, -, hspec⟩ := installmentTerms_spec rate hcents hnonneg hmonths
    exact ⟨terms, hterms, hspec⟩
  · intro i a ha hconfirmed
    have hsound : financingBooks.Sound lending ⟨w, []⟩ := ⟨⟨hw.fresh.consistent, hw.financing⟩, by simp⟩
    obtain ⟨⟨hinv, -⟩, -⟩ := financingBooks_holds.run hsound hrun
    exact hinv.2.exactly hinv.1 ha hconfirmed

/-! ## A financed pickup -/

/-- A shop that offers a plan of three months. -/
def lendingShop : World where
  db := shop.db.set .bnplPlan (Table.empty.create
    { provider := "easybuy", label := "Easybuy", months := 3, interestRate := 10, isActive := true })

/-- The customer applies for the financing of the cart. -/
def pickupApplication : Bnpl.Call :=
  .apply 1
    { cartId := 1, deliveryMethod := .storePickup, pickupStationId := some 1, provider := "easybuy", planId := 1 }

/-- What a call leaves of the shop, if it succeeds. -/
def Bnpl.Call.after (call : Bnpl.Call) (w : World) : World :=
  match call.transaction { now := 1 } w.db with
  | .ok r => { w with db := r.2 }
  | .error _ => w

/-- The shop with an application that has been approved. -/
def approvedShop : World := (Bnpl.Call.review "s@x" 1 true).after (pickupApplication.after lendingShop)

/-- The application is confirmed, twice. -/
def confirmedTwice : List (ℕ × Env) :=
  (List.range 4).map fun k => (k / 2, { now := 2, orderNumber := fun _ => "A-1" })

/-- A call that succeeds is a step. -/
theorem Bnpl.Call.after_step {call : Bnpl.Call} {w : World}
    (h : (call.transaction { now := 1 } w.db).toBool) : ApplicationStep w (call.after w) := by
  unfold after
  split
  · next r hr => exact ⟨call, _, hr, rfl⟩
  · next hr =>
      rw [hr] at h
      cases h

/-- The customer confirms the application twice. -/
def confirmations : List (Request Unit) := [discard (Checkout.confirmBnpl 1 1), discard (Checkout.confirmBnpl 1 1)]

/-- The shop after both confirmations. -/
def financed : Config Op Error World := lending.follow ⟨approvedShop, confirmations⟩ confirmedTwice

/-- The shop of the example has financed nothing. -/
theorem unfinanced_lendingShop : Unfinanced lendingShop where
  fresh n hn i := by
    simp only [ownedTables, List.mem_cons, List.not_mem_nil, or_false] at hn
    rcases hn with rfl | rfl | rfl | rfl | rfl <;> rfl
  applications _ := rfl
  installments _ := rfl
  plans i p hp := by
    rcases Ledger.find_of_create (t := Table.empty) hp with ⟨-, rfl⟩ | hold
    · exact show 1 ≤ 3 by decide
    · cases hold

/-- The purchase of the example is a run. -/
theorem financed_run : lending.Run System.anyOp ⟨lendingShop, []⟩ financed := by
  have happlied : lending.Step System.anyOp ⟨lendingShop, []⟩ ⟨pickupApplication.after lendingShop, []⟩ :=
    .background (.inr (Call.after_step (by decide +kernel)))
  have hreviewed : lending.Step System.anyOp ⟨pickupApplication.after lendingShop, []⟩ ⟨approvedShop, []⟩ :=
    .background (.inr (Call.after_step (by decide +kernel)))
  have hstarts : ∀ p ∈ confirmations, lending.starts p := by
    intro p hp
    rcases List.mem_pair.mp hp with rfl | rfl
    · exact .payment (.confirmBnpl 1 1)
    · exact .payment (.confirmBnpl 1 1)
  exact ((Relation.ReflTransGen.single happlied).tail hreviewed).trans (lending.schedule_run hstarts confirmedTwice)

/-- The three installments of the confirmed application come to 55. -/
theorem bnpl_terms_exact_financed :
    ∃ a, (financed.world.db .bnplApplication).find 1 = some a ∧ FinancedExactly financed.world.db 1 a ∧
      ((financed.world.db .bnplInstallment).total fun _ b =>
        if b.applicationId == 1 then b.amount else 0) = 55 := by
  have hvalues : ((financed.world.db .bnplApplication).find 1).map
      (fun a => (a.status, a.planSnapshot.totalPayable)) = some ("CONFIRMED", 55) := by decide +kernel
  obtain ⟨a, ha, hstatus⟩ := Option.map_eq_some_iff.mp hvalues
  obtain ⟨hconfirmed, htotal⟩ := Prod.mk.inj hstatus
  have hexact := (bnpl_terms_exact unfinanced_lendingShop financed_run).2 1 a ha hconfirmed
  exact ⟨a, ha, hexact, hexact.sum.trans htotal⟩

end Superstore

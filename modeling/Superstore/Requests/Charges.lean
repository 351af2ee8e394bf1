import Superstore.Books.Requests
import Superstore.Requests.Lifecycle

/-!
# Charges and the payments they are for

Paystack is asked to start a payment under a reference that a payment has been entered with, for
its amount; a checkout is charged for under the payment that its group is linked to. The payment
keeps its reference and its amount, and what Paystack has answered to its start is kept by every
statement but the one that gives a claim back.
-/

namespace Superstore

open Interleaving Relational Relational.Tx Contract
open Payments (MaySettle Started)

variable {kept only : Prop}

/-- What stays of a payment: what it is for, and what has been answered to its start. -/
structure Payment.Stays (kept : Prop) (p q : Payment) : Prop where
  amount : q.amount = p.amount
  paymentMethod : q.paymentMethod = p.paymentMethod
  provider : q.provider = p.provider
  transactionRef : q.transactionRef = p.transactionRef
  paymentUrl : p.paymentUrl.isSome → q.paymentUrl.isSome
  transfer : kept → p.metadata.transferInstructions.isSome → q.metadata.transferInstructions.isSome

/-- Staying the same payment is reflexive and transitive. -/
instance : IsPreorder Payment (Payment.Stays kept) where
  refl _ := ⟨rfl, rfl, rfl, rfl, id, fun _ => id⟩
  trans _ _ _ h h' :=
    ⟨h'.amount.trans h.amount, h'.paymentMethod.trans h.paymentMethod, h'.provider.trans h.provider,
      h'.transactionRef.trans h.transactionRef, h'.paymentUrl ∘ h.paymentUrl,
      fun hk => h'.transfer hk ∘ h.transfer hk⟩

/-- Transfer accounts belong to transfers, and Klump is a method of its own. -/
structure Payment.Sound (p : Payment) : Prop where
  reference : p.transactionRef.isSome
  transfer : p.metadata.transferInstructions.isSome → p.paymentMethod = .bankTransfer
  klump : p.provider = .klump → p.paymentMethod = .klumpBnpl

/-- A payment is sound when it is entered. -/
theorem Payment.Entered.sound {p : Payment} (h : p.Entered) : p.Sound where
  reference := h.reference
  transfer ht := by
    rw [h.uninstructed] at ht
    cases ht
  klump := h.klump

/-- No transfer account is stored for a payment that is made in another way. -/
theorem Payment.Sound.uninstructed {p : Payment} (h : p.Sound) (hm : p.paymentMethod ≠ .bankTransfer) :
    p.metadata.transferInstructions = none :=
  Option.not_isSome_iff_eq_none.mp fun hsome => hm (h.transfer hsome)

/-- A payment stays, and is sound if it was. -/
def Payment.Keeps (kept : Prop) (p q : Payment) : Prop := p.Stays kept q ∧ (p.Sound → q.Sound)

/-- Staying the same and sound is reflexive and transitive. -/
instance : IsPreorder Payment (Payment.Keeps kept) where
  refl p := ⟨refl_of _ p, id⟩
  trans _ _ _ h h' := ⟨trans_of _ h.1 h'.1, h'.2 ∘ h.2⟩

/-- An outcome leaves a payment as it is otherwise. -/
theorem Payment.Settles.keeps {S : PaymentStatus → Prop} {p q : Payment} (h : p.Settles S q) : p.Keeps kept q := by
  obtain ⟨s, t, f, -, rfl⟩ := h
  exact ⟨⟨rfl, rfl, rfl, rfl, id, fun _ => id⟩, fun hp => ⟨hp.reference, hp.transfer, hp.klump⟩⟩

/-- The metadata of a payment may be forgotten where no transfer account has been stored, or where
none has to be kept. -/
theorem Payment.keeps_of_none {p q : Payment} (hnone : kept → p.metadata.transferInstructions = none)
    (hnone' : q.metadata.transferInstructions = none) (hamount : q.amount = p.amount)
    (hmethod : q.paymentMethod = p.paymentMethod) (hprovider : q.provider = p.provider)
    (href : q.transactionRef = p.transactionRef) (hurl : p.paymentUrl.isSome → q.paymentUrl.isSome) :
    p.Keeps kept q := by
  refine ⟨⟨hamount, hmethod, hprovider, href, hurl, fun hk h => ?_⟩, fun hp => ⟨?_, fun h => ?_, fun h => ?_⟩⟩
  · rw [hnone hk] at h
    cases h
  · rw [href]
    exact hp.reference
  · rw [hnone'] at h
    cases h
  · rw [hmethod]
    exact hp.klump (hprovider.symm.trans h)

namespace Payments

/-- The statement that records a start goes with the method of the payment. -/
def PaymentUpdate.Fits : PaymentUpdate → PaymentMethod → Prop
  | .transferInstructions _ _, m | .topupInstructions _ _ _, m => m = .bankTransfer
  | .paymentUrl _ _, m | .topupUrl _ _ _, m => m ≠ .bankTransfer
  | .clearMetadata, _ | .failTopup _, _ => True

/-- A statement that goes with the method of a payment keeps it, unless it gives a claim back that
has been answered. -/
theorem PaymentUpdate.Fits.keeps {u : PaymentUpdate} {p : Payment} (h : u.Fits p.paymentMethod) (hp : p.Sound)
    (hclear : kept → u = .clearMetadata → p.metadata.transferInstructions = none) :
    p.Keeps kept (u.apply p) := by
  cases u with
  | transferInstructions reference t =>
    exact ⟨⟨rfl, rfl, rfl, rfl, id, fun _ _ => rfl⟩, fun _ => ⟨hp.reference, fun _ => h, hp.klump⟩⟩
  | topupInstructions userId reference t =>
    exact ⟨⟨rfl, rfl, rfl, rfl, id, fun _ _ => rfl⟩, fun _ => ⟨hp.reference, fun _ => h, hp.klump⟩⟩
  | paymentUrl reference url =>
    exact Payment.keeps_of_none (fun _ => hp.uninstructed h) rfl rfl rfl rfl rfl fun _ => rfl
  | topupUrl userId reference url =>
    exact Payment.keeps_of_none (fun _ => hp.uninstructed h) rfl rfl rfl rfl rfl fun _ => rfl
  | clearMetadata => exact Payment.keeps_of_none (fun hk => hclear hk rfl) rfl rfl rfl rfl rfl id
  | failTopup reason => exact Payment.Settles.keeps (S := fun _ => True) ⟨_, _, _, trivial, rfl⟩

end Payments

/-! ## The contract -/

/-- A charge is for a payment that has been entered with its reference and amount, and through
Paystack if it has to be; a charge for a checkout is for the payment of its group. -/
def Recorded (only : Prop) (db : Database) (c : Charge) : Prop :=
  ∃ p q, (db .payment).find p = some q ∧ q.transactionRef = some c.reference ∧ q.amount = c.amount ∧
    (only → q.provider = .paystack) ∧
    ∀ i, c.metadata.paymentGroupId = some i →
      ∃ g, (db .checkoutPaymentGroup).find i = some g ∧ g.paymentId = some p

/-- A payment that is claimed through the group it is linked to is one through Paystack, or has been
started; a claim that is refused does not count. -/
def Op.claimsPaystack : {α : Type} → Op α → Env → Database → Bool
  | _, .claimInitialization userId groupId, e, db =>
    !Payments.startable userId groupId db ||
      ((((db .checkoutPaymentGroup).find groupId).bind (·.paymentId)).bind (db .payment).find).all
      fun p => p.provider == .paystack || decide (Started e.now p)
  | _, _, _, _ => true

/-- A claim is not given back for a payment whose transfer account has been stored. -/
def Op.sparesInstructions : {α : Type} → Op α → Database → Bool
  | _, .updatePayment id .clearMetadata, db =>
    ((db .payment).find id).all (·.metadata.transferInstructions.isNone)
  | _, _, _ => true

/-- What an operation relies on about the payment that it starts. -/
def Op.Grounded (only : Prop) : {α : Type} → Op α → Database → Prop
  | _, .initializeTransaction asked, db | _, .createBankTransferCharge asked, db =>
    asked.kind ≠ .repaymentCharge → Recorded only db asked
  | _, .updatePayment id u, db =>
    u.kind = .topupFailure ∨ ∃ r, (db .payment).find id = some r ∧ u.Fits r.paymentMethod
  | _, .createPayment payment, _ => payment.Entered
  | _, _, _ => True

/-- What holds of payments and charges in every state. -/
structure ChargesSound (only : Prop) (w : World) : Prop where
  sound : ∀ p r, (w.db .payment).find p = some r → r.Sound
  klump : ∀ k t, (w.db .klumpTransaction).find k = some t →
    ∃ r, (w.db .payment).find t.paymentId = some r ∧ r.provider = .klump
  charged : ∀ c ∈ w.paystack.charged, c.kind ≠ .repaymentCharge → Recorded only w.db c

/-- The contract of charges, which relies on the books. -/
def charging (kept only : Prop) : Contract Op World Env where
  inv := ChargesSound only
  guar w w' := (books w.db).Later (books w'.db) ∧ (w.db .payment).Evolves (Payment.Stays kept) (w'.db .payment)
  known op w := op.Grounded only w.db
  allowed op e w := e.fails ∨ (kept → op.sparesInstructions w.db) ∧ (only → op.claimsPaystack e w.db)
  refl _ := ⟨.refl _, .refl _⟩
  trans h h' := ⟨h.1.trans h'.1, h.2.trans h'.2⟩

/-! ## Facts that stay -/

/-- A charge that has been recorded stays so. -/
theorem Recorded.later {w w' : World} {c : Charge} (h : Recorded only w.db c)
    (hlater : (charging kept only).guar w w') : Recorded only w'.db c := by
  obtain ⟨p, q, hq, href, hamount, hpaystack, hgroup⟩ := h
  obtain ⟨q', hq', hstays⟩ := hlater.2 p q hq
  refine ⟨p, q', hq', hstays.transactionRef.trans href, hstays.amount.trans hamount,
    fun ho => hstays.provider.trans (hpaystack ho), fun i hi => ?_⟩
  obtain ⟨g, hg, hlinked⟩ := hgroup i hi
  obtain ⟨g', hg', hl⟩ := hlater.1.group i _ (books_group hg).1
  obtain ⟨g'', hg'', rfl⟩ := find_of_books_group hg'
  exact ⟨g'', hg'', hl.paymentId p hlinked⟩

/-! ## Operations -/

/-- Every operation changes payments as far as the contract allows. -/
theorem Op.Grounded.mayChange {α : Type} {op : Op α} {e : Env} {w : World} (h : op.Grounded only w.db)
    (hlegit : op.Legitimate False (books w.db)) (hinv : ChargesSound only w)
    (hspares : kept → op.sparesInstructions w.db) : op.MayChange (Payment.Keeps kept) e w.db := by
  have hsettle {S : PaymentStatus → Prop} (p : ℕ) : MaySettle S (Payment.Keeps kept) w.db p :=
    fun _ _ _ hs => hs.keeps
  cases op <;> try exact trivial
  case claimInitialization userId groupId =>
    intro p _ r _ hstarted
    have hnone : r.metadata.transferInstructions = none :=
      Option.not_isSome_iff_eq_none.mp fun hsome => hstarted (.inr (.inl hsome))
    exact Payment.keeps_of_none (fun _ => hnone) rfl rfl rfl rfl rfl id
  case updatePayment id u =>
    intro r hr
    rcases h with hfailure | ⟨r', hr', hfits⟩
    · cases u <;> first | exact Payment.Settles.keeps (S := fun _ => True) ⟨_, _, _, trivial, rfl⟩ | cases hfailure
    · obtain rfl := Option.some.inj (hr.symm.trans hr')
      refine hfits.keeps (hinv.sound id r hr) fun hk hu => ?_
      subst hu
      have hspares := hspares hk
      rw [Op.sparesInstructions, hr] at hspares
      exact Option.isNone_iff_eq_none.mp hspares
  case finalizePayment => exact hsettle _
  case cancelGroup => exact fun p _ => hsettle p
  case settleRepayment => exact hsettle _
  case creditTopup => exact hsettle _
  case createPayment => exact h
  case creditFunding => exact hsettle _
  case writeRefundStatus => exact hsettle _
  case completeKlump id transaction reference =>
    intro r hr _
    obtain ⟨k, hk⟩ := hlegit
    obtain ⟨t, ht, hterms⟩ := Option.map_eq_some_iff.mp hk
    obtain ⟨r', hr', hprovider⟩ := hinv.klump k t ht
    have hsame : t.paymentId = transaction.paymentId := congrArg KlumpTerms.paymentId hterms
    obtain rfl := Option.some.inj (hr.symm.trans (hsame ▸ hr'))
    have hsound := hinv.sound _ r hr
    have hmethod : r.paymentMethod ≠ .bankTransfer := by
      rw [hsound.klump hprovider]
      exact PaymentMethod.noConfusion
    exact Payment.keeps_of_none (fun _ => hsound.uninstructed hmethod) rfl rfl rfl rfl rfl fun hurl => hurl
  case cancelOrder => exact fun p _ => hsettle p

namespace Klump

/-- The payment of a new Klump transaction is one through Klump. -/
theorem startTransaction_klump (e : Env) (userId groupId : ℕ) {db : Database} (hB : Consistent (books db)) :
    wp db (startTransaction e userId groupId) fun _ db' => ∀ k t, (db' .klumpTransaction).find k = some t →
      (db .klumpTransaction).find k = some t ∨
        ∃ r, (db' .payment).find t.paymentId = some r ∧ r.provider = .klump := by
  rw [startTransaction, wp_bind, wp_find, wp_bind, wp_orThrow]
  intro group hgroup
  obtain ⟨hfind, -⟩ := Option.filter_eq_some_iff.mp hgroup
  rw [wp_bind, wp_require]
  intro _
  rw [wp_bind, wp_require]
  intro _
  rw [wp_bind, wp_first]
  split
  · exact (wp_pure _ _ _).mpr fun k t ht => .inl ht
  rw [wp_bind, wp_query, wp_bind, wp_require]
  intro hklump
  rw [wp_bind, wp_query, wp_bind, wp_ofExcept]
  intro _ _
  have hpayment (reference : String) : wp db (paymentOf e userId group reference) fun p db₁ =>
      db₁ .klumpTransaction = db .klumpTransaction ∧ ∃ r, (db₁ .payment).find p = some r ∧ r.provider = .klump := by
    unfold paymentOf
    split
    · next p hlinked =>
      obtain ⟨q, hq, -⟩ := hB.linked groupId _ p (books_group hfind).1 hlinked
      obtain ⟨r, hr, -⟩ := Option.map_eq_some_iff.mp hq
      rw [hlinked, Option.bind_some, hr] at hklump
      exact (wp_pure _ _ _).mpr ⟨rfl, r, hr, by simpa using hklump⟩
    · rw [wp_createUnique]
      intro _
      have hcreated (payment : Payment) :
          ((db .payment).create payment).find (db .payment).next = some payment := Table.find_create_self _ _
      exact ⟨Database.set_of_ne _ _ (by decide), by simp [hcreated]⟩
  rw [wp_bind]
  refine wp_mono (hpayment _) fun p db₁ hstep => ?_
  obtain ⟨hsame, r, hr, hprovider⟩ := hstep
  rw [wp_bind, wp_update]
  intro _ _
  rw [wp_bind, wp_ofExcept]
  intro _ _
  rw [wp_bind, wp_createUnique]
  intro _
  refine (wp_pure _ _ _).mpr fun k t ht => ?_
  rw [Database.set_self, Database.set_of_ne _ _ (by decide), hsame, Table.find_create] at ht
  split at ht
  · obtain rfl := Option.some.inj ht
    refine .inr ⟨r, ?_, hprovider⟩
    rw [Database.set_of_ne _ _ (by decide), Database.set_of_ne _ _ (by decide)]
    exact hr
  · exact .inl ht

end Klump

/-- A Klump transaction is about the payment that it was about, or about a new one through Klump. -/
theorem exec_klump {α : Type} (op : Op α) (e : Env) {w : World} (hB : Consistent (books w.db)) (k : ℕ)
    (t : KlumpTransaction) (ht : ((op.exec e w).2.db .klumpTransaction).find k = some t) :
    (∃ t₀, (w.db .klumpTransaction).find k = some t₀ ∧ t.paymentId = t₀.paymentId) ∨
      ∃ r, ((op.exec e w).2.db .payment).find t.paymentId = some r ∧ r.provider = .klump := by
  have hkept : (w.db .klumpTransaction).Grows (fun _ => False) (fun a b => b.paymentId = a.paymentId)
      ((op.exec e w).2.db .klumpTransaction) →
      ∃ t₀, (w.db .klumpTransaction).find k = some t₀ ∧ t.paymentId = t₀.paymentId := fun hgrows => by
    cases ht₀ : (w.db .klumpTransaction).find k with
    | none =>
      obtain ⟨_, hnone, -⟩ := hgrows.entered k t ht ht₀
      exact hnone.elim
    | some t₀ =>
      obtain ⟨t', ht', hsame⟩ := hgrows.kept k t₀ ht₀
      obtain rfl := Option.some.inj (ht.symm.trans ht')
      exact ⟨t₀, rfl, hsame⟩
  have : IsPreorder KlumpTransaction fun a b => b.paymentId = a.paymentId :=
    { refl := fun _ => rfl, trans := fun _ _ _ h h' => h'.trans h }
  by_cases hwrites : TableName.klumpTransaction ∈ op.writes
  swap
  · exact .inl (hkept (.of_eq (exec_frame op e w _ hwrites)))
  have hgrows {α : Type} {op : Op α} {m : Env → Tx α} (hop : op.transaction = some m)
      (hm : Grows .klumpTransaction (fun _ => False) (fun a b => b.paymentId = a.paymentId) (m e)) :
      (w.db .klumpTransaction).Grows (fun _ => False) (fun a b => b.paymentId = a.paymentId)
        ((op.exec e w).2.db .klumpTransaction) :=
    exec_transaction hop (Φ := fun w' => (w.db .klumpTransaction).Grows (fun _ => False)
      (fun a b => b.paymentId = a.paymentId) (w'.db .klumpTransaction)) (.refl _) (hm w.db)
  cases op <;> dsimp only [Op.writes] at hwrites <;>
    first | exact absurd hwrites (by decide) | clear hwrites
  case startKlump userId groupId =>
    have hop : (Op.startKlump userId groupId).transaction = some fun e =>
      Klump.startTransaction e userId groupId := rfl
    have hnew := exec_transaction hop (e := e) (w := w) (Φ := fun w' =>
      ∀ k t, (w'.db .klumpTransaction).find k = some t →
        (w.db .klumpTransaction).find k = some t ∨
          ∃ r, (w'.db .payment).find t.paymentId = some r ∧ r.provider = .klump)
      (fun _ _ h => .inl h) (Klump.startTransaction_klump e userId groupId hB)
    exact (hnew k t ht).imp_left fun h => ⟨t, h, rfl⟩
  case updateKlump => exact .inl (hkept (hgrows rfl fun _ => grows_update fun _ _ => rfl))
  case completeKlump id transaction reference =>
    refine .inl (hkept (hgrows rfl ?_))
    refine .bind (.of_reads (.findOrThrow _ _)) fun _ => .bind (.of_reads (.require _ _)) fun _ => ?_
    refine .bind (.when (.bind ?_ fun _ => ?_)) fun _ => fun _ => grows_update fun _ _ => rfl
    · exact grows_of_writes (.update (List.mem_singleton_self TableName.payment) _ _) (by decide)
    · exact grows_of_writes (Payments.completeGroup_writes e _) (by decide)

/-- What an operation asks Paystack to start. -/
def Op.asked : {α : Type} → Op α → Option Charge
  | _, .initializeTransaction asked | _, .createBankTransferCharge asked => some asked
  | _, _ => none

/-- Paystack has been asked for what it had been asked for before, and for what the operation asks. -/
theorem exec_charged {α : Type} {op : Op α} {e : Env} {w : World} {c : Charge}
    (hc : c ∈ (op.exec e w).2.paystack.charged) : c ∈ w.paystack.charged ∨ op.asked = some c := by
  cases hop : op.transaction with
  | some m =>
    rw [exec_paystack hop] at hc
    exact .inl hc
  | none =>
    rw [Op.exec, hop] at hc
    have hcharge {β : Type} {answer : Except Error β} {asked : Charge}
        (hc : c ∈ (charge answer asked w).2.paystack.charged) : c ∈ w.paystack.charged ∨ asked = c := by
      unfold charge at hc
      split at hc
      · exact .inl hc
      · rcases List.mem_append.mp hc with hold | hnew
        · exact .inl hold
        · exact .inr (List.mem_singleton.mp hnew).symm
    cases op <;> dsimp only [Op.external] at hc <;> try exact .inl hc
    case initializeTransaction => exact (hcharge hc).imp_right (congrArg some)
    case createBankTransferCharge => exact (hcharge hc).imp_right (congrArg some)
    case createRefund =>
      unfold requestRefund at hc
      split at hc <;> exact .inl hc

/-- What is asked for is recorded before. -/
theorem Op.Grounded.recorded {α : Type} {op : Op α} {db : Database} {c : Charge} (h : op.Grounded only db)
    (hasked : op.asked = some c) (hc : c.kind ≠ .repaymentCharge) : Recorded only db c := by
  cases op <;> cases hasked <;> exact h hc

/-- The contract of charges together with the one of the books. -/
abbrev chargedBooks (kept only : Prop) : Contract Op World Env := (bookkeeping False).both (charging kept only)

/-- Every operation keeps account of the charges where its facts are known. -/
theorem chargedBooks_safe {α : Type} (op : Op α) : (chargedBooks kept only).Safe machine op := by
  rintro e w ⟨hB, hinv⟩ ⟨hlegit, hgrounded⟩ ⟨hhonest, hallowed⟩
  obtain ⟨hB', hlater⟩ := bookkeeping_safe op e w hB hlegit hhonest
  have hgrows : PaymentsGrow (Payment.Keeps kept) w.db (op.exec e w).2.db := by
    rcases hallowed with hfails | ⟨hspares, -⟩
    · exact .of_eq (congrFun (exec_fails_db hfails) _)
    · exact (hgrounded.mayChange hlegit hinv hspares).grows
  have hstays : (w.db .payment).Evolves (Payment.Stays kept) ((op.exec e w).2.db .payment) :=
    hgrows.kept.mono fun _ _ h => h.1
  have hguar : (charging kept only).guar w (op.exec e w).2 := ⟨hlater, hstays⟩
  refine ⟨⟨hB', ?_, ?_, ?_⟩, hlater, hguar⟩
  · exact hgrows.forall hinv.sound (fun _ => Payment.Entered.sound) fun _ _ h => h.2
  · intro k t ht
    rcases exec_klump op e hB k t ht with ⟨t₀, ht₀, hsame⟩ | hnew
    · obtain ⟨r, hr, hprovider⟩ := hinv.klump k t₀ ht₀
      obtain ⟨r', hr', hs⟩ := hstays _ r hr
      exact ⟨r', hsame ▸ hr', hs.provider.trans hprovider⟩
    · exact hnew
  · intro c hc hkind
    rcases exec_charged hc with hold | hasked
    · exact (hinv.charged c hold hkind).later hguar
    · exact (hgrounded.recorded hasked hkind).later hguar

end Superstore

import Superstore.Properties.Fulfilment
import Superstore.Requests.Charges

/-!
# Klump transactions that have succeeded, and payments that have been given back

A Klump transaction that has succeeded should stay so, and a payment that has been given back should
not be paid again. Neither is seen to by the statements that write what Klump reports: a report that is
late, or delivered twice, overwrites a success and completes a refunded payment once more. Both hold of
every run that has no such report.
-/

namespace Superstore

open Interleaving Relational Relational.Tx
open Payments (MaySettle)

/-- A payment that is over: it has failed, or has been given back. -/
def PaymentStatus.Over (s : PaymentStatus) : Prop := s = .failed ∨ s.Refunded

/-- Whether a payment is over can be decided. -/
instance (s : PaymentStatus) : Decidable s.Over := inferInstanceAs (Decidable (_ ∨ _))

/-- A payment that is over is not paid. -/
theorem PaymentStatus.Over.ne_paid {s : PaymentStatus} (h : s.Over) : s ≠ .paid := by
  rcases h with rfl | rfl | rfl <;> decide

/-- A Klump transaction that has succeeded stays so. -/
def KlumpTransaction.Stays (t t' : KlumpTransaction) : Prop := t.status = .successful → t'.status = .successful

/-- Staying a transaction is reflexive and transitive. -/
instance : IsPreorder KlumpTransaction KlumpTransaction.Stays where
  refl _ := id
  trans _ _ _ h h' := h' ∘ h

/-- A payment that is over stays over. -/
def Payment.StaysOver (r r' : Payment) : Prop := r.status.Over → r'.status.Over

/-- Staying over is reflexive and transitive. -/
instance : IsPreorder Payment Payment.StaysOver where
  refl _ := id
  trans _ _ _ h h' := h' ∘ h

/-- No report of Klump meets a transaction that has succeeded with another status, or completes a payment
that has been given back; nor is a transfer credited to the payment of a Klump checkout that is over. -/
def Op.sparesKlump : {α : Type} → Op α → Database → Bool
  | _, .updateKlump id status _, db =>
    status == .successful || ((db .klumpTransaction).find id).all (·.status != .successful)
  | _, .completeKlump _ transaction _, db =>
    ((db .payment).find transaction.paymentId).all fun p => !decide p.status.Refunded
  | _, .creditFunding p _ _ _, db =>
    ((db .klumpTransaction).first fun _ k => k.paymentId == p).isNone ||
      ((db .payment).find p).all fun p => !decide p.status.Over
  | _, _, _ => true

/-! ## Payments that an operation is not about -/

/-- The payments other than one stay as they are. -/
def OthersKept (p : ℕ) (db db' : Database) : Prop :=
  ∀ i r, i ≠ p → (db .payment).find i = some r → (db' .payment).find i = some r

/-- Keeping the other payments is reflexive and transitive. -/
instance (p : ℕ) : IsPreorder Database (OthersKept p) where
  refl _ _ _ _ := id
  trans _ _ _ h h' i r hi hr := h' i r hi (h i r hi hr)

/-- A transaction that writes no payment keeps the other ones. -/
theorem othersKept_of_writes {α : Type} {ns : List TableName} {m : Tx α} {p : ℕ} (h : Writes ns m)
    (hns : .payment ∉ ns) : Within (OthersKept p) m :=
  .of_writes h fun _ _ hsame _ _ _ hr => by rwa [hsame _ hns]

/-- A change of a payment keeps the other ones. -/
theorem othersKept_update (p : ℕ) (f : Payment → Payment) : Within (OthersKept p) (update .payment p f) := by
  intro db
  rw [wp_update]
  intro _ _ i r hi hr
  rw [Database.set_self, Table.find_update, if_neg hi]
  exact hr

namespace Payments

/-- The outcome of a payment is written to no other. -/
theorem finalizePayment_others (e : Env) (p : ℕ) (groups : List (ℕ × ℕ)) (success : Bool) :
    Within (OthersKept p) (finalizePayment e p groups success) := by
  have hlock : Writes Cart.tables (groups.forM fun g => do let _ ← Cart.lock g.2; pure ()) :=
    .forM fun g _ => .bind (Cart.lock_writes _) fun _ => .pure ()
  have hrefunds (groups : List (ℕ × CheckoutPaymentGroup)) : Writes [.refund]
      (groups.mapM fun g => g.2.allocations.mapM (lateRefund p g.1 g.2)) :=
    .mapM fun _ _ => .mapM fun _ _ => lateRefund_writes _ _ _ _
  refine .bind (othersKept_of_writes hlock (by decide)) fun _ => .bind (.of_reads (.findOrThrow _ _)) fun _ => ?_
  split
  · exact .pure _
  · split
    · split
      · exact .bind (othersKept_update _ _) fun _ => .bind (.of_reads (.many _ _)) fun _ =>
          .bind (othersKept_of_writes (hrefunds _) (by decide)) fun _ => .pure _
      · exact .pure _
    · split
      · exact .bind (othersKept_update _ _) fun _ => .bind (.forM fun g _ =>
          othersKept_of_writes (completeGroup_writes e g.1) (by decide)) fun _ => .pure _
      · exact .bind (othersKept_update _ _) fun _ => .bind (.forM fun g _ =>
          othersKept_of_writes (failGroup_writes e g.1) (by decide)) fun _ => .pure _

/-- Settling a repayment keeps the other payments. -/
theorem settleRepayment_others (e : Env) (repaymentId p : ℕ) (success : Bool) :
    Within (OthersKept p) (settleRepayment e repaymentId p success) := by
  refine .bind (.of_reads (.findOrThrow _ _)) fun _ => .when (.bind ?_ fun _ => othersKept_update _ _)
  split
  · exact othersKept_of_writes (completeBnplRepayment_writes e repaymentId) (by decide)
  · exact othersKept_of_writes (.update (List.mem_singleton_self TableName.bnplRepayment) _ _) (by decide)

/-- Crediting a top-up keeps the other payments. -/
theorem creditTopup_others (e : Env) (p userId : ℕ) (amount : ℚ) :
    Within (OthersKept p) (creditTopup e p userId amount) := by
  refine .bind (.of_reads (.findOrThrow _ _)) fun _ => ?_
  split
  · exact .pure _
  · exact .bind (othersKept_update _ _) fun _ =>
      .bind (othersKept_of_writes (creditWallet_writes _ _ _) (by decide)) fun _ => .pure _

/-- Crediting a transfer keeps the other payments. -/
theorem creditFunding_others (e : Env) (p userId : ℕ) (reference : String) (amount : ℚ) :
    Within (OthersKept p) (creditFunding e p userId reference amount) := by
  refine .bind (.of_reads (.findOrThrow _ _)) fun _ => ?_
  split
  · exact .pure _
  · refine .bind (othersKept_of_writes (.firstOrCreate (List.mem_singleton_self TableName.wallet) _ _) (by decide))
      fun _ => .bind (.of_reads (.first _ _)) fun _ => .bind (.when ?_) fun _ =>
      .bind (othersKept_update _ _) fun _ => .pure _
    exact .bind (othersKept_of_writes (.update (List.mem_singleton_self TableName.wallet) _ _) (by decide)) fun _ =>
      .bind (othersKept_of_writes
        (.createUnique (List.mem_singleton_self TableName.walletTransaction) _ _) (by decide))
        fun _ => .pure _

/-- Entering a payment keeps those that are there. -/
theorem createPayment_kept (e : Env) (payment : Payment) : Evolves .payment Eq (createPayment e payment) :=
  .bind (.createUnique _ _) fun _ => .pure _

end Payments

namespace Klump

/-- The start of a Klump transaction leaves the others as they are. -/
theorem startTransaction_evolves (e : Env) (userId groupId : ℕ) :
    Evolves .klumpTransaction KlumpTransaction.Stays (startTransaction e userId groupId) := by
  have hpayment (group : CheckoutPaymentGroup) (reference : String) :
      Writes [.payment] (paymentOf e userId group reference) := by
    unfold paymentOf
    split
    · exact .pure _
    · exact .createUnique (List.mem_singleton_self _) _ _
  refine .bind (.of_reads (.find _ _)) fun _ => .bind (.of_reads (.orThrow _ _)) fun group => ?_
  refine .bind (.of_reads (.require _ _)) fun _ => .bind (.of_reads (.require _ _)) fun _ => ?_
  refine .bind (.of_reads (.first _ _)) fun existing => ?_
  cases existing with
  | some existing => exact .pure _
  | none =>
    refine .bind (.of_reads (.query _)) fun _ => .bind (.of_reads (.require _ _)) fun _ => ?_
    refine .bind (.of_reads (.query _)) fun _ => .bind (.of_reads (.ofExcept _)) fun _ => ?_
    refine .bind (.of_writes (hpayment _ _) (by decide)) fun _ => .bind (.update_of_ne (by decide) _ _) fun _ => ?_
    exact .bind (.of_reads (.ofExcept _)) fun _ => .bind (.createUnique _ _) fun _ => .pure _

/-- A completed transaction has succeeded. -/
theorem completeTransaction_evolves (e : Env) (id : ℕ) (transaction : KlumpTransaction) (reference : String) :
    Evolves .klumpTransaction KlumpTransaction.Stays (completeTransaction e id transaction reference) := by
  refine .bind (.of_reads (.findOrThrow _ _)) fun _ => .bind (.of_reads (.require _ _)) fun _ => ?_
  refine .bind (.when (.bind (.update_of_ne (by decide) _ _) fun _ => ?_)) fun _ => .update _ fun _ _ => rfl
  exact .of_writes (Payments.completeGroup_writes e _) (by decide)

end Klump

/-! ## The contract -/

/-- Klump transactions have payments through Klump. -/
def ThroughKlump (db : Database) : Prop :=
  ∀ k t, (db .klumpTransaction).find k = some t → ∃ r, (db .payment).find t.paymentId = some r ∧ r.provider = .klump

/-- The payments of Klump transactions stay over. -/
def KlumpOver (db db' : Database) : Prop :=
  ∀ k t r, (db .klumpTransaction).find k = some t → (db .payment).find t.paymentId = some r → r.status.Over →
    ∃ r', (db' .payment).find t.paymentId = some r' ∧ r'.status.Over

/-- Where payments stay over, those of Klump do. -/
theorem KlumpOver.of_evolves {db db' : Database} (h : (db .payment).Evolves Payment.StaysOver (db' .payment)) :
    KlumpOver db db' := by
  intro k t r ht hr hover
  obtain ⟨r', hr', hstays⟩ := h _ r hr
  exact ⟨r', hr', hstays hover⟩

/-- A change of a payment that no Klump transaction has. -/
theorem KlumpOver.of_others {p : ℕ} {db db' : Database} (h : OthersKept p db db')
    (hp : ∀ k t, (db .klumpTransaction).find k = some t → t.paymentId ≠ p) : KlumpOver db db' :=
  fun k t r ht hr hover => ⟨r, h _ r (hp k t ht) hr, hover⟩

/-- What is kept of Klump transactions and their payments where no report of Klump comes too late. -/
def klumpStates : Contract Op World Env where
  inv w := Consistent (books w.db) ∧ ThroughKlump w.db
  guar w w' := (books w.db).Later (books w'.db) ∧
    (w.db .klumpTransaction).Evolves KlumpTransaction.Stays (w'.db .klumpTransaction) ∧ KlumpOver w.db w'.db
  known op w := op.Legitimate False (books w.db)
  allowed op e w := e.fails || op.sparesKlump w.db
  refl w := ⟨.refl _, .refl _, fun _ _ r _ hr hover => ⟨r, hr, hover⟩⟩
  trans {w w' w''} h h' := by
    refine ⟨h.1.trans h'.1, h.2.1.trans h'.2.1, fun k t r ht hr hover => ?_⟩
    obtain ⟨r', hr', hover'⟩ := h.2.2 k t r ht hr hover
    obtain ⟨t', ht', hterms⟩ := Option.map_eq_some_iff.mp (h.1.klump k _ (books_klump ht))
    have hsame : t'.paymentId = t.paymentId := congrArg KlumpTerms.paymentId hterms
    rw [← hsame] at hr' ⊢
    exact h'.2.2 k t' r' ht' hr' hover'

/-- A payment that no group is linked to is that of no Klump transaction. -/
theorem Books.Unlinked.ne_klump {db : Database} {p : ℕ} (h : (books db).Unlinked p)
    (hB : Consistent (books db)) (k : ℕ)
    (t : KlumpTransaction) (ht : (db .klumpTransaction).find k = some t) : t.paymentId ≠ p := by
  rintro rfl
  obtain ⟨g, hg, hlinked⟩ := hB.klump_linked k _ (books_klump ht)
  exact h.2 _ g hg hlinked

/-- Klump transactions that have succeeded stay so where no report of Klump comes too late. -/
theorem exec_klump_stays {α : Type} {op : Op α} {e : Env} {w : World} (hspares : op.sparesKlump w.db) :
    (w.db .klumpTransaction).Evolves KlumpTransaction.Stays ((op.exec e w).2.db .klumpTransaction) := by
  by_cases hwrites : TableName.klumpTransaction ∈ op.writes
  swap
  · exact .of_eq (exec_frame op e w _ hwrites)
  have hevolves {α : Type} {op : Op α} {m : Env → Tx α} (hop : op.transaction = some m)
      (hm : wp w.db (m e) fun _ db =>
        (w.db .klumpTransaction).Evolves KlumpTransaction.Stays (db .klumpTransaction)) :
      (w.db .klumpTransaction).Evolves KlumpTransaction.Stays ((op.exec e w).2.db .klumpTransaction) :=
    exec_transaction hop (Φ := fun w' =>
      (w.db .klumpTransaction).Evolves KlumpTransaction.Stays (w'.db .klumpTransaction))
      (.refl _) hm
  cases op <;> dsimp only [Op.writes] at hwrites <;>
    first | exact absurd hwrites (by decide) | clear hwrites
  case startKlump => exact hevolves rfl (Klump.startTransaction_evolves e _ _ w.db)
  case completeKlump => exact hevolves rfl (Klump.completeTransaction_evolves e _ _ _ w.db)
  case updateKlump id status reference =>
    refine hevolves rfl (Evolves.update_of_find fun t ht hsuccessful => ?_)
    rcases Bool.or_eq_true_iff.mp hspares with hstatus | hnot
    · exact beq_iff_eq.mp hstatus
    · rw [ht] at hnot
      exact absurd hsuccessful (bne_iff_ne.mp hnot)

/-- The payments of Klump transactions stay over where no report of Klump comes too late. -/
theorem exec_klump_over {α : Type} {op : Op α} {e : Env} {w : World} (hB : Consistent (books w.db))
    (hthrough : ThroughKlump w.db) (hlegit : op.Legitimate False (books w.db)) (hspares : op.sparesKlump w.db) :
    KlumpOver w.db (op.exec e w).2.db := by
  have hsettles {S : PaymentStatus → Prop} (hS : ∀ s, S s → s.Over)
      (p : ℕ) : MaySettle S Payment.StaysOver w.db p := by
    rintro r q - ⟨s, t, f, hs, rfl⟩ -
    exact hS s hs
  have hchanges (h : op.MayChange Payment.StaysOver e w.db) : KlumpOver w.db (op.exec e w).2.db :=
    .of_evolves h.grows.kept
  have hothers {α : Type} {op : Op α} {m : Env → Tx α} {p : ℕ} (hop : op.transaction = some m)
      (hm : Within (OthersKept p) (m e))
      (hp : ∀ k t, (w.db .klumpTransaction).find k = some t → t.paymentId ≠ p) :
      KlumpOver w.db (op.exec e w).2.db :=
    .of_others (exec_transaction hop (Φ := fun w' => OthersKept p w.db w'.db) (refl_of _ _) (hm w.db)) hp
  cases op <;> try exact hchanges trivial
  case claimInitialization => exact hchanges fun _ _ _ _ _ h => h
  case updatePayment id u =>
    refine hchanges fun r _ hover => ?_
    cases u <;> first | exact hover | exact .inl rfl
  case finalizePayment p groups success =>
    refine hothers rfl (Payments.finalizePayment_others e p groups success) fun k t ht => ?_
    rintro rfl
    obtain ⟨q, hq, hpaystack⟩ := hlegit.1
    obtain ⟨r, hr, hklump⟩ := hthrough k t ht
    obtain rfl := Option.some.inj ((books_payment hr).1.symm.trans hq)
    exact absurd (hklump.symm.trans hpaystack) (by decide)
  case cancelGroup => exact hchanges fun p _ => hsettles (fun s hs => .inl hs) p
  case settleRepayment id p success =>
    exact hothers rfl (Payments.settleRepayment_others e id p success) (hlegit.ne_klump hB)
  case creditTopup p userId amount =>
    exact hothers rfl (Payments.creditTopup_others e p userId amount) (hlegit.ne_klump hB)
  case createPayment payment =>
    have hop : (Op.createPayment payment).transaction = some fun e => Payments.createPayment e payment := rfl
    have hkept : (w.db .payment).Evolves Eq (((Op.createPayment payment).exec e w).2.db .payment) :=
      exec_transaction hop (Φ := fun w' => (w.db .payment).Evolves Eq (w'.db .payment)) (.refl _)
        (Payments.createPayment_kept e payment w.db)
    exact .of_evolves (hkept.mono fun _ _ hsame => hsame ▸ id)
  case creditFunding p userId reference amount =>
    have hop : (Op.creditFunding p userId reference amount).transaction =
      some fun e => Payments.creditFunding e p userId reference amount := rfl
    have hkept : OthersKept p w.db ((Op.creditFunding p userId reference amount).exec e w).2.db :=
      exec_transaction hop (Φ := fun w' => OthersKept p w.db w'.db) (refl_of _ _)
        (Payments.creditFunding_others e p userId reference amount w.db)
    intro k t r ht hr hover
    by_cases hp : t.paymentId = p
    · rcases Bool.or_eq_true_iff.mp hspares with hnone | hopen
      · have hfree := Table.first_eq_none.mp (Option.isNone_iff_eq_none.mp hnone) k t ht
        simp [hp] at hfree
      · rw [← hp, hr] at hopen
        simp [hover] at hopen
    · exact ⟨r, hkept _ r hp hr, hover⟩
  case writeRefundStatus p status =>
    refine hchanges (hsettles ?_ p)
    rintro s rfl
    exact .inr hlegit.2
  case completeKlump id transaction reference =>
    refine hchanges fun r hr hfailed hover => ?_
    rw [Op.sparesKlump, hr] at hspares
    rcases hover with hover | hover
    · exact absurd hover hfailed
    · simp [hover] at hspares
  case cancelOrder => exact hchanges fun p _ => hsettles (fun s hs => .inr hs) p

/-- Every operation that spares Klump's payments keeps their states. -/
theorem klumpStates_safe {α : Type} (op : Op α) : klumpStates.Safe machine op := by
  rintro e w ⟨hB, hthrough⟩ hlegit hallowed
  obtain ⟨hB', hlater⟩ := bookkeeping_safe op e w hB hlegit (fun h => h.elim)
  have hthrough' : ThroughKlump (op.exec e w).2.db := by
    intro k t ht
    rcases exec_klump op e hB k t ht with ⟨t₀, ht₀, hsame⟩ | hnew
    · obtain ⟨r, hr, hklump⟩ := hthrough k t₀ ht₀
      obtain ⟨q, hq, -, hprovider, -⟩ := hlater.payment _ _ (books_payment hr).1
      obtain ⟨r', hr', rfl⟩ := Option.map_eq_some_iff.mp hq
      exact ⟨r', hsame ▸ hr', hprovider.trans hklump⟩
    · exact hnew
  rcases Bool.or_eq_true_iff.mp hallowed with hfails | hspares
  · have hsame : (machine.exec op e w).2.db = w.db := exec_fails_db hfails
    refine ⟨⟨hB', hthrough'⟩, hlater, .of_eq (congrFun hsame _), fun k t r _ hr hover => ⟨r, ?_, hover⟩⟩
    rwa [hsame]
  · exact ⟨⟨hB', hthrough'⟩, hlater, exec_klump_stays hspares, exec_klump_over hB hthrough hlegit hspares⟩

/-- The requests of the store keep the states of Klump's payments. -/
theorem klumpStates_holds : klumpStates.Holds store where
  starts {p} hp w _ := by
    have hbooks : (bookkeeping False).Ready machine p w := hp.books
    exact hbooks.strengthen (fun _ h => h.1) (fun _ _ h => h.1) (fun _ _ _ _ h => h.elim) fun _ _ h => h
  performs op := klumpStates_safe op
  background {w w'} h hinv := by
    have hpayment : w'.db .payment = w.db .payment := h.owned .payment (by decide)
    have hklump : w'.db .klumpTransaction = w.db .klumpTransaction := h.owned .klumpTransaction (by decide)
    have hbooks : (bookkeeping False).Holds store := bookkeeping_holds
    obtain ⟨hB', hlater⟩ := hbooks.background h hinv.1
    refine ⟨⟨hB', fun k t ht => ?_⟩, hlater, .of_eq hklump, fun k t r _ hr hover => ⟨r, hpayment ▸ hr, hover⟩⟩
    rw [hklump] at ht
    rw [hpayment]
    exact hinv.2 k t ht

/-- In every run in which no report of Klump meets a transaction that has succeeded with another status, or
completes a payment that has been given back: a Klump transaction that has succeeded stays so, and its
payment is not paid again once it has been given back, whatever is reported, verified or refunded. -/
theorem klump_never_regresses {w : World} (hB : Consistent (books w.db)) (hthrough : ThroughKlump w.db)
    {c c' : Config Op Error World} (hrun : store.Run (fun op e c => e.fails || op.sparesKlump c.world.db) ⟨w, []⟩ c)
    (hrun' : store.Run (fun op e c => e.fails || op.sparesKlump c.world.db) c c') {k : ℕ} {t : KlumpTransaction}
    (ht : (c.world.db .klumpTransaction).find k = some t) :
    (t.status = .successful → ∃ t', (c'.world.db .klumpTransaction).find k = some t' ∧ t'.status = .successful) ∧
    ∀ r, (c.world.db .payment).find t.paymentId = some r → r.status.Refunded →
      ∃ r', (c'.world.db .payment).find t.paymentId = some r' ∧ r'.status ≠ .paid := by
  have hsound : klumpStates.Sound store ⟨w, []⟩ := ⟨⟨hB, hthrough⟩, by simp⟩
  obtain ⟨hsound', -⟩ := klumpStates_holds.run hsound hrun
  obtain ⟨-, -, hevolves, hover⟩ := klumpStates_holds.run hsound' hrun'
  constructor
  · intro hsuccessful
    obtain ⟨t', ht', hstays⟩ := hevolves k t ht
    exact ⟨t', ht', hstays hsuccessful⟩
  · intro r hr hrefunded
    obtain ⟨r', hr', hover'⟩ := hover k t r ht hr (.inr hrefunded)
    exact ⟨r', hr', hover'.ne_paid⟩

/-! ## A report that comes late -/

/-- No Klump transaction has been started in a new store. -/
theorem Fresh.throughKlump {w : World} (h : Fresh w) : ThroughKlump w.db := by
  intro k t ht
  rw [h .klumpTransaction (by decide) k] at ht
  cases ht

/-- Klump reports that the customer has paid. -/
def klumpReport : KlumpVerification where
  merchantReference := some "PURSE-KLUMP-1-u"
  providerReference := some "k"
  currency := "NGN"
  amount := some 50
  isLive := some false
  status := .successful

/-- What Klump answers to a verification. -/
def klumpAnswer : Env where
  now := 2
  klumpVerify := fun _ => .ok klumpReport

/-- The webhook of a success. -/
def klumpSuccess (webhookId : String) : Klump.WebhookEvent where
  webhookId := webhookId
  eventType := "klump.payment.transaction.successful"
  reference := some "k"

/-- The webhook of a checkout that has been abandoned. -/
def klumpAbandonment : Klump.WebhookEvent where
  webhookId := "2"
  eventType := "klump.payment.transaction.abandoned"
  merchantReference := some "PURSE-KLUMP-1-u"

/-- A customer pays a checkout through Klump, and Klump reports it, and something else. -/
def klumpRequests (event : Klump.WebhookEvent) : List (Request Unit) :=
  [discard (Klump.initializeCheckout 1 walletPickup), Klump.handleWebhook (klumpSuccess "1"),
    Klump.handleWebhook event]

/-- The requests of the example can be made. -/
theorem klumpRequests_start (event : Klump.WebhookEvent) : ∀ p ∈ klumpRequests event, store.starts p := by
  intro p hp
  rw [klumpRequests, List.mem_cons, List.mem_pair] at hp
  rcases hp with rfl | rfl | rfl
  · exact .payment (.initializeKlump 1 walletPickup)
  · exact .payment (.klumpWebhook (klumpSuccess "1"))
  · exact .payment (.klumpWebhook event)

/-- The checkout is started, and its success is reported. -/
def klumpPayment : List (ℕ × Env) :=
  List.replicate 6 (0, { now := 1, uuid := "u", orderNumber := fun _ => "A-1" }) ++
    List.replicate 5 (1, klumpAnswer)

/-- The status of a Klump transaction. -/
def klumpStatus (c : Config Op Error World) (k : ℕ) : Option KlumpTransactionStatus :=
  ((c.world.db .klumpTransaction).find k).map (·.status)

/-- A webhook that comes late makes an abandoned transaction of one that has succeeded. -/
theorem klump_can_regress :
    ¬∀ (w : World) (c c' : Config Op Error World), Fresh w → store.Run System.anyOp ⟨w, []⟩ c →
      store.Run System.anyOp c c' → ∀ k, klumpStatus c k = some .successful →
        klumpStatus c' k = some .successful := by
  intro h
  have hlost := h shop _ _ fresh_shop (store.schedule_run (klumpRequests_start klumpAbandonment) klumpPayment)
    (store.follow_run _ (List.replicate 4 (2, klumpAnswer))) 1 (by decide +kernel)
  revert hlost
  decide +kernel

/-- A success that is reported once more, in another webhook, changes nothing. -/
theorem klump_never_regresses_repeated :
    klumpStatus (store.follow (store.follow ⟨shop, klumpRequests (klumpSuccess "2")⟩ klumpPayment)
      (List.replicate 6 (2, klumpAnswer))) 1 = some .successful := by
  have hallows : store.allows (fun op e c => e.fails || op.sparesKlump c.world.db)
      ⟨shop, klumpRequests (klumpSuccess "2")⟩ klumpPayment := by decide +kernel
  have hallows' : store.allows (fun op e c => e.fails || op.sparesKlump c.world.db)
      (store.follow ⟨shop, klumpRequests (klumpSuccess "2")⟩ klumpPayment) (List.replicate 6 (2, klumpAnswer)) := by
    decide +kernel
  have hstatus : klumpStatus (store.follow ⟨shop, klumpRequests (klumpSuccess "2")⟩ klumpPayment) 1 =
      some .successful := by decide +kernel
  obtain ⟨t, ht, hsuccessful⟩ := Option.map_eq_some_iff.mp hstatus
  obtain ⟨t', ht', hsuccessful'⟩ := (klump_never_regresses fresh_shop.consistent fresh_shop.throughKlump
    ((store.start_all_run (klumpRequests_start _)).trans (store.follow_run_of hallows))
    (store.follow_run_of hallows') ht).1 hsuccessful
  exact Option.map_eq_some_iff.mpr ⟨t', ht', hsuccessful'⟩

end Superstore

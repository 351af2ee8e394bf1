import Superstore.Properties.Captured

/-!
# Repayments of installments

What has been paid of an installment is the sum of its paid repayments. Several repayments of one
installment may be open at once, each for what was left when it was started; as long as every one that
is completed still fits into what is left, no installment is overpaid.
-/

namespace Superstore

open Interleaving Relational Relational.Tx

/-- What the paid repayments of an installment add up to. -/
def repaid (db : Database) (installmentId : ℕ) : ℚ :=
  (db .bnplRepayment).total fun _ r => if r.installmentId = installmentId ∧ r.status = .paid then r.amount else 0

/-- Every installment has been paid what its repayments say, at most its amount, and it is marked as paid exactly
if that is all of it. -/
structure Repaid (db : Database) : Prop where
  counted : ∀ i a, (db .bnplInstallment).find i = some a → a.amountPaid = repaid db i
  within : ∀ i a, (db .bnplInstallment).find i = some a → a.amountPaid ≤ a.amount
  paid : ∀ i a, (db .bnplInstallment).find i = some a → (a.status = "PAID" ↔ a.amount ≤ a.amountPaid)
  known : ∀ k r, (db .bnplRepayment).find k = some r → r.status = .paid →
    ∃ a, (db .bnplInstallment).find r.installmentId = some a

/-! ## What is kept -/

/-- Whether repayments are counted depends on installments and repayments alone. -/
theorem Repaid.congr {db db' : Database} (h : Repaid db)
    (hinstallments : db' .bnplInstallment = db .bnplInstallment)
    (hrepayments : db' .bnplRepayment = db .bnplRepayment) : Repaid db' := by
  constructor
  · intro i a ha
    rw [hinstallments] at ha
    rw [repaid, hrepayments]
    exact h.counted i a ha
  · rw [hinstallments]
    exact h.within
  · rw [hinstallments]
    exact h.paid
  · rw [hinstallments, hrepayments]
    exact h.known

/-- A transaction that writes neither installments nor repayments. -/
theorem repaid_of_writes {α : Type} {ns : List TableName} {m : Tx α} (h : Writes ns m)
    (hinstallment : .bnplInstallment ∉ ns) (hrepayment : .bnplRepayment ∉ ns) : Within (Keeps Repaid) m :=
  .of_writes h fun _ _ hsame hdb => hdb.congr (hsame _ hinstallment) (hsame _ hrepayment)

/-- A new installment has no repayments. -/
theorem Repaid.enter {db : Database} (h : Repaid db) {a : BnplInstallment} (hpaid : a.amountPaid = 0)
    (hamount : 0 < a.amount) (hstatus : a.status ≠ "PAID") :
    Repaid (db.set .bnplInstallment ((db .bnplInstallment).create a)) := by
  have hrepayments : (db.set .bnplInstallment ((db .bnplInstallment).create a)) .bnplRepayment =
    db .bnplRepayment :=
    Database.set_of_ne _ _ (by decide)
  have hnone : repaid db (db .bnplInstallment).next = 0 := by
    rw [repaid, Table.total_congr (h := fun _ _ => 0), Table.total_zero]
    intro k r hr
    rw [if_neg]
    rintro ⟨hnext, hrpaid⟩
    obtain ⟨b, hb⟩ := h.known k r hr hrpaid
    exact absurd hnext (Table.lt_next hb).ne
  have hrow {i : ℕ} {b : BnplInstallment} (hb : ((db.set .bnplInstallment
      ((db .bnplInstallment).create a)) .bnplInstallment).find i = some b) :
      i = (db .bnplInstallment).next ∧ b = a ∨ (db .bnplInstallment).find i = some b := by
    rw [Database.set_self] at hb
    exact Ledger.find_of_create hb
  constructor
  · intro i b hb
    rw [repaid, hrepayments]
    rcases hrow hb with ⟨rfl, rfl⟩ | hold
    · exact hpaid.trans hnone.symm
    · exact h.counted i b hold
  · intro i b hb
    rcases hrow hb with ⟨rfl, rfl⟩ | hold
    · exact hpaid.trans_le hamount.le
    · exact h.within i b hold
  · intro i b hb
    rcases hrow hb with ⟨rfl, rfl⟩ | hold
    · refine ⟨fun hs => absurd hs hstatus, fun hle => ?_⟩
      rw [hpaid] at hle
      exact absurd hamount hle.not_gt
    · exact h.paid i b hold
  · intro k r hr hrpaid
    rw [hrepayments] at hr
    obtain ⟨b, hb⟩ := h.known k r hr hrpaid
    rw [Database.set_self]
    exact ⟨b, Table.find_create_of_find a hb⟩

/-- A change of repayments that counts no other amounts. -/
theorem Repaid.repayments {db db' : Database} (h : Repaid db)
    (hinstallments : db' .bnplInstallment = db .bnplInstallment)
    (hsum : ∀ i, repaid db' i = repaid db i)
    (hpaid : ∀ k r, (db' .bnplRepayment).find k = some r → r.status = .paid →
      ∃ k₀ r₀, (db .bnplRepayment).find k₀ = some r₀ ∧ r₀.status = .paid ∧ r₀.installmentId = r.installmentId) :
    Repaid db' := by
  constructor
  · intro i a ha
    rw [hinstallments] at ha
    rw [hsum i]
    exact h.counted i a ha
  · rw [hinstallments]
    exact h.within
  · rw [hinstallments]
    exact h.paid
  · intro k r hr hrpaid
    obtain ⟨k₀, r₀, hr₀, hpaid₀, hinstallment⟩ := hpaid k r hr hrpaid
    rw [hinstallments, ← hinstallment]
    exact h.known k₀ r₀ hr₀ hpaid₀

/-- A new repayment has not been paid. -/
theorem Repaid.start {db : Database} (h : Repaid db) {r : BnplRepayment} (hr : r.status = .pending) :
    Repaid (db.set .bnplRepayment ((db .bnplRepayment).create r)) := by
  refine h.repayments (Database.set_of_ne _ _ (by decide)) (fun i => ?_) fun k s hs hpaid => ?_
  · rw [repaid, Database.set_self, Table.total_create, if_neg, add_zero]
    · rfl
    · rw [hr]
      exact fun hpaid => absurd hpaid.2 (by decide)
  · rw [Database.set_self] at hs
    rcases Ledger.find_of_create hs with ⟨-, rfl⟩ | hold
    · rw [hr] at hpaid
      cases hpaid
    · exact ⟨k, s, hold, hpaid, rfl⟩

/-- A repayment that fails had not been paid. -/
theorem Repaid.fail {db : Database} (h : Repaid db) {k : ℕ} {r : BnplRepayment}
    (hr : (db .bnplRepayment).find k = some r) (hunpaid : r.status ≠ .paid) :
    Repaid (db.set .bnplRepayment ((db .bnplRepayment).update k fun r => { r with status := .failed })) := by
  refine h.repayments (Database.set_of_ne _ _ (by decide)) (fun i => ?_) fun j s hs hpaid => ?_
  · rw [repaid, Database.set_self, Table.total_update hr]
    simp [hunpaid, repaid]
  · rw [Database.set_self, Table.find_update] at hs
    split at hs
    · obtain ⟨s₀, -, rfl⟩ := Option.map_eq_some_iff.mp hs
      cases hpaid
    · exact ⟨j, s, hs, hpaid, rfl⟩

/-- A repayment that fits into what is left of its installment is counted towards it. -/
theorem Repaid.complete {db : Database} (h : Repaid db) {k : ℕ} {r : BnplRepayment} {a : BnplInstallment}
    (hr : (db .bnplRepayment).find k = some r) (ha : (db .bnplInstallment).find r.installmentId = some a)
    (hunpaid : r.status ≠ .paid) (hfits : r.amount ≤ a.amount - a.amountPaid) (now : ℕ) :
    Repaid ((db.set .bnplRepayment ((db .bnplRepayment).update k fun r =>
      { r with status := .paid, paidAt := some now })).set .bnplInstallment
        ((db .bnplInstallment).update r.installmentId fun i =>
          { i with amountPaid := a.amountPaid + r.amount
                   status := if a.amount ≤ a.amountPaid + r.amount then "PAID" else "PARTIALLY_PAID"
                   paidAt := if a.amount ≤ a.amountPaid + r.amount then some now else none })) := by
  generalize hR : (db .bnplRepayment).update k _ = R
  generalize hI : (db .bnplInstallment).update r.installmentId _ = I
  have hRset : (((db.set .bnplRepayment R).set .bnplInstallment I) .bnplRepayment) = R := by
    rw [Database.set_of_ne _ _ (by decide), Database.set_self]
  have hsum (i : ℕ) : repaid ((db.set .bnplRepayment R).set .bnplInstallment I) i =
      repaid db i + if r.installmentId = i then r.amount else 0 := by
    rw [repaid, hRset, ← hR, Table.total_update hr]
    simp [hunpaid, repaid]
  have hrow {i : ℕ} {b : BnplInstallment} (hb : (((db.set .bnplRepayment R).set .bnplInstallment I)
      .bnplInstallment).find i = some b) : i = r.installmentId ∧ b.amountPaid = a.amountPaid + r.amount ∧
        b.amount = a.amount ∧ b.status = (if a.amount ≤ a.amountPaid + r.amount then "PAID" else "PARTIALLY_PAID") ∨
      i ≠ r.installmentId ∧ (db .bnplInstallment).find i = some b := by
    rw [Database.set_self, ← hI, Table.find_update] at hb
    split at hb
    · next hi =>
      obtain ⟨b₀, hb₀, rfl⟩ := Option.map_eq_some_iff.mp hb
      rw [hi, ha] at hb₀
      obtain rfl := Option.some.inj hb₀
      exact .inl ⟨hi, rfl, rfl, rfl⟩
    · next hi => exact .inr ⟨hi, hb⟩
  constructor
  · intro i b hb
    rw [hsum i]
    rcases hrow hb with ⟨rfl, hpaid, -⟩ | ⟨hi, hold⟩
    · rw [hpaid, if_pos rfl, h.counted _ a ha]
    · rw [if_neg hi.symm, add_zero]
      exact h.counted i b hold
  · intro i b hb
    rcases hrow hb with ⟨rfl, hpaid, hamount, -⟩ | ⟨-, hold⟩
    · rw [hpaid, hamount]
      exact le_sub_iff_add_le'.mp hfits
    · exact h.within i b hold
  · intro i b hb
    rcases hrow hb with ⟨rfl, hpaid, hamount, hstatus⟩ | ⟨-, hold⟩
    · rw [hpaid, hamount, hstatus]
      split
      · next hle => exact iff_of_true rfl hle
      · next hle => exact iff_of_false (by decide) hle
    · exact h.paid i b hold
  · intro j s hs hpaid
    have hinstallment : ∃ b, (db .bnplInstallment).find s.installmentId = some b := by
      rw [hRset, ← hR, Table.find_update] at hs
      split at hs
      · next hj =>
        obtain ⟨s₀, hs₀, rfl⟩ := Option.map_eq_some_iff.mp hs
        rw [hj, hr] at hs₀
        obtain rfl := Option.some.inj hs₀
        exact ⟨a, ha⟩
      · exact h.known j s hs hpaid
    obtain ⟨b, hb⟩ := hinstallment
    rw [Database.set_self, ← hI, Table.find_update, hb]
    split <;> exact ⟨_, rfl⟩

namespace Payments

/-- A repayment is counted where it fits into what is left of its installment. -/
theorem completeBnplRepayment_repaid (e : Env) (k : ℕ) {db : Database} (h : Repaid db)
    (hfits : ∀ r a, (db .bnplRepayment).find k = some r → (db .bnplInstallment).find r.installmentId = some a →
      r.status ≠ .paid → r.amount ≤ a.amount - a.amountPaid) :
    wp db (completeBnplRepayment e k) fun _ db' => Repaid db' := by
  rw [completeBnplRepayment, wp_bind, wp_findOrThrow]
  intro r hr
  rw [wp_bind, wp_findOrThrow]
  intro a ha
  rw [wp_when]
  refine ⟨fun hunpaid => ?_, fun _ => h⟩
  rw [wp_bind, wp_update]
  intro _ _
  rw [wp_update]
  intro _ _
  rw [Relational.Database.set_of_ne _ _ (by decide)]
  exact h.complete hr ha hunpaid (hfits r a hr ha hunpaid) e.now

/-- Settling a repayment counts it, where it fits its installment. -/
theorem settleRepayment_repaid (e : Env) (k p : ℕ) (success : Bool) {db : Database} (h : Repaid db)
    (hfits : success → ∀ r a, (db .bnplRepayment).find k = some r →
      (db .bnplInstallment).find r.installmentId = some a →
      r.status ≠ .paid → r.status ≠ .failed → r.amount ≤ a.amount - a.amountPaid) :
    wp db (settleRepayment e k p success) fun _ db' => Repaid db' := by
  rw [settleRepayment, wp_bind, wp_findOrThrow]
  intro r hr
  rw [wp_when]
  refine ⟨fun hopen => ?_, fun _ => h⟩
  have hrest : Within (Keeps Repaid) (update .payment p fun p =>
      { p with status := if success then .paid else .failed, paidAt := if success then some e.now else none }) :=
    repaid_of_writes (.update (List.mem_singleton_self TableName.payment) _ _) (by decide) (by decide)
  rw [wp_bind]
  cases success with
  | true =>
    refine wp_mono (completeBnplRepayment_repaid e k h fun s a hs ha hunpaid => ?_) fun _ db' h' =>
      wp_mono (hrest db') fun _ _ hkept => hkept h'
    obtain rfl := Option.some.inj (hr.symm.trans hs)
    exact hfits rfl r a hr ha hunpaid hopen.2
  | false =>
    refine (wp_update _ _ _ _ _).mpr fun _ _ => wp_mono (hrest _) fun _ _ hkept => hkept (h.fail hr hopen.1)

/-- Repaying out of the wallet counts the repayment, where it fits its installment. -/
theorem repayFromWallet_repaid (e : Env) (userId installmentId : ℕ) (amount : ℚ) (reference : String)
    {db : Database} (h : Repaid db)
    (hfits : ∀ a, (db .bnplInstallment).find installmentId = some a → amount ≤ a.amount - a.amountPaid) :
    wp db (repayFromWallet e userId installmentId amount reference) fun _ db' => Repaid db' := by
  have hdebit : Writes [.wallet] (updateMany .wallet (fun _ w => w.userId == userId && decide (amount ≤ w.balance))
      fun w => { w with balance := w.balance - amount }) :=
    .updateMany (List.mem_singleton_self TableName.wallet) _ _
  rw [repayFromWallet, wp_bind]
  refine wp_mono (hdebit db) fun _ db₁ hsame => ?_
  have h₁ : Repaid db₁ := h.congr (hsame _ (by decide)) (hsame _ (by decide))
  rw [wp_bind, wp_require]
  intro _
  rw [wp_bind, wp_first, wp_bind, wp_orThrow]
  intro _ _
  rw [wp_bind, wp_createUnique]
  intro _
  generalize hdb₂ : db₁.set .walletTransaction _ = db₂
  have hinstallment : db₂ .bnplInstallment = db .bnplInstallment := by
    rw [← hdb₂, Relational.Database.set_of_ne _ _ (by decide)]
    exact hsame _ (by decide)
  have h₂ : Repaid db₂ := h₁.congr (by rw [← hdb₂, Relational.Database.set_of_ne _ _ (by decide)])
    (by rw [← hdb₂, Relational.Database.set_of_ne _ _ (by decide)])
  rw [wp_bind, wp_createUnique]
  intro _
  rw [wp_bind]
  refine wp_mono (completeBnplRepayment_repaid e _ (h₂.start rfl) fun r a hr ha _ => ?_) fun _ _ h' =>
    (wp_pure _ _ _).mpr h'
  rw [Relational.Database.set_self, Relational.Table.find_create_self] at hr
  obtain rfl := Option.some.inj hr
  rw [Relational.Database.set_of_ne _ _ (by decide), hinstallment] at ha
  exact hfits a ha

end Payments

/-- The amount of an installment of approved terms. -/
def PlanSnapshot.installment (terms : PlanSnapshot) (index : ℕ) : ℚ :=
  if index = terms.months - 1 then terms.finalInstallment else terms.monthlyAmount

/-- Every installment of the terms has something to pay. -/
def PlanSnapshot.demanding (terms : PlanSnapshot) : Bool :=
  (List.range terms.months).all fun index => decide (0 < terms.installment index)

namespace Checkout

/-- Installments that are laid out have no repayments yet. -/
theorem createInstallments_repaid (applicationId : ℕ) {terms : PlanSnapshot} (h : terms.demanding) :
    Within (Keeps Repaid) (createInstallments applicationId terms) := by
  refine .forM fun index hindex => .bind (fun db => ?_) fun _ => .pure _
  have hamount : 0 < terms.installment index := of_decide_eq_true (List.all_eq_true.mp h index hindex)
  rw [wp_firstOrCreate]
  exact ⟨fun _ _ hdb => hdb, fun _ hdb => hdb.enter rfl hamount (show "PENDING" ≠ "PAID" by decide)⟩

/-- Confirming an application lays out installments without repayments. -/
theorem confirm_repaid (e : Env) (userId id : ℕ) {db : Database}
    (hterms : ∀ app, (db .bnplApplication).find id = some app → app.status = "APPROVED" →
      app.planSnapshot.demanding) :
    wp db (confirm e userId id) fun _ db' => Keeps Repaid db db' := by
  rw [confirm, wp_bind, wp_find, wp_bind, wp_orThrow]
  intro app happ
  split
  · exact (wp_pure _ _ _).mpr fun hdb => hdb
  · rw [confirmApplication, wp_bind, wp_require]
    intro happroved
    refine Within.bind (.of_reads (.findOrThrow _ _)) (fun _ => .bind (.of_reads (.require _ _)) fun _ => ?_) db
    refine .bind (repaid_of_writes (createInTransaction_writes _ _ _ _) (by decide) (by decide)) fun _ => ?_
    refine .bind (repaid_of_writes (.update (List.mem_singleton_self TableName.bnplApplication) _ _) (by decide)
      (by decide)) fun _ => ?_
    exact .bind (createInstallments_repaid _ (hterms app (Option.filter_eq_some_iff.mp happ).1 happroved))
      fun _ => .pure _

end Checkout

/-! ## All operations -/

/-- An amount that fits into what is left of an installment. -/
def fitsInstallment (db : Database) (installmentId : ℕ) (amount : ℚ) : Bool :=
  ((db .bnplInstallment).find installmentId).all fun a => decide (amount ≤ a.amount - a.amountPaid)

/-- An operation that completes a repayment completes one that fits into what is left of its installment, and one
that creates installments creates them with something to pay. -/
def Op.fitsInstallments : {α : Type} → Op α → Env → Database → Bool
  | _, .settleRepayment id _ true, e, db => e.fails || ((db .bnplRepayment).find id).all fun r =>
      r.status == .paid || r.status == .failed || fitsInstallment db r.installmentId r.amount
  | _, .repayFromWallet _ installmentId amount _, e, db => e.fails || fitsInstallment db installmentId amount
  | _, .confirmFinancing _ id, e, db => e.fails || ((db .bnplApplication).find id).all fun app =>
      app.status != "APPROVED" || app.planSnapshot.demanding
  | _, _, _, _ => true

/-- A repayment is started for an amount, and has not been paid when it is. -/
def Op.StartsUnpaid : {α : Type} → Op α → Prop
  | _, .createRepayment r => r.status = .pending
  | _, .repayFromWallet _ _ amount _ => 0 < amount
  | _, _ => True

/-- A repayment that fits is no more than what is left to pay. -/
theorem fitsInstallment_le {db : Database} {i : ℕ} {amount : ℚ} (h : fitsInstallment db i amount)
    {a : BnplInstallment} (ha : (db .bnplInstallment).find i = some a) : amount ≤ a.amount - a.amountPaid := by
  rw [fitsInstallment, ha, Option.all_some] at h
  exact of_decide_eq_true h

/-- Every operation that completes what fits keeps repayments and installments together. -/
theorem exec_repaid {α : Type} (op : Op α) (e : Env) {w : World} (h : Repaid w.db) (hstarts : op.StartsUnpaid)
    (hfits : op.fitsInstallments e w.db) : Repaid (op.exec e w).2.db := by
  by_cases hfails : e.fails
  · rw [exec_fails_db hfails]
    exact h
  by_cases hwrites : TableName.bnplInstallment ∈ op.writes ∨ TableName.bnplRepayment ∈ op.writes
  swap
  · obtain ⟨hinstallment, hrepayment⟩ := not_or.mp hwrites
    exact h.congr (exec_frame op e w _ hinstallment) (exec_frame op e w _ hrepayment)
  have hkeeps {α : Type} {op : Op α} {m : Env → Tx α} (hop : op.transaction = some m)
      (hm : wp w.db (m e) fun _ db => Repaid db) : Repaid (op.exec e w).2.db :=
    exec_transaction hop (Φ := fun w' => Repaid w'.db) h hm
  rw [Bool.not_eq_true] at hfails
  cases op <;> dsimp only [Op.writes] at hwrites <;>
    first | exact absurd hwrites (by decide) | clear hwrites
  case confirmFinancing userId id =>
    dsimp only [Op.fitsInstallments] at hfits
    rw [hfails, Bool.false_or] at hfits
    refine hkeeps rfl (wp_mono (Checkout.confirm_repaid e userId id fun app happ happroved => ?_)
      fun _ _ hkept => hkept h)
    rw [happ, Option.all_some, happroved] at hfits
    exact hfits
  case settleRepayment k p success =>
    refine hkeeps rfl (Payments.settleRepayment_repaid e k p success h fun hsuccess r a hr ha hunpaid hopen => ?_)
    rw [hsuccess] at hfits
    dsimp only [Op.fitsInstallments] at hfits
    rw [hfails, Bool.false_or, hr, Option.all_some] at hfits
    refine fitsInstallment_le ?_ ha
    simpa [hunpaid, hopen] using hfits
  case repayFromWallet userId installmentId amount reference =>
    dsimp only [Op.fitsInstallments] at hfits
    rw [hfails, Bool.false_or] at hfits
    exact hkeeps rfl (Payments.repayFromWallet_repaid e _ _ _ _ h fun a ha => fitsInstallment_le hfits ha)
  case createRepayment r =>
    refine hkeeps rfl ?_
    rw [Payments.createRepayment, wp_createUnique]
    exact fun _ => h.start hstarts

/-! ## Runs -/

/-- The store, while other code leaves installments and repayments alone. -/
def financing : System Op Error World Env :=
  { store with
    background := fun w w' => OtherChange w w' ∧ w'.db .bnplInstallment = w.db .bnplInstallment ∧
      w'.db .bnplRepayment = w.db .bnplRepayment }

/-- What every step keeps of installments and repayments where repayments fit. -/
def repayments : Contract Op World Env where
  inv w := Repaid w.db
  guar _ _ := True
  known op _ := op.StartsUnpaid
  allowed op e w := op.fitsInstallments e w.db
  refl _ := trivial
  trans _ _ := trivial

/-- A program that comes to operations of kinds by which no repayment is started. -/
theorem Uses.unpaid {α : Type} {ks : List OpKind} {p : Request α} (h : Uses ks p) (hentry : .paymentEntry ∉ ks)
    (hwallet : .walletRepayment ∉ ks) : p.All fun _ op => op.StartsUnpaid := by
  refine Prog.All.imp h fun _ op hop => ?_
  cases op <;> first | exact trivial | exact absurd hop hentry | exact absurd hop hwallet

namespace Payments

/-- A repayment is started for what is left of an installment that has not been paid. -/
theorem payRepayment_unpaid (userId installmentId : ℕ) (byWallet : Bool) (w : World) :
    repayments.Ready machine (payRepayment userId installmentId byWallet) w := by
  refine ready_selectOrThrow (fun _ => trivial) fun w₁ a _ hinv ha => ready_check fun hunpaid => ?_
  have hleft : 0 < a.amount - a.amountPaid := by
    obtain ⟨b, hb, happ⟩ := Option.bind_eq_some_iff.mp ha
    obtain ⟨app, -, hconfirmed⟩ := Option.bind_eq_some_iff.mp happ
    obtain ⟨-, hsome⟩ := Option.ite_none_right_eq_some.mp hconfirmed
    obtain rfl := Option.some.inj hsome
    exact sub_pos.mpr (not_le.mp fun hle => hunpaid ((hinv.paid _ _ hb).mpr hle))
  refine ready_selectOrThrow (fun _ => trivial) fun _ _ _ _ _ => .then (fun _ _ _ => trivial) fun _ _ _ _ => ?_
  dsimp only
  split
  · exact .then (fun _ _ _ => hleft) fun _ _ _ _ => trivial
  · refine .then (fun _ _ _ => trivial) fun _ _ _ _ => .then (fun _ _ _ => trivial) fun _ _ _ _ => ?_
    exact .then (fun _ _ _ => rfl) fun _ _ _ _ => trivial

/-- Paying into a wallet repays no installment that is paid. -/
theorem topupWallet_unpaid (userId : ℕ) (amount : ℚ) : (topupWallet userId amount).All fun _ op =>
    op.StartsUnpaid := by
  have hcall {α : Type} {op : Op α} (h : op.StartsUnpaid) : (call op).All fun _ op => op.StartsUnpaid :=
    (Prog.all_call op).mpr h
  refine .bind (hcall trivial) fun _ => .bind (hcall trivial) fun _ => ?_
  refine .bind (hcall trivial) fun _ => .bind (hcall trivial) fun _ => ?_
  refine .bind (.attempt (hcall trivial) fun _ => ?_) fun _ => hcall trivial
  exact .bind (hcall trivial) fun _ => .bind (hcall trivial) fun _ => Prog.all_fail _

/-- Paying into a wallet by transfer repays no installment that is paid. -/
theorem topupWalletByTransfer_unpaid (userId : ℕ) (amount : ℚ) :
    (topupWalletByTransfer userId amount).All fun _ op => op.StartsUnpaid := by
  have hcall {α : Type} {op : Op α} (h : op.StartsUnpaid) : (call op).All fun _ op => op.StartsUnpaid :=
    (Prog.all_call op).mpr h
  refine .bind (hcall trivial) fun _ => .bind (hcall trivial) fun _ => ?_
  refine .bind (hcall trivial) fun _ => .attempt ?_ fun _ => ?_
  · exact .bind (hcall trivial) fun _ => .bind (Prog.all_done _) fun _ => hcall trivial
  · exact .bind (hcall trivial) fun _ => .bind (hcall trivial) fun _ => Prog.all_fail _

end Payments

/-- Every request starts repayments for what is left of an installment only. -/
theorem StoreRequest.unpaid {p : Request Unit} (h : StoreRequest p) (w : World) : repayments.Ready machine p w := by
  have hall {p : Request Unit} (h : p.All fun _ op => op.StartsUnpaid) : repayments.Ready machine p w :=
    Contract.informed_of_all (Prog.All.imp h fun _ _ hop _ => hop) w
  cases h with
  | payment h =>
    rcases h.passive with hpassive | hstarting
    · exact hall (hpassive.unpaid (by decide) (by decide))
    · cases hstarting with
      | place userId input => exact hall ((uses_discard (Checkout.place_uses _ _)).unpaid (by decide) (by decide))
      | initializePayment userId groupId =>
        exact hall ((Payments.initializePayment_uses _ _).unpaid (by decide) (by decide))
      | resumeCheckout userId id =>
        exact hall ((uses_discard (Payments.resumeCheckout_uses _ _)).unpaid (by decide) (by decide))
      | topupWallet userId amount => exact hall (Payments.topupWallet_unpaid _ _)
      | topupWalletByTransfer userId amount => exact hall (Payments.topupWalletByTransfer_unpaid _ _)
      | payRepayment userId installmentId byWallet => exact Payments.payRepayment_unpaid _ _ _ _
  | refund h => exact hall (h.uses.unpaid (by decide) (by decide))
  | status h => exact hall (h.uses.unpaid (by decide) (by decide))

/-- The requests of customers count their repayments. -/
theorem repayments_holds : repayments.Holds financing where
  starts hp w _ := StoreRequest.unpaid hp w
  performs op := fun e _ hinv hknown hfits => ⟨exec_repaid op e hinv hknown hfits, trivial⟩
  background h hinv := ⟨hinv.congr h.2.1 h.2.2, trivial⟩

/-- Financing before its first repayment. -/
structure Unrepaid (db : Database) : Prop where
  repayments : ∀ k, (db .bnplRepayment).find k = none
  unpaid : ∀ i a, (db .bnplInstallment).find i = some a → a.amountPaid = 0 ∧ 0 < a.amount ∧ a.status ≠ "PAID"

/-- Before the first repayment all of them are counted. -/
theorem Unrepaid.counts {db : Database} (h : Unrepaid db) : Repaid db where
  counted i a ha := by
    rw [repaid, Table.total_congr (h := fun _ _ => 0), Table.total_zero]
    · exact (h.unpaid i a ha).1
    · intro k r hr
      rw [h.repayments k] at hr
      cases hr
  within i a ha := (h.unpaid i a ha).1.trans_le (h.unpaid i a ha).2.1.le
  paid i a ha := by
    obtain ⟨hpaid, hamount, hstatus⟩ := h.unpaid i a ha
    rw [hpaid]
    exact iff_of_false hstatus hamount.not_ge
  known k r hr := by
    rw [h.repayments k] at hr
    cases hr

/-- In every run whose repayments fit into what is left of their installments when they are completed, and whose
installments have something to pay: every installment has been paid the sum of its paid repayments, at most its
amount, and is marked as paid exactly if that is all of it; and no repayment that fits is debited for an installment
that has been paid. -/
theorem repayments_never_overpay {w : World} (hw : Unrepaid w.db) {c : Config Op Error World}
    (hrun : financing.Run (fun op e c => op.fitsInstallments e c.world.db) ⟨w, []⟩ c) :
    (∀ i a, (c.world.db .bnplInstallment).find i = some a → a.amountPaid = repaid c.world.db i ∧
      a.amountPaid ≤ a.amount ∧ (a.status = "PAID" ↔ a.amount ≤ a.amountPaid)) ∧
    ∀ userId i amount reference k, .perform (.repayFromWallet userId i amount reference) k ∈ c.threads →
      fitsInstallment c.world.db i amount → ∀ a, (c.world.db .bnplInstallment).find i = some a →
        a.status ≠ "PAID" := by
  have hsound : repayments.Sound financing ⟨w, []⟩ := ⟨hw.counts, by simp⟩
  obtain ⟨⟨hinv, hthreads⟩, -⟩ := repayments_holds.run hsound hrun
  refine ⟨fun i a ha => ⟨hinv.counted i a ha, hinv.within i a ha, hinv.paid i a ha⟩,
    fun userId i amount reference k hk hfits a ha hpaid => ?_⟩
  have hallowed : (Op.repayFromWallet userId i amount reference).fitsInstallments { now := 0 } c.world.db := hfits
  have hamount : 0 < amount := (hthreads _ hk { now := 0 } c.world trivial hinv hallowed).1
  exact absurd (hamount.trans_le (fitsInstallment_le hfits ha))
    (sub_nonpos.mpr ((hinv.paid i a ha).mp hpaid)).not_gt

/-! ## Two repayments of one installment -/

/-- The quote of a financed pickup. -/
def financedQuote : Quote where
  cartId := 1
  currency := "NGN"
  fulfillmentType := .pickup
  subtotal := 20
  shippingFee := 0
  discountAmount := 0
  total := 20
  orders := []
  paymentMethod := .wallet

/-- A customer with 50 in the wallet has one installment of 20 to pay. -/
def financedShop : World where
  db := (shop.db.set .bnplApplication (Table.empty.create
      { userId := 1, planId := 1, status := "CONFIRMED", checkoutInput := walletPickup,
        quoteSnapshot := financedQuote
        planSnapshot :=
          { provider := "easybuy", label := "Easybuy", principal := 20, months := 1, interestRate := 0,
            totalPayable := 20, monthlyAmount := 20, finalInstallment := 20 } })).set .bnplInstallment
    (Table.empty.create { applicationId := 1, sequence := 1, amount := 20 })

/-- The shop of the example has no repayments. -/
theorem unrepaid_financedShop : Unrepaid financedShop.db where
  repayments _ := rfl
  unpaid i a ha := by
    rcases Ledger.find_of_create (t := Table.empty) ha with ⟨-, rfl⟩ | hold
    · refine ⟨rfl, by decide +kernel, by decide⟩
    · cases hold

/-- The customer repays the installment twice. -/
def twoRepayments : List (Request Unit) := [Payments.payRepayment 1 1 true, Payments.payRepayment 1 1 true]

/-- The repayments of the example can be made. -/
theorem twoRepayments_start : ∀ p ∈ twoRepayments, financing.starts p := by
  intro p hp
  rcases List.mem_pair.mp hp with rfl | rfl
  · exact .payment (.payRepayment 1 1 true)
  · exact .payment (.payRepayment 1 1 true)

/-- Both requests read the installment before either of them pays. -/
def repaidTwice : List (ℕ × Env) :=
  List.replicate 3 (0, { now := 1, uuid := "a" }) ++ List.replicate 3 (1, { now := 1, uuid := "b" }) ++
    [(0, { now := 2 }), (1, { now := 2 })]

/-- An installment can be paid twice over, the second time when it is marked as paid. -/
theorem repayments_can_overpay :
    ¬∀ (w : World) (c : Config Op Error World), Unrepaid w.db → financing.Run System.anyOp ⟨w, []⟩ c →
      ∀ i a, (c.world.db .bnplInstallment).find i = some a → a.amountPaid ≤ a.amount := by
  intro h
  have hwithin := h financedShop _ unrepaid_financedShop (financing.schedule_run twoRepayments_start repaidTwice)
  have hpaid : (((financing.follow ⟨financedShop, twoRepayments⟩ repaidTwice).world.db .bnplInstallment).find 1).map
      (fun a => (a.amountPaid, a.amount)) = some (40, 20) := by decide +kernel
  obtain ⟨a, ha, hvalues⟩ := Option.map_eq_some_iff.mp hpaid
  obtain ⟨hsum, hamount⟩ := Prod.mk.inj hvalues
  have hle := hwithin 1 a ha
  rw [hsum, hamount] at hle
  exact absurd hle (by decide +kernel)

/-- One repayment fits, and pays the installment. -/
theorem repayments_never_overpay_once :
    ∃ a, ((financing.follow ⟨financedShop, twoRepayments⟩
      (List.replicate 4 (0, { now := 1, uuid := "a" }))).world.db .bnplInstallment).find 1 = some a ∧
      a.amountPaid ≤ a.amount ∧ a.status = "PAID" := by
  have hallows : financing.allows (fun op e c => op.fitsInstallments e c.world.db) ⟨financedShop, twoRepayments⟩
      (List.replicate 4 (0, { now := 1, uuid := "a" })) := by decide +kernel
  have hpaid : (((financing.follow ⟨financedShop, twoRepayments⟩
      (List.replicate 4 (0, { now := 1, uuid := "a" }))).world.db .bnplInstallment).find 1).map (·.status) =
        some "PAID" := by decide +kernel
  obtain ⟨a, ha, hstatus⟩ := Option.map_eq_some_iff.mp hpaid
  have hrun : financing.Run (fun op e c => op.fitsInstallments e c.world.db) ⟨financedShop, []⟩
      (financing.follow ⟨financedShop, twoRepayments⟩ (List.replicate 4 (0, { now := 1, uuid := "a" }))) :=
    (financing.start_all_run twoRepayments_start).trans (financing.follow_run_of hallows)
  exact ⟨a, ha, ((repayments_never_overpay unrepaid_financedShop hrun).1 1 a ha).2.1, hstatus⟩

end Superstore

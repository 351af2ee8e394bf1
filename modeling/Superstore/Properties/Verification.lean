import Superstore.Relational.Growth
import Superstore.Requests.Effects
import Superstore.Requests.Kinds

/-!
# What a verification reports

A verification of a reference reads a payment, asks Paystack, and then writes once. What it
reports comes from the answer and from the first read, and not from what the writing has done.
Between the two anything may happen to the payment. It is shown here from which states the
report agrees with what is stored in the end: neither every state nor every answer is among them.
-/

namespace Superstore.Payments

open Interleaving
open Relational.Tx (Writes wp wp_bind wp_many wp_mono wp_pure wp_update wp_findOrThrow wp_when wp_mapM
  wp_mapM_rec)

/-! ## Asking and closing -/

/-- What a verification has found out about a payment before it writes. -/
inductive Answer
  | unchanged
  | finish
  | checkout (success : Bool)
  | credit
  | failTopup (reason : Option String)
  | repayment (id : ℕ) (success : Bool)
  deriving DecidableEq

/-- Ask Paystack about the repayment of an installment. -/
def askRepayment (k : KnownPayment) (reference : String) : Request Answer := do
  let repayment ← selectOrThrow
    (fun db => (db .bnplRepayment).first fun _ r => r.reference == reference)
    (.notFound "BNPL repayment not found.")
  let v ← call (.verify reference)
  decided (ensureMatches v reference k.payment
    "Payment reference, amount, or currency does not match repayment.")
  match v.status with
  | .other => pure .unchanged
  | .success => pure (.repayment repayment.1 true)
  | .failed => pure (.repayment repayment.1 false)

/-- Ask Paystack about a top-up of a wallet. -/
def askTopup (k : KnownPayment) (reference : String) : Request Answer := do
  let v ← call (.verify reference)
  decided (ensureMatches v reference k.payment
    "Payment reference, amount, or currency does not match top-up.")
  match v.status with
  | .other => do
    let now ← call .now
    if k.payment.metadata.purpose = some .walletTransferTopup ∧ transferExpired now k.payment then
      pure (.failTopup (some "Bank transfer account expired."))
    else pure .unchanged
  | .success => pure .credit
  | .failed => pure (.failTopup none)

/-- Ask Paystack about the payment of a checkout. -/
def askCheckout (k : KnownPayment) (reference : String) : Request Answer := do
  let v ← call (.verify reference)
  decided (ensureMatches v reference k.payment
    "Payment reference, amount, or currency does not match checkout.")
  match v.status with
  | .success => pure (.checkout true)
  | .failed => pure (.checkout false)
  | .other => do
    let now ← call .now
    if k.payment.paymentMethod = .bankTransfer ∧ transferExpired now k.payment then
      pure (.checkout false)
    else pure .unchanged

/-- Find out what there is to write about a payment. -/
def ask (k : KnownPayment) (reference : String) : Request Answer :=
  if k.payment.status = .refunded ∨ k.payment.status = .partiallyRefunded then pure .unchanged
  else if k.payment.status = .paid then pure .finish
  else match k.payment.metadata.purpose with
    | some .bnplRepayment => askRepayment k reference
    | some .walletTopup => askTopup k reference
    | some .walletTransferTopup => askTopup k reference
    | _ => askCheckout k reference

/-- Write what has been found out about a payment, and report it. -/
def close (k : KnownPayment) : Answer → Request Verification
  | .unchanged => pure (.status k.payment.status)
  | .finish => verifyPaid k
  | .checkout success => applyOutcome k success
  | .credit => do
    let credited ← call (.creditTopup k.id (k.payment.metadata.userId.getD 0) k.payment.amount)
    onlyIf credited (call .notify)
    pure (.status .paid)
  | .failTopup reason => do
    call (.updatePayment k.id (.failTopup reason))
    call .notify
    pure (.status .failed)
  | .repayment id success => do
    call (.settleRepayment id k.id success)
    pure (.status (if success then .paid else .failed))

/-- Read the payment under a reference. -/
def readKnown (reference : String) : Request KnownPayment := do
  let known ← select (knownPayment reference)
  decided (fromOption (known.filter (·.payment.provider == .paystack)) (.notFound "Payment not found."))

/-- Verifying a repayment is asking Paystack, and then settling what it reports. -/
theorem verifyRepayment_eq (k : KnownPayment) (reference : String) :
    verifyRepayment k reference = (askRepayment k reference).bind (close k) := by
  simp only [verifyRepayment, askRepayment, Prog.bind_eq, Prog.bind_assoc]
  congr
  funext repayment
  congr
  funext v
  congr
  funext _
  cases v.status <;> rfl

/-- Verifying a top-up is asking Paystack, and then crediting what it reports. -/
theorem verifyTopup_eq (k : KnownPayment) (reference : String) :
    verifyTopup k reference = (askTopup k reference).bind (close k) := by
  simp only [verifyTopup, askTopup, Prog.bind_eq, Prog.bind_assoc]
  congr
  funext v
  congr
  funext _
  cases v.status with
  | success => rfl
  | failed => rfl
  | other =>
    simp only [Prog.bind_assoc]
    congr
    funext now
    split <;> rfl

/-- Verifying a checkout is asking Paystack, and then finishing what it reports. -/
theorem verifyCheckout_eq (k : KnownPayment) (reference : String) :
    verifyCheckout k reference = (askCheckout k reference).bind (close k) := by
  simp only [verifyCheckout, askCheckout, Prog.bind_eq, Prog.bind_assoc]
  congr
  funext v
  congr
  funext _
  cases v.status with
  | success => rfl
  | failed => rfl
  | other =>
    simp only [Prog.bind_assoc]
    congr
    funext now
    split <;> rfl

/-- A verification reads, asks and closes. -/
theorem verifyReference_eq (reference : String) :
    verifyReference reference =
      (readKnown reference).bind fun k => (ask k reference).bind (close k) := by
  simp only [verifyReference, readKnown, Prog.bind_eq, Prog.bind_assoc]
  congr
  funext known
  congr
  funext k
  unfold ask
  split
  · rfl
  · split
    · rfl
    · cases k.payment.metadata.purpose with
      | none => exact verifyCheckout_eq k reference
      | some purpose =>
        cases purpose with
        | bnplRepayment => exact verifyRepayment_eq k reference
        | walletTopup => exact verifyTopup_eq k reference
        | walletTransferTopup => exact verifyTopup_eq k reference
        | _ => exact verifyCheckout_eq k reference


/-! ## What is stored -/

/-- The status that is stored of a payment. -/
def storedStatus (id : ℕ) (db : Database) : Option PaymentStatus := ((db .payment).find id).map (·.status)

/-- Refunds have been created. -/
def RefundsCreated (db db' : Database) : Prop := ∃ i, (db .refund).find i = none ∧ ((db' .refund).find i).isSome

/-- What the groups of a payment have allocated to orders. -/
def allocationsOf (id : ℕ) (db : Database) : List Allocation := (groupsOf id db).flatMap (·.2.allocations)

/-- An order that no refund has been noted for. -/
def Unrefunded (db : Database) (a : Allocation) : Prop :=
  (db .refund).first (fun _ r => r.orderId == a.orderId) = none

/-- The status that the outcome of a payment stands for. -/
def outcomeStatus (success : Bool) : PaymentStatus := if success then .paid else .failed

/-- The answers that are a failure of the payment. -/
def Answer.fails : Answer → Bool
  | .checkout success => !success
  | .failTopup _ => true
  | _ => false

/-- A notification is sent only if the payment is stored as failed. -/
def TellsFailed (id : ℕ) : (β : Type) → Op β → World → Prop
  | _, .notify, w => storedStatus id w.db = some .failed
  | _, _, _ => True

/-- A verification has reported what is stored. -/
structure Reports (k : KnownPayment) (a : Answer) (w : World) (v : Verification) (w' : World) : Prop where
  status : ∀ s, v = .status s → storedStatus k.id w'.db = some s
  pending : v = .refundPending ↔ RefundsCreated w.db w'.db
  notices : a.fails → (close k a).Along machine (TellsFailed k.id) w

/-- What is stored, at the time of the writing, agrees with the answer and with what has been read first. -/
def MeetsStored (k : KnownPayment) : Answer → Database → Prop
  | .unchanged, db => storedStatus k.id db = some k.payment.status
  | .finish, db => storedStatus k.id db = some k.payment.status
  | .checkout true, db => storedStatus k.id db = some .failed →
      allocationsOf k.id db = [] ∨ ∃ a ∈ allocationsOf k.id db, Unrefunded db a
  | .checkout false, db => storedStatus k.id db ≠ some .paid
  | .credit, _ => True
  | .failTopup _, _ => True
  | .repayment id success, db => ∀ r, (db .bnplRepayment).find id = some r → r.status = .paid ∨ r.status = .failed →
      storedStatus k.id db = some (outcomeStatus success)

/-! ## What is kept -/

/-- A database has the refunds of another, whatever their status. -/
def SameRefunds (db db' : Database) : Prop := ∀ i, ((db' .refund).find i).isSome = ((db .refund).find i).isSome

/-- Refunds that stay are the same. -/
theorem SameRefunds.of_eq {db db' : Database} (h : db' .refund = db .refund) : SameRefunds db db' :=
  fun i => by rw [h]

/-- Where refunds stay, none has been created. -/
theorem SameRefunds.not_created {db db' : Database} (h : SameRefunds db db') : ¬RefundsCreated db db' := by
  rintro ⟨i, hnone, hsome⟩
  rw [h i, hnone] at hsome
  cases hsome

/-- What is done before refunds stay decides whether one has been created. -/
theorem SameRefunds.created_iff {db db₁ db' : Database} (h : SameRefunds db₁ db') :
    RefundsCreated db db' ↔ RefundsCreated db db₁ :=
  exists_congr fun i => and_congr_right fun _ => by rw [h i]

/-- A query leaves the database as it is. -/
theorem exec_query {α : Type} {op : Op α} (hop : op.kind ∈ queryKinds) (e : Env) (w : World) :
    (machine.exec op e w).2.db = w.db := by
  have hwrites : op.writes = [] := by
    cases op <;> try rfl
    case updatePayment id u => cases u <;> simp [Op.kind, PaymentUpdate.kind, queryKinds] at hop
    all_goals simp [Op.kind, queryKinds] at hop
  exact funext fun n => exec_frame op e w n (by simp [hwrites])

/-- Queries leave the database as it is. -/
theorem query_keeps {α : Type} {p : Request α} (h : Uses queryKinds p) (db : Database) :
    p.All fun _ op => ∀ w : World, w.db = db → ∀ e, (machine.exec op e w).2.db = db :=
  Prog.All.imp h fun _ _ hop w hw e => (exec_query hop e w).trans hw

/-- The requests about refunds create none. -/
theorem refund_keeps {α : Type} {p : Request α} (h : Uses refundKinds p) (db : Database) :
    p.All fun _ op => ∀ w : World, SameRefunds db w.db → ∀ e, SameRefunds db (machine.exec op e w).2.db := by
  refine Prog.All.imp h fun _ op hop w hw e i => ?_
  rw [← hw i]
  by_cases hrefund : TableName.refund ∈ op.writes
  · have hupdate {β : Type} {op : Op β} {m : Env → Tx β} (hop : op.transaction = some m)
        (hm : wp w.db (m e) fun _ db' => SameRefunds w.db db') : SameRefunds w.db (op.exec e w).2.db :=
      exec_transaction hop (Φ := fun w' => SameRefunds w.db w'.db) (fun _ => rfl) hm
    have hrows (p : ℕ → Refund → Bool) (f : Refund → Refund) :
        SameRefunds w.db (w.db.set .refund ((w.db .refund).updateMany p f)) := by
      intro i
      rw [Relational.Database.set_self, Relational.Table.find_updateMany, Option.isSome_map]
    cases op
    case claimRefund => exact hupdate rfl ((Relational.Tx.wp_updateMany _ _ _ _ _).mpr (hrows _ _)) i
    case reopenRefund => exact hupdate rfl ((Relational.Tx.wp_updateMany _ _ _ _ _).mpr (hrows _ _)) i
    case updateRefund =>
      refine hupdate rfl ?_ i
      rw [updateRefund, wp_bind, wp_update]
      intro _ _
      exact (wp_findOrThrow _ _ _ _).mpr fun _ _ => hrows _ _
    case completeManual =>
      refine hupdate rfl ?_ i
      rw [completeManual, wp_bind, wp_update]
      intro _ _
      exact (wp_findOrThrow _ _ _ _).mpr fun _ _ => hrows _ _
    case updatePayment => simp [Op.writes] at hrefund
    all_goals first | (simp [Op.writes] at hrefund; done) | simp [Op.kind, refundKinds] at hop
  · rw [show (machine.exec op e w).2.db .refund = w.db .refund from exec_frame op e w _ hrefund]

/-! ## Late payments -/

/-- Refunds are noted for some allocations, one for each order that has none. -/
structure Notes (as : List Allocation) (ids : List ℕ) (db db' : Database) : Prop where
  answers : ids = [] ↔ as = []
  payments : db' .payment = db .payment
  kept : ∀ i r, (db .refund).find i = some r → (db' .refund).find i = some r
  created : RefundsCreated db db' ↔ ∃ a ∈ as, Unrefunded db a

/-- No refunds are noted for no allocations. -/
theorem Notes.nil (db : Database) : Notes [] [] db db where
  answers := by simp
  payments := rfl
  kept _ _ := id
  created := by
    constructor
    · rintro ⟨i, hnone, hsome⟩
      rw [hnone] at hsome
      cases hsome
    · rintro ⟨a, ha, -⟩
      exact absurd ha List.not_mem_nil

/-- An order that has a refund keeps it. -/
theorem Notes.unrefunded {as : List Allocation} {ids : List ℕ} {db db' : Database} (h : Notes as ids db db')
    {a : Allocation} (ha : Unrefunded db' a) : Unrefunded db a := by
  rw [Unrefunded, Relational.Table.first_eq_none] at ha ⊢
  exact fun i r hr => ha i r (h.kept i r hr)

/-- The refunds of two lists of allocations are noted together. -/
theorem Notes.append {as bs : List Allocation} {ids js : List ℕ} {db db₁ db' : Database} (h : Notes as ids db db₁)
    (h' : Notes bs js db₁ db') : Notes (as ++ bs) (ids ++ js) db db' where
  answers := by rw [List.append_eq_nil_iff, List.append_eq_nil_iff, h.answers, h'.answers]
  payments := h'.payments.trans h.payments
  kept i r hr := h'.kept i r (h.kept i r hr)
  created := by
    constructor
    · rintro ⟨i, hnone, hsome⟩
      cases hmiddle : (db₁ .refund).find i with
      | some r =>
        obtain ⟨a, ha, hopen⟩ := h.created.mp ⟨i, hnone, by rw [hmiddle]; rfl⟩
        exact ⟨a, List.mem_append_left _ ha, hopen⟩
      | none =>
        obtain ⟨a, ha, hopen⟩ := h'.created.mp ⟨i, hmiddle, hsome⟩
        exact ⟨a, List.mem_append_right _ ha, h.unrefunded hopen⟩
    · rintro ⟨a, ha, hopen⟩
      have hpersists : RefundsCreated db db₁ → RefundsCreated db db' := by
        rintro ⟨i, hnone, hsome⟩
        obtain ⟨r, hr⟩ := Option.isSome_iff_exists.mp hsome
        exact ⟨i, hnone, by rw [h'.kept i r hr]; rfl⟩
      rcases List.mem_append.mp ha with hfirst | hsecond
      · exact hpersists (h.created.mpr ⟨a, hfirst, hopen⟩)
      · -- Either the order has been refunded on the way, or it still is not.
        by_cases hstill : Unrefunded db₁ a
        · obtain ⟨i, hnone, hsome⟩ := h'.created.mpr ⟨a, hsecond, hstill⟩
          refine ⟨i, ?_, hsome⟩
          cases hold : (db .refund).find i with
          | none => rfl
          | some r =>
            rw [h.kept i r hold] at hnone
            cases hnone
        · apply hpersists
          rw [Unrefunded, Relational.Table.first_eq_none] at hstill hopen
          push Not at hstill
          obtain ⟨i, r, hr, horder⟩ := hstill
          refine ⟨i, ?_, by rw [hr]; rfl⟩
          cases hold : (db .refund).find i with
          | none => rfl
          | some r' =>
            rw [h.kept i r' hold] at hr
            obtain rfl := Option.some.inj hr
            exact absurd (hopen i r' hold) horder

/-- A late payment has a refund noted for its allocation. -/
theorem lateRefund_notes (p groupId : ℕ) (group : CheckoutPaymentGroup) (a : Allocation) (db : Database) :
    wp db (lateRefund p groupId group a) fun id db' => Notes [a] [id] db db' := by
  rw [lateRefund, wp_bind, Relational.Tx.wp_first]
  cases hfirst : (db .refund).first fun _ r => r.orderId == a.orderId with
  | some existing =>
    rw [wp_pure]
    refine ⟨by simp, rfl, fun _ _ => id, ?_⟩
    constructor
    · exact fun h => absurd h (SameRefunds.not_created (.of_eq rfl))
    · rintro ⟨b, hb, hopen⟩
      obtain rfl := List.mem_singleton.mp hb
      rw [Unrefunded, hfirst] at hopen
      cases hopen
  | none =>
    rw [Relational.Tx.wp_createUnique]
    intro _
    refine ⟨by simp, Relational.Database.set_of_ne _ _ (by decide), fun i r hr => ?_, ?_⟩
    · rw [Relational.Database.set_self]
      exact Relational.Table.find_create_of_find _ hr
    · refine ⟨fun _ => ⟨a, List.mem_singleton_self a, hfirst⟩, fun _ => ⟨(db .refund).next, ?_, ?_⟩⟩
      · exact Relational.Table.find_of_next_le le_rfl
      · rw [Relational.Database.set_self, Relational.Table.find_create_self]
        rfl

/-- A late payment is stored as paid, and its refunds are noted. -/
theorem acceptLatePayment_notes (e : Env) (p : ℕ) (db : Database) :
    wp db (acceptLatePayment e p) fun ids db' => storedStatus p db' = some .paid ∧
    (ids = [] ↔ allocationsOf p db = []) ∧
      (RefundsCreated db db' ↔ ∃ a ∈ allocationsOf p db, Unrefunded db a) := by
  rw [acceptLatePayment, wp_bind, wp_update]
  intro q hq
  rw [wp_bind, wp_many, Relational.Database.set_of_ne _ _ (by decide), wp_bind]
  have hgroups (gs : List (ℕ × CheckoutPaymentGroup)) (db : Database) :
      wp db (gs.mapM fun g => g.2.allocations.mapM (lateRefund p g.1 g.2)) fun ids db' =>
        Notes (gs.flatMap (·.2.allocations)) ids.flatten db db' := by
    refine wp_mapM_rec (R := fun (gs : List (ℕ × CheckoutPaymentGroup)) ids =>
      Notes (gs.flatMap (·.2.allocations)) ids.flatten) Notes.nil (fun g _ gs ids db => ?_) db
    have hround (a : Allocation) (_ : a ∈ g.2.allocations) (as : List Allocation) (ids : List ℕ) (db : Database) :
        wp db (lateRefund p g.1 g.2 a) fun id db₁ => ∀ db', Notes as ids db₁ db' →
          Notes (a :: as) (id :: ids) db db' :=
      wp_mono (lateRefund_notes p g.1 g.2 a db) fun _ _ h _ h' => h.append h'
    refine wp_mono (wp_mapM_rec (R := Notes) Notes.nil hround db) fun js db₁ h db' h' => ?_
    rw [List.flatMap_cons, List.flatten_cons]
    exact h.append h'
  refine wp_mono (hgroups _ _) fun ids db' h => ?_
  rw [wp_pure]
  have hstored : storedStatus p db' = some .paid := by
    rw [storedStatus, h.payments, Relational.Database.set_self, Relational.Table.find_update_self, hq]
    rfl
  refine ⟨hstored, h.answers, ?_⟩
  have hcreated := h.created
  rw [RefundsCreated, Relational.Database.set_of_ne _ _ (by decide)] at hcreated
  have hopen (t : Relational.Table Payment) (a : Allocation) :
      Unrefunded (Relational.Database.set db .payment t) a ↔ Unrefunded db a := by
    rw [Unrefunded, Relational.Database.set_of_ne _ _ (by decide)]
    rfl
  exact hcreated.trans (exists_congr fun a => and_congr_right fun _ => hopen _ a)

/-! ## What a writing leaves -/

/-- The outcome of a checkout payment, as it is stored afterwards. -/
theorem finalizePayment_stores (e : Env) (p : ℕ) (groups : List (ℕ × ℕ)) (success : Bool) (db : Database) :
    wp db (finalizePayment e p groups success) fun ids db' =>
      if storedStatus p db = some .paid then storedStatus p db' = some .paid ∧ ids = [] ∧ SameRefunds db db'
      else if storedStatus p db = some .failed ∧ success then
        storedStatus p db' = some .paid ∧ (ids = [] ↔ allocationsOf p db = []) ∧
          (RefundsCreated db db' ↔ ∃ a ∈ allocationsOf p db, Unrefunded db a)
      else storedStatus p db' = some (outcomeStatus success) ∧ ids = [] ∧ SameRefunds db db' := by
  have hlock : Writes Cart.tables (groups.forM fun g => do let _ ← Cart.lock g.2; pure ()) :=
    .forM fun g _ => .bind (Cart.lock_writes _) fun _ => .pure ()
  rw [finalizePayment]
  refine hlock.before fun _ db₁ hsame => ?_
  have hstored : storedStatus p db = storedStatus p db₁ := by
    rw [storedStatus, storedStatus, hsame .payment (by decide)]
  have hallocations : allocationsOf p db = allocationsOf p db₁ := by
    rw [allocationsOf, allocationsOf, groupsOf, groupsOf, hsame .checkoutPaymentGroup (by decide)]
  have hrefund : db₁ .refund = db .refund := hsame .refund (by decide)
  rw [wp_bind, wp_findOrThrow]
  intro current hcurrent
  have hstatus : storedStatus p db₁ = some current.status := by rw [storedStatus, hcurrent]; rfl
  rw [hstored, hallocations, hstatus]
  by_cases hpaid : current.status = .paid
  · rw [if_pos hpaid, wp_pure, if_pos (by rw [hpaid]), hstatus, hpaid]
    exact ⟨rfl, rfl, .of_eq hrefund⟩
  simp only [Option.some.injEq, hpaid, if_false]
  have hupdate {f : Payment → Payment} {s : PaymentStatus} (hf : ∀ q, (f q).status = s) {m : Tx Unit}
      (hm : Writes (completionTables ++ callOffTables) m) :
      wp db₁ (do update .payment p f; m; pure ([] : List ℕ)) fun ids db' =>
        storedStatus p db' = some s ∧ ids = [] ∧ SameRefunds db db' := by
    rw [wp_bind, wp_update]
    intro q hq
    refine hm.before fun _ db₂ h₂ => ?_
    rw [wp_pure]
    refine ⟨?_, rfl, .of_eq ?_⟩
    · rw [storedStatus, h₂ .payment (by decide), Relational.Database.set_self,
        Relational.Table.find_update_self, hq,
        Option.map_some, Option.map_some, hf]
    · rw [h₂ .refund (by decide), Relational.Database.set_of_ne _ _ (by decide), hrefund]
  by_cases hfailed : current.status = .failed
  · simp only [hfailed, if_true, true_and]
    cases success with
    | true =>
      simp only [if_true]
      refine wp_mono (acceptLatePayment_notes e p db₁) fun ids db' ⟨h, hids, hcreated⟩ => ⟨h, hids, ?_⟩
      rw [RefundsCreated, hrefund] at hcreated
      refine hcreated.trans (exists_congr fun a => and_congr_right fun _ => ?_)
      rw [Unrefunded, Unrefunded, hrefund]
    | false =>
      rw [if_neg (by decide), wp_pure, if_neg (by decide), hstatus, hfailed]
      exact ⟨rfl, rfl, .of_eq hrefund⟩
  · simp only [hfailed, false_and, if_false]
    cases success with
    | true =>
      rw [if_pos rfl]
      exact hupdate (f := markPaid e.now) (fun _ => rfl) (.forM fun (g : ℕ × ℕ) _ =>
        (completeGroup_writes e g.1).mono (by decide))
    | false =>
      rw [if_neg (by decide)]
      exact hupdate (f := fun q => { q with status := .failed })
        (fun _ => rfl) (.forM fun (g : ℕ × ℕ) _ => (failGroup_writes e g.1).mono (by decide))

/-- The outcome of a repayment is stored unless the repayment has been settled. -/
theorem settleRepayment_stores (e : Env) (id p : ℕ) (success : Bool) (db : Database) :
    wp db (settleRepayment e id p success) fun _ db' =>
      SameRefunds db db' ∧ ∃ r, (db .bnplRepayment).find id = some r ∧
      if r.status = .paid ∨ r.status = .failed then storedStatus p db' = storedStatus p db
      else storedStatus p db' = some (outcomeStatus success) := by
  rw [settleRepayment, wp_bind, wp_findOrThrow]
  intro r hr
  rw [wp_when]
  constructor
  · intro hopen
    have hwrites : Writes [.bnplRepayment, .bnplInstallment]
        (if success then completeBnplRepayment e id
          else update .bnplRepayment id fun r => { r with status := .failed }) := by
      split
      · exact completeBnplRepayment_writes e _
      · exact .update (by decide) _ _
    refine hwrites.before fun _ db₁ hsame => ?_
    rw [wp_update]
    intro q hq
    refine ⟨.of_eq ?_, r, hr, ?_⟩
    · rw [Relational.Database.set_of_ne _ _ (by decide), hsame _ (by decide)]
    · rw [if_neg fun h => h.elim hopen.1 hopen.2, storedStatus, Relational.Database.set_self,
        Relational.Table.find_update_self, hq]
      rfl
  · intro hsettled
    refine ⟨.of_eq rfl, r, hr, ?_⟩
    rw [if_pos]
    by_contra hopen
    exact hsettled (not_or.mp hopen)

/-- A top-up that has been credited is stored as paid. -/
theorem creditTopup_stores (e : Env) (p userId : ℕ) (amount : ℚ) (db : Database) :
    wp db (creditTopup e p userId amount) fun _ db' => SameRefunds db db' ∧ storedStatus p db' = some .paid := by
  rw [creditTopup, wp_bind, wp_findOrThrow]
  intro current hcurrent
  by_cases hpaid : current.status = .paid
  · rw [if_pos hpaid, wp_pure]
    refine ⟨.of_eq rfl, ?_⟩
    rw [storedStatus, hcurrent, Option.map_some, hpaid]
  · rw [if_neg hpaid, wp_bind, wp_update]
    intro q hq
    refine (creditWallet_writes userId amount _).before fun _ db₁ hsame => ?_
    rw [wp_pure]
    refine ⟨.of_eq ?_, ?_⟩
    · rw [hsame _ (by decide), Relational.Database.set_of_ne _ _ (by decide)]
    · rw [storedStatus, hsame _ (by decide), Relational.Database.set_self, Relational.Table.find_update_self, hq]
      rfl

/-- A top-up that has been given up is stored as failed. -/
theorem failTopup_stores (p : ℕ) (reason : Option String) (db : Database) :
    wp db (updatePayment p (.failTopup reason)) fun _ db' =>
      SameRefunds db db' ∧ storedStatus p db' = some .failed := by
  rw [updatePayment, wp_update]
  intro q hq
  refine ⟨.of_eq (Relational.Database.set_of_ne _ _ (by decide)), ?_⟩
  rw [storedStatus, Relational.Database.set_self, Relational.Table.find_update_self, hq]
  rfl

/-! ## Reports -/

/-- After an operation, a verification only asks and tells, and then reports a verification's result. -/
theorem reports_after {q : Request Unit} (hq : Uses queryKinds q) (v : Verification) (w : World) :
    (q.bind fun _ => Prog.done (.ok v)).wpAlone machine
    (fun r w' => ∀ v', r = .ok v' → v' = v ∧ w'.db = w.db) w := by
  rw [Prog.wpAlone_bind]
  refine Prog.wpAlone_mono machine (Prog.All.keeps (P := fun w' : World => w'.db = w.db) (query_keeps hq w.db) rfl)
    fun r w' hsame => ⟨fun _ _ => ?_, fun _ _ _ h => nomatch h⟩
  rw [Prog.wpAlone_done]
  exact fun v' hv => ⟨(Except.ok.inj hv).symm, hsame⟩

/-- A report of a status, from a writing that notes no refund, is about the status only. -/
theorem reports_status {k : KnownPayment} {a : Answer} {w w' : World} {s : PaymentStatus}
    (hrefunds : SameRefunds w.db w'.db) (hnotices : MeetsStored k a w.db → a.fails →
      (close k a).Along machine (TellsFailed k.id) w)
    (hstored : storedStatus k.id w'.db = some s ↔ MeetsStored k a w.db) :
    Reports k a w (.status s) w' ↔ MeetsStored k a w.db := by
  constructor
  · exact fun h => hstored.mp (h.status s rfl)
  · intro h
    refine ⟨fun s' hs' =>
      ?_, ⟨fun hv => (nomatch hv), fun hcreated => absurd hcreated hrefunds.not_created⟩, hnotices h⟩
    obtain rfl : s = s' := Verification.status.inj hs'
    exact hstored.mpr h

/-- Telling customers only reads the tables. -/
theorem notify_uses {c : Prop} [Decidable c] : Uses queryKinds (onlyIf c (call .notify) : Request Unit) :=
  uses_onlyIf (uses_call rfl)

/-- A verification that has nothing to write. -/
theorem close_unchanged (k : KnownPayment) (w : World) :
    (close k .unchanged).wpAlone machine (fun r w' => ∀ v, r = .ok v →
    (Reports k .unchanged w v w' ↔ MeetsStored k .unchanged w.db)) w := by
  intro v hv
  obtain rfl := Except.ok.inj hv
  exact reports_status (.of_eq rfl) (fun _ h => nomatch h) Iff.rfl

/-- A verification of a payment that has been read as paid. -/
theorem close_finish (k : KnownPayment) (w : World) :
    (close k .finish).wpAlone machine (fun r w' => ∀ v, r = .ok v →
    (Reports k .finish w v w' ↔ MeetsStored k .finish w.db)) w := by
  have hfirst (c : Prop) [Decidable c] (groups : List (ℕ × ℕ)) :
      (onlyIf c (call (.completeIncomplete groups))).wpAlone machine
        (fun _ w' => w'.db .payment = w.db .payment ∧ w'.db .refund = w.db .refund) w := by
    rw [onlyIf]
    split
    · rw [Prog.wpAlone_call]
      exact fun e => ⟨exec_frame _ e w .payment (show TableName.payment ∉ completionTables by decide),
        exec_frame _ e w .refund (show TableName.refund ∉ completionTables by decide)⟩
    · exact ⟨rfl, rfl⟩
  rw [close, verifyPaid]
  rw [Prog.bind_eq, Prog.wpAlone_bind]
  refine Prog.wpAlone_mono machine (hfirst _ _) fun r w₁ ⟨hpayment, hrefund⟩ =>
    ⟨fun _ _ => ?_, fun _ _ _ h => nomatch h⟩
  refine Prog.wpAlone_mono machine (reports_after (dispatchGroupConfirmations_uses _) _ w₁) fun r w' h v hv => ?_
  obtain ⟨rfl, hdb⟩ := h v hv
  refine reports_status (.of_eq (by rw [hdb, hrefund])) (fun _ h => nomatch h) ?_
  rw [MeetsStored, storedStatus, storedStatus, hdb, hpayment]

/-- A top-up that has succeeded. -/
theorem close_credit (k : KnownPayment) (w : World) :
    (close k .credit).wpAlone machine (fun r w' => ∀ v, r = .ok v →
    (Reports k .credit w v w' ↔ MeetsStored k .credit w.db)) w := by
  rw [close, Prog.bind_eq, Prog.wpAlone_bind, Prog.wpAlone_call]
  intro e
  refine ⟨fun credited hcredited => ?_, fun _ _ _ h => nomatch h⟩
  obtain ⟨hrefunds, hstored⟩ := creditTopup_stores e _ _ _ w.db _ _ (exec_ok rfl hcredited)
  refine Prog.wpAlone_mono machine (reports_after notify_uses (.status .paid) _) fun r w' h v hv => ?_
  obtain ⟨rfl, hdb⟩ := h v hv
  refine reports_status (by rw [hdb]; exact hrefunds) (fun _ h => nomatch h) ?_
  rw [hdb]
  exact iff_of_true hstored trivial

/-- The outcome of a repayment. -/
theorem close_repayment (k : KnownPayment) (id : ℕ) (success : Bool) (w : World) :
    (close k (.repayment id success)).wpAlone machine (fun r w' => ∀ v, r = .ok v →
      (Reports k (.repayment id success) w v w' ↔ MeetsStored k (.repayment id success) w.db)) w := by
  rw [close, Prog.bind_eq, Prog.wpAlone_bind, Prog.wpAlone_call]
  intro e
  refine ⟨fun u hu => ?_, fun _ _ _ h => nomatch h⟩
  obtain ⟨hrefunds, r, hr, hstored⟩ := settleRepayment_stores e id k.id success w.db _ _ (exec_ok rfl hu)
  rw [Prog.pure_eq, Prog.wpAlone_done]
  intro v hv
  obtain rfl := Except.ok.inj hv
  refine reports_status hrefunds (fun _ h => nomatch h) ?_
  change storedStatus k.id ((Op.settleRepayment id k.id success).exec e w).2.db = some (outcomeStatus success) ↔ _
  by_cases hsettled : r.status = .paid ∨ r.status = .failed
  · rw [if_pos hsettled] at hstored
    rw [hstored]
    constructor
    · intro h r' hr' _
      exact h
    · exact fun h => h r hr hsettled
  · rw [if_neg hsettled] at hstored
    refine iff_of_true hstored fun r' hr' h => ?_
    obtain rfl := Option.some.inj (hr.symm.trans hr')
    exact absurd h hsettled

/-- A top-up that is given up. -/
theorem close_failTopup (k : KnownPayment) (reason : Option String) (w : World) :
    (close k (.failTopup reason)).wpAlone machine (fun r w' => ∀ v, r = .ok v →
      (Reports k (.failTopup reason) w v w' ↔ MeetsStored k (.failTopup reason) w.db)) w := by
  have hnotices : (close k (.failTopup reason)).Along machine (TellsFailed k.id) w := by
    refine Prog.Along.call_bind trivial fun e u hu => Prog.Along.call_bind ?_ fun _ _ _ => trivial
    exact (failTopup_stores k.id reason w.db _ _ (exec_ok rfl hu)).2
  rw [close, Prog.bind_eq, Prog.wpAlone_bind, Prog.wpAlone_call]
  intro e
  refine ⟨fun u hu => ?_, fun _ _ _ h => nomatch h⟩
  obtain ⟨hrefunds, hstored⟩ := failTopup_stores k.id reason w.db _ _ (exec_ok rfl hu)
  refine Prog.wpAlone_mono machine (reports_after (uses_call rfl) (.status .failed) _) fun r w' h v hv => ?_
  obtain ⟨rfl, hdb⟩ := h v hv
  refine reports_status (by rw [hdb]; exact hrefunds) (fun _ _ => hnotices) ?_
  rw [hdb]
  exact iff_of_true hstored trivial

/-- The refunds of a late payment are processed, and none is added. -/
theorem process_keeps (ids : List ℕ) (w : World) :
    ((Prog.forkEach ids fun id => do let _ ← processRefund id; pure ()).bind fun _ =>
      Prog.done (.ok Verification.refundPending)).wpAlone machine (fun r w' => ∀ v, r = .ok v →
        v = .refundPending ∧ SameRefunds w.db w'.db) w := by
  have huses : Uses refundKinds (Prog.forkEach ids fun id => do let _ ← processRefund id; pure ()) :=
    .forkEach fun id _ => .bind (processRefund_uses id) fun _ => Prog.all_done _
  rw [Prog.wpAlone_bind]
  refine Prog.wpAlone_mono machine (Prog.All.keeps (P := fun w' : World => SameRefunds w.db w'.db)
    (refund_keeps huses w.db) fun _ => rfl) fun r w' hsame => ⟨fun _ _ => ?_, fun _ _ _ h => nomatch h⟩
  rw [Prog.wpAlone_done]
  exact fun v hv => ⟨(Except.ok.inj hv).symm, hsame⟩

/-- A checkout whose payment has succeeded. -/
theorem close_paid (k : KnownPayment) (w : World) :
    (close k (.checkout true)).wpAlone machine (fun r w' => ∀ v, r = .ok v →
      (Reports k (.checkout true) w v w' ↔ MeetsStored k (.checkout true) w.db)) w := by
  rw [close, applyOutcome, Prog.bind_eq, Prog.wpAlone_bind, Prog.wpAlone_call]
  intro e
  refine ⟨fun ids hids => ?_, fun _ _ _ h => nomatch h⟩
  have hstores := finalizePayment_stores e k.id k.owners true w.db _ _ (exec_ok rfl hids)
  beta_reduce at hstores
  have hdone {db : Database} (hsame : SameRefunds w.db db) (hstored : storedStatus k.id db = some .paid)
      (hmeets : MeetsStored k (.checkout true) w.db) {w₁ : World} (hw : w₁.db = db) :
      ((dispatchGroupConfirmations (k.groups.map Prod.fst)).bind fun _ =>
        Prog.done (.ok (Verification.status .paid))).wpAlone machine (fun r w' => ∀ v, r = .ok v →
          (Reports k (.checkout true) w v w' ↔ MeetsStored k (.checkout true) w.db)) w₁ := by
    refine Prog.wpAlone_mono machine (reports_after (dispatchGroupConfirmations_uses _) _ w₁) fun r w' h v hv => ?_
    obtain ⟨rfl, hdb⟩ := h v hv
    refine reports_status (by rw [hdb, hw]; exact hsame) (fun _ h => nomatch h) ?_
    rw [hdb, hw]
    exact iff_of_true hstored hmeets
  by_cases hpaid : storedStatus k.id w.db = some .paid
  · rw [if_pos hpaid] at hstores
    obtain ⟨hstored, rfl, hsame⟩ := hstores
    exact hdone hsame hstored (fun h => by rw [hpaid] at h; cases h) rfl
  rw [if_neg hpaid] at hstores
  by_cases hfailed : storedStatus k.id w.db = some .failed
  · rw [if_pos ⟨hfailed, rfl⟩] at hstores
    obtain ⟨hstored, hempty, hcreated⟩ := hstores
    by_cases hids : ids = []
    · subst hids
      have hnone : allocationsOf k.id w.db = [] := hempty.mp rfl
      refine Prog.wpAlone_mono machine (reports_after (dispatchGroupConfirmations_uses _) _ _) fun r w' h v hv => ?_
      obtain ⟨rfl, hdb⟩ := h v hv
      refine iff_of_true ⟨fun s hs => ?_, ⟨fun h => (nomatch h), fun h => ?_⟩, fun h => nomatch h⟩
        fun _ => .inl hnone
      · obtain rfl := Verification.status.inj hs
        rw [hdb]
        exact hstored
      · rw [hdb] at h
        obtain ⟨a, ha, -⟩ := hcreated.mp h
        rw [hnone] at ha
        exact absurd ha List.not_mem_nil
    · rw [if_pos hids]
      refine Prog.wpAlone_mono machine (process_keeps ids _) fun r w' h v hv => ?_
      obtain ⟨rfl, hsame⟩ := h v hv
      have hsome : allocationsOf k.id w.db ≠ [] := fun h => hids (hempty.mpr h)
      have hpending := hsame.created_iff.trans hcreated
      constructor
      · exact fun h _ => .inr (hpending.mp (h.pending.mp rfl))
      · intro h
        refine ⟨fun s hs => (nomatch hs), ⟨fun _ => hpending.mpr ((h hfailed).resolve_left hsome), fun _ => rfl⟩,
          fun h => nomatch h⟩
  · rw [if_neg fun h => hfailed h.1] at hstores
    obtain ⟨hstored, rfl, hsame⟩ := hstores
    exact hdone hsame hstored (fun h => absurd h hfailed) rfl

/-- A checkout whose payment has failed. -/
theorem close_failed (k : KnownPayment) (w : World) :
    (close k (.checkout false)).wpAlone machine (fun r w' => ∀ v, r = .ok v →
      (Reports k (.checkout false) w v w' ↔ MeetsStored k (.checkout false) w.db)) w := by
  have hstores {e : Env} {ids : List ℕ}
      (hids : (machine.exec (.finalizePayment k.id k.owners false) e w).1 = .ok ids) :
      ids = [] ∧ SameRefunds w.db (machine.exec (.finalizePayment k.id k.owners false) e w).2.db ∧
        (if storedStatus k.id w.db = some .paid then
          storedStatus k.id (machine.exec (.finalizePayment k.id k.owners false) e w).2.db = some .paid
        else storedStatus k.id (machine.exec (.finalizePayment k.id k.owners false) e w).2.db = some .failed) := by
    have h := finalizePayment_stores e k.id k.owners false w.db _ _ (exec_ok rfl hids)
    beta_reduce at h
    by_cases hpaid : storedStatus k.id w.db = some .paid
    · rw [if_pos hpaid] at h ⊢
      exact ⟨h.2.1, h.2.2, h.1⟩
    · rw [if_neg hpaid, if_neg fun h => nomatch h.2] at h
      rw [if_neg hpaid]
      exact ⟨h.2.1, h.2.2, h.1⟩
  have htold : Uses queryKinds (onlyIf (k.payment.status ≠ .failed)
      (Prog.forkEach (k.groups.map (·.2.userId)).dedup fun _ => call .notify) : Request Unit) :=
    uses_onlyIf (.forkEach fun _ _ => uses_call rfl)
  have hnotices (hmeets : MeetsStored k (.checkout false) w.db) :
      (close k (.checkout false)).Along machine (TellsFailed k.id) w := by
    refine Prog.Along.call_bind trivial fun e ids hids => ?_
    obtain ⟨rfl, -, hstored⟩ := hstores hids
    rw [if_neg hmeets] at hstored
    refine Prog.All.along (P := fun s => storedStatus k.id s.db = some .failed) ?_ hstored
    refine Prog.All.bind (Prog.All.imp htold fun β op hop s hs => ⟨?_, fun e => ?_⟩) fun _ => trivial
    · cases op <;> first | exact hs | trivial
    · rw [exec_query hop e s]
      exact hs
  rw [close, applyOutcome, Prog.bind_eq, Prog.wpAlone_bind, Prog.wpAlone_call]
  intro e
  refine ⟨fun ids hids => ?_, fun _ _ _ h => nomatch h⟩
  obtain ⟨rfl, hsame, hstored⟩ := hstores hids
  refine Prog.wpAlone_mono machine (reports_after htold (.status .failed) _) fun r w' h v hv => ?_
  obtain ⟨rfl, hdb⟩ := h v hv
  refine reports_status (by rw [hdb]; exact hsame) (fun h _ => hnotices h) ?_
  rw [hdb, MeetsStored]
  by_cases hpaid : storedStatus k.id w.db = some .paid
  · rw [if_pos hpaid] at hstored
    rw [hstored, hpaid]
    decide
  · rw [if_neg hpaid] at hstored
    exact iff_of_true hstored hpaid

/-- A verification reads, asks and closes; and whatever has happened to the payment in between, it reports what is
stored in exactly those states that agree with the answer and the first read. -/
theorem verification_reports_iff (reference : String) (k : KnownPayment) (a : Answer) (w w' : World)
    (v : Verification) :
    (verifyReference reference = (readKnown reference).bind fun k => (ask k reference).bind (close k)) ∧
    (Prog.Alone machine (close k a) w (.ok v) w' → (Reports k a w v w' ↔ MeetsStored k a w.db)) := by
  refine ⟨verifyReference_eq reference, fun hrun => ?_⟩
  have hclose : (close k a).wpAlone machine (fun r w' => ∀ v, r = .ok v →
      (Reports k a w v w' ↔ MeetsStored k a w.db)) w := by
    cases a with
    | unchanged => exact close_unchanged k w
    | finish => exact close_finish k w
    | checkout success =>
      cases success with
      | true => exact close_paid k w
      | false => exact close_failed k w
    | credit => exact close_credit k w
    | failTopup reason => exact close_failTopup k reason w
    | repayment id success => exact close_repayment k id success w
  exact (Prog.wpAlone_iff machine _ _ w).mp hclose _ _ hrun v rfl

/-! ## A repayment that has failed before -/

/-- The payment of an installment, in some status. -/
def installmentPayment (status : PaymentStatus) : Payment :=
  { amount := 500, status := status, paymentMethod := .card, provider := .paystack, transactionRef := some "R-1"
    metadata := { purpose := some .bnplRepayment } }

/-- A repayment of an installment with its payment, both in the same status. -/
def installmentDue (status : PaymentStatus) : World where
  db := ((Database.empty.set .payment
    (Relational.Table.empty.create (installmentPayment status))).set .bnplRepayment
      (Relational.Table.empty.create
        { installmentId := 1, userId := 1, amount := 500, method := .card, status := status,
          reference := "R-1" })).set
      .bnplInstallment (Relational.Table.empty.create { applicationId := 1, sequence := 1, amount := 500 })

/-- Paystack reports that the payment has succeeded after all. -/
def paidAfterAll : Env where
  now := 1
  verify := fun reference =>
    .ok { reference := reference, currency := "NGN", amount := some 50000, status := .success }

/-- What a run has answered is an undisturbed run's answer. -/
theorem alone_of_answer {p : Request Verification} {e : Env} {w : World} {v : Verification}
    (h : ((p.runAlone machine e w).1.toOption == some v) = true) :
    Prog.Alone machine p w (.ok v) (p.runAlone machine e w).2 := by
  have hrun := Prog.alone_runAlone machine e p w
  revert h hrun
  cases (p.runAlone machine e w).1 with
  | error err => exact fun h => nomatch h
  | ok v' =>
    intro h hrun
    obtain rfl : v' = v := Option.some.inj (beq_iff_eq.mp h)
    exact hrun

/-- A repayment that is stored as failed is reported as paid. -/
theorem failed_repayment_reported_paid :
    ¬∀ reference w w' v id p, Prog.Alone machine (verifyReference reference) w (.ok v) w' →
      (w.db .payment).find id = some p → p.transactionRef = some reference → ∀ s, v = .status s →
        storedStatus id w'.db = some s := by
  intro h
  have hrun : Prog.Alone machine (verifyReference "R-1") (installmentDue .failed) (.ok (.status .paid)) _ :=
    alone_of_answer (e := paidAfterAll) (by decide +kernel)
  have hpaid := h "R-1" _ _ _ 1 (installmentPayment .failed) hrun rfl rfl .paid rfl
  have hstored :
      storedStatus 1 ((verifyReference "R-1").runAlone machine paidAfterAll (installmentDue .failed)).2.db =
        some .failed := by decide +kernel
  rw [hstored] at hpaid
  cases hpaid

/-- A repayment that is stored as pending is reported as paid, and stored as paid. -/
theorem verification_reports_pending :
    ∃ w', Reports ⟨1, installmentPayment .pending, []⟩ (.repayment 1 true) (installmentDue .pending)
    (.status .paid) w' := by
  have hrun : Prog.Alone machine (close ⟨1, installmentPayment .pending, []⟩ (.repayment 1 true))
      (installmentDue .pending) (.ok (.status .paid)) _ := alone_of_answer (e := paidAfterAll) (by decide +kernel)
  refine ⟨_, ((verification_reports_iff "R-1" _ _ _ _ _).2 hrun).mpr fun r hr hsettled => ?_⟩
  have hpending : r.status = .pending := by
    obtain rfl := (Relational.Table.eq_of_find_single hr).2
    rfl
  rw [hpending] at hsettled
  exact absurd hsettled (by decide)

end Superstore.Payments

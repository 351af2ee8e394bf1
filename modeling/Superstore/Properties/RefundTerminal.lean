import Superstore.Requests.Effects

/-!
# Succeeded refunds

A refund that has succeeded should stay succeeded and keep the time of its completion. The
statements that write a refund without a condition on its status do not see to it: a webhook
that arrives late, or a poll that was answered before, overwrites a success.

The refund stays succeeded in every run in which none of these statements, aimed at another
status, meets a succeeded refund.
-/

namespace Superstore

open Interleaving Relational.Tx

/-- A succeeded refund stays succeeded and keeps its time of completion. -/
def Refund.Stays (r r' : Refund) : Prop :=
  r.status = .succeeded → r'.status = .succeeded ∧ (r.completedAt.isSome → r'.completedAt.isSome)

/-- Staying succeeded is reflexive and transitive. -/
instance : IsPreorder Refund Refund.Stays where
  refl _ h := ⟨h, id⟩
  trans _ _ _ hab hbc h :=
    have hb := hab h
    have hc := hbc hb.1
    ⟨hc.1, hc.2 ∘ hb.2⟩

/-- An unconditional refund statement aimed at another status does not meet a succeeded refund, unless it fails. -/
def Op.sparesSucceeded : {α : Type} → Op α → Env → World → Bool
  | _, .updateRefund id u, e, w =>
    e.fails || u.status == .succeeded || ((w.db .refund).find id).all (·.status != .succeeded)
  | _, _, _, _ => true

/-- Succeeded refunds stay as they are, as far as the unconditional statements spare them. -/
def succeededRefunds : Contract Op World Env where
  inv _ := True
  guar w w' := (w.db .refund).Evolves Refund.Stays (w'.db .refund)
  known _ _ := True
  allowed op e w := op.sparesSucceeded e w
  refl _ := .refl _
  trans := .trans

namespace Payments

/-- A late refund is entered, or leaves the refunds as they are. -/
theorem lateRefund_evolves {R : Refund → Refund → Prop} [IsPreorder Refund R]
    (paymentId groupId : ℕ) (group : CheckoutPaymentGroup) (allocation : Allocation) :
    Evolves .refund R (lateRefund paymentId groupId group allocation) := by
  refine .bind (.of_reads (.first _ _)) fun existing => ?_
  cases existing with
  | some existing => exact .pure _
  | none => exact .createUnique _ _

/-- The outcome of a payment only adds refunds. -/
theorem finalizePayment_evolves {R : Refund → Refund → Prop} [IsPreorder Refund R] (e : Env)
    (paymentId : ℕ) (groups : List (ℕ × ℕ)) (success : Bool) :
    Evolves .refund R (finalizePayment e paymentId groups success) := by
  have hlock : Writes Cart.tables (groups.forM fun g => do let _ ← Cart.lock g.2; pure ()) :=
    .forM fun g _ => .bind (Cart.lock_writes _) fun _ => .pure ()
  refine .bind (.of_writes hlock (by decide)) fun _ => ?_
  refine .bind (.of_reads (.findOrThrow _ _)) fun current => ?_
  split
  · exact .pure _
  · split
    · split
      · refine .bind (.update_of_ne (by decide) _ _) fun _ => ?_
        refine .bind (.of_reads (.many _ _)) fun _ => ?_
        exact .bind (.mapM fun _ _ => .mapM fun _ _ => lateRefund_evolves _ _ _ _) fun _ => .pure _
      · exact .pure _
    · split
      · refine .bind (.update_of_ne (by decide) _ _) fun _ => ?_
        exact .bind (.forM fun g _ => .of_writes (completeGroup_writes e g.1) (by decide))
          fun _ => .pure _
      · refine .bind (.update_of_ne (by decide) _ _) fun _ => ?_
        exact .bind (.forM fun g _ => .of_writes (failGroup_writes e g.1) (by decide))
          fun _ => .pure _

/-- A statement aimed at success completes a refund; no statement completes one otherwise. -/
theorem RefundUpdate.apply_stays (now : ℕ) (u : RefundUpdate) (r : Refund)
    (h : u.status ≠ .succeeded → r.status ≠ .succeeded) : r.Stays (u.apply now r) := by
  intro hr
  have hu : u.status = .succeeded := not_imp_not.mp h hr
  cases u <;> simp_all [RefundUpdate.status, RefundUpdate.apply, completionTime]

end Payments

namespace Orders

/-- Noting a refund enters it, or leaves the refunds as they are. -/
theorem noteRefund_evolves {R : Refund → Refund → Prop} [IsPreorder Refund R] (e : Env)
    (userId orderId paymentId : ℕ) (order : Order) (allocation : Allocation)
    (isWallet isKlump : Bool) (reason : String) :
    Evolves .refund R
      (noteRefund e userId orderId paymentId order allocation isWallet isKlump reason) := by
  refine .bind (.of_reads (.first _ _)) fun existing => ?_
  cases existing with
  | some existing => exact .pure _
  | none => exact .bind (.createUnique _ _) fun _ => .pure _

/-- The cancellation of an order only adds a refund. -/
theorem cancel_evolves {R : Refund → Refund → Prop} [IsPreorder Refund R] (e : Env)
    (userId id : ℕ) (reason : String) : Evolves .refund R (cancel e userId id reason) := by
  refine .bind (.of_reads (.find _ _)) fun _ => ?_
  refine .bind (.of_reads (.orThrow _ _)) fun order => ?_
  refine .bind (.of_reads (.require _ _)) fun _ => ?_
  refine .bind (.of_writes (Payments.callOff_writes _ _ _ _) (by decide)) fun _ => ?_
  refine .bind (.of_reads (.query _)) fun _ => ?_
  refine .bind (.of_reads (.orThrow _ _)) fun _ => ?_
  refine .bind (.of_reads (.query _)) fun _ => ?_
  refine .bind (.when (.of_writes (Payments.creditWallet_writes _ _ _) (by decide))) fun _ => ?_
  refine .bind (noteRefund_evolves _ _ _ _ _ _ _ _ _) fun _ => ?_
  refine .bind (.when (.of_writes (syncInTransaction_writes _) (by decide))) fun _ => ?_
  refine .bind (.of_writes (reverseSettlement_writes _ _) (by decide)) fun _ => ?_
  exact .bind (.updateMany_of_ne (by decide) _ _) fun _ => .pure _

end Orders

/-- Every operation keeps the succeeded refunds that it is not aimed at. -/
theorem succeededRefunds_safe {α : Type} (op : Op α) : succeededRefunds.Safe machine op := by
  by_cases hwrites : TableName.refund ∈ op.writes
  swap
  · intro e w _ _ _
    have hframe : (machine.exec op e w).2.db .refund = w.db .refund := exec_frame op e w _ hwrites
    refine ⟨trivial, ?_⟩
    change (w.db .refund).Evolves _ _
    rw [hframe]
    exact .refl _
  have hsafe {α : Type} {op : Op α} {m : Env → Tx α} (hop : op.transaction = some m)
      (h : ∀ e w, e.fails = false → op.sparesSucceeded e w →
        wp w.db (m e) fun _ db => (w.db .refund).Evolves Refund.Stays (db .refund)) :
      succeededRefunds.Safe machine op := by
    intro e w _ _ ha
    refine ⟨trivial, ?_⟩
    change (w.db .refund).Evolves _ ((op.exec e w).2.db .refund)
    cases hfails : e.fails with
    | true =>
      rw [exec_fails_db hfails]
      exact .refl _
    | false =>
      exact exec_transaction hop (Φ := fun w' => (w.db .refund).Evolves Refund.Stays (w'.db .refund)) (.refl _)
        (h e w hfails ha)
  cases op <;> dsimp only [Op.writes] at hwrites <;>
    first | exact absurd hwrites (by decide) | clear hwrites
  case finalizePayment paymentId groups success =>
    exact hsafe rfl fun e w _ _ => Payments.finalizePayment_evolves e _ _ _ w.db
  case cancelOrder userId id reason =>
    exact hsafe rfl fun e w _ _ => Orders.cancel_evolves e _ _ _ w.db
  case claimRefund id =>
    refine hsafe rfl fun e w _ _ => Evolves.updateMany (fun i r h => ?_) w.db
    simp_all [Refund.Stays]
  case reopenRefund id =>
    refine hsafe rfl fun e w _ _ => Evolves.updateMany (fun i r h => ?_) w.db
    simp_all [Refund.Stays]
  case updateRefund id u =>
    refine hsafe rfl fun e w hfails hspares => ?_
    rw [Payments.updateRefund, wp_bind, wp_update]
    intro _ _
    rw [wp_findOrThrow, Relational.Database.set_self]
    intro _ _
    refine .update fun r hr => Payments.RefundUpdate.apply_stays _ _ _ fun hu => ?_
    rw [Op.sparesSucceeded, hfails, hr] at hspares
    simpa [hu] using hspares
  case completeManual id providerReference processingAt =>
    refine hsafe rfl fun e w _ _ => ?_
    rw [Payments.completeManual, wp_bind, wp_update]
    intro _ _
    rw [wp_findOrThrow, Relational.Database.set_self]
    intro _ _
    exact .update fun r _ _ => ⟨rfl, fun _ => rfl⟩

/-- The requests of a store keep what has succeeded. -/
theorem succeededRefunds_holds : succeededRefunds.Holds store where
  starts _ s _ := Contract.informed_of_forall (fun _ _ => trivial) _ s
  performs op := succeededRefunds_safe op
  background {w w'} h _ := by
    refine ⟨trivial, ?_⟩
    change (w.db .refund).Evolves _ _
    rw [h.owned .refund (by decide)]
    exact .refl _

/-- In every run whose unconditional refund statements spare succeeded refunds, a succeeded
refund stays succeeded and keeps its time of completion. -/
theorem succeeded_refund_stays {c c' : Config Op Error World}
    (hrun : store.Run (fun op e c => op.sparesSucceeded e c.world) c c') {i : ℕ} {r : Refund}
    (hr : (c.world.db .refund).find i = some r) (hs : r.status = .succeeded) :
    ∃ r', (c'.world.db .refund).find i = some r' ∧ r'.status = .succeeded ∧
      (r.completedAt.isSome → r'.completedAt.isSome) := by
  have hsound : succeededRefunds.Sound store c :=
    ⟨trivial, fun p _ => Contract.informed_of_forall (fun _ _ => trivial) p _⟩
  obtain ⟨r', hr', hstays⟩ := (succeededRefunds_holds.run hsound hrun).2 i r hr
  exact ⟨r', hr', hstays hs⟩

/-! ## Success that is lost -/

/-- A refund that Paystack is working on. -/
def refundInProgress : World where
  db := (Database.empty.set .payment (Relational.Table.empty.create
      { amount := 100, status := .paid, paymentMethod := .card, provider := .paystack
        transactionRef := some "PUR-1-a" })).set .refund (Relational.Table.empty.create
      { orderId := 1, userId := 1, paymentId := 1, amount := 100, provider := .paystack
        status := .processing, idempotencyKey := "ORDER-REFUND-1", providerRefundId := some "7"
        reason := "Changed my mind." })

/-- The webhooks of a refund that Paystack reports as processed, and once, wrongly ordered, as failed. -/
def processedAndFailed : List (Request Unit) :=
  [Payments.handleWebhook { eventType := "refund.processed", id := some "7" },
    Payments.handleWebhook { eventType := "refund.failed", id := some "7" }]

/-- The status of a refund. -/
def refundStatus (c : Config Op Error World) (id : ℕ) : Option RefundStatus :=
  ((c.world.db .refund).find id).map (·.status)

/-- The processed webhook runs to its end. -/
def firstDelivery : List (ℕ × Env) := List.replicate 9 (0, { now := 1 })

/-- The failed webhook reaches the statement that writes the refund. -/
def secondDelivery : List (ℕ × Env) := List.replicate 3 (1, { now := 2 })

/-- A late webhook makes a failure of a refund that has succeeded. -/
theorem succeeded_refund_can_fail :
    ¬∀ (w : World) (c c' : Config Op Error World), store.Run System.anyOp ⟨w, []⟩ c →
      store.Run System.anyOp c c' → ∀ i, refundStatus c i = some .succeeded →
        refundStatus c' i = some .succeeded := by
  intro h
  have hstarts : ∀ p ∈ processedAndFailed, store.starts p := by
    intro p hp
    simp only [processedAndFailed, List.mem_cons, List.not_mem_nil, or_false] at hp
    rcases hp with rfl | rfl <;> exact .payment (.handleWebhook _)
  have hlost := h refundInProgress _ _ (store.schedule_run hstarts firstDelivery)
    (store.follow_run _ secondDelivery) 1 (by decide +kernel)
  revert hlost
  decide +kernel

/-- A second report of the same success, under another reference. -/
def succeededAndReported : Config Op Error World :=
  ⟨(store.follow ⟨refundInProgress, processedAndFailed⟩ firstDelivery).world,
    [Payments.handleWebhook { eventType := "refund.processed", id := some "7", reference := some "r" }]⟩

/-- A refund that is reported as processed twice stays succeeded. -/
theorem succeeded_refund_stays_reported :
    refundStatus (store.follow succeededAndReported firstDelivery) 1 = some .succeeded := by
  have hstatus : refundStatus succeededAndReported 1 = some .succeeded := by decide +kernel
  obtain ⟨r, hr, hs⟩ := Option.map_eq_some_iff.mp hstatus
  have hallows : store.allows (fun op e c => op.sparesSucceeded e c.world) succeededAndReported
      firstDelivery := by decide +kernel
  obtain ⟨r', hr', hs', -⟩ := succeeded_refund_stays (store.follow_run_of hallows) hr hs
  exact Option.map_eq_some_iff.mpr ⟨r', hr', hs'⟩

end Superstore

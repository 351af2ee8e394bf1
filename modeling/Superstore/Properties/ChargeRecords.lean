import Superstore.Properties.Captured
import Superstore.Properties.PaymentStart
import Superstore.Properties.Repayments
import Superstore.Requests.References

/-!
# Charges and what a webhook finds of them

A charge that succeeds is reported in a webhook, which looks its payment up by the reference: one that is
not found is taken for a transfer to a dedicated account. Checkouts and top-ups enter the payment before
Paystack is asked for the charge, so that it is found whatever happens to the request afterwards. The
repayment of an installment by card is charged first, and entered only when Paystack has answered.
-/

namespace Superstore

open Interleaving Relational.Tx Contract

/-! ## The contract -/

/-- Paystack is not asked to charge a card for an installment, unless the amount cannot be charged. -/
def Op.recordsFirst {α : Type} (op : Op α) : Bool :=
  op.asked.all fun a => a.kind != .repaymentCharge || !(kobo a.amount).toBool

/-- A charge for an installment that goes through the condition cannot be charged. -/
theorem Op.recordsFirst.refused {α : Type} {op : Op α} {a : Charge} (h : op.recordsFirst = true)
    (hasked : op.asked = some a) (hkind : a.kind = .repaymentCharge) : (kobo a.amount).toBool = false := by
  rwa [Op.recordsFirst, hasked, Option.all_some, hkind, bne_self_eq_false, Bool.false_or, Bool.not_eq_true'] at h

/-- What is asked of Paystack and entered here: no repayments. -/
structure Unrepaying (w : World) : Prop where
  own : OwnReferences True w.db
  charged : ∀ a ∈ w.paystack.charged, a.kind ≠ .repaymentCharge

/-- Nothing is charged for an installment. -/
def chargeRecords : Contract Op World Env where
  inv := Unrepaying
  guar _ _ := True
  known op _ := op.EntersUnrepaying
  allowed op _ _ := op.recordsFirst
  refl _ := trivial
  trans _ _ := trivial

/-- A charge whose amount cannot be charged is refused, and leaves no trace. -/
theorem exec_refused {α : Type} {op : Op α} {a : Charge} (hop : op.asked = some a)
    (hkobo : (kobo a.amount).toBool = false)
    (e : Env) (w : World) : ∃ err, op.exec e w = (.error err, w) := by
  have hcharge {β : Type} (answer : Except Error β) : ∃ err, charge answer a w = (.error err, w) := by
    unfold charge
    cases hamount : kobo a.amount with
    | error err => exact ⟨err, rfl⟩
    | ok value =>
      rw [hamount] at hkobo
      cases hkobo
  cases op <;> first | (cases hop; done) | obtain rfl := Option.some.inj hop
  case initializeTransaction => exact hcharge _
  case createBankTransferCharge => exact hcharge _

/-- Every operation keeps the repayments away. -/
theorem chargeRecords_safe {α : Type} (op : Op α) : chargeRecords.Safe machine op := by
  intro e w hinv henters hrecords
  refine ⟨⟨exec_references op e hinv.own fun _ => henters, fun a ha hkind => ?_⟩, trivial⟩
  change a ∈ (op.exec e w).2.paystack.charged at ha
  rcases exec_charged ha with hold | hasked
  · exact hinv.charged a hold hkind
  · have hrecords : op.recordsFirst = true := hrecords
    obtain ⟨err, hsame⟩ := exec_refused hasked (Op.recordsFirst.refused hrecords hasked hkind) e w
    rw [hsame] at ha
    exact hinv.charged a ha hkind

/-! ## Requests -/

/-- A request that enters no payment of its own. -/
theorem Uses.unrepaying {α : Type} {ks : List OpKind} {p : Request α} (h : Uses ks p) (hks : .paymentEntry ∉ ks) :
    p.All fun _ op => op.EntersUnrepaying := by
  refine Prog.All.imp h fun _ op hop => ?_
  cases op <;> first | exact trivial | exact absurd hop hks

/-- Nothing comes after a charge for an installment, which is refused. -/
theorem ready_repaymentCharge {α β : Type} {op : Op β} {k : β → Request α} {a : Charge} {w : World}
    (hasked : op.asked = some a) (hkind : a.kind = .repaymentCharge) :
    chargeRecords.Ready machine ((call op).bind k) w := by
  refine .call_bind (fun _ _ _ => ?_) fun e w₁ _ _ hrecords _ _ b hb => ?_
  · cases op <;> first | exact trivial | cases hasked
  · have hallowed : op.recordsFirst = true := hrecords
    obtain ⟨err, hrefused⟩ := exec_refused hasked (Op.recordsFirst.refused hallowed hasked hkind) e w₁
    have hanswer : (op.exec e w₁).1 = .ok b := hb
    rw [hrefused] at hanswer
    cases hanswer

namespace Payments

/-- A repayment is entered after its charge, and its charge is refused. -/
theorem payRepayment_chargeRecords (userId installmentId : ℕ) (byWallet : Bool) (w : World) :
    chargeRecords.Ready machine (payRepayment userId installmentId byWallet) w := by
  refine ready_selectOrThrow (fun _ => trivial) fun w₁ a _ _ _ => ready_check fun _ => ?_
  refine ready_selectOrThrow (fun _ => trivial) fun _ _ _ _ _ => .then (fun _ _ _ => trivial) fun _ _ _ _ => ?_
  dsimp only
  split
  · exact .then (fun _ _ _ => trivial) fun _ _ _ _ => trivial
  · exact ready_repaymentCharge rfl rfl

/-- Topping up a wallet enters no repayment. -/
theorem topupWallet_unrepaying (userId : ℕ) (amount : ℚ) :
    (topupWallet userId amount).All fun _ op => op.EntersUnrepaying := by
  have hcall {α : Type} {op : Op α} (h : op.EntersUnrepaying) : (call op).All fun _ op => op.EntersUnrepaying :=
    (Prog.all_call op).mpr h
  refine .bind (hcall trivial) fun _ => .bind (hcall trivial) fun _ => ?_
  refine .bind (hcall trivial) fun _ => .bind (hcall (by simp [Op.EntersUnrepaying])) fun _ => ?_
  refine .bind (.attempt (hcall trivial) fun _ => ?_) fun _ => hcall trivial
  exact .bind (hcall trivial) fun _ => .bind (hcall trivial) fun _ => Prog.all_fail _

/-- Topping up a wallet by transfer enters no repayment. -/
theorem topupWalletByTransfer_unrepaying (userId : ℕ) (amount : ℚ) :
    (topupWalletByTransfer userId amount).All fun _ op => op.EntersUnrepaying := by
  have hcall {α : Type} {op : Op α} (h : op.EntersUnrepaying) : (call op).All fun _ op => op.EntersUnrepaying :=
    (Prog.all_call op).mpr h
  refine .bind (hcall trivial) fun _ => .bind (hcall trivial) fun _ => ?_
  refine .bind (hcall (by simp [Op.EntersUnrepaying])) fun _ => .attempt ?_ fun _ => ?_
  · exact .bind (hcall trivial) fun _ => .bind (Prog.all_done _) fun _ => hcall trivial
  · exact .bind (hcall trivial) fun _ => .bind (hcall trivial) fun _ => Prog.all_fail _

end Payments

/-- No request enters a repayment whose charge is refused. -/
theorem StoreRequest.chargeRecords {p : Request Unit} (h : StoreRequest p) (w : World) :
    chargeRecords.Ready machine p w := by
  have hall {p : Request Unit} (h : p.All fun _ op =>
    op.EntersUnrepaying) : Superstore.chargeRecords.Ready machine p w :=
    Contract.informed_of_all (Prog.All.imp h fun _ _ hop _ => hop) w
  cases h with
  | payment h =>
    rcases h.passive with hpassive | hstarting
    · exact hall (hpassive.unrepaying (by decide))
    · cases hstarting with
      | place userId input => exact hall ((uses_discard (Checkout.place_uses _ _)).unrepaying (by decide))
      | initializePayment userId groupId =>
          exact hall ((Payments.initializePayment_uses _ _).unrepaying (by decide))
      | resumeCheckout userId id =>
          exact hall ((uses_discard (Payments.resumeCheckout_uses _ _)).unrepaying (by decide))
      | topupWallet userId amount => exact hall (Payments.topupWallet_unrepaying _ _)
      | topupWalletByTransfer userId amount => exact hall (Payments.topupWalletByTransfer_unrepaying _ _)
      | payRepayment userId installmentId byWallet => exact Payments.payRepayment_chargeRecords _ _ _ _
  | refund h => exact hall (h.uses.unrepaying (by decide))
  | status h => exact hall (h.uses.unrepaying (by decide))

/-- The contract of charges, and of what is entered for them. -/
abbrev recordedBooks : Contract Op World Env := (chargedBooks False True).both chargeRecords

/-- Every operation keeps the books recorded. -/
theorem recordedBooks_holds : recordedBooks.Holds store where
  starts h w _ := ((h.books.both h.charging).both (h.chargeRecords w)).mono fun _ _ _ => trivial
  performs op := fun e w hinv hknown hallowed => by
    obtain ⟨hcharged, hguar⟩ := chargedBooks_safe op e w hinv.1 hknown.1 hallowed.1
    obtain ⟨hrecorded, -⟩ := chargeRecords_safe op e w hinv.2 hknown.2 hallowed.2
    exact ⟨⟨hcharged, hrecorded⟩, hguar, trivial⟩
  background {w w'} h hinv := by
    obtain ⟨hcharged, hguar⟩ := chargedBooks_holds.background h hinv.1
    refine ⟨⟨hcharged, hinv.2.own.congr (h.owned _ (by decide)), fun a ha => ?_⟩, hguar, trivial⟩
    rw [h.charged] at ha
    exact hinv.2.charged a ha

/-! ## Runs -/

/-- Nothing has been charged or entered in a store before its first checkout. -/
theorem Fresh.unrepaying {w : World} (h : Fresh w) (hcharged : w.paystack.charged = []) : Unrepaying w where
  own := ⟨.of_empty (h .payment (by decide)), fun _ p r hr => by
    rw [h .payment (by decide) p] at hr
    cases hr⟩
  charged a ha := by
    rw [hcharged] at ha
    cases ha

/-- A success of a charge is found: its payment is one through Paystack over the amount, and if it repays an
installment, so is its repayment. -/
def Charge.Found (db : Database) (a : Charge) : Prop :=
  ∃ k, Payments.knownPayment a.reference db = some k ∧ k.payment.provider = .paystack ∧
    k.payment.amount = a.amount ∧
    (k.payment.metadata.purpose = some .bnplRepayment →
      ((db .bnplRepayment).first fun _ r => r.reference == a.reference).isSome)

/-- A recorded charge is found. -/
theorem Unrepaying.found {w : World} (h : Unrepaying w) {a : Charge} (ha : Recorded True w.db a) :
    a.Found w.db := by
  obtain ⟨p, r, hr, href, hamount, hpaystack, -⟩ := ha
  have hfirst := h.own.distinct.first hr href
  refine ⟨⟨p, r, Payments.groupsOf p w.db⟩, ?_, hpaystack trivial, hamount, fun hpurpose => ?_⟩
  · rw [Payments.knownPayment, hfirst, Option.map_some]
  · exact absurd hpurpose (h.own.unrepaying trivial p r hr)

namespace Payments

/-- The webhook of a success looks its payment up, finds it, and has it verified. -/
def Verifies (event : WebhookEvent) (reference : String) (db : Database) : Prop :=
  ∃ next k, dispatchEvent event = .perform (.read fun db => .ok (knownPayment reference db)) next ∧
    knownPayment reference db = some k ∧ next (.ok (some k)) = (do
      let result ← verifyReference reference
      check (result = .status .paid) (.conflict "Paystack charge.success did not verify as paid.")
      pure (some (some k.id)))

/-- The payment of a charge that is found is verified, and not taken for a transfer. -/
theorem verifies_of_found {event : WebhookEvent} {a : Charge} {db : Database}
    (htype : event.eventType = "charge.success")
    (href : event.reference = some a.reference) (h : a.Found db) : Verifies event a.reference db := by
  obtain ⟨k, hk, hprovider, -, -⟩ := h
  have hfilter : (some k).filter (·.payment.provider == .paystack) = some k := by
    rw [Option.filter_some, hprovider]
    rfl
  unfold Verifies dispatchEvent
  rw [if_pos htype, href]
  refine ⟨_, k, rfl, hk, ?_⟩
  rw [Prog.done_ok_bind, hfilter]

end Payments

/-- In every run of the store in which no card is charged for an installment, and no claim takes up a payment that
is not through Paystack: every charge is found, whatever has stopped or failed, and the webhook of its success has
it verified. -/
theorem charges_recorded {w : World} (hw : Fresh w) (hcharged : w.paystack.charged = []) {c : Config Op Error World}
    (hrun : store.Run (fun op e c => op.recordsFirst && (e.fails || op.claimsPaystack e c.world.db)) ⟨w, []⟩ c) :
    ∀ a ∈ c.world.paystack.charged, a.Found c.world.db ∧ ∀ event : Payments.WebhookEvent,
      event.eventType = "charge.success" → event.reference = some a.reference →
        Payments.Verifies event a.reference c.world.db := by
  have hallowed {β : Type} (op : Op β) (e : Env) (c : Config Op Error World)
      (h : (op.recordsFirst && (e.fails || op.claimsPaystack e c.world.db)) = true) :
      recordedBooks.allowed op e c.world := by
    obtain ⟨hrecords, hmeets⟩ := Bool.and_eq_true_iff.mp h
    rcases Bool.or_eq_true_iff.mp hmeets with hfails | hclaims
    · exact ⟨⟨False.elim, .inl hfails⟩, hrecords⟩
    · exact ⟨⟨False.elim, .inr ⟨False.elim, fun _ => hclaims⟩⟩, hrecords⟩
  have hfresh : recordedBooks.Sound store ⟨w, []⟩ :=
    ⟨⟨⟨hw.consistent, hw.chargesSound hcharged⟩, hw.unrepaying hcharged⟩, by simp⟩
  obtain ⟨hc, -⟩ := recordedBooks_holds.run hfresh (System.Run.mono store hrun hallowed)
  intro a ha
  have hfound : a.Found c.world.db :=
    hc.1.2.found (hc.1.1.2.charged a ha (hc.1.2.charged a ha))
  exact ⟨hfound, fun event htype href => Payments.verifies_of_found htype href hfound⟩

/-! ## A repayment by card -/

/-- The customer repays the installment by card. -/
def cardRepayment : List (Request Unit) := [Payments.payRepayment 1 1 false]

/-- Paystack is asked for the charge, and the request gets no further. -/
def stoppedRepayment : Config Op Error World :=
  store.follow ⟨financedShop, cardRepayment⟩ (List.replicate 4 (0, { now := 1, uuid := "u" }))

/-- The charge of a repayment that stops after it is not found. -/
theorem charge_can_be_unrecorded :
    ¬∀ (w : World) (c : Config Op Error World), Fresh w → w.paystack.charged = [] →
      store.Run System.anyOp ⟨w, []⟩ c →
      ∀ a ∈ c.world.paystack.charged, a.Found c.world.db := by
  intro h
  have hstarts : ∀ p ∈ cardRepayment, store.starts p := by
    intro p hp
    obtain rfl := List.mem_singleton.mp hp
    exact .payment (.payRepayment 1 1 false)
  have hfresh : Fresh financedShop := by
    intro n hn i
    simp only [ownedTables, List.mem_cons, List.not_mem_nil, or_false] at hn
    rcases hn with rfl | rfl | rfl | rfl | rfl <;> rfl
  have hfound := h financedShop stoppedRepayment hfresh rfl (store.schedule_run hstarts _)
  have hcharged : stoppedRepayment.world.paystack.charged.head?.map (·.reference) = some "BNPL-REPAY-1-u" := by
    decide +kernel
  obtain ⟨a, ha, href⟩ := Option.map_eq_some_iff.mp hcharged
  obtain ⟨k, hk, -⟩ := hfound a (List.mem_of_mem_head? ha)
  have hunknown : (Payments.knownPayment "BNPL-REPAY-1-u" stoppedRepayment.world.db).isNone := by decide +kernel
  rw [← href, hk] at hunknown
  cases hunknown

/-- The charge of a checkout that is paid by card is found. -/
theorem charges_recorded_paid :
    ∃ a, paidByCard.world.paystack.charged.head? = some a ∧ a.reference = "PUR-1-u" ∧
      a.Found paidByCard.world.db := by
  have hstarts : ∀ p ∈ cardRequests, store.starts p := by
    intro p hp
    rcases List.mem_pair.mp hp with rfl | rfl
    · exact .payment (.place 1 cardPickup)
    · exact .payment (.verifyReference "PUR-1-u")
  have hallows : store.allows
      (fun op e c => op.recordsFirst && (e.fails || op.claimsPaystack e c.world.db))
      ⟨shop, cardRequests⟩ (List.replicate 6 (0, paystackPays) ++ List.replicate 5 (1, paystackPays)) := by
    decide +kernel
  have hcharged : paidByCard.world.paystack.charged.head?.map (·.reference) = some "PUR-1-u" := by decide +kernel
  obtain ⟨a, ha, href⟩ := Option.map_eq_some_iff.mp hcharged
  exact ⟨a, ha, href, (charges_recorded fresh_shop rfl
    ((store.start_all_run hstarts).trans (store.follow_run_of hallows)) a (List.mem_of_mem_head? ha)).1⟩

end Superstore

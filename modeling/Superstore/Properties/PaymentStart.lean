import Superstore.Properties.Fulfilment
import Superstore.Requests.Starts

/-!
# The start of a checkout payment

Any number of requests may try to start the payment of one checkout: a lease decides who asks
Paystack. The group keeps the payment that it is linked to, every charge for it is made under the
reference of that payment, and what Paystack has answered should stay. The error path of a slow
request clears the metadata of the payment without looking at who holds the lease by then, and a
transfer account that another request has stored meanwhile is lost.
-/

namespace Superstore

open Interleaving

/-- From one state to another the start of a checkout payment is stable. -/
structure StartStable (c c' : Config Op Error World) : Prop where
  linked : ∀ i g p r, (c.world.db .checkoutPaymentGroup).find i = some g → g.paymentId = some p →
    (c.world.db .payment).find p = some r → ∃ g' r', (c'.world.db .checkoutPaymentGroup).find i = some g' ∧
      g'.paymentId = some p ∧ (c'.world.db .payment).find p = some r' ∧ r'.transactionRef = r.transactionRef
  charged : ∀ a ∈ c'.world.paystack.charged, ∀ i, a.metadata.paymentGroupId = some i →
    ∃ g p r, (c'.world.db .checkoutPaymentGroup).find i = some g ∧ g.paymentId = some p ∧
      (c'.world.db .payment).find p = some r ∧ r.transactionRef = some a.reference
  paymentUrl : ∀ p r, (c.world.db .payment).find p = some r → r.paymentUrl.isSome →
    ∃ r', (c'.world.db .payment).find p = some r' ∧ r'.paymentUrl.isSome
  transferInstructions : ∀ p r, (c.world.db .payment).find p = some r →
    r.metadata.transferInstructions.isSome →
    ∃ r', (c'.world.db .payment).find p = some r' ∧ r'.metadata.transferInstructions.isSome

/-- Nothing has been charged in a store before its first checkout. -/
theorem Fresh.chargesSound {w : World} (h : Fresh w) (hcharged : w.paystack.charged = []) {only : Prop} :
    ChargesSound only w where
  sound p r hr := by
    rw [h .payment (by decide) p] at hr
    cases hr
  klump k t ht := by
    rw [h .klumpTransaction (by decide) k] at ht
    cases ht
  charged c hc := by
    rw [hcharged] at hc
    cases hc

/-- A charge for a group is not one for an installment. -/
theorem Charge.kind_of_group {c : Charge} {i : ℕ} (h : c.metadata.paymentGroupId = some i) :
    c.kind ≠ .repaymentCharge := by
  rw [Charge.kind, h, if_pos Option.isSome_some]
  decide

/-- In every run of the store in which no claim is given back for a payment whose transfer account
has been stored, the start of every checkout payment is stable. -/
theorem payment_start_stable {w : World} (hw : Fresh w) (hcharged : w.paystack.charged = [])
    {c c' : Config Op Error World}
    (hrun : store.Run (fun op e c => e.fails || op.sparesInstructions c.world.db) ⟨w, []⟩ c)
    (hrun' : store.Run (fun op e c => e.fails || op.sparesInstructions c.world.db) c c') :
    StartStable c c' := by
  have hallowed {β : Type} (op : Op β) (e : Env) (c : Config Op Error World)
      (h : (e.fails || op.sparesInstructions c.world.db) = true) :
      (chargedBooks True False).allowed op e c.world := by
    refine ⟨False.elim, ?_⟩
    rcases Bool.or_eq_true_iff.mp h with hfails | hspares
    · exact .inl hfails
    · exact .inr ⟨fun _ => hspares, False.elim⟩
  have hfresh : (chargedBooks True False).Sound store ⟨w, []⟩ :=
    ⟨⟨hw.consistent, hw.chargesSound hcharged⟩, by simp⟩
  obtain ⟨hc, -⟩ := chargedBooks_holds.run hfresh (System.Run.mono store hrun hallowed)
  obtain ⟨hc', -, hlater, hstays⟩ := chargedBooks_holds.run hc (System.Run.mono store hrun' hallowed)
  constructor
  · intro i g p r hg hlinked hr
    obtain ⟨_, hg', hl⟩ := hlater.group i _ (books_group hg).1
    obtain ⟨g', hfind, rfl⟩ := find_of_books_group hg'
    obtain ⟨r', hr', hs⟩ := hstays p r hr
    exact ⟨g', r', hfind, hl.paymentId p hlinked, hr', hs.transactionRef⟩
  · intro a ha i hi
    obtain ⟨p, r, hr, href, -, -, hgroup⟩ := hc'.1.2.charged a ha (Charge.kind_of_group hi)
    obtain ⟨g, hg, hlinked⟩ := hgroup i hi
    exact ⟨g, p, r, hg, hlinked, hr, href⟩
  · intro p r hr hurl
    obtain ⟨r', hr', hs⟩ := hstays p r hr
    exact ⟨r', hr', hs.paymentUrl hurl⟩
  · intro p r hr ht
    obtain ⟨r', hr', hs⟩ := hstays p r hr
    exact ⟨r', hr', hs.transfer trivial ht⟩

/-! ## Two requests for one payment -/

/-- A checkout that is paid by bank transfer. -/
def transferPickup : CreateCheckoutDto := { walletPickup with paymentMethod := some .bankTransfer }

/-- The customer places the checkout, and asks for its payment again. -/
def placeAndResume : List (Request Unit) :=
  [discard (Checkout.place 1 transferPickup), discard (Payments.resumeCheckout 1 1)]

/-- Paystack answers with an account, a while later. -/
def accountAnswer : Env where
  now := 100000
  createBankTransferCharge := fun reference => .ok ⟨reference, true, "0123456789", 200000⟩

/-- The first request is slow; the second one finds its lease expired and stores the account. -/
def resumed : List (ℕ × Env) :=
  List.replicate 3 (0, { now := 1, uuid := "u", orderNumber := fun _ => "A-1" }) ++
    List.replicate 6 (1, accountAnswer)

/-- The first request gets an error from Paystack. -/
def answerFails : List (ℕ × Env) := List.replicate 2 (0, { now := 100001 })

/-- An account that has been stored is lost when the slow request gets an error. -/
theorem payment_start_can_be_lost :
    ¬∀ (w : World) (c c' : Config Op Error World), Fresh w → w.paystack.charged = [] →
      store.Run System.anyOp ⟨w, []⟩ c → store.Run System.anyOp c c' → StartStable c c' := by
  intro h
  have hstarts : ∀ p ∈ placeAndResume, store.starts p := by
    intro p hp
    rcases List.mem_pair.mp hp with rfl | rfl
    · exact .payment (.place 1 transferPickup)
    · exact .payment (.resumeCheckout 1 1)
  have hstable := h shop _ _ fresh_shop rfl (store.schedule_run hstarts resumed)
    (store.follow_run _ answerFails)
  have hstored : (((store.follow ⟨shop, placeAndResume⟩ resumed).world.db .payment).find 1).map
      (·.metadata.transferInstructions.isSome) = some true := by decide +kernel
  obtain ⟨r, hr, hsome⟩ := Option.map_eq_some_iff.mp hstored
  obtain ⟨r', hr', hsome'⟩ := hstable.transferInstructions 1 r hr hsome
  have hlost : (((store.follow (store.follow ⟨shop, placeAndResume⟩ resumed) answerFails).world.db
      .payment).find 1).map (·.metadata.transferInstructions.isSome) = some false := by decide +kernel
  rw [hr', Option.map_some, hsome'] at hlost
  cases hlost

/-- Without the error the start is stable: the first request stores its own answer. -/
theorem payment_start_stable_resumed :
    StartStable (store.follow ⟨shop, placeAndResume⟩ resumed)
      (store.follow (store.follow ⟨shop, placeAndResume⟩ resumed) (List.replicate 3 (0, accountAnswer))) := by
  have hstarts : ∀ p ∈ placeAndResume, store.starts p := by
    intro p hp
    rcases List.mem_pair.mp hp with rfl | rfl
    · exact .payment (.place 1 transferPickup)
    · exact .payment (.resumeCheckout 1 1)
  have hallows : store.allows (fun op e c => e.fails || op.sparesInstructions c.world.db)
      ⟨shop, placeAndResume⟩ resumed := by decide +kernel
  have hallows' : store.allows (fun op e c => e.fails || op.sparesInstructions c.world.db)
      (store.follow ⟨shop, placeAndResume⟩ resumed) (List.replicate 3 (0, accountAnswer)) := by decide +kernel
  exact payment_start_stable fresh_shop rfl
    ((store.start_all_run hstarts).trans (store.follow_run_of hallows)) (store.follow_run_of hallows')

end Superstore

import Superstore.Properties.Fulfilment

/-!
# Captured money is accounted for

A payment that Paystack has captured has paid for groups that are finished, or is owed back
for every order of groups that were released. Refunds of cancelled orders and of late
payments go by the same rule, so that together they never exceed the payment.
-/

namespace Superstore

open Interleaving

/-- The contract of the books as far as captured money goes. -/
def accounting : Contract Op World Env where
  inv w := Consistent (books w.db) ∧ Books.Money (books w.db)
  guar w w' := (books w.db).Later (books w'.db)
  known op w := op.Legitimate True (books w.db)
  allowed _ e _ := e.Honest
  refl := booksLater_refl
  trans := booksLater_trans

/-- Legitimate steps keep account of captured money. -/
theorem Refines.accounted {w w' : World} (h : Refines True w.db w'.db) (hinv : accounting.inv w) :
    accounting.inv w' ∧ accounting.guar w w' := by
  obtain ⟨hB, hM⟩ := hinv
  obtain ⟨hB', hlater⟩ := Books.Steps.advances (h hB) hB
  exact ⟨⟨hB', (h hB).money hB hM⟩, hlater⟩

/-- Every operation accounts for what has been captured. -/
theorem accounting_holds : accounting.Holds store where
  starts h _ _ := h.books.strengthen (fun _ hinv => hinv.1) (fun _ _ => id)
    (fun _ _ _ hhonest _ => hhonest) fun _ _ => id
  performs _ e _ hinv hknown _ := Refines.accounted (Op.Legitimate.refines hknown e) hinv
  background h hinv := Refines.accounted h.refines hinv

/-- Nothing has been captured in a store before its first checkout. -/
theorem Fresh.money {w : World} (h : Fresh w) : Books.Money (books w.db) := by
  have hgroup (i : ℕ) : (books w.db).group i = none := by
    simp [books, h .checkoutPaymentGroup (by decide) i]
  have hpays (p i : ℕ) (g : GroupTerms) : ¬(books w.db).PaysFor p i g := fun hpays => by
    have hg := hpays.group
    rw [hgroup] at hg
    cases hg
  constructor <;> intros <;> simp_all

/-- The refunds of a payment that has one sum up to no more than the payment. -/
theorem refunds_le {db : Database} (hB : Consistent (books db)) {p k : ℕ} {row : Payment} {r : Refund}
    (hrow : (db .payment).find p = some row) (hr : (db .refund).find k = some r)
    (hp : r.paymentId = p) :
    ((db .refund).total fun _ s => if s.paymentId = p then s.amount else 0) ≤ row.amount := by
  obtain ⟨i, g, hg, hlinked, -⟩ := hB.refund_owed k _ (books_refund hr)
  change g.paymentId = some r.paymentId at hlinked
  rw [hp] at hlinked
  obtain ⟨q, hq, hamount, -⟩ := hB.linked i g p hg hlinked
  obtain rfl := Option.some.inj ((books_payment hrow).1.symm.trans hq)
  obtain ⟨-, hnonneg, hsum⟩ := hB.balanced i g hg
  have howed (l : ℕ) (s : Refund) (hs : (db .refund).find l = some s) (hs' : s.paymentId = p) :
      ⟨s.orderId, s.amount⟩ ∈ g.allocations := by
    obtain ⟨j, g', hg', hlinked', hmem⟩ := hB.refund_owed l _ (books_refund hs)
    change g'.paymentId = some s.paymentId at hlinked'
    rw [hs'] at hlinked'
    obtain rfl := hB.payer_unique i g j g' p hg hg' hlinked hlinked'
    obtain rfl := Option.some.inj (hg.symm.trans hg')
    exact hmem
  have hle := Relational.Table.total_le (t := db .refund) (p := fun _ s => s.paymentId == p)
    (v := fun s => (⟨s.orderId, s.amount⟩ : Allocation)) (u := Allocation.amount)
    (fun l s hs hs' => howed l s hs (beq_iff_eq.mp hs'))
    (fun l s m t hs _ ht _ hsame => hB.refund_unique l _ m _ (books_refund hs) (books_refund ht)
      (congrArg Allocation.orderId hsame)) hnonneg
  simp only [beq_iff_eq] at hle
  exact hle.trans_eq (hsum.trans hamount.symm)

/-- In every state that the store reaches from its first day on, whatever is interleaved, as long as
Paystack keeps its references for transfers to dedicated accounts apart: where a payment through
Paystack has been captured, each of its groups is paid and its orders are under way and settled,
or each of its groups is released and every allocation has exactly one refund, of its amount.
And the refunds of one payment never sum up to more than the payment. -/
theorem captured_accounted {w : World} (hw : Fresh w) {c : Config Op Error World}
    (hrun : store.Run (fun _ e _ => e.Honest) ⟨w, []⟩ c) :
    (∀ p row, (c.world.db .payment).find p = some row → row.provider = .paystack →
      row.status.Captured →
      (∀ i g, (c.world.db .checkoutPaymentGroup).find i = some g → g.paymentId = some p →
        g.status = .paid ∧ ∀ a ∈ g.allocations, ∃ o, (c.world.db .order).find a.orderId = some o ∧
          o.currentStatus ≠ .orderReceived ∧ Settlements.Settled c.world.db o.orderNumber) ∨
      ∀ i g, (c.world.db .checkoutPaymentGroup).find i = some g → g.paymentId = some p →
        g.status = .failed ∧ ∀ a ∈ g.allocations, ∃ k r, (c.world.db .refund).find k = some r ∧
          r.orderId = a.orderId ∧ r.paymentId = p ∧ r.amount = a.amount ∧
          ∀ l s, (c.world.db .refund).find l = some s → s.orderId = a.orderId → l = k) ∧
    ∀ p row k r, (c.world.db .payment).find p = some row → (c.world.db .refund).find k = some r →
      r.paymentId = p →
      ((c.world.db .refund).total fun _ s => if s.paymentId = p then s.amount else 0) ≤ row.amount := by
  obtain ⟨hB, hM⟩ := (accounting_holds.run (c := ⟨w, []⟩) ⟨⟨hw.consistent, hw.money⟩, by simp⟩ hrun).1.1
  refine ⟨fun p row hrow hprovider hcaptured => ?_, fun p row k r hrow hr hp => refunds_le hB hrow hr hp⟩
  obtain ⟨hterms, hstatus⟩ := books_payment hrow
  rw [← hstatus] at hcaptured
  have hpays {i : ℕ} {g : CheckoutPaymentGroup}
      (hg : (c.world.db .checkoutPaymentGroup).find i = some g) (hlinked : g.paymentId = some p) :
      (books c.world.db).PaysFor p i g.terms := ⟨(books_group hg).1, hlinked, _, hterms, hprovider⟩
  by_cases hpaid : ∀ i g, (c.world.db .checkoutPaymentGroup).find i = some g → g.paymentId = some p →
      g.status = .paid
  · refine .inl fun i g hg hlinked => ⟨hpaid i g hg hlinked, fun a ha => ?_⟩
    obtain ⟨hg', hs⟩ := books_group hg
    have hpaid' := hs.trans (hpaid i g hg hlinked)
    obtain ⟨n, hn⟩ := Option.isSome_iff_exists.mp (hB.placed i _ hg' a ha)
    obtain ⟨o, ho, rfl⟩ := Option.map_eq_some_iff.mp hn
    refine ⟨o, ho, ?_, hM.settled i _ hg' hpaid' _ (List.mem_map_of_mem ha) _ hn⟩
    have hagree := hB.agree i _ hg' a ha
    rw [hpaid', (books_order ho).2] at hagree
    exact hagree
  · refine .inr fun i g hg hlinked => ?_
    simp only [not_forall] at hpaid
    obtain ⟨j, g', hg', hlinked', hne⟩ := hpaid
    obtain rfl := hB.payer_unique i _ j _ p (books_group hg).1 (books_group hg').1 hlinked hlinked'
    obtain rfl := Option.some.inj (hg.symm.trans hg')
    have hs := (books_group hg).2
    obtain ⟨hfailed, hcovers⟩ := (hM.captured p i _ (hpays hg hlinked) hcaptured).resolve_left
      fun h => hne (hs.symm.trans h)
    refine ⟨hs.symm.trans hfailed, fun a ha => ?_⟩
    obtain ⟨k, t, ht, hid⟩ := hcovers a.orderId (List.mem_map_of_mem ha)
    obtain ⟨r, hr, rfl⟩ := Option.map_eq_some_iff.mp ht
    obtain ⟨j, g', hg'', hlinked'', hmem⟩ := hB.refund_owed k _ ht
    have hterms' := (books_group hg).1
    obtain rfl := hB.carrier_unique i _ j _ hterms' hg'' a.orderId (List.mem_map_of_mem ha)
      (hid ▸ List.mem_map_of_mem hmem)
    obtain rfl := Option.some.inj (hterms'.symm.trans hg'')
    refine ⟨k, r, hr, hid, Option.some.inj (hlinked''.symm.trans hlinked), ?_, fun l s hs' hid' => ?_⟩
    · exact congrArg Allocation.amount (List.inj_on_of_nodup_map g.orders_nodup hmem ha hid)
    · exact hB.refund_unique l _ k _ (books_refund hs') ht (hid'.trans hid.symm)

/-- The request for a pickup that is paid by card. -/
def cardPickup : CreateCheckoutDto := { walletPickup with paymentMethod := some .card }

/-- Paystack starts every payment and reports that it has been made. -/
def paystackPays : Env where
  now := 1
  uuid := "u"
  orderNumber := fun _ => "A-1"
  verify := fun reference =>
    .ok { reference := reference, currency := "NGN", amount := some 5000, status := .success }
  initializeTransaction := fun reference => .ok ⟨reference, "https://checkout"⟩

/-- The customer's checkout by card and the verification of its payment. -/
def cardRequests : List (Request Unit) :=
  [discard (Checkout.place 1 cardPickup), discard (Payments.verifyReference "PUR-1-u")]

/-- The payment is started and then verified. -/
def paidByCard : Config Op Error World :=
  store.follow ⟨shop, cardRequests⟩
    (List.replicate 6 (0, paystackPays) ++ List.replicate 5 (1, paystackPays))

/-- The captured payment has paid for its group. -/
theorem captured_accounted_paid :
    ∃ i g, (paidByCard.world.db .checkoutPaymentGroup).find i = some g ∧ g.paymentId = some 1 ∧
      g.status = .paid ∧ ∀ a ∈ g.allocations, ∃ o, (paidByCard.world.db .order).find a.orderId = some o ∧
        o.currentStatus ≠ .orderReceived ∧ Settlements.Settled paidByCard.world.db o.orderNumber := by
  have hstarts : ∀ p ∈ cardRequests, store.starts p := by
    intro p hp
    simp only [cardRequests, List.mem_cons, List.not_mem_nil, or_false] at hp
    rcases hp with rfl | rfl
    · exact .payment (.place 1 cardPickup)
    · exact .payment (.verifyReference "PUR-1-u")
  have hhonest : paystackPays.Honest := by
    rintro reference v ⟨⟩ hchannel
    cases hchannel
  have hrounds : ∀ round ∈ List.replicate 6 (0, paystackPays) ++ List.replicate 5 (1, paystackPays),
      round.2.Honest := by
    intro round hround
    rcases List.mem_append.mp hround with h | h <;> rw [List.eq_of_mem_replicate h] <;> exact hhonest
  have hstarted : store.Run (fun _ e _ => e.Honest) ⟨shop, []⟩ ⟨shop, cardRequests⟩ :=
    store.start_all_run hstarts
  have hrun : store.Run (fun _ e _ => e.Honest) ⟨shop, []⟩ paidByCard :=
    hstarted.trans (store.follow_run_env hrounds)
  have hpayment : ((paidByCard.world.db .payment).find 1).map (fun p => (p.provider, p.status)) =
      some (.paystack, .paid) := by decide +kernel
  have hgroup : ((paidByCard.world.db .checkoutPaymentGroup).find 1).map (fun g => (g.paymentId, g.status)) =
      some (some 1, .paid) := by decide +kernel
  obtain ⟨row, hrow, hpaid⟩ := Option.map_eq_some_iff.mp hpayment
  obtain ⟨g, hg, hstatus⟩ := Option.map_eq_some_iff.mp hgroup
  obtain ⟨hprovider, hcaptured⟩ := Prod.mk.inj hpaid
  obtain ⟨hlinked, hgpaid⟩ := Prod.mk.inj hstatus
  have hpaid := ((captured_accounted fresh_shop hrun).1 1 row hrow hprovider (.inl hcaptured)).resolve_right
    fun h => by
      have hfailed := (h 1 g hg hlinked).1
      rw [hgpaid] at hfailed
      cases hfailed
  exact ⟨1, g, hg, hlinked, hpaid 1 g hg hlinked⟩

end Superstore

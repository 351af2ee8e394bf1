import Superstore.Properties.Captured

/-!
# The store keeps its books

Under every interleaving, what the store does to its tables of orders, groups, payments, refunds and Klump
transactions is a run of the abstract books. So what the books agree on holds of the tables: who pays for an order,
and how much, is settled once. -/

namespace Superstore

open Interleaving

variable {spared : Prop}

/-- The contract of the books, where every step is one of the books as well. -/
def simulating (spared : Prop) : Contract Op World Env where
  inv w := Consistent (books w.db)
  guar w w' := Books.Steps spared (books w.db) (books w'.db) ∧ (books w.db).Later (books w'.db)
  known op w := op.Legitimate spared (books w.db)
  allowed _ e _ := spared → e.Honest
  refl _ := ⟨.refl, .refl _⟩
  trans h h' := ⟨h.1.trans h'.1, h.2.trans h'.2⟩

/-- What refines the books makes legitimate steps of consistent ones, and moves them on. -/
theorem Refines.simulates {w w' : World} (h : Refines spared w.db w'.db) (hinv : Consistent (books w.db)) :
    (simulating spared).inv w' ∧ (simulating spared).guar w w' := by
  obtain ⟨hB', hlater⟩ := Books.Steps.advances (h hinv) hinv
  exact ⟨hB', h hinv, hlater⟩

/-- Every operation moves the books by legitimate steps. -/
theorem simulating_holds : (simulating spared).Holds store where
  starts h _ _ := h.books.strengthen (fun _ hinv => hinv) (fun _ _ hguar => hguar.2)
    (fun _ _ _ hallowed => hallowed) fun _ _ hknown => hknown
  performs _ e _ hinv hknown _ := Refines.simulates (Op.Legitimate.refines hknown e) hinv
  background h hinv := Refines.simulates h.refines hinv

/-- Runs of a store from its first day on, and what follows them, are runs of the books. -/
theorem Fresh.simulated {w : World} (hw : Fresh w) {c c' : Config Op Error World}
    (hrun : store.Run (fun _ e _ => spared → e.Honest) ⟨w, []⟩ c)
    (hrun' : store.Run (fun _ e _ => spared → e.Honest) c c') :
    Consistent (books c.world.db) ∧ Books.Steps spared (books c.world.db) (books c'.world.db) ∧
      (books c.world.db).Later (books c'.world.db) := by
  have hsound : (simulating spared).Sound store ⟨w, []⟩ := ⟨hw.consistent, by simp⟩
  obtain ⟨hsound', -⟩ := simulating_holds.run hsound hrun
  obtain ⟨-, hsteps, hlater⟩ := simulating_holds.run hsound' hrun'
  exact ⟨hsound'.1, hsteps, hlater⟩

/-- Every interleaved run of the store is a run of the books: whatever happens between two states of it, the books
of the first one are consistent and come to those of the second one by legitimate changes. Where Paystack keeps its
references for transfers to dedicated accounts apart, the payments for checkouts are spared from other changes. -/
theorem store_refines_books {w : World} (hw : Fresh w) {c c' : Config Op Error World}
    (hrun : store.Run (fun _ e _ => spared → e.Honest) ⟨w, []⟩ c)
    (hrun' : store.Run (fun _ e _ => spared → e.Honest) c c') :
    Consistent (books c.world.db) ∧ Books.Steps spared (books c.world.db) (books c'.world.db) := by
  obtain ⟨hconsistent, hsteps, -⟩ := hw.simulated hrun hrun'
  exact ⟨hconsistent, hsteps⟩

/-! ## Who pays for an order -/

/-- The terms of a group that was there before, in a later state. -/
theorem group_later {db db' : Database} (h : (books db).Later (books db')) {i : ℕ} {g : CheckoutPaymentGroup}
    (hg : (db .checkoutPaymentGroup).find i = some g) :
    ∃ g', (db' .checkoutPaymentGroup).find i = some g' ∧ g'.totalAmount = g.totalAmount ∧
      g'.allocations = g.allocations ∧ (∀ p, g.paymentId = some p → g'.paymentId = some p) ∧
      (g.status = .paid → g'.status = .paid) ∧ (g.status = .failed → g'.status = .failed) := by
  obtain ⟨hterms, hstatus⟩ := books_group hg
  obtain ⟨t, ht, hlater⟩ := h.group i _ hterms
  obtain ⟨g', hg', rfl⟩ := find_of_books_group ht
  have hstatus' := (books_group hg').2
  refine ⟨g', hg', hlater.totalAmount, hlater.allocations, hlater.paymentId, fun hpaid => ?_, fun hfailed => ?_⟩
  · rw [← hstatus']
    exact h.paid i _ hterms (hstatus.trans hpaid)
  · rw [← hstatus']
    exact h.failed i _ hterms (hstatus.trans hfailed)

/-- A payment that a group is linked to. -/
theorem payment_linked {db : Database} (hB : Consistent (books db)) {i p : ℕ} {g : CheckoutPaymentGroup}
    (hg : (db .checkoutPaymentGroup).find i = some g) (hlinked : g.paymentId = some p) :
    ∃ row, (db .payment).find p = some row ∧ row.amount = g.totalAmount := by
  obtain ⟨q, hq, hamount, -⟩ := hB.linked i _ p (books_group hg).1 hlinked
  obtain ⟨row, hrow, rfl⟩ := Option.map_eq_some_iff.mp hq
  exact ⟨row, hrow, hamount⟩

/-- In every interleaved run of the store: each order belongs to one group, whose allocations are not negative and
sum up to its total; the payment that a group is linked to is of that total, and of no other group. And in every
later state the group has the same total, allocations and payment, and is paid or released if it was. -/
theorem one_payer_per_order {w : World} (hw : Fresh w) {c c' : Config Op Error World}
    (hrun : store.Run System.anyOp ⟨w, []⟩ c) (hrun' : store.Run System.anyOp c c') :
    (∀ k o, (c.world.db .order).find k = some o → ∃ i g, (c.world.db .checkoutPaymentGroup).find i = some g ∧
      k ∈ g.allocations.map (·.orderId) ∧ ∀ j h, (c.world.db .checkoutPaymentGroup).find j = some h →
        k ∈ h.allocations.map (·.orderId) → j = i) ∧
    (∀ i g, (c.world.db .checkoutPaymentGroup).find i = some g →
      (g.allocations.map (·.amount)).sum = g.totalAmount ∧ ∀ a ∈ g.allocations, 0 ≤ a.amount ∧
        ∃ o, (c.world.db .order).find a.orderId = some o) ∧
    (∀ i g p, (c.world.db .checkoutPaymentGroup).find i = some g → g.paymentId = some p →
      (∃ row, (c.world.db .payment).find p = some row ∧ row.amount = g.totalAmount) ∧
      ∀ j h, (c.world.db .checkoutPaymentGroup).find j = some h → h.paymentId = some p → j = i) ∧
    ∀ i g, (c.world.db .checkoutPaymentGroup).find i = some g →
      ∃ g', (c'.world.db .checkoutPaymentGroup).find i = some g' ∧ g'.totalAmount = g.totalAmount ∧
      g'.allocations = g.allocations ∧ (∀ p, g.paymentId = some p → g'.paymentId = some p) ∧
      (g.status = .paid → g'.status = .paid) ∧ (g.status = .failed → g'.status = .failed) := by
  have hany {c c' : Config Op Error World} (h : store.Run System.anyOp c c') :
      store.Run (fun _ e _ => False → e.Honest) c c' := System.Run.mono store h fun _ _ _ _ => False.elim
  obtain ⟨hB, -, hlater⟩ := hw.simulated (hany hrun) (hany hrun')
  refine ⟨fun k o ho => ?_, fun i g hg => ?_, fun i g p hg hlinked => ⟨payment_linked hB hg hlinked, ?_⟩,
    fun i g hg => group_later hlater hg⟩
  · obtain ⟨i, t, ht, hk⟩ := hB.carried k _ (books_order ho).1
    obtain ⟨g, hg, rfl⟩ := find_of_books_group ht
    exact ⟨i, g, hg, hk, fun j h hh hkh => hB.carrier_unique j _ i _ (books_group hh).1 ht k hkh hk⟩
  · obtain ⟨-, hnonneg, hsum⟩ := hB.balanced i _ (books_group hg).1
    refine ⟨hsum, fun a ha => ⟨hnonneg a ha, ?_⟩⟩
    obtain ⟨n, hn⟩ := Option.isSome_iff_exists.mp (hB.placed i _ (books_group hg).1 a ha)
    obtain ⟨o, ho, -⟩ := Option.map_eq_some_iff.mp hn
    exact ⟨o, ho⟩
  · intro j h hh hlinked'
    exact hB.payer_unique j _ i _ p (books_group hh).1 (books_group hg).1 hlinked' hlinked

/-! ## A card payment -/

/-- The card payment is started. -/
def startedByCard : Config Op Error World :=
  store.follow ⟨shop, cardRequests⟩ (List.replicate 6 (0, paystackPays))

/-- The requests of the example can be made. -/
theorem cardRequests_start : ∀ p ∈ cardRequests, store.starts p := by
  intro p hp
  rcases List.mem_pair.mp hp with rfl | rfl
  · exact .payment (.place 1 cardPickup)
  · exact .payment (.verifyReference "PUR-1-u")

/-- The verification of the payment. -/
def verifiedByCard : Config Op Error World := store.follow startedByCard (List.replicate 5 (1, paystackPays))

/-- The start of the payment is a run. -/
theorem startedByCard_run : store.Run System.anyOp ⟨shop, []⟩ startedByCard :=
  store.schedule_run cardRequests_start _

/-- The verification is a run from there on. -/
theorem verifiedByCard_run : store.Run System.anyOp startedByCard verifiedByCard := store.follow_run _ _

/-- Paystack reports no transfer to a dedicated account. -/
theorem paystackPays_honest : paystackPays.Honest := by
  rintro reference v ⟨⟩ hchannel
  cases hchannel

/-- The verification marks the payment and the group as paid, and that is a run of the books. -/
theorem store_refines_books_verified :
    Books.Steps True (books startedByCard.world.db) (books verifiedByCard.world.db) ∧
      (books startedByCard.world.db).groupStatus 1 = .processing ∧
      (books verifiedByCard.world.db).groupStatus 1 = .paid := by
  have hhonest (k n : ℕ) (c : Config Op Error World) :
      store.Run (fun _ e _ => True → e.Honest) c (store.follow c (List.replicate n (k, paystackPays))) := by
    refine store.follow_run_env (Φ := fun e => True → e.Honest) fun round hround _ => ?_
    rw [List.eq_of_mem_replicate hround]
    exact paystackPays_honest
  have hstarted : store.Run (fun _ e _ => True → e.Honest) ⟨shop, []⟩ ⟨shop, cardRequests⟩ :=
    store.start_all_run cardRequests_start
  exact ⟨(store_refines_books fresh_shop (hstarted.trans (hhonest _ _ _)) (hhonest _ _ _)).2,
    by decide +kernel, by decide +kernel⟩

/-- The payment of the group that has been paid is still the one that was started. -/
theorem one_payer_per_order_verified :
    ∃ g row g', (startedByCard.world.db .checkoutPaymentGroup).find 1 = some g ∧
      (startedByCard.world.db .payment).find 1 = some row ∧ row.amount = g.totalAmount ∧
      (verifiedByCard.world.db .checkoutPaymentGroup).find 1 = some g' ∧ g'.paymentId = some 1 ∧
      g'.totalAmount = row.amount := by
  have hlinked : ((startedByCard.world.db .checkoutPaymentGroup).find 1).map (·.paymentId) = some (some 1) := by
    decide +kernel
  obtain ⟨g, hg, hp⟩ := Option.map_eq_some_iff.mp hlinked
  have hpayer := one_payer_per_order fresh_shop startedByCard_run verifiedByCard_run
  obtain ⟨row, hrow, hamount⟩ := (hpayer.2.2.1 1 g 1 hg hp).1
  obtain ⟨g', hg', htotal, -, hkept, -⟩ := hpayer.2.2.2 1 g hg
  exact ⟨g, row, g', hg, hrow, hamount, hg', hkept 1 hp, htotal.trans hamount.symm⟩

end Superstore

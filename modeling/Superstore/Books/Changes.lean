import Superstore.Books.Model

/-!
# Changes of the books

Each change leaves consistent books consistent, under the condition that makes it legitimate:
an unpaid group is released, a group that is not released is completed once it has a payment,
an order of a paid group moves on, and what is refunded is what a group's order was charged.
-/

namespace Superstore.Books

/-- Put an order into a status. -/
def setOrder (B : Books) (k : ℕ) (s : OrderStatus) : Books :=
  { B with orderStatus := Function.update B.orderStatus k s }

/-- Put a payment into a status. -/
def setPayment (B : Books) (p : ℕ) (s : PaymentStatus) : Books :=
  { B with paymentStatus := Function.update B.paymentStatus p s }

/-- Confirm and settle the received orders of a group, and mark it paid. -/
def complete (B : Books) (i : ℕ) (g : GroupTerms) (settled : String → Prop) : Books :=
  { B with
    orderStatus := fun k =>
      if k ∈ g.orders ∧ B.orderStatus k = .orderReceived then .confirmed else B.orderStatus k
    groupStatus := Function.update B.groupStatus i .paid
    settled := settled }

/-- Cancel the orders of a group, and mark it failed. -/
def release (B : Books) (i : ℕ) (g : GroupTerms) : Books :=
  { B with
    orderStatus := fun k => if k ∈ g.orders then .cancelled else B.orderStatus k
    groupStatus := Function.update B.groupStatus i .failed }

/-- Link a group to a new payment, and put it into a status. -/
def link (B : Books) (i p : ℕ) (q : PaymentTerms) (s : PaymentStatus) : Books :=
  { B with
    payment := enter B.payment p q
    group := modify B.group i fun g => { g with paymentId := some p }
    groupStatus := Function.update B.groupStatus i s }

/-- Enter orders and the group that carries them. -/
def place (B : Books) (order : ℕ → Option String) (i : ℕ) (g : GroupTerms) : Books :=
  { B with order := order, group := enter B.group i g }

/-- Enter a payment that no group is linked to. -/
def addPayment (B : Books) (p : ℕ) (q : PaymentTerms) : Books :=
  { B with payment := enter B.payment p q }

/-- Say that a payment is special, or that it is not. -/
def setSpecial (B : Books) (p : ℕ) (special : Bool) : Books :=
  { B with payment := modify B.payment p fun q => { q with special := special } }

/-- Enter a refund. -/
def addRefund (B : Books) (k : ℕ) (r : RefundTerms) : Books := { B with refund := enter B.refund k r }

variable {B : Books}

/-! ## Orders and payments -/

/-- Books with another status of an order are later ones. -/
theorem setOrder_later (B : Books) (k : ℕ) (s : OrderStatus) : B.Later (B.setOrder k s) :=
  { Later.refl B with }

/-- An order of a paid group may go to any status but back to the start. -/
theorem setOrder_consistent (h : Consistent B) {i k : ℕ} {s : OrderStatus} {g : GroupTerms}
    (hs : s ≠ .orderReceived) (hg : B.group i = some g) (hpaid : B.groupStatus i = .paid)
    (hk : k ∈ g.orders) : Consistent (B.setOrder k s) :=
  { h with
    agree := by
      intro j g' hg' a ha
      change Agree (B.groupStatus j) (Function.update B.orderStatus k s a.orderId)
      by_cases heq : a.orderId = k
      · have hj : i = j := h.carrier_unique i g j g' hg hg' k hk (heq ▸ List.mem_map_of_mem ha)
        rw [heq, Function.update_self, ← hj, hpaid]
        exact hs
      · rw [Function.update_of_ne heq]
        exact h.agree j g' hg' a ha }

/-- Books with another status of a payment are later ones. -/
theorem setPayment_later (B : Books) (p : ℕ) (s : PaymentStatus) : B.Later (B.setPayment p s) :=
  { Later.refl B with }

/-- The status of a payment does not matter to consistency. -/
theorem setPayment_consistent (h : Consistent B) (p : ℕ) (s : PaymentStatus) :
    Consistent (B.setPayment p s) := { h with }

/-- A payment that has the status already. -/
theorem setPayment_self (B : Books) (p : ℕ) : B.setPayment p (B.paymentStatus p) = B := by
  rw [setPayment, Function.update_eq_self]

/-- A payment that is marked as it is already. -/
theorem setSpecial_self {p : ℕ} {q : PaymentTerms} (h : B.payment p = some q) :
    B.setSpecial p q.special = B := by
  ext1
  case payment =>
    funext r
    by_cases hr : r = p
    · subst hr
      exact (modify_self h).trans h.symm
    · exact modify_of_ne hr
  all_goals rfl

/-! ## Completing and releasing a group -/

/-- The orders of another group are not among those of this one. -/
theorem disjoint (h : Consistent B) {i j : ℕ} {g g' : GroupTerms}
    (hg : B.group i = some g) (hg' : B.group j = some g') (hne : j ≠ i) {a : Allocation}
    (ha : a ∈ g'.allocations) : a.orderId ∉ g.orders := fun hmem =>
  hne (h.carrier_unique j g' i g hg' hg _ (List.mem_map_of_mem ha) hmem)

/-- Books in which a group is completed are later ones. -/
theorem complete_later {i : ℕ} {g : GroupTerms} {settled : String → Prop}
    (hfailed : B.groupStatus i ≠ .failed) (hsettled : ∀ n, B.settled n → settled n) :
    B.Later (B.complete i g settled) :=
  { Later.refl B with
    paid := fun j _ _ hs => by
      by_cases hj : j = i
      · simp [complete, hj]
      · simpa [complete, hj] using hs
    failed := fun j _ _ hs => by
      have hj : j ≠ i := by
        rintro rfl
        exact hfailed hs
      simpa [complete, hj] using hs
    settled := hsettled }

/-- A group that has a payment and has not been released may be completed. -/
theorem complete_consistent (h : Consistent B) {i : ℕ} {g : GroupTerms} (settled : String → Prop)
    (hg : B.group i = some g) (hlinked : g.paymentId.isSome) :
    Consistent (B.complete i g settled) :=
  { h with
    agree := by
      intro j g' hg' a ha
      by_cases hj : j = i
      · subst hj
        obtain rfl := Option.some.inj (hg.symm.trans hg')
        have hmem : a.orderId ∈ g.orders := List.mem_map_of_mem ha
        simp only [complete, Function.update_self, Agree, hmem, true_and]
        split
        · decide
        · next hs => exact hs
      · simp only [complete, Function.update_of_ne hj, disjoint h hg hg' hj ha, false_and, if_false]
        exact h.agree j g' hg' a ha
    paid_linked := by
      intro j g' hg' hs
      by_cases hj : j = i
      · subst hj
        obtain rfl := Option.some.inj (hg.symm.trans hg')
        exact hlinked
      · simp only [complete, Function.update_of_ne hj] at hs
        exact h.paid_linked j g' hg' hs }

/-- Books in which a group is released are later ones. -/
theorem release_later {i : ℕ} {g : GroupTerms} (hpaid : B.groupStatus i ≠ .paid) :
    B.Later (B.release i g) :=
  { Later.refl B with
    paid := fun j _ _ hs => by
      have hj : j ≠ i := by
        rintro rfl
        exact hpaid hs
      simpa [release, hj] using hs
    failed := fun j _ _ hs => by
      by_cases hj : j = i
      · simp [release, hj]
      · simpa [release, hj] using hs }

/-- A group may be released with its orders. -/
theorem release_consistent (h : Consistent B) {i : ℕ} {g : GroupTerms} (hg : B.group i = some g) :
    Consistent (B.release i g) :=
  { h with
    agree := by
      intro j g' hg' a ha
      by_cases hj : j = i
      · subst hj
        obtain rfl := Option.some.inj (hg.symm.trans hg')
        have hmem : a.orderId ∈ g.orders := List.mem_map_of_mem ha
        simp only [release, Function.update_self, Agree, hmem, if_true]
      · simp only [release, Function.update_of_ne hj, disjoint h hg hg' hj ha, if_false]
        exact h.agree j g' hg' a ha
    paid_linked := by
      intro j g' hg' hs
      by_cases hj : j = i
      · simp [release, hj] at hs
      · simp only [release, Function.update_of_ne hj] at hs
        exact h.paid_linked j g' hg' hs }

/-! ## Payments -/

/-- Books with one more payment are later ones. -/
theorem addPayment_later {p : ℕ} {q : PaymentTerms} (hp : B.payment p = none) :
    B.Later (B.addPayment p q) :=
  { Later.refl B with
    payment := fun _ q' hq' => ⟨q', enter_of_eq_some hp hq', rfl, rfl, rfl⟩ }

/-- A payment that nothing is linked to leaves the books consistent. -/
theorem addPayment_consistent (h : Consistent B) {p : ℕ} {q : PaymentTerms}
    (hp : B.payment p = none) : Consistent (B.addPayment p q) :=
  { h with
    linked := by
      intro i g r hg hr
      obtain ⟨q', hq', hrest⟩ := h.linked i g r hg hr
      exact ⟨q', enter_of_eq_some hp hq', hrest⟩
    klump_started := by
      intro i g r q' hg hr hq'
      obtain ⟨q₀, hq₀, -⟩ := h.linked i g r hg hr
      rcases enter_eq_some hq' with ⟨rfl, -⟩ | hold
      · rw [hp] at hq₀
        cases hq₀
      · exact h.klump_started i g r q' hg hr hold }

/-- Books with another mark on a payment are later ones. -/
theorem setSpecial_later (B : Books) (p : ℕ) (special : Bool) : B.Later (B.setSpecial p special) :=
  { Later.refl B with
    payment := fun r q hq => by
      refine ⟨_, modify_of_eq_some hq, ?_⟩
      split <;> exact ⟨rfl, rfl, rfl⟩
    links := fun i g _ hg hr _ => ⟨g, hg, hr⟩ }

/-- A payment that pays for a checkout does not become special. -/
theorem setSpecial_consistent (h : Consistent B) {p : ℕ} {special : Bool}
    (hp : special = false ∨ ∀ i g, B.group i = some g → g.paymentId ≠ some p) :
    Consistent (B.setSpecial p special) :=
  { h with
    linked := by
      intro i g r hg hr
      obtain ⟨q, hq, hamount, hspecial, href⟩ := h.linked i g r hg hr
      refine ⟨_, modify_of_eq_some hq, ?_⟩
      split
      · next heq =>
        subst heq
        exact ⟨hamount, hp.resolve_right fun hno => hno i g hg hr, href⟩
      · exact ⟨hamount, hspecial, href⟩
    klump_started := by
      intro i g r q hg hr hq hprovider
      obtain ⟨q₀, hq₀, rfl⟩ := modify_eq_some hq
      refine h.klump_started i g r q₀ hg hr hq₀ ?_
      split at hprovider <;> exact hprovider }

/-! ## Linking a group to its payment -/

/-- The terms of the groups when one of them is linked. -/
theorem linked_group {i j p : ℕ} {g' : GroupTerms}
    (h : modify B.group i (fun g => { g with paymentId := some p }) j = some g') :
    ∃ g, B.group j = some g ∧ g'.allocations = g.allocations ∧ g'.totalAmount = g.totalAmount ∧
      g'.paymentId = if j = i then some p else g.paymentId := by
  obtain ⟨g, hg, rfl⟩ := modify_eq_some h
  refine ⟨g, hg, ?_⟩
  split <;> exact ⟨rfl, rfl, rfl⟩

/-- Books in which a group is linked are later ones. -/
theorem link_later {i p : ℕ} {q : PaymentTerms} {s : PaymentStatus} {f : ℕ → Option KlumpTerms}
    (hnone : ∀ g, B.group i = some g → g.paymentId = none) (hp : B.payment p = none)
    (hf : ∀ k t, B.klump k = some t → f k = some t) (hpaid : B.groupStatus i ≠ .paid)
    (hfailed : B.groupStatus i ≠ .failed) : B.Later { B.link i p q s with klump := f } where
  order _ _ := id
  group j g hg := by
    refine ⟨_, modify_of_eq_some hg, ?_⟩
    split
    · next hj =>
      subst hj
      exact ⟨rfl, rfl, fun r hr => by rw [hnone g hg] at hr; cases hr⟩
    · exact .refl g
  paid j _ _ hs := by
    have hj : j ≠ i := by
      rintro rfl
      exact hpaid hs
    simpa [link, hj] using hs
  failed j _ _ hs := by
    have hj : j ≠ i := by
      rintro rfl
      exact hfailed hs
    simpa [link, hj] using hs
  payment _ q' hq' := ⟨q', enter_of_eq_some hp hq', rfl, rfl, rfl⟩
  refund _ _ := id
  klump := hf
  settled _ := id
  links j g' r hg' hr hold := by
    obtain ⟨g, hg, -, -, hpid⟩ := linked_group hg'
    refine ⟨g, hg, ?_⟩
    rw [hpid] at hr
    split at hr
    · obtain rfl := Option.some.inj hr
      rw [hp] at hold
      cases hold
    · exact hr

/-- A group without a payment may be linked to a new one of the same amount; one of Klump comes
with its Klump transaction. -/
theorem link_consistent (h : Consistent B) {i p : ℕ} {g : GroupTerms} {q : PaymentTerms}
    {s : PaymentStatus} {f : ℕ → Option KlumpTerms} (hg : B.group i = some g)
    (hp : B.payment p = none) (hnone : g.paymentId = none) (hamount : q.amount = g.totalAmount)
    (hspecial : q.special = false)
    (href : q.provider = .paystack → ∃ r, q.reference = some ("PUR-" ++ r))
    (hs : ∀ o, Agree (B.groupStatus i) o → Agree s o)
    (hold : ∀ k t, B.klump k = some t → f k = some t)
    (hnew : ∀ k t, f k = some t → B.klump k = some t ∨ t = ⟨i, p⟩)
    (hstarted : q.provider = .klump → ∃ k, f k = some ⟨i, p⟩) :
    Consistent { B.link i p q s with klump := f } := by
  have hkeep {j : ℕ} {g₀ : GroupTerms} {r : ℕ} (hg₀ : B.group j = some g₀)
      (hr : g₀.paymentId = some r) :
      ∃ g', (B.link i p q s).group j = some g' ∧ g'.allocations = g₀.allocations ∧
        g'.paymentId = some r := by
    refine ⟨_, modify_of_eq_some hg₀, ?_⟩
    rw [if_neg]
    · exact ⟨rfl, hr⟩
    · rintro rfl
      obtain rfl := Option.some.inj (hg.symm.trans hg₀)
      rw [hnone] at hr
      cases hr
  constructor
  · intro j g' hg' a ha
    obtain ⟨g₀, hg₀, halloc, -⟩ := linked_group hg'
    have hagree := h.agree j g₀ hg₀ a (halloc ▸ ha)
    by_cases hj : j = i
    · subst hj
      simpa [link] using hs _ hagree
    · simpa [link, hj] using hagree
  · intro j g' hg' hpaid
    obtain ⟨g₀, hg₀, -, -, hpid⟩ := linked_group hg'
    rw [hpid]
    split
    · rfl
    · next hj => exact h.paid_linked j g₀ hg₀ (by simpa [link, hj] using hpaid)
  · intro j g' hg' a ha
    obtain ⟨g₀, hg₀, halloc, -⟩ := linked_group hg'
    exact h.placed j g₀ hg₀ a (halloc ▸ ha)
  · intro k n hn
    obtain ⟨j, g₀, hg₀, hk⟩ := h.carried k n hn
    refine ⟨j, _, modify_of_eq_some hg₀, ?_⟩
    split <;> exact hk
  · intro j g₁ l g₂ hg₁ hg₂ k hk hk'
    obtain ⟨g₃, hg₃, halloc, -⟩ := linked_group hg₁
    obtain ⟨g₄, hg₄, halloc', -⟩ := linked_group hg₂
    rw [GroupTerms.orders, halloc] at hk
    rw [GroupTerms.orders, halloc'] at hk'
    exact h.carrier_unique j g₃ l g₄ hg₃ hg₄ k hk hk'
  · intro j g' hg'
    obtain ⟨g₀, hg₀, halloc, htotal, -⟩ := linked_group hg'
    rw [GroupTerms.orders, halloc, htotal]
    exact h.balanced j g₀ hg₀
  · intro j g' r hg' hr
    obtain ⟨g₀, hg₀, -, htotal, hpid⟩ := linked_group hg'
    rw [hpid] at hr
    split at hr
    · next hj =>
      obtain rfl := Option.some.inj hr
      obtain rfl := Option.some.inj ((hj ▸ hg₀).symm.trans hg)
      exact ⟨q, enter_self, hamount.trans htotal.symm, hspecial, href⟩
    · obtain ⟨q', hq', hrest⟩ := h.linked j g₀ r hg₀ hr
      exact ⟨q', enter_of_eq_some hp hq', htotal ▸ hrest⟩
  · intro j g₁ l g₂ r hg₁ hg₂ hr hr'
    obtain ⟨g₃, hg₃, -, -, hpid⟩ := linked_group hg₁
    obtain ⟨g₄, hg₄, -, -, hpid'⟩ := linked_group hg₂
    have hfresh {j : ℕ} {g₀ : GroupTerms} (hg₀ : B.group j = some g₀) :
        g₀.paymentId ≠ some p := by
      intro hpay
      obtain ⟨q', hq', -⟩ := h.linked j g₀ p hg₀ hpay
      rw [hp] at hq'
      cases hq'
    rw [hpid] at hr
    rw [hpid'] at hr'
    split at hr <;> split at hr'
    · next hj hl => exact hj.trans hl.symm
    · obtain rfl := Option.some.inj hr
      exact absurd hr' (hfresh hg₄)
    · obtain rfl := Option.some.inj hr'
      exact absurd hr (hfresh hg₃)
    · exact h.payer_unique j g₃ l g₄ r hg₃ hg₄ hr hr'
  · intro k t ht
    rcases hnew k t ht with hk | rfl
    · obtain ⟨g₀, hg₀, hpid⟩ := h.klump_linked k t hk
      obtain ⟨g', hg', -, hpid'⟩ := hkeep hg₀ hpid
      exact ⟨g', hg', hpid'⟩
    · exact ⟨_, modify_self hg, rfl⟩
  · intro j g' r q' hg' hr hq' hprovider
    obtain ⟨g₀, hg₀, -, -, hpid⟩ := linked_group hg'
    rw [hpid] at hr
    split at hr
    · next hj =>
      subst hj
      obtain rfl := Option.some.inj hr
      obtain rfl : q' = q := (Option.some.inj (enter_self.symm.trans hq')).symm
      obtain ⟨k, hk⟩ := hstarted hprovider
      exact ⟨k, _, hk, rfl⟩
    · rcases enter_eq_some hq' with ⟨rfl, -⟩ | hq₀
      · obtain ⟨q₀, hq₀, -⟩ := h.linked j g₀ r hg₀ hr
        rw [hp] at hq₀
        cases hq₀
      · obtain ⟨k, t, ht, hgroup⟩ := h.klump_started j g₀ r q' hg₀ hr hq₀ hprovider
        exact ⟨k, t, hold k t ht, hgroup⟩
  · intro k r hr
    obtain ⟨j, g₀, hg₀, hpid, hmem⟩ := h.refund_owed k r hr
    obtain ⟨g', hg', halloc, hpid'⟩ := hkeep hg₀ hpid
    exact ⟨j, g', hg', hpid', halloc ▸ hmem⟩
  · exact h.refund_unique

/-! ## Placing a checkout -/

/-- New orders and the new group that carries them. -/
structure Places (B : Books) (order : ℕ → Option String) (i : ℕ) (g : GroupTerms) : Prop where
  group : B.group i = none
  groupStatus : B.groupStatus i = .pending
  kept : ∀ k n, B.order k = some n → order k = some n
  carried : ∀ k n, order k = some n → B.order k = some n ∨ k ∈ g.orders
  placed : ∀ k ∈ g.orders, (order k).isSome
  fresh : ∀ k ∈ g.orders, B.order k = none ∧ B.orderStatus k = .orderReceived
  unlinked : g.paymentId = none
  nodup : g.orders.Nodup
  nonneg : ∀ a ∈ g.allocations, 0 ≤ a.amount
  balanced : (g.allocations.map (·.amount)).sum = g.totalAmount

variable {order : ℕ → Option String} {i : ℕ} {g : GroupTerms}

/-- Books with one more checkout are later ones. -/
theorem place_later (h : Places B order i g) : B.Later (B.place order i g) :=
  { Later.refl B with
    order := h.kept
    group := fun _ g' hg' => ⟨g', enter_of_eq_some h.group hg', .refl g'⟩
    links := fun j g' p hg' hp _ => by
      rcases enter_eq_some hg' with ⟨-, rfl⟩ | hold
      · rw [h.unlinked] at hp
        cases hp
      · exact ⟨g', hold, hp⟩ }

/-- A checkout leaves the books consistent. -/
theorem place_consistent (hB : Consistent B) (h : Places B order i g) :
    Consistent (B.place order i g) := by
  have hlink {j r : ℕ} {g' : GroupTerms} (hg' : (B.place order i g).group j = some g')
      (hr : g'.paymentId = some r) : B.group j = some g' := by
    rcases enter_eq_some hg' with ⟨-, rfl⟩ | hold
    · rw [h.unlinked] at hr
      cases hr
    · exact hold
  have hfresh {j k : ℕ} {g' : GroupTerms} (hg' : B.group j = some g') (hk : k ∈ g'.orders) :
      k ∉ g.orders := by
    intro hmem
    obtain ⟨a, ha, rfl⟩ := List.mem_map.mp hk
    have hsome := hB.placed j g' hg' a ha
    rw [(h.fresh _ hmem).1] at hsome
    cases hsome
  exact { hB with
    agree := by
      intro j g' hg' a ha
      rcases enter_eq_some hg' with ⟨rfl, rfl⟩ | hold
      · change Agree (B.groupStatus j) (B.orderStatus a.orderId)
        rw [h.groupStatus]
        exact (h.fresh _ (List.mem_map_of_mem ha)).2
      · exact hB.agree j g' hold a ha
    paid_linked := by
      intro j g' hg' hs
      rcases enter_eq_some hg' with ⟨rfl, rfl⟩ | hold
      · rw [show (B.place order j g').groupStatus j = .pending from h.groupStatus] at hs
        cases hs
      · exact hB.paid_linked j g' hold hs
    placed := by
      intro j g' hg' a ha
      rcases enter_eq_some hg' with ⟨rfl, rfl⟩ | hold
      · exact h.placed _ (List.mem_map_of_mem ha)
      · obtain ⟨n, hn⟩ := Option.isSome_iff_exists.mp (hB.placed j g' hold a ha)
        exact Option.isSome_iff_exists.mpr ⟨n, h.kept _ n hn⟩
    carried := by
      intro k n hk
      rcases h.carried k n hk with hold | hnew
      · obtain ⟨j, g', hg', hmem⟩ := hB.carried k n hold
        exact ⟨j, g', enter_of_eq_some h.group hg', hmem⟩
      · exact ⟨i, g, enter_self, hnew⟩
    carrier_unique := by
      intro j g₁ l g₂ hg₁ hg₂ k hk hk'
      rcases enter_eq_some hg₁ with ⟨rfl, rfl⟩ | hold <;>
        rcases enter_eq_some hg₂ with ⟨rfl, rfl⟩ | hold'
      · rfl
      · exact absurd hk (hfresh hold' hk')
      · exact absurd hk' (hfresh hold hk)
      · exact hB.carrier_unique j g₁ l g₂ hold hold' k hk hk'
    balanced := by
      intro j g' hg'
      rcases enter_eq_some hg' with ⟨-, rfl⟩ | hold
      · exact ⟨h.nodup, h.nonneg, h.balanced⟩
      · exact hB.balanced j g' hold
    linked := fun j g' r hg' hr => hB.linked j g' r (hlink hg' hr) hr
    payer_unique := fun j g₁ l g₂ r hg₁ hg₂ hr hr' =>
      hB.payer_unique j g₁ l g₂ r (hlink hg₁ hr) (hlink hg₂ hr') hr hr'
    klump_linked := by
      intro k t ht
      obtain ⟨g', hg', hp⟩ := hB.klump_linked k t ht
      exact ⟨g', enter_of_eq_some h.group hg', hp⟩
    klump_started := fun j g' r q hg' hr hq => hB.klump_started j g' r q (hlink hg' hr) hr hq
    refund_owed := by
      intro k r hr
      obtain ⟨j, g', hg', hp, hmem⟩ := hB.refund_owed k r hr
      exact ⟨j, g', enter_of_eq_some h.group hg', hp, hmem⟩ }

/-! ## Refunds -/

/-- Books with one more refund are later ones. -/
theorem addRefund_later {k : ℕ} {r : RefundTerms} (hk : B.refund k = none) :
    B.Later (B.addRefund k r) :=
  { Later.refl B with refund := fun _ _ hr => enter_of_eq_some hk hr }

/-- What an order was charged may be refunded once. -/
theorem addRefund_consistent (h : Consistent B) {k : ℕ} {r : RefundTerms} (hg : B.group i = some g)
    (hp : g.paymentId = some r.paymentId) (hmem : ⟨r.orderId, r.amount⟩ ∈ g.allocations)
    (hnone : ∀ l s, B.refund l = some s → s.orderId ≠ r.orderId) :
    Consistent (B.addRefund k r) :=
  { h with
    refund_owed := by
      intro l s hs
      rcases enter_eq_some hs with ⟨-, rfl⟩ | hold
      · exact ⟨i, g, hg, hp, hmem⟩
      · exact h.refund_owed l s hold
    refund_unique := by
      intro l s m t hs ht heq
      rcases enter_eq_some hs with ⟨rfl, rfl⟩ | hold <;>
        rcases enter_eq_some ht with ⟨rfl, rfl⟩ | hold'
      · rfl
      · exact absurd heq.symm (hnone m t hold')
      · exact absurd heq (hnone l s hold)
      · exact h.refund_unique l s m t hold hold' heq }

end Superstore.Books

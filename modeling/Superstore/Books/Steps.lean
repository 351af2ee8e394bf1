import Mathlib.Logic.Relation
import Superstore.Books.Changes

/-!
# Steps of the books

The legitimate changes of the books as one transition system. Its steps keep consistent books
consistent, and keep account of the money that Paystack has captured: it has paid for a
finished group, or is owed back for every order of a released one.

A step that gives a payment any status at all is there for payments that Paystack does not
process for a checkout. Whether the others are spared depends on what Paystack reports, so
this is a parameter.
-/

namespace Superstore

/-- Money that has been taken, whether or not some of it has been given back. -/
def PaymentStatus.Captured (s : PaymentStatus) : Prop :=
  s = .paid ∨ s = .refunded ∨ s = .partiallyRefunded

namespace Books

/-- A group that a payment pays for through Paystack. -/
structure PaysFor (B : Books) (p i : ℕ) (g : GroupTerms) : Prop where
  group : B.group i = some g
  linked : g.paymentId = some p
  paystack : ∃ q, B.payment p = some q ∧ q.provider = .paystack

/-- No group is linked to a payment that exists. -/
def Unlinked (B : Books) (p : ℕ) : Prop :=
  (B.payment p).isSome ∧ ∀ i g, B.group i = some g → g.paymentId ≠ some p

/-- A group without a payment, and the new payment it is to be linked to. -/
structure Links (B : Books) (i p : ℕ) (g : GroupTerms) (q : PaymentTerms) (s st : PaymentStatus)
    (f : ℕ → Option KlumpTerms) : Prop where
  group : B.group i = some g
  fresh : B.payment p = none
  unlinked : g.paymentId = none
  amount : q.amount = g.totalAmount
  special : q.special = false
  reference : q.provider = .paystack → ∃ r, q.reference = some ("PUR-" ++ r)
  pending : q.provider = .paystack → st = .pending
  agree : ∀ o, Agree (B.groupStatus i) o → Agree s o
  status : s ≠ .paid
  unpaid : B.groupStatus i ≠ .paid
  unreleased : B.groupStatus i ≠ .failed
  kept : ∀ k t, B.klump k = some t → f k = some t
  new : ∀ k t, f k = some t → B.klump k = some t ∨ t = ⟨i, p⟩
  started : q.provider = .klump → ∃ k, f k = some ⟨i, p⟩

/-- The refunds of a payment that came after the release of its groups. -/
structure Late (B : Books) (p : ℕ) (f : ℕ → Option RefundTerms) : Prop where
  failed : B.paymentStatus p = .failed
  paystack : ∃ q, B.payment p = some q ∧ q.provider = .paystack
  kept : ∀ k r, B.refund k = some r → f k = some r
  owed : ∀ k r, f k = some r → B.refund k = some r ∨ r.paymentId = p ∧
    ∃ i g, B.group i = some g ∧ g.paymentId = some p ∧ ⟨r.orderId, r.amount⟩ ∈ g.allocations
  unique : ∀ k r l s, f k = some r → f l = some s → r.orderId = s.orderId → k = l
  covers : ∀ i g, B.group i = some g → g.paymentId = some p → ∀ a ∈ g.allocations,
    ∃ k r, f k = some r ∧ r.orderId = a.orderId

/-- A legitimate change of the books. The parameter says whether the payments that Paystack
processes for checkouts are spared from arbitrary changes of their status. -/
inductive Change (spared : Prop) (B : Books) : Books → Prop
  | settle {S : String → Prop} (h : ∀ n, B.settled n → S n) : Change spared B { B with settled := S }
  | order {i k : ℕ} {s : OrderStatus} {g : GroupTerms} (hs : s ≠ .orderReceived)
      (hg : B.group i = some g) (hpaid : B.groupStatus i = .paid) (hk : k ∈ g.orders) :
      Change spared B (B.setOrder k s)
  | place {order : ℕ → Option String} {i : ℕ} {g : GroupTerms} (h : Places B order i g) :
      Change spared B (B.place order i g)
  | addPayment {p : ℕ} {q : PaymentTerms} (st : PaymentStatus) (hp : B.payment p = none) :
      Change spared B ((B.addPayment p q).setPayment p st)
  | special {p : ℕ} {b : Bool} (h : b = false ∨ B.Unlinked p) : Change spared B (B.setSpecial p b)
  | link {i p : ℕ} {g : GroupTerms} {q : PaymentTerms} {s st : PaymentStatus}
      {f : ℕ → Option KlumpTerms} (h : Links B i p g q s st f) :
      Change spared B ({ B.link i p q s with klump := f }.setPayment p st)
  | complete {i : ℕ} {g : GroupTerms} {S : String → Prop} (hg : B.group i = some g)
      (hlinked : g.paymentId.isSome) (hopen : B.groupStatus i ≠ .failed)
      (hS : ∀ n, B.settled n → S n)
      (hnew : ∀ k ∈ g.orders, B.orderStatus k = .orderReceived → ∀ n, B.order k = some n → S n) :
      Change spared B (B.complete i g S)
  | release {i : ℕ} {g : GroupTerms} (hg : B.group i = some g) (hpaid : B.groupStatus i ≠ .paid)
      (hfailed : B.groupStatus i ≠ .failed) : Change spared B (B.release i g)
  | paid {p : ℕ} (h : ∀ i g, B.group i = some g → g.paymentId = some p → B.groupStatus i = .paid) :
      Change spared B (B.setPayment p .paid)
  | failed {p : ℕ}
      (h : ∀ i g, B.group i = some g → g.paymentId = some p → B.groupStatus i = .failed) :
      Change spared B (B.setPayment p .failed)
  | refunded {k : ℕ} {r : RefundTerms} {s : PaymentStatus} (hr : B.refund k = some r)
      (hs : s ≠ .failed) : Change spared B (B.setPayment r.paymentId s)
  | other {p : ℕ} {s : PaymentStatus} (h : spared → ∀ i g, ¬B.PaysFor p i g) :
      Change spared B (B.setPayment p s)
  | refund {i k : ℕ} {g : GroupTerms} {r : RefundTerms} (hk : B.refund k = none)
      (hg : B.group i = some g) (hpaid : B.groupStatus i = .paid) (hp : g.paymentId = some r.paymentId)
      (hmem : ⟨r.orderId, r.amount⟩ ∈ g.allocations)
      (hnone : ∀ l s, B.refund l = some s → s.orderId ≠ r.orderId) :
      Change spared B (B.addRefund k r)
  | late {p : ℕ} {f : ℕ → Option RefundTerms} (h : Late B p f) :
      Change spared B { B.setPayment p .paid with refund := f }

/-- Any number of legitimate changes. -/
abbrev Steps (spared : Prop) : Books → Books → Prop := Relation.ReflTransGen (Change spared)

variable {spared : Prop} {B B' : Books}

/-! ## Consistency -/

/-- Books in which a late payment is paid back are later ones. -/
theorem late_later {p : ℕ} {f : ℕ → Option RefundTerms} (h : Late B p f) :
    B.Later { B.setPayment p .paid with refund := f } :=
  { Later.refl B with refund := h.kept }

/-- Paying back a late payment leaves the books consistent. -/
theorem late_consistent (hB : Consistent B) {p : ℕ} {f : ℕ → Option RefundTerms} (h : Late B p f) :
    Consistent { B.setPayment p .paid with refund := f } :=
  { hB with
    refund_owed := by
      intro k r hr
      rcases h.owed k r hr with hold | ⟨rfl, i, g, hg, hp, hmem⟩
      · exact hB.refund_owed k r hold
      · exact ⟨i, g, hg, hp, hmem⟩
    refund_unique := h.unique }

/-- A legitimate change keeps consistent books consistent, and moves them on. -/
theorem Change.advances (h : Change spared B B') (hB : Consistent B) :
    Consistent B' ∧ B.Later B' := by
  cases h with
  | settle h => exact ⟨{ hB with }, { Later.refl B with settled := h }⟩
  | order hs hg hpaid hk => exact ⟨setOrder_consistent hB hs hg hpaid hk, setOrder_later _ _ _⟩
  | place h => exact ⟨place_consistent hB h, place_later h⟩
  | addPayment st hp =>
    exact ⟨setPayment_consistent (addPayment_consistent hB hp) _ _,
      (addPayment_later hp).trans (setPayment_later _ _ _)⟩
  | special h => exact ⟨setSpecial_consistent hB (h.imp_right (·.2)), setSpecial_later _ _ _⟩
  | link h =>
    refine ⟨setPayment_consistent (link_consistent hB h.group h.fresh h.unlinked h.amount h.special
      h.reference h.agree h.kept h.new h.started) _ _, ?_⟩
    refine (link_later (fun g hg => ?_) h.fresh h.kept h.unpaid h.unreleased).trans
      (setPayment_later _ _ _)
    rw [← Option.some.inj (h.group.symm.trans hg)]
    exact h.unlinked
  | complete hg hlinked hopen hS _ =>
    exact ⟨complete_consistent hB _ hg hlinked, complete_later hopen hS⟩
  | release hg hpaid _ => exact ⟨release_consistent hB hg, release_later hpaid⟩
  | paid _ => exact ⟨setPayment_consistent hB _ _, setPayment_later _ _ _⟩
  | failed _ => exact ⟨setPayment_consistent hB _ _, setPayment_later _ _ _⟩
  | refunded _ _ => exact ⟨setPayment_consistent hB _ _, setPayment_later _ _ _⟩
  | other _ => exact ⟨setPayment_consistent hB _ _, setPayment_later _ _ _⟩
  | refund hk hg _ hp hmem hnone =>
    exact ⟨addRefund_consistent hB hg hp hmem hnone, addRefund_later hk⟩
  | late h => exact ⟨late_consistent hB h, late_later h⟩

/-- A legitimate change leaves the books consistent, and makes later ones. -/
theorem Steps.advances (h : Steps spared B B') (hB : Consistent B) : Consistent B' ∧ B.Later B' := by
  induction h with
  | refl => exact ⟨hB, .refl B⟩
  | tail _ hstep ih =>
    obtain ⟨hcons, hlater⟩ := hstep.advances ih.1
    exact ⟨hcons, ih.2.trans hlater⟩

/-! ## Captured money -/

/-- A group that is finished, or released with a refund for each of its orders. -/
def Accounted (B : Books) (i : ℕ) (g : GroupTerms) : Prop :=
  B.groupStatus i = .paid ∨
    B.groupStatus i = .failed ∧ ∀ k ∈ g.orders, ∃ l r, B.refund l = some r ∧ r.orderId = k

/-- Captured money is accounted for: what was taken or is given back belongs to groups that are
accounted for, a failed payment leaves no group open, and finished groups are settled. -/
structure Money (B : Books) : Prop where
  captured : ∀ p i g, B.PaysFor p i g → (B.paymentStatus p).Captured → B.Accounted i g
  refunded : ∀ k r i g, B.refund k = some r → B.group i = some g → g.paymentId = some r.paymentId →
    B.Accounted i g
  failed : ∀ p i g, B.PaysFor p i g → B.paymentStatus p = .failed → B.groupStatus i = .failed
  settled : ∀ i g, B.group i = some g → B.groupStatus i = .paid → ∀ k ∈ g.orders, ∀ n,
    B.order k = some n → B.settled n

/-- A group stays accounted for while it keeps its status and the refunds stay. -/
theorem Accounted.mono {i : ℕ} {g : GroupTerms} (h : B.Accounted i g)
    (hstatus : B'.groupStatus i = B.groupStatus i)
    (hrefund : ∀ k r, B.refund k = some r → B'.refund k = some r) : B'.Accounted i g := by
  rw [Accounted, hstatus]
  refine h.imp_right (And.imp_right fun hcovers k hk => ?_)
  obtain ⟨l, r, hr, hid⟩ := hcovers k hk
  exact ⟨l, r, hrefund l r hr, hid⟩

/-- A checkout leaves the money accounted for. -/
theorem place_money (hB : Consistent B) (hM : Money B) {order : ℕ → Option String} {i : ℕ}
    {g : GroupTerms} (h : Places B order i g) : Money (B.place order i g) := by
  have hold {j p : ℕ} {g' : GroupTerms} (hg' : (B.place order i g).group j = some g')
      (hp : g'.paymentId = some p) : B.group j = some g' := by
    rcases enter_eq_some hg' with ⟨-, rfl⟩ | hold
    · rw [h.unlinked] at hp
      cases hp
    · exact hold
  exact
    { captured := fun p j g' hpays => hM.captured p j g' { hpays with group := hold hpays.group hpays.linked }
      refunded := fun k r j g' hr hg' hp => hM.refunded k r j g' hr (hold hg' hp) hp
      failed := fun p j g' hpays => hM.failed p j g' { hpays with group := hold hpays.group hpays.linked }
      settled := by
        intro j g' hg' hpaid k hk n hn
        rcases enter_eq_some hg' with ⟨rfl, -⟩ | hold
        · rw [show (B.place order j g).groupStatus j = .pending from h.groupStatus] at hpaid
          cases hpaid
        · obtain ⟨a, ha, rfl⟩ := List.mem_map.mp hk
          obtain ⟨n', hn'⟩ := Option.isSome_iff_exists.mp (hB.placed j g' hold a ha)
          obtain rfl := Option.some.inj ((h.kept _ _ hn').symm.trans hn)
          exact hM.settled j g' hold hpaid _ hk _ hn' }

/-- A payment that has been captured is accounted for. -/
theorem setPayment_money (hM : Money B) {p : ℕ} {s : PaymentStatus}
    (h : ∀ i g, B.PaysFor p i g → (s.Captured → B.Accounted i g) ∧
      (s = .failed → B.groupStatus i = .failed)) : Money (B.setPayment p s) :=
  { hM with
    captured := by
      intro r i g hpays hs
      have hpays' : B.PaysFor r i g := { hpays with }
      by_cases hr : r = p
      · subst hr
        exact (h i g hpays').1 (by simpa [setPayment] using hs)
      · exact hM.captured r i g hpays' (by simpa [setPayment, hr] using hs)
    failed := by
      intro r i g hpays hs
      have hpays' : B.PaysFor r i g := { hpays with }
      by_cases hr : r = p
      · subst hr
        exact (h i g hpays').2 (by simpa [setPayment] using hs)
      · exact hM.failed r i g hpays' (by simpa [setPayment, hr] using hs) }

/-- The links of a payment that did not exist before are none. -/
theorem not_linked_of_fresh (hB : Consistent B) {p i : ℕ} {g : GroupTerms} (hp : B.payment p = none)
    (hg : B.group i = some g) : g.paymentId ≠ some p := by
  intro hlinked
  obtain ⟨q, hq, -⟩ := hB.linked i g p hg hlinked
  rw [hp] at hq
  cases hq

/-- A new payment has not been captured. -/
theorem addPayment_money (hB : Consistent B) (hM : Money B) {p : ℕ} {q : PaymentTerms}
    (hp : B.payment p = none) : Money (B.addPayment p q) := by
  have hold {r i : ℕ} {g : GroupTerms} (h : (B.addPayment p q).PaysFor r i g) : B.PaysFor r i g := by
    refine ⟨h.group, h.linked, ?_⟩
    obtain ⟨q', hq', hpaystack⟩ := h.paystack
    rcases enter_eq_some hq' with ⟨rfl, -⟩ | hq'
    · exact absurd h.linked (not_linked_of_fresh hB hp h.group)
    · exact ⟨q', hq', hpaystack⟩
  exact { hM with
    captured := fun r i g h => hM.captured r i g (hold h)
    failed := fun r i g h => hM.failed r i g (hold h) }

/-- The mark on a payment does not matter to the money. -/
theorem setSpecial_money (hM : Money B) (p : ℕ) (b : Bool) : Money (B.setSpecial p b) := by
  have hold {r i : ℕ} {g : GroupTerms} (h : (B.setSpecial p b).PaysFor r i g) : B.PaysFor r i g := by
    refine ⟨h.group, h.linked, ?_⟩
    obtain ⟨q', hq', hpaystack⟩ := h.paystack
    obtain ⟨q, hq, rfl⟩ := modify_eq_some hq'
    exact ⟨q, hq, by split at hpaystack <;> exact hpaystack⟩
  exact { hM with
    captured := fun r i g h => hM.captured r i g (hold h)
    failed := fun r i g h => hM.failed r i g (hold h) }

/-- A group that is linked to a new payment has not been paid. -/
theorem link_money (hB : Consistent B) (hM : Money B) {i p : ℕ} {g : GroupTerms} {q : PaymentTerms}
    {s st : PaymentStatus} {f : ℕ → Option KlumpTerms} (h : Links B i p g q s st f) :
    Money ({ B.link i p q s with klump := f }.setPayment p st) := by
  set B₁ := { B.link i p q s with klump := f }.setPayment p st with hB₁
  have hcase {j : ℕ} {g' : GroupTerms} (hg' : B₁.group j = some g') :
      j = i ∧ g'.paymentId = some p ∨ j ≠ i ∧ B.group j = some g' := by
    obtain ⟨g₀, hg₀, rfl⟩ := modify_eq_some hg'
    by_cases hj : j = i
    · exact .inl ⟨hj, by rw [if_pos hj]⟩
    · exact .inr ⟨hj, by rw [if_neg hj]; exact hg₀⟩
  have hpays {r j : ℕ} {g' : GroupTerms} (hp : B₁.PaysFor r j g') :
      r = p ∧ st = .pending ∨ r ≠ p ∧ j ≠ i ∧ B.PaysFor r j g' := by
    obtain ⟨q', hq', hpaystack⟩ := hp.paystack
    rcases hcase hp.group with ⟨rfl, hlinked⟩ | ⟨hj, hold⟩
    · obtain rfl := Option.some.inj (hlinked.symm.trans hp.linked)
      obtain rfl : q = q' := Option.some.inj (enter_self.symm.trans hq')
      exact .inl ⟨rfl, h.pending hpaystack⟩
    · have hr : r ≠ p := by
        rintro rfl
        exact not_linked_of_fresh hB h.fresh hold hp.linked
      refine .inr ⟨hr, hj, hold, hp.linked, q', ?_, hpaystack⟩
      exact (enter_eq_some hq').resolve_left fun h => hr h.1
  have hgroupStatus {j : ℕ} (hj : j ≠ i) : B₁.groupStatus j = B.groupStatus j :=
    Function.update_of_ne hj _ _
  have hpaymentStatus {r : ℕ} (hr : r ≠ p) : B₁.paymentStatus r = B.paymentStatus r :=
    Function.update_of_ne hr _ _
  have hself : B₁.paymentStatus p = st := Function.update_self _ _ _
  constructor
  · intro r j g' hp hs
    rcases hpays hp with ⟨rfl, rfl⟩ | ⟨hr, hj, hold⟩
    · rw [hself] at hs
      rcases hs with hs | hs | hs <;> cases hs
    · rw [hpaymentStatus hr] at hs
      exact (hM.captured r j g' hold hs).mono (hgroupStatus hj) fun _ _ => id
  · intro k r j g' hr hg' hlinked
    rcases hcase hg' with ⟨rfl, hp⟩ | ⟨hj, hold⟩
    · obtain ⟨l, g₀, hg₀, hp₀, -⟩ := hB.refund_owed k r hr
      rw [Option.some.inj (hlinked.symm.trans hp)] at hp₀
      exact absurd hp₀ (not_linked_of_fresh hB h.fresh hg₀)
    · exact (hM.refunded k r j g' hr hold hlinked).mono (hgroupStatus hj) fun _ _ => id
  · intro r j g' hp hs
    rcases hpays hp with ⟨rfl, rfl⟩ | ⟨hr, hj, hold⟩
    · rw [hself] at hs
      cases hs
    · rw [hpaymentStatus hr] at hs
      rw [hgroupStatus hj]
      exact hM.failed r j g' hold hs
  · intro j g' hg' hpaid k hk n hn
    rcases hcase hg' with ⟨rfl, -⟩ | ⟨hj, hold⟩
    · rw [show B₁.groupStatus j = s from Function.update_self _ _ _] at hpaid
      exact absurd hpaid h.status
    · rw [hgroupStatus hj] at hpaid
      exact hM.settled j g' hold hpaid k hk n hn

/-- Completing a group accounts for its payment. -/
theorem complete_money (hB : Consistent B) (hM : Money B) {i : ℕ} {g : GroupTerms}
    {S : String → Prop} (hg : B.group i = some g) (hopen : B.groupStatus i ≠ .failed)
    (hS : ∀ n, B.settled n → S n)
    (hnew : ∀ k ∈ g.orders, B.orderStatus k = .orderReceived → ∀ n, B.order k = some n → S n) :
    Money (B.complete i g S) := by
  have hself : (B.complete i g S).groupStatus i = .paid := Function.update_self _ _ _
  have hother {j : ℕ} (hj : j ≠ i) : (B.complete i g S).groupStatus j = B.groupStatus j :=
    Function.update_of_ne hj _ _
  have haccounted {j : ℕ} {g' : GroupTerms} (h : B.Accounted j g') :
      (B.complete i g S).Accounted j g' := by
    by_cases hj : j = i
    · exact .inl (hj ▸ hself)
    · exact h.mono (hother hj) fun _ _ => id
  constructor
  · exact fun p j g' hpays hs => haccounted (hM.captured p j g' { hpays with } hs)
  · exact fun k r j g' hr hg' hp => haccounted (hM.refunded k r j g' hr hg' hp)
  · intro p j g' hpays hs
    have hfailed := hM.failed p j g' { hpays with } hs
    have hj : j ≠ i := by
      rintro rfl
      exact hopen hfailed
    rw [hother hj]
    exact hfailed
  · intro j g' hg' hpaid k hk n hn
    by_cases hj : j = i
    · subst hj
      obtain rfl := Option.some.inj (hg.symm.trans hg')
      by_cases hreceived : B.orderStatus k = .orderReceived
      · exact hnew k hk hreceived n hn
      · obtain ⟨a, ha, rfl⟩ := List.mem_map.mp hk
        have hagree := hB.agree j g hg a ha
        have hpaid' : B.groupStatus j = .paid := by
          cases hs : B.groupStatus j <;> simp_all [Agree]
        exact hS n (hM.settled j g hg hpaid' _ hk n hn)
    · rw [hother hj] at hpaid
      exact hS n (hM.settled j g' hg' hpaid k hk n hn)

/-- Releasing a group takes no money. -/
theorem release_money (hM : Money B) {i : ℕ} {g : GroupTerms} (hpaid : B.groupStatus i ≠ .paid)
    (hfailed : B.groupStatus i ≠ .failed) : Money (B.release i g) := by
  have hself : (B.release i g).groupStatus i = .failed := Function.update_self _ _ _
  have hother {j : ℕ} (hj : j ≠ i) : (B.release i g).groupStatus j = B.groupStatus j :=
    Function.update_of_ne hj _ _
  have haccounted {j : ℕ} {g' : GroupTerms} (h : B.Accounted j g') : (B.release i g).Accounted j g' := by
    have hj : j ≠ i := by
      rintro rfl
      exact h.elim hpaid fun h => hfailed h.1
    exact h.mono (hother hj) fun _ _ => id
  constructor
  · exact fun p j g' hpays hs => haccounted (hM.captured p j g' { hpays with } hs)
  · exact fun k r j g' hr hg' hp => haccounted (hM.refunded k r j g' hr hg' hp)
  · intro p j g' hpays hs
    have hfailed' := hM.failed p j g' { hpays with } hs
    by_cases hj : j = i
    · rw [hj, hself]
    · rw [hother hj, hfailed']
  · intro j g' hg' hs k hk n hn
    have hj : j ≠ i := by
      rintro rfl
      rw [hself] at hs
      cases hs
    rw [hother hj] at hs
    exact hM.settled j g' hg' hs k hk n hn

/-- A refund that is owed leaves the money accounted for. -/
theorem addRefund_money (hB : Consistent B) (hM : Money B) {i k : ℕ} {g : GroupTerms}
    {r : RefundTerms} (hk : B.refund k = none) (hg : B.group i = some g)
    (hpaid : B.groupStatus i = .paid) (hp : g.paymentId = some r.paymentId) :
    Money (B.addRefund k r) := by
  have haccounted {j : ℕ} {g' : GroupTerms} (h : B.Accounted j g') : (B.addRefund k r).Accounted j g' :=
    h.mono rfl fun _ _ => enter_of_eq_some hk
  exact { hM with
    captured := fun p j g' hpays hs => haccounted (hM.captured p j g' { hpays with } hs)
    failed := fun p j g' hpays => hM.failed p j g' { hpays with }
    refunded := by
      intro l s j g' hs hg' hp'
      rcases enter_eq_some hs with ⟨-, rfl⟩ | hold
      · obtain rfl := hB.payer_unique j g' i g _ hg' hg hp' hp
        exact .inl hpaid
      · exact haccounted (hM.refunded l s j g' hold hg' hp') }

/-- Paying back a late payment accounts for it. -/
theorem late_money (hM : Money B) {p : ℕ} {f : ℕ → Option RefundTerms} (h : Late B p f) :
    Money { B.setPayment p .paid with refund := f } := by
  set B₁ := { B.setPayment p .paid with refund := f } with hB₁
  have hpaymentStatus {r : ℕ} (hr : r ≠ p) : B₁.paymentStatus r = B.paymentStatus r :=
    Function.update_of_ne hr _ _
  have hlate {j : ℕ} {g : GroupTerms} (hpays : B.PaysFor p j g) : B₁.Accounted j g := by
    refine .inr ⟨hM.failed p j g hpays h.failed, fun k hk => ?_⟩
    obtain ⟨a, ha, rfl⟩ := List.mem_map.mp hk
    exact h.covers j g hpays.group hpays.linked a ha
  constructor
  · intro r j g hpays hs
    have hpays' : B.PaysFor r j g := { hpays with }
    by_cases hr : r = p
    · exact hlate (hr ▸ hpays')
    · rw [hpaymentStatus hr] at hs
      exact (hM.captured r j g hpays' hs).mono rfl h.kept
  · intro k r j g hr hg hp
    rcases h.owed k r hr with hold | ⟨rfl, -⟩
    · exact (hM.refunded k r j g hold hg hp).mono rfl h.kept
    · exact hlate ⟨hg, hp, h.paystack⟩
  · intro r j g hpays hs
    have hr : r ≠ p := by
      rintro rfl
      rw [show B₁.paymentStatus r = .paid from Function.update_self _ _ _] at hs
      cases hs
    rw [hpaymentStatus hr] at hs
    exact hM.failed r j g { hpays with } hs
  · exact hM.settled

/-- Captured money stays accounted for. -/
theorem Change.money (h : Change True B B') (hB : Consistent B) (hM : Money B) : Money B' := by
  cases h with
  | settle h =>
    exact
      { captured := fun p i g hpays => hM.captured p i g { hpays with }
        refunded := hM.refunded
        failed := fun p i g hpays => hM.failed p i g { hpays with }
        settled := fun i g hg hpaid k hk n hn => h n (hM.settled i g hg hpaid k hk n hn) }
  | order _ _ _ _ =>
    exact
      { captured := fun p i g hpays => hM.captured p i g { hpays with }
        refunded := hM.refunded
        failed := fun p i g hpays => hM.failed p i g { hpays with }
        settled := hM.settled }
  | place h => exact place_money hB hM h
  | @addPayment p q st hp =>
    refine setPayment_money (addPayment_money hB hM hp) fun i g hpays => ?_
    exact absurd hpays.linked (not_linked_of_fresh hB hp hpays.group)
  | special _ => exact setSpecial_money hM _ _
  | link h => exact link_money hB hM h
  | complete hg _ hopen hS hnew => exact complete_money hB hM hg hopen hS hnew
  | release _ hpaid hfailed => exact release_money hM hpaid hfailed
  | paid h =>
    refine setPayment_money hM fun i g hpays => ⟨fun _ => .inl (h i g hpays.group hpays.linked), ?_⟩
    exact fun hs => absurd hs (by decide)
  | failed h =>
    refine setPayment_money hM fun i g hpays => ⟨fun hs => ?_, fun _ => h i g hpays.group hpays.linked⟩
    rcases hs with hs | hs | hs <;> cases hs
  | refunded hr hs =>
    exact setPayment_money hM fun i g hpays =>
      ⟨fun _ => hM.refunded _ _ i g hr hpays.group hpays.linked, fun h => absurd h hs⟩
  | other h => exact setPayment_money hM fun i g hpays => absurd hpays (h trivial i g)
  | refund hk hg hpaid hp _ _ => exact addRefund_money hB hM hk hg hpaid hp
  | late h => exact late_money hM h

/-- A legitimate change leaves the money accounted for. -/
theorem Steps.money (h : Steps True B B') (hB : Consistent B) (hM : Money B) : Money B' := by
  induction h with
  | refl => exact hM
  | tail hsteps hstep ih => exact hstep.money (Steps.advances hsteps hB).1 ih

end Books

end Superstore

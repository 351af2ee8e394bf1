import Mathlib.Algebra.Order.BigOperators.Group.List
import Mathlib.Algebra.Order.Ring.Rat
import Superstore.Store.Schema

/-!
# The books of the store

An abstract model of what a checkout is about: orders are carried by groups, groups are paid
by payments, and payments are refunded. It forgets everything that the store needs to carry
an order out, and keeps what has to agree between the five tables. The books say what
"unpaid", "released" and "owed back" mean; the transactions are compared with them.
-/

namespace Superstore

/-- What a payment group asks for, and the payment that it is linked to. -/
structure GroupTerms where
  paymentId : Option ℕ
  totalAmount : ℚ
  allocations : List Allocation

/-- The orders that a group carries. -/
def GroupTerms.orders (g : GroupTerms) : List ℕ := g.allocations.map (·.orderId)

/-- What is fixed about a payment; a special one funds a wallet or repays an installment. -/
structure PaymentTerms where
  amount : ℚ
  provider : PaymentProvider
  reference : Option String
  special : Bool

/-- What is fixed about a refund. -/
structure RefundTerms where
  orderId : ℕ
  paymentId : ℕ
  amount : ℚ
  provider : PaymentProvider

/-- What is fixed about a Klump transaction. -/
structure KlumpTerms where
  groupId : ℕ
  paymentId : ℕ

/-- The terms of each entry by its key, with the statuses of orders, groups and payments beside
them, and the order numbers that have been settled. An order is known by its number. The status
of a key without an entry is the one that a new entry begins with. -/
@[ext]
structure Books where
  order : ℕ → Option String
  orderStatus : ℕ → OrderStatus
  group : ℕ → Option GroupTerms
  groupStatus : ℕ → PaymentStatus
  payment : ℕ → Option PaymentTerms
  paymentStatus : ℕ → PaymentStatus
  refund : ℕ → Option RefundTerms
  klump : ℕ → Option KlumpTerms
  settled : String → Prop

/-! ## Entries under one key -/

namespace Books

section Entries

variable {α : Type} {f : ℕ → Option α} {i j : ℕ} {a b : α} {u : α → α}

/-- Rewrite the entry under one key. -/
def modify (f : ℕ → Option α) (i : ℕ) (u : α → α) : ℕ → Option α :=
  fun j => if j = i then (f j).map u else f j

/-- The other entries are not modified. -/
theorem modify_of_ne (h : j ≠ i) : modify f i u j = f j := if_neg h

/-- The entry that is modified is changed. -/
theorem modify_self (h : f i = some a) : modify f i u i = some (u a) := by
  rw [modify, if_pos rfl, h]
  rfl

/-- A rewritten entry comes from one that was there. -/
theorem modify_eq_some (h : modify f i u j = some b) :
    ∃ a, f j = some a ∧ b = if j = i then u a else a := by
  rw [modify] at h
  split at h
  · next hj =>
    obtain ⟨a, ha, rfl⟩ := Option.map_eq_some_iff.mp h
    exact ⟨a, ha, (if_pos hj).symm⟩
  · next hj => exact ⟨b, h, (if_neg hj).symm⟩

/-- An entry that was there is rewritten or kept. -/
theorem modify_of_eq_some (h : f j = some a) :
    modify f i u j = some (if j = i then u a else a) := by
  rw [modify, h]
  split <;> rfl

/-- Add an entry under a key. -/
def enter (f : ℕ → Option α) (i : ℕ) (a : α) : ℕ → Option α := fun j => if j = i then some a else f j

/-- The entry that is made is found. -/
theorem enter_self : enter f i a i = some a := if_pos rfl

/-- What is found is the entry that has been made, or an older one. -/
theorem enter_eq_some (h : enter f i a j = some b) : j = i ∧ b = a ∨ f j = some b := by
  rw [enter] at h
  split at h
  · next hj => exact .inl ⟨hj, (Option.some.inj h).symm⟩
  · exact .inr h

/-- What was there under other keys stays. -/
theorem enter_of_eq_some (hi : f i = none) (h : f j = some b) : enter f i a j = some b := by
  rw [enter, if_neg, h]
  rintro rfl
  rw [hi] at h
  cases h

end Entries

end Books

/-! ## What has to agree -/

/-- Which statuses of an order go with the status of its group. -/
def Agree : PaymentStatus → OrderStatus → Prop
  | .pending, s | .processing, s => s = .orderReceived
  | .failed, s => s = .cancelled
  | .paid, s => s ≠ .orderReceived
  | .refunded, _ | .partiallyRefunded, _ => False

/-- The orders of a group that is neither paid nor released are received. -/
theorem Agree.received {s : PaymentStatus} {o : OrderStatus} (h : Agree s o) (hpaid : s ≠ .paid)
    (hfailed : s ≠ .failed) : o = .orderReceived := by
  cases s <;> first | exact h | exact absurd rfl ‹_› | exact h.elim

/-- The group of an order that is under way is paid. -/
theorem Agree.paid {s : PaymentStatus} {o : OrderStatus} (h : Agree s o)
    (hreceived : o ≠ .orderReceived) (hcancelled : o ≠ .cancelled) : s = .paid := by
  cases s <;> first | rfl | exact absurd h hreceived | exact absurd h hcancelled | exact h.elim

/-- The books agree with each other. -/
structure Consistent (B : Books) : Prop where
  agree : ∀ i g, B.group i = some g → ∀ a ∈ g.allocations,
    Agree (B.groupStatus i) (B.orderStatus a.orderId)
  paid_linked : ∀ i g, B.group i = some g → B.groupStatus i = .paid → g.paymentId.isSome
  placed : ∀ i g, B.group i = some g → ∀ a ∈ g.allocations, (B.order a.orderId).isSome
  carried : ∀ k n, B.order k = some n → ∃ i g, B.group i = some g ∧ k ∈ g.orders
  carrier_unique : ∀ i g j h, B.group i = some g → B.group j = some h →
    ∀ k ∈ g.orders, k ∈ h.orders → i = j
  balanced : ∀ i g, B.group i = some g → g.orders.Nodup ∧ (∀ a ∈ g.allocations, 0 ≤ a.amount) ∧
    (g.allocations.map (·.amount)).sum = g.totalAmount
  linked : ∀ i g p, B.group i = some g → g.paymentId = some p → ∃ q, B.payment p = some q ∧
    q.amount = g.totalAmount ∧ q.special = false ∧
      (q.provider = .paystack → ∃ s, q.reference = some ("PUR-" ++ s))
  payer_unique : ∀ i g j h p, B.group i = some g → B.group j = some h → g.paymentId = some p →
    h.paymentId = some p → i = j
  klump_linked : ∀ k t, B.klump k = some t →
    ∃ g, B.group t.groupId = some g ∧ g.paymentId = some t.paymentId
  klump_started : ∀ i g p q, B.group i = some g → g.paymentId = some p → B.payment p = some q →
    q.provider = .klump → ∃ k t, B.klump k = some t ∧ t.groupId = i
  refund_owed : ∀ k r, B.refund k = some r → ∃ i g, B.group i = some g ∧
    g.paymentId = some r.paymentId ∧ ⟨r.orderId, r.amount⟩ ∈ g.allocations
  refund_unique : ∀ k r l s, B.refund k = some r → B.refund l = some s → r.orderId = s.orderId →
    k = l

/-- A group without a payment has not been paid. -/
theorem Consistent.unpaid {B : Books} (h : Consistent B) {i : ℕ} {g : GroupTerms}
    (hg : B.group i = some g) (hnone : g.paymentId = none) : B.groupStatus i ≠ .paid := by
  intro hpaid
  have hlinked := h.paid_linked i g hg hpaid
  rw [hnone] at hlinked
  cases hlinked

/-- The terms of a group in later books: it asks for the same, and is not linked again. -/
structure GroupTerms.Later (g g' : GroupTerms) : Prop where
  totalAmount : g'.totalAmount = g.totalAmount
  allocations : g'.allocations = g.allocations
  paymentId : ∀ p, g.paymentId = some p → g'.paymentId = some p

/-- Later books: entries stay, payment and release of a group are final, and no group is linked to
a payment that was there before. -/
structure Books.Later (B B' : Books) : Prop where
  order : ∀ i n, B.order i = some n → B'.order i = some n
  group : ∀ i g, B.group i = some g → ∃ g', B'.group i = some g' ∧ g.Later g'
  paid : ∀ i g, B.group i = some g → B.groupStatus i = .paid → B'.groupStatus i = .paid
  failed : ∀ i g, B.group i = some g → B.groupStatus i = .failed → B'.groupStatus i = .failed
  payment : ∀ i q, B.payment i = some q → ∃ q', B'.payment i = some q' ∧ q'.amount = q.amount ∧
    q'.provider = q.provider ∧ q'.reference = q.reference
  refund : ∀ i r, B.refund i = some r → B'.refund i = some r
  klump : ∀ i k, B.klump i = some k → B'.klump i = some k
  settled : ∀ n, B.settled n → B'.settled n
  links : ∀ i g' p, B'.group i = some g' → g'.paymentId = some p → (B.payment p).isSome →
    ∃ g, B.group i = some g ∧ g.paymentId = some p

/-- A group is a later form of itself. -/
theorem GroupTerms.Later.refl (g : GroupTerms) : g.Later g := ⟨rfl, rfl, fun _ => id⟩

/-- Later forms of a group compose. -/
theorem GroupTerms.Later.trans {g g' g'' : GroupTerms} (h : g.Later g') (h' : g'.Later g'') :
    g.Later g'' where
  totalAmount := h'.totalAmount.trans h.totalAmount
  allocations := h'.allocations.trans h.allocations
  paymentId p hp := h'.paymentId p (h.paymentId p hp)

namespace Books.Later

/-- Books are later ones of themselves. -/
theorem refl (B : Books) : B.Later B where
  order _ _ := id
  group _ g hg := ⟨g, hg, .refl g⟩
  paid _ _ _ := id
  failed _ _ _ := id
  payment _ q hq := ⟨q, hq, rfl, rfl, rfl⟩
  refund _ _ := id
  klump _ _ := id
  settled _ := id
  links _ g _ hg hp _ := ⟨g, hg, hp⟩

/-- Later books compose. -/
theorem trans {B B' B'' : Books} (h : B.Later B') (h' : B'.Later B'') : B.Later B'' where
  order i n hn := h'.order i n (h.order i n hn)
  group i g hg := by
    obtain ⟨g₁, hg₁, hl₁⟩ := h.group i g hg
    obtain ⟨g₂, hg₂, hl₂⟩ := h'.group i g₁ hg₁
    exact ⟨g₂, hg₂, hl₁.trans hl₂⟩
  paid i g hg hs := by
    obtain ⟨g₁, hg₁, -⟩ := h.group i g hg
    exact h'.paid i g₁ hg₁ (h.paid i g hg hs)
  failed i g hg hs := by
    obtain ⟨g₁, hg₁, -⟩ := h.group i g hg
    exact h'.failed i g₁ hg₁ (h.failed i g hg hs)
  payment i q hq := by
    obtain ⟨q₁, hq₁, ha₁, hp₁, hr₁⟩ := h.payment i q hq
    obtain ⟨q₂, hq₂, ha₂, hp₂, hr₂⟩ := h'.payment i q₁ hq₁
    exact ⟨q₂, hq₂, ha₂.trans ha₁, hp₂.trans hp₁, hr₂.trans hr₁⟩
  refund i r hr := h'.refund i r (h.refund i r hr)
  klump i k hk := h'.klump i k (h.klump i k hk)
  settled n hn := h'.settled n (h.settled n hn)
  links i g'' p hg'' hp hold := by
    obtain ⟨q, hq⟩ := Option.isSome_iff_exists.mp hold
    obtain ⟨q', hq', -⟩ := h.payment p q hq
    obtain ⟨g', hg', hp'⟩ := h'.links i g'' p hg'' hp (by rw [hq']; rfl)
    exact h.links i g' p hg' hp' hold

end Books.Later

end Superstore

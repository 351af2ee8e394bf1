import Superstore.Checkout.RequestJson
import Superstore.Properties.PaymentStart
import Superstore.Relational.Keys

/-!
# One active checkout

A group holds the cart that it was made from exactly as long as it waits for its payment, and no two
groups hold one cart. So a customer who repeats a checkout that waits finds it again, and nothing is
reserved or ordered twice. Carts are made by the first checkout or by other code, one for each customer.
-/

namespace Superstore

open Interleaving Relational Relational.Tx

/-- A group that waits for its payment. -/
def PaymentStatus.Waits (s : PaymentStatus) : Prop := s = .pending ∨ s = .processing

/-- Whether a payment waits can be decided. -/
instance (s : PaymentStatus) : Decidable s.Waits := inferInstanceAs (Decidable (_ ∨ _))

/-- A group holds a cart exactly as long as it waits for its payment; groups are not refunded. -/
structure CheckoutPaymentGroup.HoldsCart (g : CheckoutPaymentGroup) : Prop where
  active : g.activeCartId.isSome ↔ g.status.Waits
  unrefunded : ¬g.status.Refunded

/-- A change of a group: it stays that of its customer and of its input, takes no cart, and still holds one only
as long as it waits. -/
structure CheckoutPaymentGroup.Follows (g g' : CheckoutPaymentGroup) : Prop where
  userId : g'.userId = g.userId
  input : g'.checkoutInput = g.checkoutInput
  cart : Table.KeepsKey (·.activeCartId) g g'
  holds : g.HoldsCart → g'.HoldsCart

/-- Following on from a group is reflexive and transitive. -/
instance : IsPreorder CheckoutPaymentGroup CheckoutPaymentGroup.Follows where
  refl g := ⟨rfl, rfl, refl_of _ g, id⟩
  trans _ _ _ h h' := ⟨h'.userId.trans h.userId, h'.input.trans h.input, trans_of _ h.cart h'.cart,
    h'.holds ∘ h.holds⟩

/-- A cart that stays with its customer. -/
def Cart.SameOwner (c c' : Cart) : Prop := c'.userId = c.userId

/-- Belonging to the same owner is reflexive and transitive. -/
instance : IsPreorder Cart Cart.SameOwner where
  refl _ := rfl
  trans _ _ _ h h' := Eq.trans h' h

/-- Each cart has a customer of its own. -/
abbrev OwnCarts (db : Database) : Prop := (db .cart).Distinct fun c => some c.userId

/-- Carts stay with their customers. -/
structure CartsKept (db db' : Database) : Prop where
  kept : (db .cart).Evolves Cart.SameOwner (db' .cart)
  own : OwnCarts db → OwnCarts db'

/-- Carts that stay are kept. -/
theorem CartsKept.of_eq {db db' : Database} (h : db' .cart = db .cart) : CartsKept db db' :=
  ⟨.of_eq h, fun hown => by rwa [OwnCarts, h]⟩

/-- No group is entered, and the groups and carts that there were change as above. -/
structure CheckoutsFollow (db db' : Database) : Prop where
  groups : (db .checkoutPaymentGroup).Grows (fun _ => False) CheckoutPaymentGroup.Follows
    (db' .checkoutPaymentGroup)
  carts : CartsKept db db'

/-- Following on with checkouts is reflexive and transitive. -/
instance : IsPreorder Database CheckoutsFollow where
  refl _ := ⟨.refl _, .of_eq rfl⟩
  trans _ _ _ h h' := ⟨h.groups.trans h'.groups, h.carts.kept.trans h'.carts.kept, h'.carts.own ∘ h.carts.own⟩

/-- Groups hold carts as long as they wait, no two of them the same one, and each the cart of its customer. -/
structure OneActive (db : Database) : Prop where
  holds : ∀ i g, (db .checkoutPaymentGroup).find i = some g → g.HoldsCart
  distinct : (db .checkoutPaymentGroup).Distinct (·.activeCartId)
  owned : ∀ i g c, (db .checkoutPaymentGroup).find i = some g → g.activeCartId = some c →
    g.checkoutInput.cartId.all (· == c) ∧ ∃ cart, (db .cart).find c = some cart ∧ cart.userId = g.userId
  own : OwnCarts db

/-! ## What is kept -/

/-- Checkouts that follow on leave at most one of a customer's active. -/
theorem OneActive.follows {db db' : Database} (h : OneActive db) (hf : CheckoutsFollow db db') : OneActive db' where
  holds i g hg := by
    obtain ⟨g₀, hg₀, hchange⟩ := hf.groups.back hg
    exact hchange.holds (h.holds i g₀ hg₀)
  distinct := h.distinct.grows hf.groups fun _ _ hchange => hchange.cart
  owned i g c hg hc := by
    obtain ⟨g₀, hg₀, hchange⟩ := hf.groups.back hg
    obtain ⟨hinput, cart, hcart, howner⟩ := h.owned i g₀ c hg₀ (hchange.cart c hc)
    obtain ⟨cart', hcart', hsame⟩ := hf.carts.kept c cart hcart
    rw [hchange.input, hchange.userId]
    exact ⟨hinput, cart', hcart', hsame.trans howner⟩
  own := hf.carts.own h.own

/-- A new group holds the cart of its customer, which no other group holds. -/
theorem OneActive.enter {db : Database} (h : OneActive db) {g : CheckoutPaymentGroup} {c : ℕ} {cart : Cart}
    (hactive : g.activeCartId = some c) (hpending : g.status = .pending)
    (hinput : g.checkoutInput.cartId.all (· == c))
    (hcart : (db .cart).find c = some cart) (howner : cart.userId = g.userId)
    (hfree : (db .checkoutPaymentGroup).first (fun _ g => g.activeCartId == some c) = none) :
    OneActive (db.set .checkoutPaymentGroup ((db .checkoutPaymentGroup).create g)) := by
  have hcarts : (db.set .checkoutPaymentGroup ((db .checkoutPaymentGroup).create g)) .cart = db .cart :=
    Database.set_of_ne _ _ (by decide)
  have hrow {i : ℕ} {b : CheckoutPaymentGroup} (hb : ((db.set .checkoutPaymentGroup
      ((db .checkoutPaymentGroup).create g)) .checkoutPaymentGroup).find i = some b) :
      b = g ∨ (db .checkoutPaymentGroup).find i = some b := by
    rw [Database.set_self, Table.find_create] at hb
    split at hb
    · exact .inl (Option.some.inj hb).symm
    · exact .inr hb
  constructor
  · intro i b hb
    rcases hrow hb with rfl | hold
    · have hwaits : b.status.Waits := .inl hpending
      refine ⟨⟨fun _ => hwaits, fun _ => by rw [hactive]; rfl⟩, ?_⟩
      rw [hpending]
      decide
    · exact h.holds i b hold
  · rw [Database.set_self]
    apply h.distinct.create
    intro i b k hb hk hbk
    have hother := Table.first_eq_none.mp hfree i b hb
    rw [hactive] at hk
    rw [hbk, ← hk, beq_self_eq_true] at hother
    cases hother
  · intro i b k hb hk
    rw [hcarts]
    rcases hrow hb with rfl | hold
    · obtain rfl := Option.some.inj (hactive.symm.trans hk)
      exact ⟨hinput, cart, hcart, howner⟩
    · exact h.owned i b k hold hk
  · rw [OwnCarts, hcarts]
    exact h.own

/-- A transaction that writes neither groups nor carts. -/
theorem follows_of_writes {α : Type} {ns : List TableName} {m : Tx α} (h : Writes ns m)
    (hgroup : .checkoutPaymentGroup ∉ ns) (hcart : .cart ∉ ns) : Within CheckoutsFollow m :=
  .of_writes h fun _ _ hsame => ⟨.of_eq (hsame _ hgroup), .of_eq (hsame _ hcart)⟩

/-- A change of a group, when carts are not written. -/
theorem follows_update {db : Database} {i : ℕ} {f : CheckoutPaymentGroup → CheckoutPaymentGroup}
    (h : ∀ g, (db .checkoutPaymentGroup).find i = some g → g.Follows (f g)) :
    wp db (update .checkoutPaymentGroup i f) fun _ db' => CheckoutsFollow db db' := by
  rw [wp_update]
  intro _ _
  refine ⟨?_, .of_eq (Database.set_of_ne _ _ (by decide))⟩
  rw [Database.set_self]
  exact .update h

/-- A change of a group that gives its cart up. -/
theorem CheckoutPaymentGroup.Follows.release {g : CheckoutPaymentGroup} {s : PaymentStatus} (hwaits : ¬s.Waits)
    (hrefunded : ¬s.Refunded) : g.Follows { g with status := s, activeCartId := none } where
  userId := rfl
  input := rfl
  cart _ hc := by cases hc
  holds _ := ⟨⟨fun h => absurd h Bool.false_ne_true, fun h => absurd h hwaits⟩, hrefunded⟩

/-- A group that waits may be linked to a payment that is being started. -/
theorem CheckoutPaymentGroup.Follows.start {g : CheckoutPaymentGroup} (p : ℕ) (hpaid : g.status ≠ .paid)
    (hfailed : g.status ≠ .failed) : g.Follows { g with paymentId := some p, status := .processing } where
  userId := rfl
  input := rfl
  cart _ := id
  holds h := by
    have hwaits : g.status.Waits := by
      cases hs : g.status with
      | pending => exact .inl rfl
      | processing => exact .inr rfl
      | paid => exact absurd hs hpaid
      | failed => exact absurd hs hfailed
      | refunded => exact absurd (.inl hs) h.unrefunded
      | partiallyRefunded => exact absurd (.inr hs) h.unrefunded
    have hrefunded : ¬PaymentStatus.Refunded .processing := by decide
    exact ⟨⟨fun _ => .inr rfl, fun _ => h.active.mpr hwaits⟩, hrefunded⟩

/-- What follows keeps groups and carts together. -/
theorem keeps_of_follows {α : Type} {m : Tx α} (h : Within CheckoutsFollow m) : Within (Keeps OneActive) m :=
  fun db => wp_mono (h db) fun _ _ hf hactive => hactive.follows hf

namespace Cart

/-- The locked cart is that of its customer. -/
theorem lock_cart (userId : ℕ) (db : Database) :
    wp db (lock userId) fun cart db' => (db' .cart).find cart.1 = some cart.2 ∧ cart.2.userId = userId := by
  rw [lock, wp_firstOrCreate]
  constructor
  · intro cart hcart
    obtain ⟨hfind, howner⟩ := Table.find_of_first hcart
    exact ⟨hfind, beq_iff_eq.mp howner⟩
  · intro _
    rw [Database.set_self]
    exact ⟨Table.find_create_self _ _, rfl⟩

/-- Locking the cart of a customer leaves the checkouts as they are. -/
theorem lock_follows (userId : ℕ) : Within CheckoutsFollow (lock userId) := by
  intro db
  rw [lock, wp_firstOrCreate]
  refine ⟨fun _ _ => refl_of _ db, fun hnone => ⟨.of_eq (Database.set_of_ne _ _ (by decide)), ?_⟩⟩
  constructor
  · rw [Database.set_self]
    exact .create _ _
  · intro hown
    rw [OwnCarts, Database.set_self]
    apply hown.create
    intro i c u hc hu huser
    have howner : c.userId = userId := Option.some.inj (huser.trans hu.symm)
    have hother := Table.first_eq_none.mp hnone i c hc
    rw [howner, beq_self_eq_true] at hother
    cases hother

/-- Adding up a cart leaves the checkouts as they are. -/
theorem recalculate_follows (cartId : ℕ) : Within CheckoutsFollow (recalculate cartId) := by
  refine .bind (.of_reads (.many _ _)) fun items db => ?_
  rw [wp_update]
  intro _ _
  refine ⟨.of_eq (Database.set_of_ne _ _ (by decide)), ?_⟩
  have hgrows : (db .cart).Grows (fun _ => False) SameOwner ((db .cart).update cartId fun cart =>
      { cart with subtotal := lineTotal items, totalItems := (items.map fun item => item.2.quantity).sum }) :=
    .update fun _ _ => rfl
  constructor
  · rw [Database.set_self]
    exact hgrows.kept
  · intro hown
    rw [OwnCarts, Database.set_self]
    exact hown.grows hgrows fun a b hsame c hc => (congrArg some (Eq.symm hsame)).trans hc

/-- Taking what was bought out of the cart leaves the checkouts as they are. -/
theorem consume_follows (userId now : ℕ) (snapshot : List CartSnapshotLine) :
    Within CheckoutsFollow (consume userId now snapshot) := by
  refine .bind (.of_reads (.first _ _)) fun active => ?_
  cases active with
  | none => exact .pure _
  | some cart =>
    refine .bind (.forM fun line _ => follows_of_writes (removeLine_writes cart.1 line) (by decide) (by decide))
      fun _ => .bind (recalculate_follows cart.1) fun _ => ?_
    exact .bind (follows_of_writes (redeemVoucher_writes _ _ _) (by decide) (by decide)) fun _ =>
      follows_of_writes (redeemCoupon_writes _) (by decide) (by decide)

end Cart

namespace Payments

/-- Completing a group makes its checkout inactive at most. -/
theorem completeGroup_follows (e : Env) (id : ℕ) : Within CheckoutsFollow (completeGroup e id) := by
  refine .bind (.of_reads (.findOrThrow _ _)) fun group => .when (.bind (.of_reads (.require _ _)) fun _ => ?_)
  refine .bind (.forM fun a _ => follows_of_writes (confirmOrder_writes e _ a) (by decide) (by decide)) fun _ => ?_
  refine .bind (Cart.consume_follows _ _ _) fun _ db => ?_
  exact follows_update fun g _ => .release (s := .paid) (by decide) (by decide)

/-- Failing a group makes its checkout inactive at most. -/
theorem failGroup_follows (e : Env) (id : ℕ) : Within CheckoutsFollow (failGroup e id) := by
  refine .bind (.of_reads (.findOrThrow _ _)) fun group => .when (.bind (.of_reads (.require _ _)) fun _ => ?_)
  refine .bind (.forM fun a _ => follows_of_writes (releaseOrder_writes e a) (by decide) (by decide)) fun _ db => ?_
  exact follows_update fun g _ => .release (s := .failed) (by decide) (by decide)

/-- Finishing a payment makes checkouts inactive at most. -/
theorem finalizePayment_follows (e : Env) (p : ℕ) (groups : List (ℕ × ℕ)) (success : Bool) :
    Within CheckoutsFollow (finalizePayment e p groups success) := by
  have hpayment (f : Payment → Payment) : Within CheckoutsFollow (update .payment p f) :=
    follows_of_writes (.update (List.mem_singleton_self TableName.payment) _ _) (by decide) (by decide)
  refine .bind (.forM fun g _ => .bind (Cart.lock_follows g.2) fun _ => .pure _) fun _ => ?_
  refine .bind (.of_reads (.findOrThrow _ _)) fun current => ?_
  split
  · exact .pure _
  · split
    · split
      · exact follows_of_writes (acceptLatePayment_writes e p) (by decide) (by decide)
      · exact .pure _
    · split
      · exact .bind (hpayment _) fun _ => .bind (.forM fun g _ => completeGroup_follows e g.1) fun _ => .pure _
      · exact .bind (hpayment _) fun _ => .bind (.forM fun g _ => failGroup_follows e g.1) fun _ => .pure _

/-- Completing groups that were left over makes checkouts inactive at most. -/
theorem completeIncomplete_follows (e : Env) (groups : List (ℕ × ℕ)) :
    Within CheckoutsFollow (completeIncomplete e groups) :=
  .forM fun g _ => .bind (Cart.lock_follows g.2) fun _ => completeGroup_follows e g.1

/-- Cancelling a group makes its checkout inactive at most. -/
theorem cancelGroup_follows (e : Env) (userId id : ℕ) : Within CheckoutsFollow (cancelGroup e userId id) := by
  refine .bind (Cart.lock_follows userId) fun _ => .bind (.of_reads (.find _ _)) fun _ => ?_
  refine .bind (.of_reads (.orThrow _ _)) fun group => .bind (.of_reads (.query _)) fun _ => ?_
  refine .bind (.of_reads (.require _ _)) fun _ => .when (.bind ?_ fun _ => failGroup_follows e id)
  exact follows_of_writes (failPayment_writes group.paymentId) (by decide) (by decide)

/-- A payment is started for a group that has none, and so has not been paid. -/
theorem claimInitialization_follows (e : Env) (userId groupId : ℕ) {db : Database} (hB : Consistent (books db)) :
    wp db (claimInitialization e userId groupId) fun _ db' => CheckoutsFollow db db' := by
  rw [claimInitialization, wp_bind, wp_find, wp_bind, wp_orThrow]
  intro group hgroup
  obtain ⟨hfind, -⟩ := Option.filter_eq_some_iff.mp hgroup
  rw [wp_bind, wp_require]
  intro hfailed
  cases hlinked : group.paymentId with
  | some p =>
    have hexisting : Writes [.payment] (claimExisting e p) := by
      refine .bind (.findOrThrow _ _) fun payment => ?_
      split
      · exact .pure _
      · exact .bind (.update (by decide) _ _) fun _ => .bind (.findOrThrow _ _) fun _ => .pure _
    exact follows_of_writes hexisting (by decide) (by decide) db
  | none =>
    have hpaid : group.status ≠ .paid := by
      obtain ⟨hbooks, hstatus⟩ := books_group hfind
      rw [← hstatus]
      exact hB.unpaid hbooks hlinked
    dsimp only
    rw [claimNew, wp_bind, wp_require]
    intro _
    rw [wp_bind, wp_createUnique]
    intro _
    have hupdate (r : Payment) (p : ℕ) : wp (db.set .payment ((db .payment).create r)) (update .checkoutPaymentGroup
        groupId fun g => { g with paymentId := some p, status := .processing }) fun _ db' =>
          CheckoutsFollow db db' := by
      have hentered : CheckoutsFollow db (db.set .payment ((db .payment).create r)) :=
        ⟨.of_eq (Database.set_of_ne _ _ (by decide)), .of_eq (Database.set_of_ne _ _ (by decide))⟩
      refine wp_mono (follows_update fun g hg => ?_) fun _ _ h => trans_of CheckoutsFollow hentered h
      rw [Database.set_of_ne _ _ (by decide), hfind] at hg
      obtain rfl := Option.some.inj hg
      exact .start p hpaid hfailed
    rw [wp_bind]
    exact wp_mono (hupdate _ _) fun _ _ h => (wp_pure _ _ _).mpr h

end Payments

namespace Klump

/-- A Klump transaction is started for a group that has no payment, and so has not been paid. -/
theorem startTransaction_follows (e : Env) (userId groupId : ℕ) {db : Database} (hB : Consistent (books db)) :
    wp db (startTransaction e userId groupId) fun _ db' => CheckoutsFollow db db' := by
  rw [startTransaction, wp_bind, wp_find, wp_bind, wp_orThrow]
  intro group hgroup
  obtain ⟨hfind, -⟩ := Option.filter_eq_some_iff.mp hgroup
  obtain ⟨hbooks, hstatus⟩ := books_group hfind
  rw [wp_bind, wp_require]
  intro _
  rw [wp_bind, wp_require]
  intro hfailed
  rw [wp_bind, wp_first]
  cases hexisting : (db .klumpTransaction).first fun _ k => k.paymentGroupId == groupId with
  | some existing => exact (wp_pure _ _ _).mpr (refl_of _ db)
  | none =>
    dsimp only
    rw [wp_bind, wp_query, wp_bind, wp_require]
    intro hklump
    rw [wp_bind, wp_query, wp_bind, wp_ofExcept]
    intro _ _
    -- A group that is linked to a Klump payment has a transaction, so this one has no payment.
    have hlinked : group.paymentId = none := by
      cases hlinked : group.paymentId with
      | none => rfl
      | some p =>
        obtain ⟨q, hq, -⟩ := hB.linked _ _ p hbooks hlinked
        obtain ⟨r, hr, rfl⟩ := Option.map_eq_some_iff.mp hq
        rw [hlinked, Option.bind_some, hr, Option.all_some, beq_iff_eq] at hklump
        obtain ⟨k, t, ht, hgroup⟩ := hB.klump_started _ _ p _ hbooks hlinked hq hklump
        obtain ⟨t', ht', rfl⟩ := Option.map_eq_some_iff.mp ht
        have hnone := Table.first_eq_none.mp hexisting k t' ht'
        rw [show t'.paymentGroupId = groupId from hgroup, beq_self_eq_true] at hnone
        cases hnone
    have hpaid : group.status ≠ .paid := by
      rw [← hstatus]
      exact hB.unpaid hbooks hlinked
    have hpayment (reference : String) : Writes [.payment] (paymentOf e userId group reference) := by
      unfold paymentOf
      split
      · exact .pure _
      · exact .createUnique (by decide) _ _
    rw [wp_bind]
    refine wp_mono (hpayment _ db) fun p db₁ hsame => ?_
    have hupdate : wp db₁ (update .checkoutPaymentGroup groupId fun g =>
        { g with paymentId := some p, status := .processing }) fun _ db' => CheckoutsFollow db db' := by
      have hentered : CheckoutsFollow db db₁ := ⟨.of_eq (hsame _ (by decide)), .of_eq (hsame _ (by decide))⟩
      refine wp_mono (follows_update fun g hg => ?_) fun _ _ h => trans_of CheckoutsFollow hentered h
      rw [hsame _ (by decide), hfind] at hg
      obtain rfl := Option.some.inj hg
      exact .start p hpaid hfailed
    rw [wp_bind]
    refine wp_mono hupdate fun _ db₂ h₂ =>
      Within.from h₂ (.bind (.of_reads (.ofExcept _)) fun _ => .bind ?_ fun _ => .pure _)
    exact follows_of_writes (.createUnique (List.mem_singleton_self TableName.klumpTransaction) _ _)
      (by decide) (by decide)

/-- The end of a Klump transaction completes its group. -/
theorem completeTransaction_follows (e : Env) (id : ℕ) (transaction : KlumpTransaction) (reference : String) :
    Within CheckoutsFollow (completeTransaction e id transaction reference) := by
  refine .bind (.of_reads (.findOrThrow _ _)) fun _ => .bind (.of_reads (.require _ _)) fun _ => ?_
  refine .bind (.when (.bind ?_ fun _ => Payments.completeGroup_follows e _)) fun _ => ?_
  · exact follows_of_writes (.update (List.mem_singleton_self TableName.payment) _ _) (by decide) (by decide)
  · exact follows_of_writes (.update (List.mem_singleton_self TableName.klumpTransaction) _ _)
      (by decide) (by decide)

end Klump

namespace Checkout

/-- Paying at once makes the new checkout inactive at most. -/
theorem payAtOnce_follows (e : Env) (userId groupId : ℕ) (q : Quote) (method : PaymentMethod)
    (credit : Option Credit) : Within CheckoutsFollow (payAtOnce e userId groupId q method credit) := by
  refine .bind (.when (follows_of_writes (debitWallet_writes _ _ _) (by decide) (by decide))) fun _ => ?_
  refine .bind (follows_of_writes (.createUnique (List.mem_singleton_self TableName.payment) _ _)
    (by decide) (by decide))
    fun p => ?_
  refine .bind (fun db => follows_update fun g _ => ?_) fun _ => Payments.completeGroup_follows e groupId
  exact ⟨rfl, rfl, fun _ => id, fun h => ⟨h.active, h.unrefunded⟩⟩

/-- The row of a new group. -/
theorem newGroup_eq {userId cartId : ℕ} {input : CreateCheckoutDto} {q : Quote} {method : PaymentMethod}
    {allocations : List Allocation} {g : CheckoutPaymentGroup}
    (h : newGroup userId cartId input q method allocations = .ok g) :
    g.userId = userId ∧ g.activeCartId = some cartId ∧ g.checkoutInput = input ∧ g.status = .pending := by
  unfold newGroup at h
  split at h
  · obtain rfl := Except.ok.inj h
    exact ⟨rfl, rfl, rfl, rfl⟩
  · cases h

/-- A checkout is placed as the only active one of its cart. -/
theorem placeCheckout_active (e : Env) {userId cartId : ℕ} {input : CreateCheckoutDto} (q : Quote)
    (credit : Option Credit)
    {db : Database} (h : OneActive db) {cart : Cart} (hcart : (db .cart).find cartId = some cart)
    (howner : cart.userId = userId) (hinput : input.cartId.all (· == cartId)) :
    wp db (placeCheckout e userId cartId input q credit) fun _ db' => OneActive db' := by
  have hplaced : Within CheckoutsFollow (q.orders.zipIdx.mapM (placeOrder e userId q)) :=
    .mapM fun order _ => follows_of_writes (placeOrder_writes e userId q order) (by decide) (by decide)
  rw [placeCheckout, wp_bind]
  refine wp_mono (hplaced db) fun allocations db₁ hfollows => ?_
  have h₁ := h.follows hfollows
  obtain ⟨cart₁, hcart₁, hsame⟩ := hfollows.carts.kept cartId cart hcart
  rw [wp_bind, wp_ofExcept]
  intro group hgroup
  obtain ⟨huser, hactive, hchecked, hpending⟩ := newGroup_eq hgroup
  rw [wp_bind, wp_createUnique]
  intro hfree
  have h₂ := h₁.enter hactive hpending (hchecked ▸ hinput) hcart₁ ((hsame.trans howner).trans huser.symm) hfree
  have hpaid : Within CheckoutsFollow
      (when ((credit.bind (·.method)).getD (methodOf input.paymentMethod) = .wallet ∨ credit.isSome)
        (payAtOnce e userId (db₁ .checkoutPaymentGroup).next q
          ((credit.bind (·.method)).getD (methodOf input.paymentMethod)) credit)) :=
    .when (payAtOnce_follows _ _ _ _ _ _)
  rw [wp_bind]
  exact wp_mono (hpaid _) fun _ db' hf => (wp_pure _ _ _).mpr (h₂.follows hf)

/-- Asking for a checkout leaves one active at most. -/
theorem createInTransaction_active (e : Env) (userId : ℕ) (input : CreateCheckoutDto) (credit : Option Credit)
    {db : Database} (h : OneActive db) : wp db (createInTransaction e userId input credit) fun _ db' =>
      OneActive db' := by
  rw [createInTransaction, wp_bind]
  refine wp_mono (wp_and (Cart.lock_follows userId db) (Cart.lock_cart userId db)) fun cart db₁ hlocked => ?_
  obtain ⟨hfollows, hcart, howner⟩ := hlocked
  have h₁ := h.follows hfollows
  rw [wp_bind, wp_require]
  intro hinput
  rw [wp_bind, wp_first]
  cases (db₁ .checkoutPaymentGroup).first fun _ g => g.activeCartId == some cart.1 with
  | some pending => exact (wp_bind _ _ _ _).mpr ((wp_require _ _ _ _).mpr fun _ => (wp_pure _ _ _).mpr h₁)
  | none =>
    refine (wp_bind _ _ _ _).mpr ((wp_query _ _ _).mpr ?_)
    refine (wp_bind _ _ _ _).mpr ((wp_ofExcept _ _ _).mpr fun q _ => ?_)
    refine (wp_bind _ _ _ _).mpr ((wp_require _ _ _ _).mpr fun _ => ?_)
    refine (wp_bind _ _ _ _).mpr
      (wp_mono (placeCheckout_active e q credit h₁ hcart howner hinput) fun id db₂ h₂ => ?_)
    exact (wp_bind _ _ _ _).mpr ((wp_findOrThrow _ _ _ _).mpr fun _ _ => (wp_pure _ _ _).mpr h₂)

/-- Confirmed financing keeps groups and carts together as its checkout does. -/
theorem confirm_active (e : Env) (userId id : ℕ) : Within (Keeps OneActive) (confirm e userId id) := by
  have hcreated (input : CreateCheckoutDto) (credit : Option Credit) :
      Within (Keeps OneActive) (createInTransaction e userId input credit) :=
    fun _ => wp_keeps fun h => createInTransaction_active e userId input credit h
  refine .bind (.of_reads (.find _ _)) fun _ => .bind (.of_reads (.orThrow _ _)) fun app => ?_
  split
  · exact .pure _
  · refine .bind (.of_reads (.require _ _)) fun _ => .bind (.of_reads (.findOrThrow _ _)) fun _ => ?_
    refine .bind (.of_reads (.require _ _)) fun _ => .bind (hcreated _ _) fun _ => ?_
    refine .bind (keeps_of_follows (follows_of_writes
      (.update (List.mem_singleton_self TableName.bnplApplication) _ _) (by decide) (by decide))) fun _ => ?_
    exact .bind (keeps_of_follows (follows_of_writes (createInstallments_writes _ _) (by decide) (by decide)))
      fun _ => .pure _

/-- A checkout that waits is found again by a request with the same input, and nothing is changed. -/
theorem createInTransaction_again (e : Env) {db : Database} (h : OneActive db) {i : ℕ} {g : CheckoutPaymentGroup}
    (hg : (db .checkoutPaymentGroup).find i = some g) (hwaits : g.status.Waits) :
    createInTransaction e g.userId g.checkoutInput none db = .ok ((i, g), db) := by
  obtain ⟨c, hc⟩ := Option.isSome_iff_exists.mp ((h.holds i g hg).active.mpr hwaits)
  obtain ⟨hinput, cart, hcart, howner⟩ := h.owned i g c hg hc
  have hlocked : (db .cart).first (fun _ cart => cart.userId == g.userId) = some (c, cart) := by
    have hfirst := h.own.first hcart (c := cart.userId) rfl
    rw [howner] at hfirst
    exact hfirst
  have hlock : Cart.lock g.userId db = .ok ((c, cart), db) := by
    simp only [Cart.lock, firstOrCreate, Relational.Tx.firstOrCreate, hlocked]
  have hreturns : Returns db (createInTransaction e g.userId g.checkoutInput none) fun r db' =>
    r = (i, g) ∧ db' = db := by
    refine (returns_bind _ _ _ _).mpr ((returns_of_ok hlock).mpr ?_)
    refine (returns_bind _ _ _ _).mpr ((returns_require _ _ _ _).mpr ⟨hinput, ?_⟩)
    refine (returns_bind _ _ _ _).mpr ((returns_first _ _ _ _).mpr ?_)
    rw [h.distinct.first hg hc]
    exact (returns_bind _ _ _ _).mpr
      ((returns_require _ _ _ _).mpr ⟨⟨rfl, rfl⟩, (returns_pure _ _ _).mpr ⟨rfl, rfl⟩⟩)
  obtain ⟨r, db', hrun, rfl, rfl⟩ := hreturns
  exact hrun

end Checkout

/-! ## All operations -/

/-- Every operation keeps groups and carts together. -/
theorem exec_active {α : Type} (op : Op α) (e : Env) {w : World} (hB : Consistent (books w.db))
    (h : OneActive w.db) :
    OneActive (op.exec e w).2.db := by
  by_cases hwrites : TableName.checkoutPaymentGroup ∈ op.writes ∨ TableName.cart ∈ op.writes
  swap
  · obtain ⟨hgroup, hcart⟩ := not_or.mp hwrites
    exact h.follows ⟨.of_eq (exec_frame op e w _ hgroup), .of_eq (exec_frame op e w _ hcart)⟩
  have hfollows {α : Type} {op : Op α} {m : Env → Tx α} (hop : op.transaction = some m)
      (hm : wp w.db (m e) fun _ db => CheckoutsFollow w.db db) : OneActive (op.exec e w).2.db :=
    exec_transaction hop (Φ := fun w' => OneActive w'.db) h (wp_mono hm fun _ _ => h.follows)
  have hkeeps {α : Type} {op : Op α} {m : Env → Tx α} (hop : op.transaction = some m)
      (hm : wp w.db (m e) fun _ db => OneActive db) : OneActive (op.exec e w).2.db :=
    exec_transaction hop (Φ := fun w' => OneActive w'.db) h hm
  cases op <;> dsimp only [Op.writes] at hwrites <;>
    first | exact absurd hwrites (by decide) | clear hwrites
  case createCheckout => exact hkeeps rfl (Checkout.createInTransaction_active e _ _ _ h)
  case confirmFinancing => exact hkeeps rfl (wp_mono (Checkout.confirm_active e _ _ w.db) fun _ _ hkept => hkept h)
  case claimInitialization => exact hfollows rfl (Payments.claimInitialization_follows e _ _ hB)
  case finalizePayment => exact hfollows rfl (Payments.finalizePayment_follows e _ _ _ w.db)
  case completeIncomplete => exact hfollows rfl (Payments.completeIncomplete_follows e _ w.db)
  case cancelGroup => exact hfollows rfl (Payments.cancelGroup_follows e _ _ w.db)
  case startKlump => exact hfollows rfl (Klump.startTransaction_follows e _ _ hB)
  case completeKlump => exact hfollows rfl (Klump.completeTransaction_follows e _ _ _ w.db)

/-! ## Runs -/

/-- The store, while other code keeps every cart with its customer. -/
def shopping : System Op Error World Env :=
  { store with background := fun w w' => OtherChange w w' ∧ CartsKept w.db w'.db }

/-- The contract of the books, with groups and carts kept together. -/
def activeBooks : Contract Op World Env where
  inv w := Consistent (books w.db) ∧ OneActive w.db
  guar w w' := (books w.db).Later (books w'.db)
  known op w := op.Legitimate False (books w.db)
  allowed _ _ _ := True
  refl := booksLater_refl
  trans := booksLater_trans

/-- Every operation keeps the books and the active checkouts. -/
theorem activeBooks_safe {α : Type} (op : Op α) : activeBooks.Safe machine op := by
  intro e w hinv hlegit _
  obtain ⟨hB, hactive⟩ := hinv
  obtain ⟨hB', hlater⟩ := bookkeeping_safe op e w hB hlegit fun h => h.elim
  exact ⟨⟨hB', exec_active op e hB hactive⟩, hlater⟩

/-- The requests of the store keep the books and the active checkouts. -/
theorem activeBooks_holds : activeBooks.Holds shopping where
  starts {p} hp w _ := by
    have hbooks : (bookkeeping False).Ready machine p w := hp.books
    exact hbooks.strengthen (fun _ h => h.1) (fun _ _ h => h) (fun _ _ _ _ h => h.elim) fun _ _ h => h
  performs op := activeBooks_safe op
  background {w w'} h hinv := by
    have hbooks : (bookkeeping False).Holds store := bookkeeping_holds
    obtain ⟨hB', hlater⟩ := hbooks.background h.1 hinv.1
    have hgroups : w'.db .checkoutPaymentGroup = w.db .checkoutPaymentGroup := h.1.owned _ (by decide)
    exact ⟨⟨hB', hinv.2.follows ⟨.of_eq hgroups, h.2⟩⟩, hlater⟩

/-- A store before its first checkout, with a cart of its own for each customer. -/
theorem Fresh.oneActive {w : World} (h : Fresh w) (hown : OwnCarts w.db) : OneActive w.db where
  holds i g hg := by
    rw [h .checkoutPaymentGroup (by decide) i] at hg
    cases hg
  distinct := .of_empty (h .checkoutPaymentGroup (by decide))
  owned i g c hg := by
    rw [h .checkoutPaymentGroup (by decide) i] at hg
    cases hg
  own := hown

/-- An operation that reserves no stock and creates no order. -/
def Op.ordersNothing {α : Type} (op : Op α) : Prop := TableName.storeProduct ∉ op.writes ∧
    TableName.order ∉ op.writes

/-- Operations of starting a payment order nothing. -/
theorem ordersNothing_of_start {α : Type} {p : Request α} (h : Uses startKinds p) :
    p.All fun _ op => op.ordersNothing := by
  refine Prog.All.imp h fun _ op hop => ?_
  cases op
  case updatePayment u => cases u <;> exact ⟨by simp [Op.writes], by simp [Op.writes]⟩
  all_goals first
    | (simp [Op.kind, startKinds] at hop; done)
    | exact ⟨by simp [Op.writes], by simp [Op.writes]⟩

/-- A request whose first operation is a checkout, and which reserves and orders nothing after it. -/
def ChecksOutFirst (userId : ℕ) (input : CreateCheckoutDto) (p : Request Payments.Summary) : Prop :=
  ∃ k, p = .perform (.createCheckout userId input) k ∧ ∀ r, (k r).All fun _ op => op.ordersNothing

namespace Checkout

/-- Placing a checkout begins with checking it out. -/
theorem create_checksOutFirst (userId : ℕ) (input : CreateCheckoutDto) :
    ChecksOutFirst userId input (create userId input) := by
  refine ⟨_, rfl, fun r => ordersNothing_of_start ?_⟩
  refine .bind (Prog.all_done _) fun group => .bind (uses_onlyIf ?_) fun _ => uses_selectOrThrow _ _ rfl
  exact (Payments.dispatchGroupConfirmations_uses _).mono (by decide)

/-- Placing a checkout and starting its payment begins with checking it out. -/
theorem place_checksOutFirst (userId : ℕ) (input : CreateCheckoutDto) :
    ChecksOutFirst userId input (place userId input) := by
  refine ⟨_, rfl, fun r => ordersNothing_of_start ?_⟩
  refine .bind (Prog.all_done _) fun group => .bind (uses_onlyIf (Payments.initializePayment_uses _ _)) fun _ => ?_
  refine .bind (uses_onlyIf ?_) fun _ => uses_selectOrThrow _ _ rfl
  exact (Payments.dispatchGroupConfirmations_uses _).mono (by decide)

/-- A repeated checkout is answered with the group that waits, unless the database fails. -/
theorem exec_createCheckout_again (e : Env) {w : World} (h : OneActive w.db) {i : ℕ} {g : CheckoutPaymentGroup}
    (hg : (w.db .checkoutPaymentGroup).find i = some g) (hwaits : g.status.Waits) :
    ((Op.createCheckout g.userId g.checkoutInput).exec e w).2 = w ∧
      (e.fails = false → ((Op.createCheckout g.userId g.checkoutInput).exec e w).1 = .ok (i, g)) := by
  have hagain := createInTransaction_again e h hg hwaits
  rw [Op.exec, Op.transaction]
  dsimp only [runTx]
  rw [hagain]
  split
  · next hfails => exact ⟨rfl, fun h => absurd (hfails.symm.trans h) (by decide)⟩
  · exact ⟨rfl, fun _ => rfl⟩

end Checkout

/-- In every run of requests, with other code that keeps carts with their customers: a group holds a cart exactly
as long as it is pending or processing, and no two groups hold the same cart or wait for the same customer. A
checkout that repeats the request of a waiting group, whose fingerprint is one for every order of its keys, is
answered with that group and changes nothing; and what creating or placing a checkout does after that reserves and
orders nothing. -/
theorem one_active_checkout {w : World} (hw : Fresh w) (hown : OwnCarts w.db) {c : Config Op Error World}
    (hrun : shopping.Run System.anyOp ⟨w, []⟩ c) :
    (∀ i g, (c.world.db .checkoutPaymentGroup).find i = some g →
      (g.activeCartId.isSome ↔ g.status = .pending ∨ g.status = .processing)) ∧
    (∀ i j g g', (c.world.db .checkoutPaymentGroup).find i = some g →
      (c.world.db .checkoutPaymentGroup).find j = some g' → g.status.Waits → g'.status.Waits →
      g.activeCartId = g'.activeCartId ∨ g.userId = g'.userId → i = j) ∧
    (∀ i g, (c.world.db .checkoutPaymentGroup).find i = some g → g.status.Waits → ∀ e : Env,
      ((Op.createCheckout g.userId g.checkoutInput).exec e c.world).2 = c.world ∧
        (e.fails = false → ((Op.createCheckout g.userId g.checkoutInput).exec e c.world).1 = .ok (i, g))) ∧
    (∀ (Digest : Type) (p : Checkout.Platform ℕ Digest), Checkout.TellsFieldsApart p →
      ∀ (input : CreateCheckoutDto) (v : Checkout.RequestValue), Json.Value.Reorder (Checkout.requestJson input) v →
      Checkout.quoteFingerprint p v = Checkout.quoteFingerprint p (Checkout.requestJson input)) ∧
    ∀ userId input, ChecksOutFirst userId input (Checkout.create userId input) ∧
      ChecksOutFirst userId input (Checkout.place userId input) := by
  have hinv : OneActive c.world.db := (activeBooks_holds.run (c := ⟨w, []⟩)
    ⟨⟨hw.consistent, hw.oneActive hown⟩, by simp⟩ (System.Run.mono shopping hrun fun _ _ _ _ => trivial)).1.1.2
  refine ⟨fun i g hg => (hinv.holds i g hg).active, fun i j g g' hg hg' hwaits hwaits' hsame => ?_,
    fun i g hg hwaits e => Checkout.exec_createCheckout_again e hinv hg hwaits,
    fun Digest p hp input v h => Checkout.requestJson_fingerprint hp input h,
    fun userId input => ⟨Checkout.create_checksOutFirst userId input, Checkout.place_checksOutFirst userId input⟩⟩
  obtain ⟨k, hk⟩ := Option.isSome_iff_exists.mp ((hinv.holds i g hg).active.mpr hwaits)
  obtain ⟨k', hk'⟩ := Option.isSome_iff_exists.mp ((hinv.holds j g' hg').active.mpr hwaits')
  have hcart : k = k' := by
    rcases hsame with hcart | huser
    · exact Option.some.inj ((hk.symm.trans hcart).trans hk')
    · obtain ⟨-, cart, hc, hu⟩ := hinv.owned i g k hg hk
      obtain ⟨-, cart', hc', hu'⟩ := hinv.owned j g' k' hg' hk'
      exact hinv.own k k' cart cart' g.userId hc hc' (congrArg some hu) (congrArg some (hu'.trans huser.symm))
  exact hinv.distinct i j g g' k hg hg' hk (hk'.trans (congrArg some hcart.symm))

/-! ## A checkout that is asked for again -/

/-- The customer asks for a checkout by bank transfer. -/
def asked : Config Op Error World :=
  shopping.follow ⟨shop, [discard (Checkout.create 1 transferPickup)]⟩
    [(0, { now := 1, orderNumber := fun _ => "A-1" })]

/-- There is only one cart. -/
theorem ownCarts_shop : OwnCarts shop.db := by
  have hcart : shop.db .cart = Relational.Table.empty.create { userId := 1, subtotal := 50, totalItems := 1 } := rfl
  rw [OwnCarts, hcart]
  refine Relational.Table.Distinct.create (.of_empty fun _ => rfl) fun i b c hb => ?_
  cases hb

/-- A checkout that is asked for again is answered with its group. -/
theorem one_active_checkout_asked :
    ∃ g, (asked.world.db .checkoutPaymentGroup).find 1 = some g ∧ g.activeCartId = some 1 ∧
      ((Op.createCheckout g.userId g.checkoutInput).exec { now := 2 } asked.world).1 = .ok (1, g) := by
  have hstarts : ∀ p ∈ [discard (Checkout.create 1 transferPickup)], shopping.starts p := by
    intro p hp
    rw [List.mem_singleton.mp hp]
    exact .payment (.create 1 transferPickup)
  have hrun := shopping.schedule_run (s := shop) hstarts [(0, { now := 1, orderNumber := fun _ => "A-1" })]
  have hgroup : ((asked.world.db .checkoutPaymentGroup).find 1).map (fun g => (g.activeCartId, g.status)) =
      some (some 1, .pending) := by decide +kernel
  obtain ⟨g, hg, hvalues⟩ := Option.map_eq_some_iff.mp hgroup
  obtain ⟨hcart, hpending⟩ := Prod.mk.inj hvalues
  have hagain := (one_active_checkout fresh_shop ownCarts_shop hrun).2.2.1 1 g hg (.inl hpending) { now := 2 }
  exact ⟨g, hg, hcart, hagain.2 rfl⟩

end Superstore

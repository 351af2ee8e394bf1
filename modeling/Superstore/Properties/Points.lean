import Superstore.Properties.Rewards
import Superstore.Relational.Keys

/-!
# Vouchers and what they cost

The plain reads of a claim of a voucher all see the rows as they are at the first of them. What it writes later it
writes to the rows as they are by then, so that two claims may spend the same points. No points are lost by this:
what a customer has, and what their vouchers have cost, add up to what they were granted; and a customer has each
voucher once. Nobody runs out of points where the claims of one customer do not overlap. A cart holds a voucher
that its customer has claimed, and a voucher that has been redeemed stays so.

Beside the database is kept what the vouchers of customers have cost, and how many claims of each have been written.
-/

namespace Superstore.Vouchers

open Interleaving Relational Relational.Tx

/-! ## Claims -/

/-- The database, the column of the points that vouchers cost, and what has happened. -/
structure State where
  db : Database
  pointsCost : ℕ → ℕ := fun _ => 0
  paid : ℕ → ℤ := fun _ => 0
  round : ℕ → ℕ := fun _ => 0

/-- What a claim reads, all of it from the rows as they are at its first read, and how many claims of its customer
have been written by then. -/
structure Seen where
  voucher : Option RewardVoucher
  pointsCost : ℕ
  existing : Option ℕ
  availablePoints : Option ℤ
  round : ℕ

/-- What the application of a voucher to a cart reads, all of it from the rows as they are at its first read. -/
structure SeenCart where
  now : ℕ
  cart : Option (ℕ × Cart)
  voucher : Option RewardVoucher
  owned : Option UserVoucher
  applied : Bool

/-- The calls of the rewards service, of staff who complete orders, and of carts that have been paid. -/
inductive Op : Type → Type 1
  | look (userId voucherId : ℕ) : Op Seen
  | write (userId voucherId : ℕ) (seen : Seen) : Op ℕ
  | lookCart (userId voucherId : ℕ) : Op SeenCart
  | writeCart (cartId voucherId : ℕ) (applied : Bool) : Op Unit
  | intervene (orderId : ℕ) (status : OrderStatus) (reason : String) : Op Order
  | redeemVoucher (cartId userId : ℕ) : Op Unit
  | notify : Op Unit

/-- A voucher that can be claimed at a time. -/
def available (now : ℕ) (v : RewardVoucher) : Bool :=
  v.isActive && decide (v.startsAt ≤ now) && v.expiresAt.all fun t => decide (now < t)

/-- The claim of a voucher by a customer. -/
def isClaim (userId voucherId : ℕ) (_ : ℕ) (v : UserVoucher) : Bool :=
  v.userId == userId && v.voucherId == voucherId

/-- The account of a customer. -/
def isAccountOf (userId : ℕ) (_ : ℕ) (a : RewardAccount) : Bool := a.userId == userId

/-- What a claim sees of a state. -/
def State.seen (s : State) (now userId voucherId : ℕ) : Seen where
  voucher := ((s.db .rewardVoucher).find voucherId).filter (available now)
  pointsCost := s.pointsCost voucherId
  existing := ((s.db .userVoucher).first (isClaim userId voucherId)).map Prod.fst
  availablePoints := ((s.db .rewardAccount).first (isAccountOf userId)).map (·.2.availablePoints)
  round := s.round userId

/-- The voucher of a cart. -/
def isOnCart (cartId : ℕ) (_ : ℕ) (v : CartVoucher) : Bool := v.cartId == cartId

/-- What the application of a voucher sees of a state. -/
def State.seenCart (s : State) (now userId voucherId : ℕ) : SeenCart :=
  let cart := (s.db .cart).first fun _ c => c.userId == userId
  { now := now
    cart := cart
    voucher := (s.db .rewardVoucher).find voucherId
    owned := ((s.db .userVoucher).first (isClaim userId voucherId)).map Prod.snd
    applied := cart.any fun c => ((s.db .cartVoucher).first (isOnCart c.1)).isSome }

/-- What the application of a voucher writes: the voucher that was on the cart is replaced, if it is still there. -/
def applyWrites (cartId voucherId : ℕ) (applied : Bool) : Tx Unit :=
  if applied then do
    let _ ← updateMany .cartVoucher (isOnCart cartId) fun v => { v with voucherId := voucherId }
    pure ()
  else do
    let _ ← createUnique .cartVoucher (isOnCart cartId) { cartId := cartId, voucherId := voucherId }
    pure ()

/-- What a claim writes, after what it has seen. -/
def claimWrites (userId voucherId : ℕ) (seen : Seen) : Tx ℕ := do
  when seen.availablePoints.isNone do
    let _ ← createUnique .rewardAccount (isAccountOf userId) { userId := userId }
    pure ()
  require ((seen.pointsCost : ℤ) ≤ seen.availablePoints.getD 0) (.badRequest "Insufficient reward points.")
  when (seen.pointsCost ≠ 0) do
    let account ← first .rewardAccount (isAccountOf userId)
    let account ← orThrow account .recordNotFound
    update .rewardAccount account.1 fun a => { a with availablePoints := a.availablePoints - seen.pointsCost }
  createUnique .userVoucher (isClaim userId voucherId) { userId := userId, voucherId := voucherId }

/-- Run a transaction of the store. -/
def runOn {α : Type} (m : Env → Tx α) (e : Env) (s : State) : Except Error α × State :=
  if e.fails then (.error .unavailable, s)
  else
    match m e s.db with
    | .ok (a, db) => (.ok a, { s with db := db })
    | .error err => (.error err, s)

/-- A voucher of a customer has been paid for. -/
def State.claimed (s : State) (userId key pointsCost : ℕ) : State :=
  { s with
    paid := Function.update s.paid key pointsCost
    round := Function.update s.round userId (s.round userId + 1) }

/-- What a call does. -/
def exec : {α : Type} → Op α → Env → State → Except Error α × State
  | _, .look userId voucherId, e, s =>
    (if e.fails then .error .unavailable else .ok (s.seen e.now userId voucherId), s)
  | _, .write userId voucherId seen, e, s =>
    match runOn (fun _ => claimWrites userId voucherId seen) e s with
    | (.ok key, s') => (.ok key, s'.claimed userId key seen.pointsCost)
    | (.error err, s') => (.error err, s')
  | _, .lookCart userId voucherId, e, s =>
    (if e.fails then .error .unavailable else .ok (s.seenCart e.now userId voucherId), s)
  | _, .writeCart cartId voucherId applied, e, s => runOn (fun _ => applyWrites cartId voucherId applied) e s
  | _, .intervene orderId status reason, e, s => runOn (fun e => Orders.intervene e orderId status reason) e s
  | _, .redeemVoucher cartId userId, e, s => runOn (fun e => Cart.redeemVoucher cartId userId e.now) e s
  | _, .notify, e, s => (if e.fails then .error .unavailable else .ok (), s)

/-- The calls, run on the tables. -/
def machine : Machine Op Error State Env where
  exec := exec

/-- A program over these calls. -/
abbrev Request := Prog Op Error

/-- Claim a voucher; one that the customer has already is answered as it is. -/
def claim (userId voucherId : ℕ) : Request ℕ := do
  let seen ← Prog.call (.look userId voucherId)
  let _ ← Prog.orFail seen.voucher (.notFound "Voucher is unavailable.")
  match seen.existing with
  | some key => pure key
  | none => do
    let key ← Prog.call (.write userId voucherId seen)
    Prog.call .notify
    pure key

/-- Apply a voucher, which the request names by its id or its code, to the cart of a customer. -/
def apply (userId voucherId : ℕ) : Request ℕ := do
  let seen ← Prog.call (.lookCart userId voucherId)
  let cart ← Prog.orFail (seen.cart.filter fun c => c.2.totalItems != 0) (.badRequest "Cart is empty.")
  let voucher ← Prog.orFail seen.voucher (.notFound "Voucher not found.")
  let _ ← Prog.orFail (seen.owned.filter (·.status == "CLAIMED"))
    (.conflict "Claim this voucher before applying it.")
  Prog.require (available seen.now voucher) (.badRequest "Voucher has expired or is inactive.")
  Prog.require (decide (voucher.minimumOrderAmount ≤ cart.2.subtotal))
    (.badRequest ("A minimum cart subtotal of " ++ toFixed2 voucher.minimumOrderAmount ++ " is required."))
  Prog.call (.writeCart cart.1 voucherId seen.applied)
  pure cart.1

/-! ## Points and what they have been spent on -/

/-- The points that the vouchers of a customer have cost. -/
def State.spent (s : State) (userId : ℕ) : ℤ :=
  (s.db .userVoucher).total fun i v => if v.userId = userId then s.paid i else 0

/-- The points that a customer has or has spent, without those of the orders that have been completed. -/
def State.balance (s : State) (userId : ℕ) : ℤ := pointsOf s.db userId + s.spent userId - earnedPoints s.db userId

/-- There is one account for each customer. -/
def accountKey (a : RewardAccount) : Option ℕ := some a.userId

/-- A customer has each voucher once. -/
def voucherKey (v : UserVoucher) : Option (ℕ × ℕ) := some (v.userId, v.voucherId)

/-- The customer of a cart has claimed a voucher. -/
def State.HasClaimed (s : State) (cartId voucherId : ℕ) : Prop :=
  ∃ c i v, (s.db .cart).find cartId = some c ∧ (s.db .userVoucher).find i = some v ∧ v.userId = c.userId ∧
    v.voucherId = voucherId

/-- What holds of accounts, vouchers, carts and orders in every state. -/
structure Fit (s : State) : Prop where
  accounts : (s.db .rewardAccount).Distinct accountKey
  vouchers : (s.db .userVoucher).Distinct voucherKey
  carts : ∀ k cv, (s.db .cartVoucher).find k = some cv → s.HasClaimed cv.cartId cv.voucherId
  priced : ∀ i o, (s.db .order).find i = some o → 0 ≤ o.total

/-- An account stays that of its customer. -/
def SameCustomer (a a' : RewardAccount) : Prop := a'.userId = a.userId

/-- Belonging to the same customer is reflexive and transitive. -/
instance : IsPreorder RewardAccount SameCustomer where
  refl _ := rfl
  trans _ _ _ h h' := Eq.trans h' h

/-- A voucher stays that of its customer, and as it is once it has been redeemed. -/
def SameClaim (v v' : UserVoucher) : Prop := voucherKey v' = voucherKey v ∧ (v.status ≠ "CLAIMED" → v' = v)

/-- Being the same claim is reflexive and transitive. -/
instance : IsPreorder UserVoucher SameClaim where
  refl _ := ⟨rfl, fun _ => rfl⟩
  trans v v' v'' h h' := by
    refine ⟨h'.1.trans h.1, fun hredeemed => ?_⟩
    obtain rfl := h.2 hredeemed
    exact h'.2 hredeemed

/-- A cart stays that of its customer. -/
def SameOwner (c c' : Cart) : Prop := c'.userId = c.userId

/-- Belonging to the same owner is reflexive and transitive. -/
instance : IsPreorder Cart SameOwner where
  refl _ := rfl
  trans _ _ _ h h' := Eq.trans h' h

/-- How accounts change: they lose points only to claims of their customers. -/
structure Later (s s' : State) : Prop where
  balance : ∀ u, s'.balance u = s.balance u
  rounds : ∀ u, s.round u ≤ s'.round u
  accounts : (s.db .rewardAccount).Evolves SameCustomer (s'.db .rewardAccount)
  gains : ∀ i a a', (s.db .rewardAccount).find i = some a → (s'.db .rewardAccount).find i = some a' →
    s'.round a.userId = s.round a.userId → a.availablePoints ≤ a'.availablePoints
  vouchers : (s.db .userVoucher).Evolves SameClaim (s'.db .userVoucher)
  carts : (s.db .cart).Evolves SameOwner (s'.db .cart)

/-- Being a later state is reflexive and transitive. -/
instance : IsPreorder State Later where
  refl _ := ⟨fun _ => rfl, fun _ => le_rfl, .refl _, fun i a a' ha ha' _ => by
    obtain rfl := Option.some.inj (ha.symm.trans ha')
    exact le_rfl, .refl _, .refl _⟩
  trans s s' s'' h h' := by
    refine ⟨fun u => (h'.balance u).trans (h.balance u), fun u => (h.rounds u).trans (h'.rounds u),
      h.accounts.trans h'.accounts, fun i a a'' ha ha'' hround => ?_, h.vouchers.trans h'.vouchers,
      h.carts.trans h'.carts⟩
    -- No claim of the customer has been written on either way.
    obtain ⟨a', ha', hcustomer⟩ := h.accounts i a ha
    have hcustomer' : a'.userId = a.userId := hcustomer
    have hfirst := h.rounds a.userId
    have hsecond := h'.rounds a.userId
    have hgain := h.gains i a a' ha ha' (by omega)
    have hgain' := h'.gains i a' a'' ha' ha'' (by rw [hcustomer']; omega)
    exact hgain.trans hgain'

/-- What writes rely on: those of a claim that, unless another claim of the customer has been written since, they
have the points that it has seen; those to a cart that its customer has claimed the voucher. -/
def Op.Grounded : {α : Type} → Op α → State → Prop
  | _, .write userId _ seen, s => seen.round ≤ s.round userId ∧ (s.round userId = seen.round →
      ∀ p, seen.availablePoints = some p →
        ∃ i a, (s.db .rewardAccount).find i = some a ∧ a.userId = userId ∧ p ≤ a.availablePoints)
  | _, .writeCart cartId voucherId _, s => s.HasClaimed cartId voucherId
  | _, _, _ => True

/-- No other claim of the customer has been written since this one began. -/
def Op.undisturbed : {α : Type} → Op α → State → Bool
  | _, .write userId _ seen, s => s.round userId == seen.round
  | _, _, _ => true

variable {s s' : State}

/-- A voucher that has been claimed stays claimed. -/
theorem State.HasClaimed.later {cartId voucherId : ℕ} (h : s.HasClaimed cartId voucherId) (hlater : Later s s') :
    s'.HasClaimed cartId voucherId := by
  obtain ⟨c, i, v, hc, hv, hcustomer, hvoucher⟩ := h
  obtain ⟨c', hc', howner⟩ := hlater.carts cartId c hc
  obtain ⟨v', hv', hsame, -⟩ := hlater.vouchers i v hv
  obtain ⟨hcustomer', hvoucher'⟩ := Prod.mk.inj (Option.some.inj hsame)
  exact ⟨c', i, v', hc', hv', (hcustomer'.trans hcustomer).trans (Eq.symm howner), hvoucher'.trans hvoucher⟩

/-- What a write relies on stays true. -/
theorem grounded_later {userId voucherId : ℕ} {seen : Seen} (h : (Op.write userId voucherId seen).Grounded s)
    (hlater : Later s s') : (Op.write userId voucherId seen).Grounded s' := by
  obtain ⟨hround, hpoints⟩ := h
  have hrounds := hlater.rounds userId
  refine ⟨hround.trans hrounds, fun hsame p hp => ?_⟩
  obtain ⟨i, a, ha, rfl, hle⟩ := hpoints (by omega) p hp
  obtain ⟨a', ha', hcustomer⟩ := hlater.accounts i a ha
  exact ⟨i, a', ha', hcustomer, hle.trans (hlater.gains i a a' ha ha' (by omega))⟩

/-- What a claim sees is what its writes rely on. -/
theorem seen_grounded (s : State) (now userId voucherId : ℕ) :
    (Op.write userId voucherId (s.seen now userId voucherId)).Grounded s := by
  refine ⟨le_rfl, fun _ p hp => ?_⟩
  obtain ⟨⟨i, a⟩, hfirst, rfl⟩ := Option.map_eq_some_iff.mp hp
  obtain ⟨ha, hcustomer⟩ := Table.find_of_first hfirst
  exact ⟨i, a, ha, eq_of_beq hcustomer, le_rfl⟩

/-! ## The accounts of customers -/

/-- An account that is opened is the only one of its customer. -/
theorem distinct_create {t : Table RewardAccount} (ht : t.Distinct accountKey) {userId : ℕ}
    (hnone : t.first (isAccountOf userId) = none) : (t.create { userId := userId }).Distinct accountKey := by
  refine ht.create fun i b c hb hc hsame => ?_
  have hother := Table.first_eq_none.mp hnone i b hb
  obtain rfl : userId = c := Option.some.inj hc
  rw [isAccountOf, show b.userId = userId from Option.some.inj hsame, beq_self_eq_true] at hother
  cases hother

/-- A change of an account leaves every customer with one account. -/
theorem distinct_update {t : Table RewardAccount} (ht : t.Distinct accountKey) (i : ℕ)
    {f : RewardAccount → RewardAccount} (hf : ∀ a, SameCustomer a (f a)) : (t.update i f).Distinct accountKey := by
  refine ht.grows (R := SameCustomer) (.update fun a _ => hf a) fun a a' hsame c hc => ?_
  rw [← hc]
  exact congrArg some (Eq.symm hsame)

/-- An account that is opened has no points. -/
theorem nonneg_create {t : Table RewardAccount}
    (ht : ∀ i a, t.find i = some a → 0 ≤ a.availablePoints) (userId : ℕ) :
    ∀ i a, (t.create { userId := userId }).find i = some a → 0 ≤ a.availablePoints := by
  intro i a ha
  rw [Table.find_create] at ha
  split at ha
  · obtain rfl := Option.some.inj ha
    exact le_rfl
  · exact ht i a ha

/-! ## The writes of a claim -/

/-- What a claim does to the accounts: one is opened, is left alone, or pays. -/
inductive Charged (userId : ℕ) (seen : Seen) (t t' : Table RewardAccount) : Prop
  | opened : seen.pointsCost = 0 → t.first (isAccountOf userId) = none → t' = t.create { userId := userId } →
      Charged userId seen t t'
  | free : seen.pointsCost = 0 → t' = t → Charged userId seen t t'
  | paid (i : ℕ) (a : RewardAccount) (p : ℤ) : t.find i = some a → a.userId = userId →
      seen.availablePoints = some p → (seen.pointsCost : ℤ) ≤ p →
      t' = t.update i (fun a => { a with availablePoints := a.availablePoints - seen.pointsCost }) →
      Charged userId seen t t'

/-- What a claim writes. -/
structure Written (userId voucherId : ℕ) (seen : Seen) (db : Database) (key : ℕ) (db' : Database) : Prop where
  accounts : Charged userId seen (db .rewardAccount) (db' .rewardAccount)
  key : key = (db .userVoucher).next
  free : (db .userVoucher).first (isClaim userId voucherId) = none
  vouchers : db' .userVoucher = (db .userVoucher).create { userId := userId, voucherId := voucherId }
  others : ∀ n, n ≠ .rewardAccount → n ≠ .userVoucher → db' n = db n

/-- What a claim writes is what it has seen, changed. -/
theorem claimWrites_written (userId voucherId : ℕ) (seen : Seen) (db : Database) :
    wp db (claimWrites userId voucherId seen) (Written userId voucherId seen db) := by
  have hvoucher {db₁ : Database} (haccounts : Charged userId seen (db .rewardAccount) (db₁ .rewardAccount))
      (hsame : ∀ n, n ≠ .rewardAccount → db₁ n = db n) :
      wp db₁ (createUnique .userVoucher (isClaim userId voucherId) { userId := userId, voucherId := voucherId })
        (Written userId voucherId seen db) := by
    rw [wp_createUnique, hsame .userVoucher (by decide)]
    intro hfree
    refine ⟨?_, rfl, hfree, Database.set_self _ _ _, fun n haccount hclaim => ?_⟩
    · rw [Database.set_of_ne _ _ (by decide)]
      exact haccounts
    · rw [Database.set_of_ne _ _ hclaim]
      exact hsame n haccount
  rw [claimWrites, wp_bind, wp_when]
  constructor
  · intro hnone
    rw [wp_bind, wp_createUnique]
    intro hfree
    rw [wp_pure, wp_bind, wp_require]
    intro hpoints
    have hnone' : seen.availablePoints = none := Option.isNone_iff_eq_none.mp hnone
    have hcost : seen.pointsCost = 0 := by
      rw [hnone'] at hpoints
      simpa using hpoints
    rw [wp_bind, wp_when]
    refine ⟨fun h => absurd hcost h, fun _ => hvoucher (.opened hcost hfree ?_) fun n hn => ?_⟩
    · exact Database.set_self _ _ _
    · exact Database.set_of_ne _ _ hn
  · intro hsome
    rw [wp_bind, wp_require]
    intro hpoints
    obtain ⟨p, hp⟩ := Option.ne_none_iff_exists'.mp fun hnone => hsome (Option.isNone_iff_eq_none.mpr hnone)
    rw [hp, Option.getD_some] at hpoints
    rw [wp_bind, wp_when]
    refine ⟨fun _ => ?_, fun hcost => ?_⟩
    · rw [wp_bind, wp_first, wp_bind, wp_orThrow]
      intro account hfirst
      obtain ⟨hfind, hcustomer⟩ := Table.find_of_first hfirst
      rw [wp_update]
      intro _ _
      refine hvoucher (.paid account.1 account.2 p hfind (eq_of_beq hcustomer) hp hpoints ?_) fun n hn => ?_
      · exact Database.set_self _ _ _
      · exact Database.set_of_ne _ _ hn
    · exact hvoucher (.free (not_not.mp hcost) rfl) fun _ _ => rfl

variable {userId voucherId : ℕ} {seen : Seen}

/-- A claim takes from the points of its customer what the voucher costs. -/
theorem Charged.points {db db' : Database}
    (h : Charged userId seen (db .rewardAccount) (db' .rewardAccount)) (u : ℕ) :
    pointsOf db' u = pointsOf db u - if userId = u then (seen.pointsCost : ℤ) else 0 := by
  rw [pointsOf, pointsOf]
  cases h with
  | opened hcost _ hopened =>
    rw [hopened, Table.total_create, ite_self, hcost, Nat.cast_zero, ite_self, sub_zero, add_zero]
  | free hcost hsame => rw [hsame, hcost, Nat.cast_zero, ite_self, sub_zero]
  | paid i a p ha hcustomer _ _ hpaid =>
    rw [hpaid, Table.total_update ha, hcustomer]
    split
    · ring
    · rw [sub_zero, add_zero, sub_zero]

/-- An account that is charged stays with its customer. -/
theorem Charged.evolves {t t' : Table RewardAccount} (h : Charged userId seen t t') :
    t.Evolves SameCustomer t' := by
  cases h with
  | opened _ _ hopened =>
    rw [hopened]
    exact .create _ _
  | free _ hsame => exact .of_eq hsame
  | paid i a p _ _ _ _ hpaid =>
    rw [hpaid]
    exact .update fun _ _ => rfl

/-- Charging an account leaves every customer with one account. -/
theorem Charged.distinct {t t' : Table RewardAccount} (h : Charged userId seen t t') (ht : t.Distinct accountKey) :
    t'.Distinct accountKey := by
  cases h with
  | opened _ hnone hopened =>
    rw [hopened]
    exact distinct_create ht hnone
  | free _ hsame => rwa [hsame]
  | paid i a p _ _ _ _ hpaid =>
    rw [hpaid]
    exact distinct_update ht i fun _ => rfl

/-- A claim takes no points of other customers. -/
theorem Charged.gains {t t' : Table RewardAccount} (h : Charged userId seen t t') {i : ℕ} {a a' : RewardAccount}
    (ha : t.find i = some a) (ha' : t'.find i = some a') (hother : a.userId ≠ userId) :
    a.availablePoints ≤ a'.availablePoints := by
  have hsame : t'.find i = t.find i := by
    cases h with
    | opened _ _ hopened => rw [hopened, Table.find_create_of_find _ ha, ha]
    | free _ hsame => rw [hsame]
    | paid j b p hb hcustomer _ _ hpaid =>
      rw [hpaid, Table.find_update_of_ne]
      rintro rfl
      obtain rfl := Option.some.inj (ha.symm.trans hb)
      exact hother hcustomer
  obtain rfl := Option.some.inj (ha.symm.trans (hsame.symm.trans ha'))
  exact le_rfl

/-- A claim leaves its customer no fewer points than none, if they have those that it has seen. -/
theorem Charged.nonneg {t t' : Table RewardAccount} (h : Charged userId seen t t') (ht : t.Distinct accountKey)
    (hseen : ∀ p, seen.availablePoints = some p →
      ∃ i a, t.find i = some a ∧ a.userId = userId ∧ p ≤ a.availablePoints)
    (hnonneg : ∀ i a, t.find i = some a → 0 ≤ a.availablePoints) :
    ∀ i a, t'.find i = some a → 0 ≤ a.availablePoints := by
  cases h with
  | opened _ _ hopened =>
    rw [hopened]
    exact nonneg_create hnonneg userId
  | free _ hsame => rwa [hsame]
  | paid j b p hb hcustomer hp hcost hpaid =>
    intro i a' ha'
    rw [hpaid, Table.find_update] at ha'
    split at ha'
    · next hij =>
      obtain ⟨k, a, ha, hcustomer', hle⟩ := hseen p hp
      obtain rfl := ht j k b a userId hb ha (congrArg some hcustomer) (congrArg some hcustomer')
      obtain rfl := Option.some.inj (hb.symm.trans ha)
      rw [hij, hb] at ha'
      obtain rfl := Option.some.inj ha'
      change 0 ≤ b.availablePoints - seen.pointsCost
      omega
    · exact hnonneg i a' ha'

variable {key : ℕ} {db' : Database}

/-- The voucher that is claimed adds what it costs to what its customer has spent. -/
theorem Written.spent (h : Written userId voucherId seen s.db key db') (u : ℕ) :
    (({ s with db := db' } : State).claimed userId key seen.pointsCost).spent u =
      s.spent u + if userId = u then (seen.pointsCost : ℤ) else 0 := by
  change (db' .userVoucher).total _ = _
  rw [h.vouchers, Table.total_create, State.spent]
  refine congrArg₂ (· + ·) (Table.total_congr fun i v hv => ?_) ?_
  · have hne : i ≠ key := by
      have hlt := Table.lt_next hv
      have hkey := h.key
      omega
    change (if v.userId = u then Function.update s.paid key (seen.pointsCost : ℤ) i else 0) = _
    rw [Function.update_of_ne hne]
  · change (if userId = u then Function.update s.paid key (seen.pointsCost : ℤ) (s.db .userVoucher).next else 0) = _
    rw [← h.key, Function.update_self]

/-- The points of a claim are taken from its customer only, and count as spent. -/
theorem Written.later (h : Written userId voucherId seen s.db key db') :
    Later s (({ s with db := db' } : State).claimed userId key seen.pointsCost) := by
  have horders : db' .order = s.db .order := h.others .order (by decide) (by decide)
  refine ⟨fun u => ?_, fun u => ?_, h.accounts.evolves, fun i a a' ha ha' hround => ?_, ?_,
    .of_eq (h.others .cart (by decide) (by decide))⟩
  · change pointsOf db' u + _ - earnedPoints db' u = _
    rw [h.spent, h.accounts.points, earnedPoints, horders, State.balance, earnedPoints]
    ring
  · change s.round u ≤ Function.update s.round userId (s.round userId + 1) u
    by_cases hu : u = userId
    · subst hu
      rw [Function.update_self]
      exact Nat.le_succ _
    · rw [Function.update_of_ne hu]
  · refine h.accounts.gains ha ha' fun hcustomer => ?_
    change Function.update s.round userId (s.round userId + 1) a.userId = s.round a.userId at hround
    rw [hcustomer, Function.update_self] at hround
    omega
  · change (s.db .userVoucher).Evolves SameClaim (db' .userVoucher)
    rw [h.vouchers]
    exact .create _ _

/-- What a claim writes is accounted for. -/
theorem Written.kept (h : Written userId voucherId seen s.db key db') (hs : Fit s) :
    Fit (({ s with db := db' } : State).claimed userId key seen.pointsCost) ∧
      Later s (({ s with db := db' } : State).claimed userId key seen.pointsCost) := by
  have horders : db' .order = s.db .order := h.others .order (by decide) (by decide)
  refine ⟨⟨h.accounts.distinct hs.accounts, ?_, fun k cv hcv => ?_, fun i o ho => hs.priced i o (horders ▸ ho)⟩,
    h.later⟩
  · change (db' .userVoucher).Distinct voucherKey
    rw [h.vouchers]
    refine hs.vouchers.create fun i v c hv hc hsame => ?_
    have hother := Table.first_eq_none.mp h.free i v hv
    obtain ⟨hcustomer, hvoucher⟩ := Prod.mk.inj (Option.some.inj (hsame.trans hc.symm))
    rw [isClaim, hcustomer, hvoucher, beq_self_eq_true, beq_self_eq_true] at hother
    cases hother
  · change (db' .cartVoucher).find k = some cv at hcv
    rw [h.others .cartVoucher (by decide) (by decide)] at hcv
    exact (hs.carts k cv hcv).later h.later

/-! ## Completed orders and paid carts -/

/-- Accounts that gain points, or are opened. -/
structure AccountsGain (db db' : Database) : Prop where
  distinct : (db .rewardAccount).Distinct accountKey → (db' .rewardAccount).Distinct accountKey
  gains : ∀ i a, (db .rewardAccount).find i = some a → ∃ a', (db' .rewardAccount).find i = some a' ∧
    a'.userId = a.userId ∧ a.availablePoints ≤ a'.availablePoints
  nonneg : (∀ i a, (db .rewardAccount).find i = some a → 0 ≤ a.availablePoints) →
    ∀ i a, (db' .rewardAccount).find i = some a → 0 ≤ a.availablePoints

/-- Gaining points is reflexive and transitive. -/
instance : IsPreorder Database AccountsGain where
  refl _ := ⟨id, fun _ a ha => ⟨a, ha, rfl, le_rfl⟩, id⟩
  trans _ _ _ h h' := by
    refine ⟨h'.distinct ∘ h.distinct, fun i a ha => ?_, h'.nonneg ∘ h.nonneg⟩
    obtain ⟨a', ha', hcustomer, hle⟩ := h.gains i a ha
    obtain ⟨a'', ha'', hcustomer', hle'⟩ := h'.gains i a' ha'
    exact ⟨a'', ha'', hcustomer'.trans hcustomer, hle.trans hle'⟩

/-- Accounts that stay lose nothing. -/
theorem AccountsGain.of_eq {db db' : Database} (h : db' .rewardAccount = db .rewardAccount) :
    AccountsGain db db' where
  distinct := by rw [h]; exact id
  gains i a ha := ⟨a, by rw [h]; exact ha, rfl, le_rfl⟩
  nonneg := by rw [h]; exact id

/-- A transaction that writes no accounts takes no points. -/
theorem accountsGain_of_writes {α : Type} {ns : List TableName} {m : Tx α} (h : Writes ns m)
    (hns : TableName.rewardAccount ∉ ns) : Within AccountsGain m :=
  fun db => wp_mono (h db) fun _ _ hsame => .of_eq (hsame .rewardAccount hns)

/-- The account of a customer who has none is opened. -/
theorem accountsGain_create (userId : ℕ) {db : Database}
    (hnone : (db .rewardAccount).first (isAccountOf userId) = none) :
    AccountsGain db (db.set .rewardAccount ((db .rewardAccount).create { userId := userId })) where
  distinct hdistinct := by
    rw [Database.set_self]
    exact distinct_create hdistinct hnone
  gains i a ha := ⟨a, by rw [Database.set_self]; exact Table.find_create_of_find _ ha, rfl, le_rfl⟩
  nonneg hnonneg := by
    rw [Database.set_self]
    exact nonneg_create hnonneg userId

/-- An account that is given points. -/
theorem accountsGain_update (i : ℕ) {points : ℤ} (hpoints : 0 ≤ points) (db : Database) :
    AccountsGain db (db.set .rewardAccount
      ((db .rewardAccount).update i fun a => { a with availablePoints := a.availablePoints + points })) where
  distinct hdistinct := by
    rw [Database.set_self]
    exact distinct_update hdistinct i fun _ => rfl
  gains j a ha := by
    rw [Database.set_self, Table.find_update, ha]
    split
    · exact ⟨_, rfl, rfl, le_add_of_nonneg_right hpoints⟩
    · exact ⟨a, rfl, rfl, le_rfl⟩
  nonneg hnonneg j a ha := by
    rw [Database.set_self, Table.find_update] at ha
    split at ha
    · obtain ⟨b, hb, rfl⟩ := Option.map_eq_some_iff.mp ha
      exact add_nonneg (hnonneg j b hb) hpoints
    · exact hnonneg j a ha

/-- The rewards of an order give points for it. -/
theorem reward_gains (e : Env) (orderId : ℕ) {order : Order} (h : 0 ≤ order.total) :
    Within AccountsGain (Orders.reward e orderId order) := by
  have hpoints : 0 ≤ ⌊order.total / 1000⌋ := Int.floor_nonneg.mpr (div_nonneg h (by norm_num))
  refine .bind (.of_reads (Orders.configured_reads _ _)) fun percentage => ?_
  extract_lets eligible cashbackAmount points
  have hcashback : Writes [.cashbackReward] (when eligible do
      let _ ← firstOrCreate .cashbackReward (fun _ c => c.orderId == orderId)
        { userId := order.userId, orderId := orderId, percentage := percentage, amount := cashbackAmount
          createdAt := e.now }
      pure ()) := .when (.bind (.firstOrCreate List.mem_cons_self _ _) fun _ => .pure ())
  refine .bind (accountsGain_of_writes hcashback (by decide)) fun _ db => ?_
  have hgiven {k : Unit → Tx (Rat × ℤ)} (hk : ∀ u, Within AccountsGain (k u)) (i : ℕ) {db₁ : Database}
      (h₁ : AccountsGain db db₁) :
      wp db₁ (update .rewardAccount i (fun a => { a with availablePoints := a.availablePoints + points }) >>= k)
        fun _ db' => AccountsGain db db' := by
    rw [wp_bind, wp_update]
    exact fun _ _ => Within.from (trans_of AccountsGain h₁ (accountsGain_update i hpoints db₁)) (hk ())
  rw [wp_bind, wp_firstOrCreate]
  refine ⟨fun account _ => hgiven (fun _ => ?_) account.1 (refl_of AccountsGain db),
    fun hnone => hgiven (fun _ => ?_) _ (accountsGain_create order.userId hnone)⟩
  all_goals
    refine .bind (.of_reads (.first _ _)) fun referral => ?_
    split
    · refine .bind (.of_reads (Orders.configured_reads _ _)) fun amount => ?_
      exact .bind (accountsGain_of_writes (.update (List.mem_singleton_self _) _ _) (by decide)) fun _ => .pure _
    · exact .pure _

/-- A status that the staff set takes no points. -/
theorem intervene_gains (e : Env) (orderId : ℕ) (status : OrderStatus) (reason : String) {db : Database}
    (hpriced : ∀ i o, (db .order).find i = some o → 0 ≤ o.total) :
    wp db (Orders.intervene e orderId status reason) fun _ db' => AccountsGain db db' := by
  rw [Orders.intervene, wp_bind, wp_find, wp_bind, wp_orThrow]
  intro order horder
  rw [wp_bind, wp_require]
  intro _
  rw [wp_bind, wp_require]
  intro _
  have hwrite : Within AccountsGain (if status = .completed then do
      let _ ← Orders.completeOrder e orderId order none ("Staff intervention: " ++ reason)
      pure ()
    else do
      update .order orderId (Payments.setCurrentStatus status)
      Orders.history orderId order.currentStatus status none (some ("Staff intervention: " ++ reason))) := by
    have hupdate (s : OrderStatus) : Within AccountsGain (update .order orderId (Payments.setCurrentStatus s)) :=
      accountsGain_of_writes (.update (List.mem_singleton_self _) _ _) (by decide)
    have hhistory (s : OrderStatus) (r : Option String) :
        Within AccountsGain (Orders.history orderId order.currentStatus s none r) :=
      accountsGain_of_writes (Orders.history_writes _ _ _ _ _) (by decide)
    split
    · refine .bind (.bind (hupdate _) fun _ => .bind (hhistory _ _) fun _ => ?_) fun _ => .pure ()
      exact reward_gains e orderId (hpriced orderId order horder)
    · exact .bind (hupdate _) fun _ => hhistory _ _
  exact (Within.bind hwrite fun _ => .of_reads (.findOrThrow _ _)) db

/-- What other transactions do: they take no points, give them for completed orders only, leave vouchers and carts
with their customers, and put on carts only what these have claimed. -/
structure Elsewhere (s s' : State) : Prop where
  accounts : AccountsGain s.db s'.db
  rewarded : ∀ u, pointsOf s'.db u + earnedPoints s.db u = pointsOf s.db u + earnedPoints s'.db u
  priced : (∀ i o, (s.db .order).find i = some o → 0 ≤ o.total) →
    ∀ i o, (s'.db .order).find i = some o → 0 ≤ o.total
  vouchers : (s.db .userVoucher).Grows (fun _ => False) SameClaim (s'.db .userVoucher)
  carts : (s.db .cart).Evolves SameOwner (s'.db .cart)
  applied : ∀ k cv, (s'.db .cartVoucher).find k = some cv →
    (s.db .cartVoucher).find k = some cv ∨ s.HasClaimed cv.cartId cv.voucherId
  spent : ∀ u, s'.spent u = s.spent u
  round : s'.round = s.round

/-- Other code may leave everything as it is. -/
theorem Elsewhere.refl (s : State) : Elsewhere s s where
  accounts := refl_of AccountsGain _
  rewarded _ := rfl
  priced := id
  vouchers := .refl _
  carts := .refl _
  applied _ _ := .inl
  spent _ := rfl
  round := rfl

/-- What other code does keeps the rows fit, and makes a later state. -/
theorem Elsewhere.kept (h : Elsewhere s s') (hs : Fit s) : Fit s' ∧ Later s s' := by
  have hlater : Later s s' := by
    refine ⟨fun u => ?_, fun u => (congrFun h.round u).ge, fun i a ha => ?_, fun i a a' ha ha' _ =>
      ?_, h.vouchers.kept,
      h.carts⟩
    · have hrewarded := h.rewarded u
      rw [State.balance, State.balance, h.spent]
      omega
    · obtain ⟨a', ha', hcustomer, -⟩ := h.accounts.gains i a ha
      exact ⟨a', ha', hcustomer⟩
    · obtain ⟨b, hb, -, hle⟩ := h.accounts.gains i a ha
      obtain rfl := Option.some.inj (ha'.symm.trans hb)
      exact hle
  refine ⟨⟨h.accounts.distinct hs.accounts, ?_, fun k cv hcv => ?_, h.priced hs.priced⟩, hlater⟩
  · refine hs.vouchers.grows h.vouchers fun v v' hsame c hc => ?_
    rw [← hc]
    exact hsame.1.symm
  · exact ((h.applied k cv hcv).elim (hs.carts k cv) id).later hlater

/-- A transaction that is about neither accounts nor orders, and changes what vouchers and carts may become. -/
theorem Elsewhere.of_others {db' : Database}
    (hothers : ∀ n, n ≠ .userVoucher → n ≠ .cartVoucher → db' n = s.db n)
    (hvouchers : (s.db .userVoucher).Grows (fun _ => False) SameClaim (db' .userVoucher))
    (happlied : ∀ k cv, (db' .cartVoucher).find k = some cv →
      (s.db .cartVoucher).find k = some cv ∨ s.HasClaimed cv.cartId cv.voucherId)
    (hspent : ∀ u, ((db' .userVoucher).total fun i v => if v.userId = u then s.paid i else 0) = s.spent u) :
    Elsewhere s { s with db := db' } where
  accounts := .of_eq (hothers .rewardAccount (by decide) (by decide))
  rewarded u := by
    have haccounts : db' .rewardAccount = s.db .rewardAccount := hothers _ (by decide) (by decide)
    have horders : db' .order = s.db .order := hothers _ (by decide) (by decide)
    change pointsOf db' u + _ = _ + earnedPoints db' u
    rw [pointsOf, earnedPoints, earnedPoints, haccounts, horders, pointsOf]
  priced hpriced i o ho := hpriced i o (hothers .order (by decide) (by decide) ▸ ho)
  vouchers := hvouchers
  carts := .of_eq (hothers .cart (by decide) (by decide))
  applied := happlied
  spent := hspent
  round := rfl

/-- The intervention of staff gives points for an order that it completes. -/
theorem intervene_elsewhere (e : Env) (orderId : ℕ) (status : OrderStatus) (reason : String) (hs : Fit s) :
    wp s.db (Orders.intervene e orderId status reason) fun _ db' => Elsewhere s { s with db := db' } := by
  refine wp_mono (wp_and (intervene_gains e orderId status reason hs.priced)
    (wp_and (Orders.intervene_rewards e orderId status reason s.db)
      (wp_and (Orders.intervene_puts e orderId status reason s.db)
        (Orders.intervene_writes e orderId status reason s.db)))) fun _ db' h => ?_
  obtain ⟨hgains, hrewarded, ⟨_, -, -, -, hput⟩, hsame⟩ := h
  have hvouchers : db' .userVoucher = s.db .userVoucher := hsame .userVoucher (by decide)
  refine ⟨hgains, hrewarded.points, fun hpriced i o ho => ?_, .of_eq hvouchers, .of_eq (hsame .cart (by decide)),
    fun k cv hcv => .inl ?_, fun u => ?_, rfl⟩
  · change (db' .order).find i = some o at ho
    rw [hput, Orders.putStatus, Option.elim_some, Table.find_update] at ho
    split at ho
    · obtain ⟨o', ho', rfl⟩ := Option.map_eq_some_iff.mp ho
      exact hpriced i o' ho'
    · exact hpriced i o ho
  · exact hsame .cartVoucher (by decide) ▸ hcv
  · change (db' .userVoucher).total _ = _
    rw [hvouchers]
    rfl

/-- A paid cart redeems the voucher of its customer, and takes it from nobody. -/
theorem redeemVoucher_elsewhere (cartId userId now : ℕ) (s : State) :
    wp s.db (Cart.redeemVoucher cartId userId now) fun _ db' => Elsewhere s { s with db := db' } := by
  rw [Cart.redeemVoucher, wp_bind, wp_first]
  split
  swap
  · exact (wp_pure _ _ _).mpr (.refl s)
  rw [wp_bind, wp_updateMany, wp_deleteMany]
  refine .of_others (fun n hvoucher hcart => ?_) ?_ (fun k cv hcv => .inl ?_) fun u => ?_
  · rw [Database.set_of_ne _ _ hcart, Database.set_of_ne _ _ hvoucher]
  · rw [Database.set_of_ne _ _ (by decide), Database.set_self]
    refine .updateMany fun i v _ hp => ⟨rfl, fun hredeemed => ?_⟩
    exact absurd (eq_of_beq (Bool.and_eq_true_iff.mp hp).2) hredeemed
  · rw [Database.set_self, Table.find_deleteMany] at hcv
    exact (Option.filter_eq_some_iff.mp hcv).1
  · rw [Database.set_of_ne _ _ (by decide), Database.set_self, Table.total_updateMany, State.spent]
    refine Table.total_congr fun i v _ => ?_
    split <;> rfl

/-- A voucher that its customer has claimed is put on a cart. -/
theorem applyWrites_elsewhere {cartId voucherId : ℕ} (applied : Bool) (h : s.HasClaimed cartId voucherId) :
    wp s.db (applyWrites cartId voucherId applied) fun _ db' => Elsewhere s { s with db := db' } := by
  have hput {t : Table CartVoucher}
      (ht : ∀ k cv, t.find k = some cv → (s.db .cartVoucher).find k = some cv ∨ cv = ⟨cartId, voucherId⟩) :
      Elsewhere s { s with db := s.db.set .cartVoucher t } := by
    refine .of_others (fun n _ hcart => Database.set_of_ne _ _ hcart) (.of_eq rfl) (fun k cv hcv => ?_) fun u => rfl
    rw [Database.set_self] at hcv
    refine (ht k cv hcv).imp_right fun hnew => ?_
    rw [hnew]
    exact h
  rw [applyWrites]
  split
  · rw [wp_bind, wp_updateMany, wp_pure]
    refine hput fun k cv hcv => ?_
    rw [Table.find_updateMany] at hcv
    obtain ⟨v, hv, rfl⟩ := Option.map_eq_some_iff.mp hcv
    split
    · next hcart => exact .inr (congrArg (CartVoucher.mk · voucherId) (eq_of_beq hcart))
    · exact .inl hv
  · rw [wp_bind, wp_createUnique]
    intro _
    rw [wp_pure]
    refine hput fun k cv hcv => ?_
    rw [Table.find_create] at hcv
    split at hcv
    · exact .inr (Option.some.inj hcv).symm
    · exact .inl hcv

/-! ## Calls -/

/-- A transaction of the store fails, or is carried out as a whole. -/
theorem runOn_cases {α : Type} {m : Env → Tx α} {e : Env} {Q : α → Database → Prop} (h : wp s.db (m e) Q) :
    (∃ err, runOn m e s = (.error err, s)) ∨ ∃ a db', Q a db' ∧ runOn m e s = (.ok a, { s with db := db' }) := by
  unfold runOn
  split
  · exact .inl ⟨_, rfl⟩
  · split
    · next a db' hok => exact .inr ⟨a, db', h a db' hok, rfl⟩
    · exact .inl ⟨_, rfl⟩

/-- A transaction that takes no points does so as a call. -/
theorem runOn_elsewhere {α : Type} {m : Env → Tx α} {e : Env}
    (h : wp s.db (m e) fun _ db' => Elsewhere s { s with db := db' }) : Elsewhere s (runOn m e s).2 := by
  rcases runOn_cases h with ⟨err, hfailed⟩ | ⟨a, db', helsewhere, hdone⟩
  · rw [hfailed]
    exact .refl s
  · rw [hdone]
    exact helsewhere

/-- A claim is written as a whole, or not at all. -/
theorem exec_write (userId voucherId : ℕ) (seen : Seen) (e : Env) (s : State) :
    (exec (.write userId voucherId seen) e s).2 = s ∨ ∃ key db', Written userId voucherId seen s.db key db' ∧
      (exec (.write userId voucherId seen) e s).2 =
        ({ s with db := db' } : State).claimed userId key seen.pointsCost := by
  rw [exec]
  rcases runOn_cases (m := fun _ => claimWrites userId voucherId seen) (e := e)
    (claimWrites_written userId voucherId seen s.db) with ⟨err, hfailed⟩ | ⟨key, db', hwritten, hdone⟩
  · left
    rw [hfailed]
  · right
    refine ⟨key, db', hwritten, ?_⟩
    rw [hdone]

/-- Calls that write claims. -/
def Op.writes : {α : Type} → Op α → Bool
  | _, .write _ _ _ => true
  | _, _ => false

/-- Every other call takes no points. -/
theorem exec_elsewhere {α : Type} {op : Op α} (hop : op.writes = false) (e : Env) (hs : Fit s)
    (hknown : op.Grounded s) : Elsewhere s (exec op e s).2 := by
  cases op with
  | write userId voucherId seen => cases hop
  | look userId voucherId => exact .refl s
  | lookCart userId voucherId => exact .refl s
  | writeCart cartId voucherId applied => exact runOn_elsewhere (applyWrites_elsewhere applied hknown)
  | notify => exact .refl s
  | intervene orderId status reason => exact runOn_elsewhere (intervene_elsewhere e orderId status reason hs)
  | redeemVoucher cartId userId => exact runOn_elsewhere (redeemVoucher_elsewhere cartId userId e.now s)

/-- What is kept of points in any run. -/
def accounted : Contract Op State Env where
  inv := Fit
  guar := Later
  known op s := op.Grounded s
  allowed _ _ _ := True
  refl := refl_of Later
  trans := trans_of Later

/-- What is kept besides where the claims of a customer do not overlap. -/
def solvent : Contract Op State Env where
  inv s := Fit s ∧ ∀ i a, (s.db .rewardAccount).find i = some a → 0 ≤ a.availablePoints
  guar := Later
  known op s := op.Grounded s
  allowed op _ s := op.undisturbed s = true
  refl := refl_of Later
  trans := trans_of Later

/-- Every call keeps accounts. -/
theorem accounted_safe {α : Type} (op : Op α) : accounted.Safe machine op := by
  intro e s hs hknown _
  change Fit (exec op e s).2 ∧ Later s (exec op e s).2
  have hgrounded : op.Grounded s := hknown
  cases op with
  | write userId voucherId seen =>
    rcases exec_write userId voucherId seen e s with hsame | ⟨key, db', hwritten, hdone⟩
    · rw [hsame]
      exact ⟨hs, refl_of Later s⟩
    · rw [hdone]
      exact hwritten.kept hs
  | _ => exact (exec_elsewhere rfl e hs hgrounded).kept hs

/-- A claim that no other one has come before leaves its customer points. -/
theorem solvent_safe {α : Type} (op : Op α) : solvent.Safe machine op := by
  intro e s hinv hknown hundisturbed
  obtain ⟨hs, hnonneg⟩ := hinv
  obtain ⟨hfit, hlater⟩ := accounted_safe op e s hs hknown trivial
  refine ⟨⟨hfit, ?_⟩, hlater⟩
  change ∀ i a, ((exec op e s).2.db .rewardAccount).find i = some a → 0 ≤ a.availablePoints
  have hgrounded : op.Grounded s := hknown
  cases op with
  | write userId voucherId seen =>
    rcases exec_write userId voucherId seen e s with hsame | ⟨key, db', hwritten, hdone⟩
    · rw [hsame]
      exact hnonneg
    · rw [hdone]
      exact hwritten.accounts.nonneg hs.accounts (hgrounded.2 (eq_of_beq hundisturbed)) hnonneg
  | _ => exact (exec_elsewhere rfl e hs hgrounded).accounts.nonneg hnonneg

/-! ## Runs -/

/-- The requests that spend points, and those that give them. -/
inductive VoucherRequest : Request Unit → Prop
  | claim (userId voucherId : ℕ) : VoucherRequest (claim userId voucherId >>= fun _ => pure ())
  | apply (userId voucherId : ℕ) : VoucherRequest (apply userId voucherId >>= fun _ => pure ())
  | updateOrderStatus (orderId : ℕ) (status : OrderStatus) (reason : String) :
      VoucherRequest (Prog.call (.intervene orderId status reason) >>= fun _ => Prog.call .notify)
  | redeemVoucher (cartId userId : ℕ) : VoucherRequest (Prog.call (.redeemVoucher cartId userId))

/-- Any number of interleaved requests, while other code takes no points. -/
def rewarding : System Op Error State Env :=
  { machine with
    starts := VoucherRequest
    background := Elsewhere }

/-- A claim writes what it has seen. -/
theorem claim_ready (userId voucherId : ℕ) (s : State) : accounted.Ready machine (claim userId voucherId) s := by
  refine .call_bind (fun _ _ _ => trivial) fun e s₁ _ _ _ _ _ seen hseen => .orFail_bind fun _ _ => ?_
  have hgrounded : (Op.write userId voucherId seen).Grounded s₁ := by
    simp only [machine, exec] at hseen
    split at hseen
    · cases hseen
    · obtain rfl := Except.ok.inj hseen
      exact seen_grounded s₁ e.now userId voucherId
  split
  · exact trivial
  · refine .then (fun s₂ hs₂ _ => grounded_later hgrounded hs₂) fun key _ _ _ => ?_
    exact .then (fun _ _ _ => trivial) fun _ _ _ _ => trivial

/-- A voucher that is put on a cart has been claimed by its customer. -/
theorem apply_ready (userId voucherId : ℕ) (s : State) : accounted.Ready machine (apply userId voucherId) s := by
  refine .call_bind (fun _ _ _ => trivial) fun e s₁ _ _ _ _ _ seen hseen => .orFail_bind fun cart hcart => ?_
  refine .orFail_bind fun voucher _ => .orFail_bind fun owned howned => ?_
  have hclaimed : s₁.HasClaimed cart.1 voucherId := by
    simp only [machine, exec] at hseen
    split at hseen
    · cases hseen
    · obtain rfl := Except.ok.inj hseen
      have hfirst : (s₁.db .cart).first (fun _ c => c.userId == userId) = some cart :=
        (Option.filter_eq_some_iff.mp hcart).1
      obtain ⟨hrow, howner⟩ := Table.find_of_first hfirst
      obtain ⟨⟨i, v⟩, hclaim, rfl⟩ := Option.map_eq_some_iff.mp (Option.filter_eq_some_iff.mp howned).1
      obtain ⟨hv, hkey⟩ := Table.find_of_first hclaim
      obtain ⟨hcustomer, hvoucher⟩ := Bool.and_eq_true_iff.mp hkey
      exact ⟨cart.2, i, v, hrow, hv, (eq_of_beq hcustomer).trans (eq_of_beq howner).symm, eq_of_beq hvoucher⟩
  refine .require_bind fun _ => .require_bind fun _ => ?_
  exact .then (fun s₂ hs₂ _ => hclaimed.later hs₂) fun _ _ _ _ => trivial

/-- Every request relies on what it has seen. -/
theorem accounted_ready {p : Request Unit} (h : VoucherRequest p) (s : State) : accounted.Ready machine p s := by
  cases h with
  | claim userId voucherId => exact .bind (claim_ready userId voucherId s) fun _ _ => trivial
  | apply userId voucherId => exact .bind (apply_ready userId voucherId s) fun _ _ => trivial
  | updateOrderStatus orderId status reason =>
    exact .then (fun _ _ _ => trivial) fun _ _ _ _ => .call fun _ _ _ => trivial
  | redeemVoucher cartId userId => exact .call fun _ _ _ => trivial

/-- The points are accounted for. -/
theorem accounted_holds : accounted.Holds rewarding where
  starts h s _ := accounted_ready h s
  performs op := accounted_safe op
  background h hs := Elsewhere.kept h hs

/-- The points are never overspent by claims that take turns. -/
theorem solvent_holds : solvent.Holds rewarding where
  starts h s _ := (accounted_ready h s).strengthen (fun _ hs => hs.1) (fun _ _ h => h) (fun _ _ _ _ => trivial)
    fun _ _ h => h
  performs op := solvent_safe op
  background h hs := by
    obtain ⟨hfit, hlater⟩ := Elsewhere.kept h hs.1
    exact ⟨⟨hfit, (Elsewhere.accounts h).nonneg hs.2⟩, hlater⟩

/-- However claims interleave: the points that customers have and those that their vouchers have cost add up to
what they had and what their completed orders are worth since; each customer has each voucher once, and a redeemed
one as it is; what is on a cart has been claimed by its customer; and where no claim is written after another one
of its customer that has been written since it began, nobody has fewer points than none. -/
theorem reward_points {s : State} (hs : Fit s) {c : Config Op Error State}
    (hrun : rewarding.Run System.anyOp ⟨s, []⟩ c) :
    (∀ u, pointsOf c.world.db u + c.world.spent u + earnedPoints s.db u =
      pointsOf s.db u + s.spent u + earnedPoints c.world.db u) ∧
    (∀ i j v v', (c.world.db .userVoucher).find i = some v → (c.world.db .userVoucher).find j = some v' →
      v.userId = v'.userId → v.voucherId = v'.voucherId → i = j) ∧
    (∀ i v, (s.db .userVoucher).find i = some v → v.status ≠ "CLAIMED" →
      (c.world.db .userVoucher).find i = some v) ∧
    (∀ k cv, (c.world.db .cartVoucher).find k = some cv → c.world.HasClaimed cv.cartId cv.voucherId) ∧
    (rewarding.Run (fun op _ c => op.undisturbed c.world = true) ⟨s, []⟩ c →
      (∀ i a, (s.db .rewardAccount).find i = some a → 0 ≤ a.availablePoints) →
        ∀ i a, (c.world.db .rewardAccount).find i = some a → 0 ≤ a.availablePoints) := by
  have hstart : accounted.Sound rewarding ⟨s, []⟩ := ⟨hs, nofun⟩
  obtain ⟨⟨hfit, -⟩, hlater⟩ := accounted_holds.run hstart (System.Run.mono _ hrun fun _ _ _ _ => trivial)
  refine ⟨fun u => ?_, fun i j v v' hv hv' hcustomer hvoucher => ?_, fun i v hv hredeemed => ?_, Fit.carts hfit,
    fun hundisturbed hnonneg => ?_⟩
  · have hbalance := Later.balance hlater u
    simp only [State.balance] at hbalance
    omega
  · refine Fit.vouchers hfit i j v v' (v.userId, v.voucherId) hv hv' rfl ?_
    rw [voucherKey, ← hcustomer, ← hvoucher]
  · obtain ⟨v', hv', -, hsame⟩ := Later.vouchers hlater i v hv
    rw [hv', hsame hredeemed]
  · have hsolvent : solvent.Sound rewarding ⟨s, []⟩ := ⟨⟨hs, hnonneg⟩, nofun⟩
    exact (solvent_holds.run hsolvent hundisturbed).1.1.2

/-! ## Two claims -/

/-- A customer with ten points, which is what each of two vouchers costs. -/
def tenPoints : State where
  db := (Database.empty.set .rewardVoucher
    ((Table.empty.create { type := "PERCENTAGE", startsAt := 0 }).create { type := "FIXED", startsAt := 0 })).set
    .rewardAccount (Table.empty.create { userId := 1, availablePoints := 10 })
  pointsCost _ := 10

/-- The points of the example are fit. -/
theorem tenPoints_fit : Fit tenPoints where
  accounts i j a b _ ha hb _ _ :=
    (Table.eq_of_find_single ha).1.trans (Table.eq_of_find_single hb).1.symm
  vouchers := .of_empty fun _ => rfl
  carts _ _ hcv := by cases hcv
  priced _ _ ho := by cases ho

/-- Claims of both vouchers. -/
def twoClaims : List (Request Unit) :=
  [claim 1 1 >>= fun _ => pure (), claim 1 2 >>= fun _ => pure ()]

/-- The claims of the example can be made. -/
theorem twoClaims_start : ∀ p ∈ twoClaims, rewarding.starts p := by
  intro p hp
  rw [twoClaims, List.mem_pair] at hp
  rcases hp with rfl | rfl
  · exact .claim 1 1
  · exact .claim 1 2

/-- Both claims begin before one of them is written. -/
def overlapping : List (ℕ × Env) := (List.replicate 3 [(0, { now := 1 }), (1, { now := 1 })]).flatten

/-- The first claim is over when the second one begins. -/
def oneByOne : List (ℕ × Env) := List.replicate 3 (0, { now := 1 }) ++ List.replicate 3 (1, { now := 1 })

/-- Two claims that overlap spend the same points. -/
theorem claims_can_overspend :
    ¬∀ (s : State) (c : Config Op Error State), Fit s → rewarding.Run System.anyOp ⟨s, []⟩ c → 0 ≤ pointsOf s.db 1 →
      0 ≤ pointsOf c.world.db 1 := by
  intro h
  have hnonneg := h tenPoints _ tenPoints_fit (rewarding.schedule_run twoClaims_start overlapping)
    (by decide +kernel)
  revert hnonneg
  decide +kernel

/-- One of two claims gets the points, where they come one by one. -/
theorem reward_points_claimed :
    let c := rewarding.follow ⟨tenPoints, twoClaims⟩ oneByOne
    pointsOf c.world.db 1 = 0 ∧ c.world.spent 1 = 10 := by
  have hrun : rewarding.Run System.anyOp ⟨tenPoints, []⟩ _ := rewarding.schedule_run twoClaims_start oneByOne
  have hspent : (rewarding.follow ⟨tenPoints, twoClaims⟩ oneByOne).world.spent 1 = 10 := by decide +kernel
  have hsum := (reward_points tenPoints_fit hrun).1 1
  have hbefore : pointsOf tenPoints.db 1 = 10 ∧ tenPoints.spent 1 = 0 ∧ earnedPoints tenPoints.db 1 = 0 := by
    decide +kernel
  have hearned : earnedPoints (rewarding.follow ⟨tenPoints, twoClaims⟩ oneByOne).world.db 1 = 0 := by decide +kernel
  rw [hspent, hbefore.1, hbefore.2.1, hbefore.2.2, hearned] at hsum
  exact ⟨by omega, hspent⟩

end Superstore.Vouchers

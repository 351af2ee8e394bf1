import Mathlib.Data.Rat.Floor
import Mathlib.Tactic.NormNum
import Superstore.Interleaving.Runs
import Superstore.Json.Value
import Superstore.Relational.Ledger
import Superstore.Store.Schema

/-!
# Return requests

The customer of a delivered order lists what is to be returned, as JSON values of any shape. Each entry is
compared with the item it names, by comparisons that hold of no quantity that is not a number, and entries
for one item are not added up. A request is entered after a look for an active one of the same order. Where
the quantities are whole numbers, repeated entries stay within what was bought, and the statement that
enters a request finds what the look has found, requests are bounded and one at a time is active.
-/

namespace Superstore.Returns

open Interleaving Relational

/-! ## Numbers and comparisons -/

/-- A number of the language; those that are finite are taken exactly. -/
inductive JsNumber
  | nan
  | negInfinity
  | finite (q : ℚ)
  | infinity
  deriving DecidableEq

/-- Whether a number is less than another one; what is not a number is neither less nor greater. -/
def JsNumber.lt : JsNumber → JsNumber → Bool
  | .finite p, .finite q => decide (p < q)
  | .negInfinity, .finite _ => true
  | .negInfinity, .infinity => true
  | .finite _, .infinity => true
  | _, _ => false

/-- A value of a request body. -/
abbrev JsonValue := Json.Value String JsNumber

/-- What goes wrong with a request. -/
inductive Failure
  | notFound (message : String)
  | badRequest (message : String)
  | conflict (message : String)
  | typeError
  | unavailable
  deriving DecidableEq

/-- How texts, arrays and objects are compared with numbers. Nothing is assumed of it. -/
structure Coercion where
  ofText : String → JsNumber
  ofObject : JsonValue → Except Failure JsNumber

/-- The number that a value is compared as; a missing value is not a number. -/
def toNumber (c : Coercion) : Option JsonValue → Except Failure JsNumber
  | none => .ok .nan
  | some .null => .ok (.finite 0)
  | some (.bool b) => .ok (.finite (if b then 1 else 0))
  | some (.num n) => .ok n
  | some (.str s) => .ok (c.ofText s)
  | some (.arr items) => c.ofObject (.arr items)
  | some (.obj entries) => c.ofObject (.obj entries)

/-- A property of a value; only objects have the properties of interest. -/
def property (v : JsonValue) (key : String) : Option JsonValue :=
  match v with
  | .obj entries => (entries.find? fun e => e.1 == key).map Prod.snd
  | _ => none

/-! ## The check of the list -/

/-- An item of an order. -/
structure OrderItem where
  id : ℕ
  quantity : ℕ
  deriving DecidableEq

/-- An order, whose items have ids of their own. -/
structure Order where
  userId : ℕ
  currentStatus : OrderStatus
  updatedAt : ℤ
  items : List OrderItem
  distinct : (items.map (·.id)).Nodup

/-- Whether an entry names an item. -/
def names (requested : JsonValue) (id : ℕ) : Bool :=
  match property requested "orderItemId" with
  | some (.num n) => n == .finite id
  | _ => false

/-- Whether an entry of the list is refused; an entry that is null has no properties to ask for. -/
def invalidItem (c : Coercion) (items : List OrderItem) (requested : JsonValue) : Except Failure Bool :=
  match requested with
  | .null => .error .typeError
  | requested =>
    match items.find? fun item => names requested item.id with
    | none => .ok true
    | some item => do
      let quantity ← toNumber c (property requested "quantity")
      .ok (quantity.lt (.finite 1) || (JsNumber.finite item.quantity).lt quantity)

/-- Whether some entry of the list is refused; the entries after it are not looked at. -/
def someInvalid (c : Coercion) (items : List OrderItem) : List JsonValue → Except Failure Bool
  | [] => .ok false
  | requested :: rest => do
    let invalid ← invalidItem c items requested
    if invalid then .ok true else someInvalid c items rest

/-! ## What the list should be -/

/-- The quantity of an entry, if it is a finite number. -/
def quantityOf (requested : JsonValue) : ℚ :=
  match property requested "quantity" with
  | some (.num (.finite q)) => q
  | _ => 0

/-- The entries for an item. -/
def entriesFor (listed : List JsonValue) (id : ℕ) : List JsonValue := listed.filter fun r => names r id

/-- What is requested of an item, all entries together. -/
def requestedOf (listed : List JsonValue) (id : ℕ) : ℚ := ((entriesFor listed id).map quantityOf).sum

/-- Every entry names an item and a positive whole number, and no item is requested beyond what was bought. -/
structure Bounded (items : List OrderItem) (listed : List JsonValue) : Prop where
  positive : ∀ r ∈ listed, ∃ item ∈ items, ∃ n : ℕ, names r item.id ∧
    property r "quantity" = some (.num (.finite n)) ∧ 0 < n
  total : ∀ item ∈ items, requestedOf listed item.id ≤ item.quantity

/-- Whether the quantity of an entry is given as a number without fraction. -/
def wholeQuantity (requested : JsonValue) : Bool :=
  match property requested "quantity" with
  | some (.num (.finite q)) => q.den == 1
  | _ => false

/-- Whether quantities are whole numbers, and items that are listed repeatedly are not requested beyond
what was bought. -/
def countable (items : List OrderItem) (listed : List JsonValue) : Bool :=
  listed.all wholeQuantity && items.all fun item =>
    decide ((entriesFor listed item.id).length ≤ 1) || decide (requestedOf listed item.id ≤ item.quantity)

/-- A sequence of checks returns exactly when each of them does. -/
theorem checks_eq_ok {α β : Type} {x : Except Failure α} {f : α → Except Failure β} {b : β} :
    (x >>= f) = .ok b ↔ ∃ a, x = .ok a ∧ f a = .ok b := by
  cases x <;> simp [bind, Except.bind]

/-- An entry that is accepted names an item and does not exceed it. -/
theorem invalidItem_eq_false {c : Coercion} {items : List OrderItem} {requested : JsonValue}
    (h : invalidItem c items requested = .ok false) :
    ∃ item quantity, items.find? (fun item => names requested item.id) = some item ∧
      toNumber c (property requested "quantity") = .ok quantity ∧ quantity.lt (.finite 1) = false ∧
      (JsNumber.finite item.quantity).lt quantity = false := by
  unfold invalidItem at h
  split at h
  · cases h
  · cases hitem : items.find? fun item => names requested item.id with
    | none =>
      rw [hitem] at h
      cases h
    | some item =>
      rw [hitem] at h
      obtain ⟨quantity, hquantity, hchecks⟩ := checks_eq_ok.mp h
      obtain ⟨hleast, hmost⟩ := Bool.or_eq_false_iff.mp (Except.ok.inj hchecks)
      exact ⟨item, quantity, rfl, hquantity, hleast, hmost⟩

/-- Every entry of an accepted list is accepted. -/
theorem someInvalid_eq_false {c : Coercion} {items : List OrderItem} {listed : List JsonValue}
    (h : someInvalid c items listed = .ok false) : ∀ r ∈ listed, invalidItem c items r = .ok false := by
  induction listed with
  | nil => simp
  | cons r rest ih =>
    rw [someInvalid] at h
    obtain ⟨invalid, hinvalid, hrest⟩ := checks_eq_ok.mp h
    cases invalid with
    | true => cases hrest
    | false => exact List.forall_mem_cons.mpr ⟨hinvalid, ih hrest⟩

/-- An entry names one item only. -/
theorem eq_of_names {r : JsonValue} {i j : ℕ} (hi : names r i) (hj : names r j) : i = j := by
  unfold names at hi hj
  split at hi
  · next n hn =>
    simp only [hn, beq_iff_eq] at hi hj
    rw [hi] at hj
    exact_mod_cast JsNumber.finite.inj hj
  · cases hi

/-- A whole quantity. -/
theorem wholeQuantity_iff {r : JsonValue} :
    wholeQuantity r ↔ ∃ n : ℤ, property r "quantity" = some (.num (.finite n)) := by
  unfold wholeQuantity
  split
  · next q hq =>
    rw [hq, beq_iff_eq]
    constructor
    · intro hden
      exact ⟨q.num, by rw [(Rat.den_eq_one_iff q).mp hden]⟩
    · rintro ⟨n, hn⟩
      cases hn
      exact Rat.den_intCast n
  · next hother =>
    constructor
    · intro h
      cases h
    · rintro ⟨n, hn⟩
      exact absurd hn (hother n)

/-- The whole quantity of an accepted entry is positive, and no more than was bought. -/
theorem accepted_quantity {c : Coercion} {items : List OrderItem} {r : JsonValue} {n : ℤ}
    (h : invalidItem c items r = .ok false) (hn : property r "quantity" = some (.num (.finite n))) :
    ∃ item ∈ items, names r item.id ∧ 0 < n ∧ (n : ℚ) ≤ item.quantity := by
  obtain ⟨item, quantity, hitem, hquantity, hleast, hmost⟩ := invalidItem_eq_false h
  rw [hn] at hquantity
  cases hquantity
  simp only [JsNumber.lt, decide_eq_false_iff_not, not_lt] at hleast hmost
  refine ⟨item, List.mem_of_find?_eq_some hitem,
    List.find?_some (p := fun item : OrderItem => names r item.id) hitem, ?_, hmost⟩
  exact_mod_cast hleast

/-- An accepted list is bounded if and only if its quantities are whole numbers, and repeated entries stay within
what was bought. -/
theorem bounded_iff {c : Coercion} {items : List OrderItem} {listed : List JsonValue}
    (hdistinct : (items.map (·.id)).Nodup) (h : someInvalid c items listed = .ok false) :
    Bounded items listed ↔ countable items listed := by
  have haccepted := someInvalid_eq_false h
  rw [countable, Bool.and_eq_true, List.all_eq_true, List.all_eq_true]
  constructor
  · intro hbounded
    refine ⟨fun r hr => ?_, fun item hitem => ?_⟩
    · obtain ⟨_, _, n, _, hn, _⟩ := hbounded.positive r hr
      exact wholeQuantity_iff.mpr ⟨n, by exact_mod_cast hn⟩
    · rw [Bool.or_eq_true, decide_eq_true_eq, decide_eq_true_eq]
      exact .inr (hbounded.total item hitem)
  · rintro ⟨hwhole, hrepeated⟩
    refine ⟨fun r hr => ?_, fun item hitem => ?_⟩
    · obtain ⟨n, hn⟩ := wholeQuantity_iff.mp (hwhole r hr)
      obtain ⟨item, hitem, hnames, hpos, _⟩ := accepted_quantity (haccepted r hr) hn
      obtain ⟨m, rfl⟩ := Int.eq_ofNat_of_zero_le hpos.le
      exact ⟨item, hitem, m, hnames, by exact_mod_cast hn, by exact_mod_cast hpos⟩
    · have hitems := hrepeated item hitem
      rw [Bool.or_eq_true, decide_eq_true_eq, decide_eq_true_eq] at hitems
      rcases hitems with hone | htotal
      · -- The only entry for the item has been compared with it.
        rw [requestedOf]
        cases hentries : entriesFor listed item.id with
        | nil => simp
        | cons r rest =>
          rw [hentries] at hone
          obtain rfl : rest = [] := List.length_eq_zero_iff.mp (Nat.le_zero.mp (Nat.le_of_succ_le_succ hone))
          have hmem : r ∈ entriesFor listed item.id := hentries ▸ List.mem_cons_self
          obtain ⟨hr, hnames⟩ := List.mem_filter.mp hmem
          obtain ⟨n, hn⟩ := wholeQuantity_iff.mp (hwhole r hr)
          obtain ⟨item', hitem', hnames', _, hle⟩ := accepted_quantity (haccepted r hr) hn
          obtain rfl := List.inj_on_of_nodup_map hdistinct hitem' hitem (eq_of_names hnames' hnames)
          simpa [quantityOf, hn] using hle
      · exact htotal

/-! ## Requests -/

/-- A return that a customer has asked for. -/
structure OrderReturn where
  orderId : ℕ
  userId : ℕ
  reason : String
  details : Option String := none
  items : Option (List JsonValue) := none
  evidenceUrls : Option (List JsonValue) := none
  status : String := "PENDING"

/-- What a request for a return says. -/
structure ReturnOrderDto where
  reason : String
  details : Option String := none
  items : Option (List JsonValue) := none
  evidenceUrls : Option (List JsonValue) := none

/-- A return that has not been decided against, or closed. -/
def OrderReturn.active (r : OrderReturn) : Bool := r.status == "PENDING" || r.status == "APPROVED"

/-- The tables of the returns. -/
structure State where
  order : Table Order := Table.empty
  orderReturn : Table OrderReturn := Table.empty

/-- What a call receives from outside: the time, and whether it fails. -/
structure Env where
  now : ℤ := 0
  fails : Bool := false

/-- The calls of a return request; each is atomic. -/
inductive Op : Type → Type 1
  | findOrder (userId id : ℕ) : Op (Option Order)
  | now : Op ℤ
  | findActive (orderId : ℕ) : Op (Option OrderReturn)
  | create (row : OrderReturn) : Op OrderReturn

/-- What a call does when it comes through. -/
def perform : {α : Type} → Op α → Env → State → Except Failure α × State
  | _, .findOrder userId id, _, s => (.ok ((s.order.find id).filter fun o => o.userId == userId), s)
  | _, .now, e, s => (.ok e.now, s)
  | _, .findActive orderId, _, s =>
    (.ok ((s.orderReturn.first fun _ r => r.orderId == orderId && r.active).map Prod.snd), s)
  | _, .create row, _, s => (.ok row, { s with orderReturn := s.orderReturn.create row })

/-- What a call does; one that fails changes nothing. -/
def exec {α : Type} (op : Op α) (e : Env) (s : State) : Except Failure α × State :=
  if e.fails then (.error .unavailable, s) else perform op e s

/-- A program over the calls of returns. -/
abbrev Request := Prog Op Failure

/-- Fourteen days, in milliseconds. -/
def returnWindowMs : ℤ := 14 * 24 * 60 * 60 * 1000

/-- Request the return of an order. -/
def requestReturn (c : Coercion) (userId id : ℕ) (dto : ReturnOrderDto) : Request OrderReturn := do
  let order ← Prog.call (.findOrder userId id)
  let order ← Prog.orFail order (.notFound "Order not found.")
  Prog.require (order.currentStatus = .delivered ∨ order.currentStatus = .completed)
    (.badRequest "Only delivered orders can be returned.")
  let now ← Prog.call .now
  Prog.require (now - order.updatedAt ≤ returnWindowMs) (.badRequest "The 14-day return window has expired.")
  let active ← Prog.call (.findActive id)
  Prog.require (active.isNone) (.conflict "An active return request already exists for this order.")
  let invalid ← Prog.done ((dto.items.map (someInvalid c order.items)).getD (.ok false))
  Prog.require (invalid = false) (.badRequest "Return items or quantities are invalid.")
  Prog.call (.create
    { orderId := id, userId := userId, reason := dto.reason, details := dto.details, items := dto.items,
      evidenceUrls := dto.evidenceUrls })

/-! ## The system -/

/-- The calls, run on the tables. -/
def machine : Machine Op Failure State Env where
  exec := exec

/-- The requests of customers. -/
inductive ReturnRequest (c : Coercion) : Request Unit → Prop
  | requestReturn (userId id : ℕ) (dto : ReturnOrderDto) :
      ReturnRequest c ((requestReturn c userId id dto).bind fun _ => pure ())

/-- An order keeps its items. -/
def Order.Keeps (o o' : Order) : Prop := o'.items = o.items

/-- Keeping the items of an order is reflexive and transitive. -/
instance : IsPreorder Order Order.Keeps where
  refl _ := rfl
  trans _ _ _ h h' := Eq.trans h' h

/-- Outside of the requests orders keep their items, and returns may be closed. -/
structure Outside (s s' : State) : Prop where
  orders : s.order.Evolves Order.Keeps s'.order
  returns : ∀ i r', s'.orderReturn.find i = some r' → ∃ r, s.orderReturn.find i = some r ∧ r'.orderId = r.orderId ∧
    r'.items = r.items ∧ (r'.active → r.active)

/-- Any number of interleaved requests. -/
def returning (c : Coercion) : System Op Failure State Env :=
  { machine with
    starts := ReturnRequest c
    background := Outside }

/-- The statement that enters a request finds no active return of its order, and the list has whole quantities,
which stay within what was bought where entries are repeated. -/
def Op.meets : {α : Type} → Op α → State → Bool
  | _, .create row, s =>
    (s.orderReturn.first fun _ r => r.orderId == row.orderId && r.active).isNone &&
      (s.order.find row.orderId).all fun o => row.items.all (countable o.items)
  | _, _, _ => true

/-- Listed returns are bounded by what was bought, and an order has one active return at most. -/
structure Sound (s : State) : Prop where
  bounded : ∀ i r listed, s.orderReturn.find i = some r → r.items = some listed →
    ∃ o, s.order.find r.orderId = some o ∧ Bounded o.items listed
  single : ∀ i j r r', s.orderReturn.find i = some r → s.orderReturn.find j = some r' → r.active → r'.active →
    r.orderId = r'.orderId → i = j

/-- The list of a request that is entered has been accepted for the items of its order. -/
def Op.Grounded (c : Coercion) : {α : Type} → Op α → State → Prop
  | _, .create row, s => ∃ o, s.order.find row.orderId = some o ∧
      ∀ listed, row.items = some listed → someInvalid c o.items listed = .ok false
  | _, _, _ => True

/-- What is kept of returns. -/
def bounds (c : Coercion) : Contract Op State Env where
  inv := Sound
  guar s s' := s.order.Evolves Order.Keeps s'.order
  known op s := op.Grounded c s
  allowed op e s := e.fails || op.meets s
  refl s := .refl s.order
  trans := .trans

/-- A request whose list is bounded is entered where no return of the order is active. -/
theorem Sound.enter {s : State} (h : Sound s) {row : OrderReturn}
    (hnone : (s.orderReturn.first fun _ r => r.orderId == row.orderId && r.active) = none)
    (hbounded : ∀ listed, row.items = some listed → ∃ o, s.order.find row.orderId = some o ∧
      Bounded o.items listed) :
    Sound { s with orderReturn := s.orderReturn.create row } := by
  have hother {i : ℕ} {r : OrderReturn} (hr : s.orderReturn.find i = some r) (hactive : r.active)
      (hsame : r.orderId = row.orderId) : False := by
    have hfalse := Table.first_eq_none.mp hnone i r hr
    rw [hsame, hactive, beq_self_eq_true] at hfalse
    cases hfalse
  constructor
  · intro i r listed hr hlisted
    rcases Ledger.find_of_create hr with ⟨_, rfl⟩ | hold
    · exact hbounded listed hlisted
    · exact h.bounded i r listed hold hlisted
  · intro i j r r' hr hr' hactive hactive' hsame
    rcases Ledger.find_of_create hr with ⟨rfl, rfl⟩ | hold <;>
      rcases Ledger.find_of_create hr' with ⟨rfl, rfl⟩ | hold'
    · rfl
    · exact (hother hold' hactive' hsame.symm).elim
    · exact (hother hold hactive hsame).elim
    · exact h.single i j r r' hold hold' hactive hactive' hsame

/-- Every call keeps returns within what has been bought. -/
theorem bounds_safe (c : Coercion) {α : Type} (op : Op α) : (bounds c).Safe machine op := by
  intro e s hinv hknown hallowed
  change Sound (exec op e s).2 ∧ s.order.Evolves Order.Keeps (exec op e s).2.order
  rw [exec]
  split
  · exact ⟨hinv, .refl _⟩
  · next hfails =>
    cases op with
    | findOrder _ _ | now | findActive _ => exact ⟨hinv, .refl _⟩
    | create row =>
      have hmeets : Op.meets (.create row) s = true := by
        rcases Bool.or_eq_true_iff.mp hallowed with h | h
        · exact absurd h hfails
        · exact h
      rw [Op.meets, Bool.and_eq_true, Option.isNone_iff_eq_none] at hmeets
      obtain ⟨o, ho, haccepted⟩ := hknown
      refine ⟨hinv.enter hmeets.1 fun listed hlisted => ⟨o, ho, ?_⟩, .refl _⟩
      have hcountable := hmeets.2
      rw [ho, hlisted] at hcountable
      exact (bounded_iff o.distinct (haccepted listed hlisted)).mpr hcountable

/-- A request is entered once its list has been accepted for the items of the order. -/
theorem requestReturn_ready (c : Coercion) (userId id : ℕ) (dto : ReturnOrderDto) (s : State) :
    (bounds c).Ready machine ((requestReturn c userId id dto).bind fun _ => pure ()) s := by
  refine Contract.Ready.bind ?_ fun _ _ => trivial
  refine .call_bind (fun _ _ _ => trivial) fun e s₁ _ _ _ _ _ found hfound => .orFail_bind fun order horder => ?_
  -- The order is found in the state in which it is read, and keeps its items from there on.
  have hread : (exec (.findOrder userId id) e s₁).2 = s₁ ∧ s₁.order.find id = some order := by
    change (exec (.findOrder userId id) e s₁).1 = .ok found at hfound
    rw [exec] at hfound ⊢
    split at hfound
    · cases hfound
    · next hfails =>
      rw [if_neg hfails]
      obtain rfl := Except.ok.inj hfound
      exact ⟨rfl, (Option.filter_eq_some_iff.mp horder).1⟩
  change (bounds c).Ready machine _ (exec (.findOrder userId id) e s₁).2
  rw [hread.1]
  refine .require_bind fun _ => .then (fun _ _ _ => trivial) fun now s₂ h₂ _ => .require_bind fun _ => ?_
  refine .then (fun _ _ _ => trivial) fun active s₃ h₃ _ => .require_bind fun _ => ?_
  refine .done_bind fun invalid hinvalid => .require_bind fun hfalse => .call fun s₄ h₄ _ => ?_
  obtain ⟨o, ho, hkeeps⟩ := (h₂.trans (h₃.trans h₄)) id order hread.2
  refine ⟨o, ho, fun listed hlisted => ?_⟩
  rw [show o.items = order.items from hkeeps, ← hfalse, ← hinvalid]
  rw [show dto.items = some listed from hlisted]
  rfl

/-- The requests for returns keep within what has been bought. -/
theorem bounds_hold (c : Coercion) : (bounds c).Holds (returning c) where
  starts hp s _ := by
    cases hp with
    | requestReturn userId id dto => exact requestReturn_ready c userId id dto s
  performs op := bounds_safe c op
  background {s s'} h hinv := by
    refine ⟨⟨fun i r listed hr hlisted => ?_, fun i j r r' hr hr' hactive hactive' hsame => ?_⟩, h.orders⟩
    · obtain ⟨r₀, hr₀, horder, hitems, _⟩ := h.returns i r hr
      obtain ⟨o, ho, hbounded⟩ := hinv.bounded i r₀ listed hr₀ (hitems ▸ hlisted)
      obtain ⟨o', ho', hkeeps⟩ := h.orders _ o ho
      refine ⟨o', horder ▸ ho', ?_⟩
      rw [show o'.items = o.items from hkeeps]
      exact hbounded
    · obtain ⟨r₀, hr₀, horder, _, hwas⟩ := h.returns i r hr
      obtain ⟨r₀', hr₀', horder', _, hwas'⟩ := h.returns j r' hr'
      exact hinv.single i j r₀ r₀' hr₀ hr₀' (hwas hactive) (hwas' hactive')
        (horder.symm.trans (hsame.trans horder'))

/-- Where every request is entered without an active return of its order, with whole quantities that stay within
what was bought where entries are repeated, the quantities of every return are positive whole numbers that add up
to no more than was bought, and an order has one active return at most. Of a list that is accepted, no less will
do. -/
theorem returns_bounded (c : Coercion) {s : State} (hs : ∀ i, s.orderReturn.find i = none)
    {cfg : Config Op Failure State}
    (hrun : (returning c).Run (fun op e cfg => e.fails || op.meets cfg.world) ⟨s, []⟩ cfg) :
    (∀ i r listed, cfg.world.orderReturn.find i = some r → r.items = some listed →
      ∃ o, cfg.world.order.find r.orderId = some o ∧ Bounded o.items listed) ∧
    (∀ i j r r', cfg.world.orderReturn.find i = some r → cfg.world.orderReturn.find j = some r' →
      r.active → r'.active → r.orderId = r'.orderId → i = j) ∧
    ∀ (o : Order) listed, someInvalid c o.items listed = .ok false →
    (Bounded o.items listed ↔ countable o.items listed) := by
  have hsound : Sound s :=
    ⟨fun i r _ hr => absurd hr (by simp [hs i]), fun i _ r _ hr => absurd hr (by simp [hs i])⟩
  have hstart : (bounds c).Sound (returning c) ⟨s, []⟩ := ⟨hsound, nofun⟩
  obtain ⟨hend, _⟩ := (bounds_hold c).run hstart hrun
  exact ⟨hend.1.bounded, hend.1.single, fun o _ haccepted => bounded_iff o.distinct haccepted⟩

/-! ## Lists that slip through -/

/-- No text, array or object is compared as a number. -/
def plain : Coercion where
  ofText _ := .nan
  ofObject _ := .ok .nan

/-- A delivered order for two pieces of one item. -/
def delivered : State where
  order := Table.empty.create ⟨1, .delivered, 0, [⟨5, 2⟩], by decide⟩

/-- An entry for the item of the order. -/
def entry (rest : List (String × JsonValue)) : JsonValue := .obj (("orderItemId", .num (.finite 5)) :: rest)

/-- A request for the return of the order. -/
def returnOf (listed : List JsonValue) : Request Unit :=
  (requestReturn plain 1 1 { reason := "Item arrived damaged", items := some listed }).bind fun _ => pure ()

/-- The requests of the example can be made. -/
theorem returnOf_start (requests : List (List JsonValue)) :
    ∀ p ∈ requests.map returnOf, (returning plain).starts p := by
  intro p hp
  obtain ⟨listed, _, rfl⟩ := List.mem_map.mp hp
  exact .requestReturn 1 1 _

/-- A whole quantity. -/
def onePiece : JsonValue := entry [("quantity", .num (.finite 1))]

/-- Both requests look for an active return before one of them is entered. -/
def bothLook : List (ℕ × Env) := [(0, {}), (0, {}), (0, {}), (1, {}), (1, {}), (1, {}), (0, {}), (1, {})]

/-- An entry without a quantity is accepted, and two requests that look before either is entered are
both entered. -/
theorem returns_can_exceed :
    (¬∀ cfg : Config Op Failure State, (returning plain).Run System.anyOp ⟨delivered, []⟩ cfg →
      ∀ i r listed, cfg.world.orderReturn.find i = some r → r.items = some listed →
        ∃ o, cfg.world.order.find r.orderId = some o ∧ Bounded o.items listed) ∧
    ¬∀ cfg : Config Op Failure State, (returning plain).Run System.anyOp ⟨delivered, []⟩ cfg →
      ∀ i j r r', cfg.world.orderReturn.find i = some r → cfg.world.orderReturn.find j = some r' →
        r.active → r'.active → r.orderId = r'.orderId → i = j := by
  constructor
  · intro h
    have hrun := (returning plain).schedule_run (s := delivered) (returnOf_start [[entry []]])
      (List.replicate 4 (0, ({} : Env)))
    have hentered : ((((returning plain).follow ⟨delivered, [[entry []]].map returnOf⟩
        (List.replicate 4 (0, ({} : Env)))).world.orderReturn.find 1).bind (·.items)).map (·.map wholeQuantity) =
        some [false] := by decide +kernel
    obtain ⟨listed, hitems, hwhole⟩ := Option.map_eq_some_iff.mp hentered
    obtain ⟨r, hr, hlisted⟩ := Option.bind_eq_some_iff.mp hitems
    obtain ⟨o, _, hbounded⟩ := h _ hrun 1 r listed hr hlisted
    have hfalse : false ∈ listed.map wholeQuantity := hwhole ▸ List.mem_cons_self
    obtain ⟨e, he, hnot⟩ := List.mem_map.mp hfalse
    obtain ⟨_, _, n, _, hn, _⟩ := hbounded.positive e he
    rw [wholeQuantity_iff.mpr ⟨n, by exact_mod_cast hn⟩] at hnot
    cases hnot
  · intro h
    have hrun := (returning plain).schedule_run (returnOf_start [[onePiece], [onePiece]]) bothLook (s := delivered)
    have hfirst : (((returning plain).follow ⟨delivered, [[onePiece], [onePiece]].map returnOf⟩
        bothLook).world.orderReturn.find 1).map (fun r => (r.orderId, r.active)) =
          some (1, true) := by decide +kernel
    have hsecond : (((returning plain).follow ⟨delivered, [[onePiece], [onePiece]].map returnOf⟩
        bothLook).world.orderReturn.find 2).map (fun r => (r.orderId, r.active)) =
          some (1, true) := by decide +kernel
    obtain ⟨r, hr, hactive⟩ := Option.map_eq_some_iff.mp hfirst
    obtain ⟨r', hr', hactive'⟩ := Option.map_eq_some_iff.mp hsecond
    obtain ⟨horder, hactive⟩ := Prod.mk.inj hactive
    obtain ⟨horder', hactive'⟩ := Prod.mk.inj hactive'
    exact absurd (h _ hrun 1 2 r r' hr hr' hactive hactive' (horder.trans horder'.symm)) (by decide)

/-- A request for one of two pieces is bounded. -/
theorem returns_bounded_one : ∃ cfg : Config Op Failure State, ∃ r listed o, cfg.world.orderReturn.find 1 = some r ∧
    r.items = some listed ∧ listed.length = 1 ∧ cfg.world.order.find r.orderId = some o ∧
      Bounded o.items listed := by
  have hallows : (returning plain).allows (fun op e cfg => e.fails || op.meets cfg.world)
      ⟨delivered, [[onePiece]].map returnOf⟩ (List.replicate 4 (0, ({} : Env))) := by decide +kernel
  have hrun : (returning plain).Run (fun op e cfg => e.fails || op.meets cfg.world) ⟨delivered, []⟩ _ :=
    ((returning plain).start_all_run (returnOf_start [[onePiece]])).trans ((returning plain).follow_run_of hallows)
  have hentered : ((((returning plain).follow ⟨delivered, [[onePiece]].map returnOf⟩
      (List.replicate 4 (0, ({} : Env)))).world.orderReturn.find 1).bind (·.items)).map List.length = some 1 := by
    decide +kernel
  obtain ⟨listed, hitems, hlength⟩ := Option.map_eq_some_iff.mp hentered
  obtain ⟨r, hr, hlisted⟩ := Option.bind_eq_some_iff.mp hitems
  obtain ⟨o, ho, hbounded⟩ := (returns_bounded plain (s := delivered) (fun _ => rfl) hrun).1 1 r listed hr hlisted
  exact ⟨_, r, listed, o, hr, hlisted, hlength, ho, hbounded⟩

end Superstore.Returns

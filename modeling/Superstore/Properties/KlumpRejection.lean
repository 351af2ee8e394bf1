import Superstore.Checkout.Pricing
import Superstore.Properties.Fulfilment

/-!
# Klump checkouts that cannot be paid

Klump takes positive whole amounts only. A checkout is placed in a first transaction, and its
amounts are looked at in a second one. If they are refused then, the first transaction stays:
the goods are reserved, and the customer's cart has an active checkout that Klump will never
take. So a refusal leaves no trace exactly when it cannot happen.
-/

namespace Superstore

open Interleaving Relational.Tx

namespace Klump

/-- An amount that Klump takes. -/
def Payable (amount : ℚ) : Prop := amount.den = 1 ∧ 0 < amount ∧ amount ≤ maxSafeInteger

/-- The refusal of an amount. -/
def AmountError (err : Error) : Prop :=
  ∃ label : String, err = .badRequest (label ++ " must be a whole-number NGN amount.") ∨
    err = .badRequest (label ++ " is outside Klump's supported amount range.")

/-- The amounts of a checkout that Klump takes: its total and what each of its orders costs. -/
def AllPayable (db : Database) (group : CheckoutPaymentGroup) : Prop :=
  Payable group.totalAmount ∧
    ∀ a ∈ group.allocations, ∀ o, (db .order).find a.orderId = some o → Payable o.total

/-- An amount that Klump takes is passed on. -/
theorem integerAmount_of_payable {amount : ℚ} (h : Payable amount) (label : String) :
    integerAmount amount label = .ok amount := by
  simp only [integerAmount, ensure, if_pos h.1, if_pos h.2]
  rfl

/-- An amount that Klump does not take is refused. -/
theorem integerAmount_of_not {amount : ℚ} (h : ¬Payable amount) (label : String) :
    ∃ err, AmountError err ∧ integerAmount amount label = .error err := by
  by_cases hwhole : amount.den = 1
  · have hrange : ¬(0 < amount ∧ amount ≤ maxSafeInteger) := fun hr => h ⟨hwhole, hr⟩
    refine ⟨_, ⟨label, .inr rfl⟩, ?_⟩
    simp only [integerAmount, ensure, if_pos hwhole, if_neg hrange]
    rfl
  · refine ⟨_, ⟨label, .inl rfl⟩, ?_⟩
    simp only [integerAmount, ensure, if_neg hwhole]
    rfl

/-- A text that ends neither way is not the refusal of an amount. -/
theorem not_amountError {text : String}
    (hwhole : ¬" must be a whole-number NGN amount.".toList <:+ text.toList)
    (hrange : ¬" is outside Klump's supported amount range.".toList <:+ text.toList) :
    ¬AmountError (.badRequest text) := by
  rintro ⟨label, h | h⟩
  · obtain rfl := Error.badRequest.inj h
    exact hwhole (by rw [String.toList_append]; exact List.suffix_append _ _)
  · obtain rfl := Error.badRequest.inj h
    exact hrange (by rw [String.toList_append]; exact List.suffix_append _ _)

/-- A loop fails with the error of one of its rounds. -/
theorem mapM_eq_error {α β : Type} {f : α → Except Error β} {xs : List α} {err : Error}
    (h : xs.mapM f = .error err) : ∃ x ∈ xs, f x = .error err := by
  induction xs with
  | nil => cases h
  | cons x xs ih =>
    rw [List.mapM_cons] at h
    cases hx : f x with
    | error e =>
      rw [hx] at h
      cases h
      exact ⟨x, List.mem_cons_self, hx⟩
    | ok y =>
      rw [hx] at h
      cases hxs : xs.mapM f with
      | error e =>
        change (xs.mapM f >>= fun ys => pure (y :: ys)) = _ at h
        rw [hxs] at h
        cases h
        obtain ⟨x', hx', herr⟩ := ih hxs
        exact ⟨x', List.mem_cons_of_mem _ hx', herr⟩
      | ok ys =>
        change (xs.mapM f >>= fun ys => pure (y :: ys)) = _ at h
        rw [hxs] at h
        cases h

/-- A loop in which some round fails does not return. -/
theorem mapM_fails {α β : Type} {f : α → Except Error β} {xs : List α} {x : α} (hx : x ∈ xs)
    {err : Error} (h : f x = .error err) : ∃ e, xs.mapM f = .error e := by
  cases hall : xs.mapM f with
  | error e => exact ⟨e, rfl⟩
  | ok ys =>
    obtain ⟨y, -, hy⟩ := Checkout.exists_of_forall₂ (mapM_eq_ok.mp hall).flip hx
    rw [h] at hy
    cases hy

/-- What one order of a checkout adds to the request to Klump. -/
def orderAmount (db : Database) (a : Allocation) : Except Error ℚ := do
  let order ← fromOption ((db .order).find a.orderId) .recordNotFound
  integerAmount order.total ("Order " ++ order.orderNumber ++ " total")

/-- The amount of an order is checked under the number of the order. -/
theorem orderAmount_eq {db : Database} {a : Allocation} {o : Order}
    (h : (db .order).find a.orderId = some o) :
    orderAmount db a = integerAmount o.total ("Order " ++ o.orderNumber ++ " total") := by
  rw [orderAmount, h]
  rfl

/-- If all orders of a checkout exist, its amounts are refused exactly when not all are payable. -/
theorem checkoutPayload_rejects {db : Database} {group : CheckoutPaymentGroup}
    (hplaced : ∀ a ∈ group.allocations, ∃ o, (db .order).find a.orderId = some o) :
    (AllPayable db group → ∀ err, checkoutPayload db group = .error err → ¬AmountError err) ∧
      (¬AllPayable db group → ∃ err, AmountError err ∧ checkoutPayload db group = .error err) := by
  have hpayload : checkoutPayload db group = (do
      let amount ← integerAmount group.totalAmount "Klump checkout total"
      let items ← group.allocations.mapM (orderAmount db)
      ensure (items.sum = amount) (.badRequest "Klump item totals do not match checkout total.")
      pure items) := rfl
  rw [hpayload]
  constructor
  · intro hall err herr
    rw [integerAmount_of_payable hall.1] at herr
    change (group.allocations.mapM (orderAmount db) >>= _) = _ at herr
    cases hitems : group.allocations.mapM (orderAmount db) with
    | error e =>
      obtain ⟨a, ha, hfails⟩ := mapM_eq_error hitems
      obtain ⟨o, ho⟩ := hplaced a ha
      rw [orderAmount_eq ho, integerAmount_of_payable (hall.2 a ha o ho)] at hfails
      cases hfails
    | ok items =>
      rw [hitems] at herr
      change (ensure (items.sum = group.totalAmount) _ >>= fun _ => pure items) = _ at herr
      unfold ensure at herr
      split at herr
      · cases herr
      · cases herr
        exact not_amountError (by decide +kernel) (by decide +kernel)
  · intro hbad
    by_cases htotal : Payable group.totalAmount
    · have hsome : ∃ a ∈ group.allocations, ∃ o, (db .order).find a.orderId = some o ∧ ¬Payable o.total := by
        by_contra hnone
        push Not at hnone
        exact hbad ⟨htotal, hnone⟩
      obtain ⟨a, ha, o, ho, hnot⟩ := hsome
      obtain ⟨err, herr, hrun⟩ := integerAmount_of_not hnot ("Order " ++ o.orderNumber ++ " total")
      obtain ⟨e, hfails⟩ := mapM_fails ha ((orderAmount_eq ho).trans hrun)
      obtain ⟨b, hb, hcause⟩ := mapM_eq_error hfails
      obtain ⟨o', ho'⟩ := hplaced b hb
      rw [orderAmount_eq ho'] at hcause
      have hrefusal : AmountError e := by
        by_cases hpay : Payable o'.total
        · rw [integerAmount_of_payable hpay] at hcause
          cases hcause
        · obtain ⟨err', herr', hrun'⟩ := integerAmount_of_not hpay ("Order " ++ o'.orderNumber ++ " total")
          rw [hrun'] at hcause
          cases hcause
          exact herr'
      refine ⟨e, hrefusal, ?_⟩
      rw [integerAmount_of_payable htotal]
      change (group.allocations.mapM (orderAmount db) >>= _) = _
      rw [hfails]
      rfl
    · obtain ⟨err, herr, hrun⟩ := integerAmount_of_not htotal "Klump checkout total"
      refine ⟨err, herr, ?_⟩
      rw [hrun]
      rfl

/-- The amounts of a checkout are looked at: it is one of this customer, through Klump, and its
transaction has not been started. -/
structure Starts (userId groupId : ℕ) (group : CheckoutPaymentGroup) (db : Database) : Prop where
  owner : group.userId = userId
  method : group.paymentMethod = .klumpBnpl
  open_ : group.status ≠ .failed
  unstarted : (db .klumpTransaction).first (fun _ k => k.paymentGroupId == groupId) = none
  provider : (group.paymentId.bind (db .payment).find).all (·.provider == .klump) = true

/-- A transaction whose checkout has amounts that are not payable is refused. -/
theorem startTransaction_rejects (e : Env) {userId groupId : ℕ} {group : CheckoutPaymentGroup} {db : Database}
    (hg : (db .checkoutPaymentGroup).find groupId = some group) (h : Starts userId groupId group db)
    {err : Error} (hpayload : checkoutPayload db group = .error err) :
    startTransaction e userId groupId db = .error err := by
  have hfound : (find .checkoutPaymentGroup groupId : Tx _) db = .ok (some group, db) := by
    rw [← hg]
    rfl
  have howner : (orThrow ((some group).filter (·.userId == userId))
      (.notFound "Checkout payment group was not found.") : Tx _) db = .ok (group, db) := by
    rw [Option.filter_some, if_pos (beq_iff_eq.mpr h.owner)]
    rfl
  have hfirst : (first .klumpTransaction (fun _ k => k.paymentGroupId == groupId) : Tx _) db = .ok (none, db) := by
    rw [← h.unstarted]
    rfl
  rw [startTransaction, bind_of_ok hfound, bind_of_ok howner, bind_of_ok (require_of h.method _ db),
    bind_of_ok (require_of h.open_ _ db), bind_of_ok hfirst]
  dsimp only
  rw [bind_of_ok (show (Relational.Tx.query fun db => group.paymentId.bind (db .payment).find : Tx _) db =
    .ok (_, db) from rfl),
    bind_of_ok (require_of h.provider _ db),
      bind_of_ok (show (Relational.Tx.query fun db => checkoutPayload db group : Tx _) db = .ok (_, db) from rfl)]
  refine bind_of_error ?_
  change (ofExcept (checkoutPayload db group) : Tx _) db = _
  rw [hpayload]
  rfl

/-- A transaction fails with the refusal of an amount only because of the amounts of a checkout that it starts. -/
theorem startTransaction_avoids (e : Env) {userId groupId : ℕ} {group : CheckoutPaymentGroup} {db : Database}
    {text : String} (hmode : e.klumpMode ≠ .error (.badRequest text))
    (hg : (db .checkoutPaymentGroup).find groupId = some group)
    (h : Starts userId groupId group db → checkoutPayload db group ≠ .error (.badRequest text)) :
    Avoids (.badRequest text) db (startTransaction e userId groupId) := by
  refine .bind (Spares.query _ _) ((wp_find _ _ _ _).mpr ?_)
  refine .bind (Spares.orThrow _ (fun h => by cases h) _) ((wp_orThrow _ _ _ _).mpr fun g hown => ?_)
  obtain ⟨hfound, howner⟩ := Option.filter_eq_some_iff.mp hown
  obtain rfl := Option.some.inj (hg.symm.trans hfound)
  refine .bind (Spares.require _ (fun h => by cases h) _) ((wp_require _ _ _ _).mpr fun hmethod => ?_)
  refine .bind (Spares.require _ (fun h => by cases h) _) ((wp_require _ _ _ _).mpr fun hopen => ?_)
  refine .bind (Spares.query _ _) ((wp_first _ _ _ _).mpr ?_)
  cases hfirst : (db .klumpTransaction).first fun _ k => k.paymentGroupId == groupId with
  | some existing => exact Spares.pure _ _
  | none =>
    refine .bind (Spares.query _ _) ((wp_query _ _ _).mpr ?_)
    refine .bind (Spares.require _ (fun h => by cases h) _) ((wp_require _ _ _ _).mpr fun hprovider => ?_)
    refine .bind (Spares.query _ _) ((wp_query _ _ _).mpr ?_)
    have hamounts := h ⟨beq_iff_eq.mp howner, hmethod, hopen, hfirst, hprovider⟩
    refine .bind (Spares.ofExcept hamounts _) ((wp_ofExcept _ _ _).mpr fun _ _ => ?_)
    have hpayment : Spares (.badRequest text) (paymentOf e userId group
        ("PURSE-KLUMP-" ++ (toString groupId ++ "-" ++ e.uuid))) := by
      unfold paymentOf
      split
      · exact .pure _
      · exact .createUnique _ _ _ (fun h => by cases h)
    refine (Spares.bind hpayment fun _ => .bind (.update _ _ _ (fun h => by cases h)) fun _ => ?_) db
    exact .bind (.ofExcept hmode) fun _ => .bind (.createUnique _ _ _ (fun h => by cases h)) fun _ => .pure _

/-! ## The whole request -/

/-- The request to place a checkout through Klump. -/
def klumpInput (input : CreateCheckoutDto) : CreateCheckoutDto := { input with paymentMethod := some .klumpBnpl }

/-- A transaction that returns. -/
theorem runTx_of_ok {α : Type} {m : Env → Tx α} {e : Env} (hanswers : e.fails = false) {w : World} {a : α}
    {db : Database} (h : m e w.db = .ok (a, db)) : runTx m e w = (.ok a, { w with db := db }) := by
  rw [runTx, hanswers, if_neg Bool.false_ne_true, h]

/-- A transaction that fails. -/
theorem runTx_of_error {α : Type} {m : Env → Tx α} {e : Env} (hanswers : e.fails = false) {w : World}
    {err : Error} (h : m e w.db = .error err) : runTx m e w = (.error err, w) := by
  rw [runTx, hanswers, if_neg Bool.false_ne_true, h]

/-- An undisturbed transaction. -/
theorem runAlone_transaction {α : Type} {op : Op α} {m : Env → Tx α} (hop : op.transaction = some m) (e : Env)
    (w : World) : (call op).runAlone machine e w = runTx m e w := by
  change op.exec e w = _
  rw [Op.exec, hop]

/-- An undisturbed read. -/
theorem runAlone_read {α : Type} {e : Env} (hanswers : e.fails = false) (f : Database → Except Error α)
    (w : World) : (call (.read f)).runAlone machine e w = (f w.db, w) := by
  have hop : (Op.read f).transaction = some _ := rfl
  have hquery : (Relational.Tx.query f : Tx _) w.db = .ok (f w.db, w.db) := rfl
  rw [runAlone_transaction hop]
  cases hf : f w.db with
  | error err => exact runTx_of_error hanswers (by rw [bind_of_ok hquery, hf]; rfl)
  | ok a => exact runTx_of_ok hanswers (by rw [bind_of_ok hquery, hf]; rfl)

/-- Confirmations are sent without a change of the store. -/
theorem runAlone_dispatch {e : Env} (hanswers : e.fails = false) (c : Prop) [Decidable c]
    (ids : List ℕ) (w : World) :
    (onlyIf c (Payments.dispatchGroupConfirmations ids)).runAlone machine e w = (.ok (), w) := by
  unfold onlyIf
  split
  · rw [Payments.dispatchGroupConfirmations, onlyIf]
    split
    · rw [Prog.bind_eq, Prog.runAlone_bind, select, runAlone_read hanswers]
      change ((if e.fails then Except.error Error.unavailable else .ok ()), w) = _
      rw [hanswers, if_neg Bool.false_ne_true]
    · rfl
  · rfl

section Run

variable {e : Env} (hanswers : e.fails = false) (userId : ℕ) (input : CreateCheckoutDto) (w : World)
include hanswers

/-- A notification that goes through changes nothing here. -/
theorem runAlone_notify : (call .notify).runAlone machine e w = (.ok (), w) := by
  change ((if e.fails then Except.error Error.unavailable else .ok ()), w) = _
  rw [hanswers, if_neg Bool.false_ne_true]

/-- The request stops where no checkout is created. -/
theorem initializeCheckout_refused {err : Error}
    (h : Checkout.createInTransaction e userId (klumpInput input) none w.db = .error err) :
    (initializeCheckout userId input).runAlone machine e w = (.error err, w) := by
  have hop : (Op.createCheckout userId (klumpInput input)).transaction = some _ := rfl
  have hcreate : (call (.createCheckout userId (klumpInput input))).runAlone machine e w = (.error err, w) := by
    rw [runAlone_transaction hop]
    exact runTx_of_error hanswers h
  rw [initializeCheckout, Prog.bind_eq, Prog.runAlone_bind, runAlone_notify hanswers]
  dsimp only
  rw [Prog.bind_eq, Prog.runAlone_bind, Checkout.create, Prog.bind_eq, Prog.runAlone_bind, ← klumpInput, hcreate]

/-- The request goes on to start the transaction of the checkout that it has created or found. -/
theorem initializeCheckout_created {groupId : ℕ} {group : CheckoutPaymentGroup} {db : Database}
    (h : Checkout.createInTransaction e userId (klumpInput input) none w.db = .ok ((groupId, group), db)) :
    (initializeCheckout userId input).runAlone machine e w =
      match Payments.summaryOf userId groupId db with
      | none => (.error (.notFound "Checkout payment group not found."), { w with db := db })
      | some _ => runTx (fun e => startTransaction e userId groupId) e { w with db := db } := by
  have hop : (Op.createCheckout userId (klumpInput input)).transaction = some _ := rfl
  have hcreate : (call (.createCheckout userId (klumpInput input))).runAlone machine e w =
      (.ok (groupId, group), { w with db := db }) := by
    rw [runAlone_transaction hop]
    exact runTx_of_ok hanswers h
  rw [initializeCheckout, Prog.bind_eq, Prog.runAlone_bind, runAlone_notify hanswers]
  dsimp only
  rw [Prog.bind_eq, Prog.runAlone_bind, Checkout.create, Prog.bind_eq, Prog.runAlone_bind, ← klumpInput, hcreate]
  dsimp only
  rw [Prog.bind_eq, Prog.runAlone_bind, runAlone_dispatch hanswers]
  dsimp only
  rw [Payments.summary, selectOrThrow, runAlone_read hanswers]
  cases hsummary : Payments.summaryOf userId groupId db with
  | none => rfl
  | some summary =>
    have hid : summary.paymentGroupId = groupId := by
      obtain ⟨_, -, rfl⟩ := Option.map_eq_some_iff.mp hsummary
      rfl
    have hstart : (Op.startKlump userId groupId).transaction = some _ := rfl
    dsimp only [fromOption]
    rw [hid]
    exact runAlone_transaction hstart e { w with db := db }

end Run

/-! ## What is left behind -/

/-- No checkout waits for the payment of a customer's cart. -/
def Unclaimed (userId : ℕ) (db : Database) : Prop :=
  ∀ c, (db .cart).first (fun _ c => c.userId == userId) = some c →
    ∀ i g, (db .checkoutPaymentGroup).find i = some g → g.activeCartId ≠ some c.1

/-- Stock, cart, orders and payment groups are as they were, and no checkout is active. -/
structure Untouched (userId : ℕ) (db db' : Database) : Prop where
  same : ∀ n ∈ [TableName.storeProduct, .cart, .cartItem, .order, .checkoutPaymentGroup], db' n = db n
  unclaimed : Unclaimed userId db'

/-- A checkout with an active one in its way is refused for that. -/
theorem createInTransaction_unclaimed {e : Env} {userId : ℕ} {input : CreateCheckoutDto} {db : Database}
    {text : String} (h : Checkout.createInTransaction e userId input none db = .error (.badRequest text)) :
    Unclaimed userId db := by
  intro c hc i g hg hactive
  have havoids : Avoids (.badRequest text) db (Checkout.createInTransaction e userId input none) := by
    have hlock : Cart.lock userId db = .ok (c, db) := by
      simp only [Cart.lock, firstOrCreate, Relational.Tx.firstOrCreate, hc]
    refine .bind (fun h => by rw [hlock] at h; cases h) ((wp_of_ok hlock).mpr ?_)
    refine .bind (Spares.require _ (fun h => by cases h) _) ((wp_require _ _ _ _).mpr fun _ => ?_)
    refine .bind (Spares.query _ _) ((wp_first _ _ _ _).mpr ?_)
    cases hpending : (db .checkoutPaymentGroup).first fun _ g => g.activeCartId == some c.1 with
    | none =>
      have hno := Relational.Table.first_eq_none.mp hpending i g hg
      rw [hactive] at hno
      exact absurd hno (by simp)
    | some pending =>
      exact .bind (Spares.require _ (fun h => by cases h) _) ((wp_require _ _ _ _).mpr fun _ => Spares.pure _ _)
  exact havoids h

/-- The group of a checkout is a new one, or the active one of the cart. -/
theorem createInTransaction_left (e : Env) (userId : ℕ) (input : CreateCheckoutDto) (db : Database) :
    wp db (Checkout.createInTransaction e userId input none) fun r db' =>
      (db' .checkoutPaymentGroup).find r.1 = some r.2 ∧
        ((db .checkoutPaymentGroup).find r.1 = none ∨ db' .cart ≠ db .cart ∨ ¬Unclaimed userId db') := by
  have hlock : wp db (Cart.lock userId) fun cart db₁ => db₁ .checkoutPaymentGroup = db .checkoutPaymentGroup ∧
      (db₁ .cart ≠ db .cart ∨ (db₁ .cart).first (fun _ c => c.userId == userId) = some cart) := by
    rw [Cart.lock, wp_firstOrCreate]
    refine ⟨fun cart hcart => ⟨rfl, .inr hcart⟩, fun hnone => ?_⟩
    refine ⟨Relational.Database.set_of_ne _ _ (by decide), .inl fun hsame => ?_⟩
    rw [Relational.Database.set_self] at hsame
    have hfind := Relational.Table.find_create_self (db .cart) { userId := userId }
    rw [hsame, Relational.Table.find_of_next_le le_rfl] at hfind
    cases hfind
  rw [Checkout.createInTransaction, wp_bind]
  refine wp_mono hlock fun cart db₁ hlocked => ?_
  obtain ⟨hsame, hcart⟩ := hlocked
  rw [wp_bind, wp_require]
  intro _
  rw [wp_bind, wp_first]
  cases hpending : (db₁ .checkoutPaymentGroup).first fun _ g => g.activeCartId == some cart.1 with
  | some pending =>
    refine (wp_bind _ _ _ _).mpr ((wp_require _ _ _ _).mpr fun _ => (wp_pure _ _ _).mpr ?_)
    obtain ⟨hfind, hactive⟩ := Relational.Table.find_of_first hpending
    refine ⟨hfind, .inr (hcart.imp_right fun hfirst hunclaimed => ?_)⟩
    exact hunclaimed cart hfirst pending.1 pending.2 hfind (beq_iff_eq.mp hactive)
  | none =>
    refine (wp_bind _ _ _ _).mpr ((wp_query _ _ _).mpr ?_)
    refine (wp_bind _ _ _ _).mpr ((wp_ofExcept _ _ _).mpr fun q _ => ?_)
    refine (wp_bind _ _ _ _).mpr ((wp_require _ _ _ _).mpr fun _ => ?_)
    have hnew : wp db₁ (Checkout.placeCheckout e userId cart.1 input q none) fun id _ =>
        (db₁ .checkoutPaymentGroup).find id = none := by
      rw [Checkout.placeCheckout, wp_bind]
      have hplaced : Writes Checkout.placementTables (q.orders.zipIdx.mapM (Checkout.placeOrder e userId q)) :=
        .mapM fun order _ => Checkout.placeOrder_writes e userId q order
      refine wp_mono (hplaced db₁) fun _ db₂ hkept => ?_
      rw [wp_bind, wp_ofExcept]
      intro group _
      rw [wp_bind, wp_createUnique]
      intro _
      refine wp_bind_of_forall fun _ db₃ => (wp_pure _ _ _).mpr ?_
      rw [← hkept .checkoutPaymentGroup (by decide)]
      exact Relational.Table.find_of_next_le le_rfl
    refine (wp_bind _ _ _ _).mpr (wp_mono hnew fun id db₂ hid => ?_)
    refine (wp_bind _ _ _ _).mpr ((wp_findOrThrow _ _ _ _).mpr fun r hr => (wp_pure _ _ _).mpr ⟨hr, .inl ?_⟩)
    rw [← hsame]
    exact hid

/-- The orders of a group exist wherever the books are consistent. -/
theorem placed_of_consistent {db : Database} (hB : Consistent (books db)) {i : ℕ} {g : CheckoutPaymentGroup}
    (hg : (db .checkoutPaymentGroup).find i = some g) :
    ∀ a ∈ g.allocations, ∃ o, (db .order).find a.orderId = some o := by
  intro a ha
  obtain ⟨n, hn⟩ := Option.isSome_iff_exists.mp (hB.placed i _ (books_group hg).1 a ha)
  obtain ⟨o, ho, -⟩ := Option.map_eq_some_iff.mp hn
  exact ⟨o, ho⟩

/-- A Klump checkout whose amounts are refused leaves everything untouched exactly when this cannot
happen: when no checkout is created or found, or its transaction is not started, or all its amounts
are payable. -/
theorem rejection_untouched {w₀ : World} (hw : Fresh w₀) {c : Config Op Error World}
    (hrun : store.Run System.anyOp ⟨w₀, []⟩ c) {e : Env} (hanswers : e.fails = false)
    (hmode : ∀ err, e.klumpMode = .error err → ¬AmountError err) (userId : ℕ) (input : CreateCheckoutDto) :
    (∀ err, ((initializeCheckout userId input).runAlone machine e c.world).1 = .error err → AmountError err →
      Untouched userId c.world.db ((initializeCheckout userId input).runAlone machine e c.world).2.db) ↔
    ∀ groupId group db, Checkout.createInTransaction e userId (klumpInput input) none c.world.db =
        .ok ((groupId, group), db) → Starts userId groupId group db → AllPayable db group := by
  have hrun' : store.Run (fun op e c => (bookkeeping False).allowed op e c.world) ⟨w₀, []⟩ c :=
    System.Run.mono store hrun fun _ _ _ _ h => h.elim
  have hB : Consistent (books c.world.db) :=
    (bookkeeping_holds.run (c := ⟨w₀, []⟩) ⟨hw.consistent, by simp⟩ hrun').1.1
  cases hcreate : Checkout.createInTransaction e userId (klumpInput input) none c.world.db with
  | error err₀ =>
    rw [initializeCheckout_refused hanswers userId input c.world hcreate]
    refine iff_of_true (fun err herr hamount => ⟨fun _ _ => rfl, ?_⟩) fun _ _ _ h => by cases h
    cases herr
    obtain ⟨label, rfl | rfl⟩ := hamount
    · exact createInTransaction_unclaimed hcreate
    · exact createInTransaction_unclaimed hcreate
  | ok r =>
    obtain ⟨⟨groupId, group⟩, db⟩ := r
    obtain ⟨hg, hleft⟩ := createInTransaction_left e userId (klumpInput input) c.world.db _ _ hcreate
    have hrefines : Refines False c.world.db db :=
      Checkout.createInTransaction_refines e userId (klumpInput input) none c.world.db _ _ hcreate
    have hB' : Consistent (books db) := (Books.Steps.advances (hrefines hB) hB).1
    have hpayload := checkoutPayload_rejects (placed_of_consistent hB' hg)
    rw [initializeCheckout_created hanswers userId input c.world hcreate]
    constructor
    · intro h groupId' group' db' hcreated hstarts
      cases hcreated
      by_contra hbad
      obtain ⟨err, hamount, hrefused⟩ := hpayload.2 hbad
      have hsummary : ∃ summary, Payments.summaryOf userId groupId db = some summary := by
        rw [Payments.summaryOf, hg, Option.filter_some, if_pos (beq_iff_eq.mpr hstarts.owner)]
        exact ⟨_, rfl⟩
      obtain ⟨summary, hsummary⟩ := hsummary
      rw [hsummary] at h
      dsimp only at h
      rw [runTx_of_error hanswers (startTransaction_rejects e hg hstarts hrefused)] at h
      have huntouched := h err rfl hamount
      rcases hleft with hnew | hcart | hclaimed
      · rw [← huntouched.same .checkoutPaymentGroup (by decide), hg] at hnew
        cases hnew
      · exact hcart (huntouched.same .cart (by decide))
      · exact hclaimed huntouched.unclaimed
    · intro h err herr hamount
      obtain ⟨text, rfl⟩ : ∃ text, err = .badRequest text := by
        obtain ⟨label, rfl | rfl⟩ := hamount
        · exact ⟨_, rfl⟩
        · exact ⟨_, rfl⟩
      exfalso
      cases hsummary : Payments.summaryOf userId groupId db with
      | none =>
        rw [hsummary] at herr
        cases herr
      | some summary =>
        rw [hsummary] at herr
        dsimp only at herr
        have havoids := startTransaction_avoids e
          (fun hm => hmode _ hm hamount) hg fun hstarts herr' =>
            hpayload.1 (h groupId group db rfl hstarts) _ herr' hamount
        cases hstart : startTransaction e userId groupId db with
        | error err' =>
          rw [runTx_of_error hanswers hstart] at herr
          cases herr
          exact havoids hstart
        | ok r =>
          rw [runTx_of_ok hanswers hstart] at herr
          cases herr

/-- The store of one offer, at a price that is not a whole amount. -/
def oddShop : World :=
  { shop with db := shop.db.set .storeProduct (Relational.Table.empty.create
      { storeId := 1, productId := 1, price := 99 / 2, stockQuantity := 2 }) }

/-- Nothing has happened in the shop yet. -/
theorem fresh_oddShop : Fresh oddShop := by
  intro n hn i
  simp only [ownedTables, List.mem_cons, List.not_mem_nil, or_false] at hn
  rcases hn with rfl | rfl | rfl | rfl | rfl <;> rfl

/-- The customer asks for a Klump checkout. -/
def oddCheckout (w : World) : Except Error (ℕ × KlumpTransaction) × World :=
  (initializeCheckout 1 walletPickup).runAlone machine { now := 1, orderNumber := fun _ => "A-1" } w

/-- The refused checkout leaves its order behind. -/
theorem rejection_leaves_order : ¬ ∀ (w₀ : World) (c : Config Op Error World) (e : Env) (userId : ℕ)
    (input : CreateCheckoutDto), Fresh w₀ → store.Run System.anyOp ⟨w₀, []⟩ c → e.fails = false →
    (∀ err, e.klumpMode = .error err → ¬AmountError err) →
    ∀ err, ((initializeCheckout userId input).runAlone machine e c.world).1 = .error err → AmountError err →
      Untouched userId c.world.db ((initializeCheckout userId input).runAlone machine e c.world).2.db := by
  intro h
  have hrefused : (match (oddCheckout oddShop).1 with
      | .error err => decide (err = .badRequest "Klump checkout total must be a whole-number NGN amount.")
      | .ok _ => false) = true := by decide +kernel
  cases hrun : (oddCheckout oddShop).1 with
  | ok a =>
    rw [hrun] at hrefused
    cases hrefused
  | error err =>
    rw [hrun] at hrefused
    obtain rfl := of_decide_eq_true hrefused
    have huntouched := h oddShop ⟨oddShop, []⟩ { now := 1, orderNumber := fun _ => "A-1" } 1 walletPickup
      fresh_oddShop .refl rfl (fun _ h => by cases h) _ hrun ⟨"Klump checkout total", .inl (by decide +kernel)⟩
    have hplaced : (((oddCheckout oddShop).2.db .order).find 1).isSome = true := by decide +kernel
    have hsame : (oddCheckout oddShop).2.db .order = oddShop.db .order := huntouched.same .order (by decide)
    rw [hsame] at hplaced
    cases hplaced

/-- At a whole price the same checkout is payable. -/
theorem rejection_untouched_shop :
    (∀ err, (oddCheckout shop).1 = .error err → AmountError err → Untouched 1 shop.db (oddCheckout shop).2.db) ∧
    ∀ groupId group db,
      Checkout.createInTransaction { now := 1, orderNumber := fun _ => "A-1" } 1 (klumpInput walletPickup) none
        shop.db = .ok ((groupId, group), db) → Starts 1 groupId group db → AllPayable db group := by
  have hstarted : (oddCheckout shop).1.toOption.isSome = true := by decide +kernel
  have huntouched (err : Error) (herr : (oddCheckout shop).1 = .error err) (_ : AmountError err) :
      Untouched 1 shop.db (oddCheckout shop).2.db := by
    rw [herr] at hstarted
    cases hstarted
  exact ⟨huntouched, (rejection_untouched fresh_shop (c := ⟨shop, []⟩) .refl rfl (fun _ h => by cases h) 1
    walletPickup).mp huntouched⟩

end Klump

end Superstore

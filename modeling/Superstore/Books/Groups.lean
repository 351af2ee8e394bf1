import Superstore.Books.Refinement

/-!
# Completing and releasing a group in the books

The two ends of a checkout, round by round along the orders of the group: a finished group
has its received orders confirmed and settled, a released one has its orders cancelled.
-/

namespace Superstore

open Relational.Tx
open Payments (setCurrentStatus)

variable {spared : Prop}

/-! ## Settlement -/

/-- What follows the entry that a settlement makes in the ledger of its store. -/
theorem settled_ledgerKept (walletId orderId : ℕ) (amount : ℚ) :
    Within LedgerKept (do
      update .storeWallet walletId fun w => { w with balance := w.balance + amount }
      let delivery ← first .delivery fun _ d => d.orderId == orderId
      match delivery with
      | some (deliveryId, _) => Settlements.holdRiderEarning deliveryId
      | none => pure ()) := by
  refine Evolves.bind (.update_of_ne (by decide) _ _) fun _ => .bind (.of_reads (.first _ _)) fun delivery => ?_
  cases delivery with
  | none => exact .pure ()
  | some delivery => exact .of_writes (Settlements.holdRiderEarning_writes _) (by decide)

/-- A settlement only adds to the ledger. -/
theorem settleOrder_ledgerKept (e : Env) (orderId : ℕ) :
    Within LedgerKept (Settlements.settleOrder e orderId) := by
  have hrate (key : String) : Evolves .storeWalletTransaction Eq (Settlements.getRate e key) :=
    .of_reads (Settlements.getRate_writes e key)
  refine Evolves.bind (.of_reads (.findOrThrow _ _)) fun order => ?_
  refine .bind (.of_reads (.first _ _)) fun _ => .when ?_
  refine .bind (hrate _) fun _ => .bind (hrate _) fun _ => .bind (hrate _) fun _ => ?_
  refine .bind (.of_reads (.require _ _)) fun _ => .bind (.of_reads (.ofExcept _)) fun _ => ?_
  refine .bind (.of_reads (.ofExcept _)) fun _ => .bind (.of_reads (.ofExcept _)) fun _ => ?_
  refine .bind (.of_reads (.require _ _)) fun _ => ?_
  refine .bind (.of_writes (.firstOrCreate (List.mem_singleton_self _) _ _) (by decide)) fun _ => ?_
  exact .bind (.createUnique _ _) fun _ => settled_ledgerKept _ _ _

/-- A settlement leaves its order settled. -/
theorem settleOrder_settles (e : Env) {orderId : ℕ} {o : Order} {db : Database}
    (ho : (db .order).find orderId = some o) :
    wp db (Settlements.settleOrder e orderId) fun _ db' => Settlements.Settled db' o.orderNumber := by
  rw [Settlements.settleOrder, wp_bind, wp_findOrThrow]
  intro order horder
  obtain rfl := Option.some.inj (ho.symm.trans horder)
  rw [wp_bind, wp_first, wp_when]
  constructor
  · intro _
    refine wp_bind_of_forall fun _ _ => wp_bind_of_forall fun _ _ => wp_bind_of_forall fun _ _ => ?_
    refine wp_bind_of_forall fun _ _ => wp_bind_of_forall fun _ _ => wp_bind_of_forall fun _ _ => ?_
    refine wp_bind_of_forall fun _ _ => wp_bind_of_forall fun _ _ => wp_bind_of_forall fun _ db₁ => ?_
    rw [wp_bind, wp_createUnique]
    intro _
    refine wp_mono (settled_ledgerKept _ _ _ _) fun _ db' hkept => hkept.settled _ ?_
    rw [Settlements.Settled, Relational.Database.set_self]
    exact ⟨_, _, Relational.Table.find_create_self _ _, rfl⟩
  · intro hsome
    rw [Option.isNone_iff_eq_none, ← ne_eq, Option.ne_none_iff_exists'] at hsome
    obtain ⟨t, ht⟩ := hsome
    obtain ⟨hfind, href⟩ := Relational.Table.find_of_first ht
    exact ⟨t.1, t.2, hfind, by simpa using href⟩

/-! ## Completing a group -/

/-- Confirm the received orders among some, which are settled then. -/
def Books.confirm (B : Books) (ks : List ℕ) (settled : String → Prop) : Books :=
  { B with
    orderStatus := fun k =>
      if k ∈ ks ∧ B.orderStatus k = .orderReceived then .confirmed else B.orderStatus k
    settled := settled }

/-- What a confirmation does to the books: the received orders are confirmed and settled, and
nothing is taken from the ledger. -/
structure Confirms (ks : List ℕ) (db db' : Database) : Prop where
  books : books db' = (books db).confirm ks (Settlements.Settled db')
  ledger : LedgerKept db db'
  settled : ∀ k ∈ ks, (Superstore.books db).orderStatus k = .orderReceived →
    ∀ n, (Superstore.books db).order k = some n → Settlements.Settled db' n

/-- No orders are confirmed of no list. -/
theorem Confirms.nil (db : Database) : Confirms [] db db where
  books := by simp [Books.confirm, Superstore.books]
  ledger := .refl _
  settled := by simp

/-- Orders are confirmed one after another. -/
theorem Confirms.cons {k : ℕ} {ks : List ℕ} {db db₁ db' : Database} (h : Confirms [k] db db₁)
    (h' : Confirms ks db₁ db') : Confirms (k :: ks) db db' where
  books := by
    rw [h'.books, h.books]
    ext1
    case orderStatus =>
      funext j
      simp only [Books.confirm, List.mem_cons, List.not_mem_nil, or_false]
      by_cases hr : (Superstore.books db).orderStatus j = .orderReceived
      · rcases eq_or_ne j k with rfl | hj <;> simp [*]
      · simp [hr]
    all_goals rfl
  ledger := h.ledger.trans h'.ledger
  settled := by
    intro j hj hr n hn
    rcases List.mem_cons.mp hj with rfl | hj
    · exact h'.ledger.settled n (h.settled j (List.mem_singleton_self _) hr n hn)
    · by_cases hjk : j = k
      · subst hjk
        exact h'.ledger.settled n (h.settled j (List.mem_singleton_self _) hr n hn)
      · refine h'.settled j hj ?_ n ?_
        · simpa [h.books, Books.confirm, hjk] using hr
        · simpa [h.books, Books.confirm] using hn

/-- An order that is not received is left as it is. -/
theorem Books.confirm_of_ne {B : Books} {k : ℕ} (h : B.orderStatus k ≠ .orderReceived) :
    B.confirm [k] B.settled = B := by
  ext1
  case orderStatus =>
    funext j
    simp only [Books.confirm, List.mem_singleton]
    refine if_neg ?_
    rintro ⟨rfl, hj⟩
    exact h hj
  all_goals rfl

/-- A received order is confirmed. -/
theorem Books.confirm_of_eq {B : Books} {k : ℕ} (S : String → Prop)
    (h : B.orderStatus k = .orderReceived) :
    B.confirm [k] S = { B.setOrder k .confirmed with settled := S } := by
  ext1
  case orderStatus =>
    funext j
    simp only [Books.confirm, List.mem_singleton, Books.setOrder, Function.update_apply]
    by_cases hj : j = k <;> simp [hj, h]
  all_goals rfl

/-- Whether orders have been confirmed depends on the orders and their settlements alone. -/
theorem Confirms.of_frame {ks : List ℕ} {db db₁ db' : Database} (h : Confirms ks db db₁)
    (hsame : ∀ n ∈ .storeWalletTransaction :: bookTables, db' n = db₁ n) : Confirms ks db db' := by
  have hledger : LedgerKept db₁ db' := by
    rw [LedgerKept, hsame _ List.mem_cons_self]
    exact .refl _
  refine ⟨?_, h.ledger.trans hledger, fun k hk hr n hn => hledger.settled n (h.settled k hk hr n hn)⟩
  have hbooks := books_congr hsame
  rw [show Settlements.Settled db' = Settlements.Settled db₁ from congrArg Books.settled hbooks,
    hbooks, h.books]

/-- Confirming an order confirms it. -/
theorem confirmOrder_confirms (e : Env) (userId : ℕ) (a : Allocation) (db : Database) :
    wp db (Payments.confirmOrder e userId a) fun _ db' => Confirms [a.orderId] db db' := by
  have houtbox (db₁ : Database) (h : Confirms [a.orderId] db db₁) (o : Order) :
      wp db₁ (do
        require (o.currentStatus ≠ .cancelled) (.conflict "Cancelled order cannot be finalized as paid.")
        let _ ← firstOrCreate .orderConfirmationOutbox (fun _ o => o.orderId == a.orderId)
          { orderId := a.orderId, userId := userId }
        pure ()) fun _ db' => Confirms [a.orderId] db db' := by
    have hwrites : Writes [.orderConfirmationOutbox] (firstOrCreate .orderConfirmationOutbox
        (fun _ o => o.orderId == a.orderId) { orderId := a.orderId, userId := userId }) :=
      .firstOrCreate (List.mem_singleton_self _) _ _
    rw [wp_bind, wp_require]
    intro _
    rw [wp_bind]
    refine wp_mono (hwrites db₁) fun _ db' hsame => (wp_pure _ _ _).mpr (h.of_frame fun n hn => ?_)
    exact hsame n (by revert n; decide)
  rw [Payments.confirmOrder, wp_bind, wp_findOrThrow]
  intro o ho
  obtain ⟨hn, hs⟩ := books_order ho
  rw [wp_bind, wp_when]
  constructor
  · intro hreceived
    rw [wp_bind, wp_update]
    intro _ _
    rw [wp_bind, wp_create]
    set db₁ := db.set .order ((db .order).update a.orderId (setCurrentStatus .confirmed)) with hdb₁
    have ho₁ : (db₁ .order).find a.orderId = some (setCurrentStatus .confirmed o) := by
      rw [hdb₁, Relational.Database.set_self, Relational.Table.find_update_self, ho]
      rfl
    refine wp_mono (wp_and (wp_and (Settlements.settleOrder_writes e a.orderId _)
      (settleOrder_ledgerKept e a.orderId _)) (settleOrder_settles e (o := setCurrentStatus .confirmed o) ho₁))
      fun _ db₂ hstep => ?_
    obtain ⟨⟨hsame, hledger⟩, hsettled⟩ := hstep
    refine houtbox db₂ ⟨?_, hledger, ?_⟩ o
    · rw [books_of_frame fun n hn => hsame n (by revert n; decide), Books.confirm_of_eq _ (hs ▸ hreceived),
        ← books_set_order ho, ← hdb₁]
      rfl
    · intro k hk _ n hn'
      rw [List.mem_singleton.mp hk, hn] at hn'
      obtain rfl := Option.some.inj hn'
      exact hsettled
  · intro hopen
    refine houtbox db ⟨?_, .refl _, ?_⟩ o
    · exact (Books.confirm_of_ne (hs ▸ hopen)).symm
    · rintro k hk hr
      rw [List.mem_singleton.mp hk, hs] at hr
      exact absurd hr hopen

/-- Confirming the orders of a group confirms all of them. -/
theorem confirmOrders_confirm (e : Env) (userId : ℕ) (as : List Allocation) (db : Database) :
    wp db (as.forM (Payments.confirmOrder e userId))
      fun _ db' => Confirms (as.map (·.orderId)) db db' :=
  wp_forM_rec (R := fun as : List Allocation => Confirms (as.map (·.orderId))) .nil
    (fun a _ _ db => wp_mono (confirmOrder_confirms e userId a db) fun _ _ h _ => h.cons) db

/-- What finishing a group that was not finished before does to the books. -/
structure Completes (id : ℕ) (g : GroupTerms) (db db' : Database) : Prop where
  unreleased : (books db).groupStatus id ≠ .failed
  ledger : LedgerKept db db'
  settled : ∀ k ∈ g.orders, (books db).orderStatus k = .orderReceived →
    ∀ n, (books db).order k = some n → Settlements.Settled db' n
  books : Superstore.books db' = (Superstore.books db).complete id g (Settlements.Settled db')

/-- Completing a group confirms its orders, settles them, and marks the group. -/
theorem completeGroup_completes (e : Env) {id : ℕ} {g : CheckoutPaymentGroup} {db : Database}
    (hg : (db .checkoutPaymentGroup).find id = some g) :
    wp db (Payments.completeGroup e id) fun _ db' =>
      (books db).groupStatus id = .paid ∧ books db' = books db ∨ Completes id g.terms db db' := by
  obtain ⟨hterms, hstatus⟩ := books_group hg
  rw [Payments.completeGroup, wp_bind, wp_findOrThrow]
  intro g' hg'
  obtain rfl := Option.some.inj (hg.symm.trans hg')
  rw [wp_when]
  constructor
  · intro _
    rw [wp_bind, wp_require]
    intro hfailed
    have hloop : Writes Payments.confirmationTables
        (g.allocations.forM (Payments.confirmOrder e g.userId)) :=
      .forM fun a _ => Payments.confirmOrder_writes e _ a
    rw [wp_bind]
    refine wp_mono (wp_and (hloop db) (confirmOrders_confirm e g.userId g.allocations db))
      fun _ db₁ ⟨hsame, hconfirms⟩ => ?_
    rw [wp_bind]
    refine wp_mono (Cart.consume_writes _ _ _ db₁) fun _ db₂ hsame' => ?_
    have hconfirms₂ : Confirms g.terms.orders db db₂ :=
      hconfirms.of_frame fun n hn => hsame' n (by revert n; decide)
    have hg₂ : (db₂ .checkoutPaymentGroup).find id = some g := by
      rw [hsame' _ (by decide), hsame _ (by decide), hg]
    rw [wp_update]
    intro _ _
    refine .inr ⟨hstatus ▸ hfailed, hconfirms₂.ledger, hconfirms₂.settled, ?_⟩
    rw [books_set_groupStatus hg₂ (f := fun g => { g with status := .paid, activeCartId := none }) rfl,
      hconfirms₂.books]
    rfl
  · intro hpaid
    rw [not_not] at hpaid
    exact .inl ⟨hstatus ▸ hpaid.1, rfl⟩

/-- A database whose books have made legitimate steps that leave the payments alone, but for the
status of one payment that has been written before its time. -/
structure Ahead (spared : Prop) (p : ℕ) (s : PaymentStatus) (B B' : Books) (db : Database) : Prop where
  steps : Books.Steps spared B B'
  payments : B'.paymentStatus = B.paymentStatus
  books : books db = B'.setPayment p s

variable (spared) in
/-- A group that has a payment is finished by legitimate steps, even if the status of a payment has
been written before its time. -/
theorem completeGroup_steps (e : Env) {id p : ℕ} {s : PaymentStatus} {g : GroupTerms}
    {db : Database} {B : Books} (hB : books db = B.setPayment p s) (hg : B.group id = some g)
    (hlinked : g.paymentId.isSome) :
    wp db (Payments.completeGroup e id) fun _ db' =>
      ∃ B', Ahead spared p s B B' db' ∧ B'.groupStatus id = .paid := by
  obtain ⟨r, hr, rfl⟩ := find_of_books_group (hB ▸ hg : (books db).group id = some g)
  refine wp_mono (completeGroup_completes e hr) fun _ db' h => ?_
  rcases h with ⟨hpaid, hbooks⟩ | h
  · rw [hB] at hbooks hpaid
    exact ⟨B, ⟨.refl, rfl, hbooks⟩, hpaid⟩
  · obtain ⟨hopen, hledger, hnew, hbooks⟩ := h
    have hsettled := hledger.settled
    rw [show Settlements.Settled db = B.settled from congrArg Books.settled hB] at hsettled
    rw [hB] at hopen hnew hbooks
    exact ⟨_, ⟨.single (.complete hg hlinked hopen hsettled hnew), rfl, hbooks⟩,
      Function.update_self _ _ _⟩

/-! ## Releasing a group -/

/-- An order that is called off is cancelled, and nothing else is written in the books. -/
theorem callOff_books {now orderId : ℕ} {order : Order} {history : OrderStatusHistory}
    {db : Database} (horder : (db .order).find orderId = some order) :
    wp db (Payments.callOff now orderId order history)
      fun _ db' => books db' = (books db).setOrder orderId .cancelled := by
  have hshelf : Writes [.storeProduct] (order.items.forM Payments.restock) :=
    .forM fun item _ => Payments.restock_writes item
  rw [Payments.callOff, wp_bind]
  refine wp_mono (hshelf db) fun _ db₁ hsame => ?_
  have horder₁ : (db₁ .order).find orderId = some order := by rw [hsame _ (by decide), horder]
  rw [wp_bind, wp_update]
  intro _ _
  have hrest : Writes [.delivery, .pickup, .orderQrCredential, .orderStatusHistory] (do
      let _ ← updateMany .delivery (fun _ d => d.orderId == orderId)
        fun d => { d with status := .cancelled }
      let _ ← updateMany .pickup (fun _ p => p.orderId == orderId)
        fun p => { p with status := "cancelled" }
      let _ ← updateMany .orderQrCredential (fun _ c => c.orderId == orderId && c.status == "ACTIVE")
        fun c => { c with status := "REVOKED", revokedAt := some now }
      let _ ← create .orderStatusHistory history
      (pure () : Tx Unit)) :=
    .bind (.updateMany (by decide) _ _) fun _ => .bind (.updateMany (by decide) _ _) fun _ =>
      .bind (.updateMany (by decide) _ _) fun _ => .bind (.create (by decide) _) fun _ => .pure ()
  refine wp_mono (hrest _) fun _ db' hsame' => ?_
  rw [books_congr fun n hn => hsame' n (by revert n; decide), books_set_order horder₁,
    books_congr fun n hn => hsame n (by revert n; decide)]

/-- Cancel some orders. -/
def Books.callOff (B : Books) (ks : List ℕ) : Books :=
  { B with orderStatus := fun k => if k ∈ ks then .cancelled else B.orderStatus k }

/-- Calling off orders may begin with one of them. -/
theorem Books.callOff_cons (B : Books) (k : ℕ) (ks : List ℕ) :
    (B.setOrder k .cancelled).callOff ks = B.callOff (k :: ks) := by
  ext1
  case orderStatus =>
    funext j
    by_cases hj : j = k <;> simp [Books.callOff, Books.setOrder, hj]
  all_goals rfl

/-- Releasing the orders of a group calls them off. -/
theorem releaseOrders_books (e : Env) (as : List Allocation) (db : Database) :
    wp db (as.forM (Payments.releaseOrder e))
      fun _ db' => books db' = (books db).callOff (as.map (·.orderId)) := by
  refine wp_forM_rec (R := fun (as : List Allocation) db db' =>
    books db' = (books db).callOff (as.map (·.orderId)))
    (fun db => by simp [Books.callOff, Superstore.books]) (fun a _ as db => ?_) db
  rw [Payments.releaseOrder, wp_bind, wp_findOrThrow]
  intro o ho
  rw [wp_bind, wp_require]
  intro _
  refine wp_mono (callOff_books ho) fun _ db₁ h₁ db' h' => ?_
  rw [h', h₁, Books.callOff_cons]
  rfl

variable (spared) in
/-- A group is released by legitimate steps, even if the status of a payment has been written before its time. -/
theorem failGroup_steps (e : Env) {id p : ℕ} {s : PaymentStatus} {db : Database} {B : Books}
    (hB : books db = B.setPayment p s) :
    wp db (Payments.failGroup e id) fun _ db' =>
      ∃ B', Ahead spared p s B B' db' ∧ B'.groupStatus id = .failed := by
  rw [Payments.failGroup, wp_bind, wp_findOrThrow]
  intro g hg
  obtain ⟨hterms, hstatus⟩ := books_group hg
  rw [hB] at hterms hstatus
  rw [wp_when]
  constructor
  · intro hfailed
    rw [wp_bind, wp_require]
    intro hpaid
    have hloop : Writes Payments.callOffTables (g.allocations.forM (Payments.releaseOrder e)) :=
      .forM fun a _ => Payments.releaseOrder_writes e a
    rw [wp_bind]
    refine wp_mono (wp_and (hloop db) (releaseOrders_books e g.allocations db))
      fun _ db₁ ⟨hsame, hbooks⟩ => ?_
    have hg₁ : (db₁ .checkoutPaymentGroup).find id = some g := by rw [hsame _ (by decide), hg]
    rw [wp_update]
    intro _ _
    refine ⟨_, ⟨.single (.release hterms (hstatus ▸ hpaid) (hstatus ▸ hfailed)), rfl, ?_⟩,
      Function.update_self _ _ _⟩
    rw [books_set_groupStatus hg₁ (f := fun g => { g with status := .failed, activeCartId := none }) rfl,
      hbooks, hB]
    rfl
  · intro hfailed
    rw [not_not] at hfailed
    exact ⟨B, ⟨.refl, rfl, hB⟩, hstatus.trans hfailed⟩

variable (spared) in
/-- A loop that ends groups one after the other, each for good. -/
theorem steps_forM {p : ℕ} {s st : PaymentStatus} (hst : st = .paid ∨ st = .failed)
    {Φ : GroupTerms → Prop} (hΦ : ∀ g g', g.Later g' → Φ g → Φ g') {f : ℕ × ℕ → Tx Unit}
    (hf : ∀ x db B g, books db = B.setPayment p s → B.group x.1 = some g → Φ g →
      wp db (f x) fun _ db' => ∃ B', Ahead spared p s B B' db' ∧ B'.groupStatus x.1 = st)
    {xs : List (ℕ × ℕ)} {db : Database} {B : Books} (hB : books db = B.setPayment p s)
    (hcons : Consistent B) (hxs : ∀ x ∈ xs, ∃ g, B.group x.1 = some g ∧ Φ g) :
    wp db (xs.forM f) fun _ db' =>
      ∃ B', Ahead spared p s B B' db' ∧ ∀ x ∈ xs, B'.groupStatus x.1 = st := by
  refine wp_mono (wp_forM_rec (f := f) (R := fun xs db db' => ∀ B,
    books db = B.setPayment p s → Consistent B → (∀ x ∈ xs, ∃ g, B.group x.1 = some g ∧ Φ g) →
    ∃ B', Ahead spared p s B B' db' ∧ ∀ x ∈ xs, B'.groupStatus x.1 = st) ?_ ?_ db)
    fun _ _ h => h B hB hcons hxs
  · exact fun db B hB _ _ => ⟨B, ⟨.refl, rfl, hB⟩, by simp⟩
  · intro x _ ys db _ db₁ hrun db' h' B hB hcons hxs
    obtain ⟨g, hg, hΦg⟩ := hxs x List.mem_cons_self
    obtain ⟨B₁, hahead, hst₁⟩ := hf x db B g hB hg hΦg _ db₁ hrun
    obtain ⟨hcons₁, hlater₁⟩ := Books.Steps.advances hahead.steps hcons
    obtain ⟨B', hahead', hst'⟩ := h' B₁ hahead.books hcons₁ fun y hy => by
      obtain ⟨g, hg, hΦg⟩ := hxs y (List.mem_cons_of_mem _ hy)
      obtain ⟨g', hg', hlater⟩ := hlater₁.group _ g hg
      exact ⟨g', hg', hΦ g g' hlater hΦg⟩
    refine ⟨B', ⟨hahead.steps.trans hahead'.steps, hahead'.payments.trans hahead.payments,
      hahead'.books⟩, List.forall_mem_cons.mpr ⟨?_, hst'⟩⟩
    have hlater' := (Books.Steps.advances hahead'.steps hcons₁).2
    obtain ⟨g₁, hg₁, -⟩ := hlater₁.group _ g hg
    rcases hst with rfl | rfl
    · exact hlater'.paid _ g₁ hg₁ hst₁
    · exact hlater'.failed _ g₁ hg₁ hst₁

/-- Nothing is ahead where the status that has been written is the one from before. -/
theorem Ahead.steps_of_eq {p : ℕ} {B B' : Books} {db : Database}
    (h : Ahead spared p (B.paymentStatus p) B B' db) :
    Books.Steps spared B (Superstore.books db) := by
  rw [h.books, ← h.payments, Books.setPayment_self]
  exact h.steps

end Superstore

import Superstore.Books.Orders

/-!
# Checkouts in the books

Placing a checkout enters its orders and the group that carries them. What is paid at once is
linked and finished in the same transaction; a checkout through Klump is linked when Klump is
asked for.
-/

namespace Superstore

open Relational.Tx

variable {spared : Prop}

/-! ## Klump -/

namespace Klump

/-- What Klump is told of a transaction is not in the books. -/
theorem updateTransaction_refines (id : ℕ) (status : KlumpTransactionStatus)
    (providerReference : Option String) :
    Within (Refines spared) (updateTransaction id status providerReference) := by
  intro db
  rw [updateTransaction, wp_update]
  exact fun _ _ => .of_eq (books_set_klump db _ fun _ => rfl)

/-- A group of which Klump is asked for the first time has no payment yet. -/
theorem paymentId_eq_none {groupId : ℕ} {group : CheckoutPaymentGroup} {db : Database}
    (hB : Consistent (books db)) (hg : (db .checkoutPaymentGroup).find groupId = some group)
    (hprovider : ((group.paymentId.bind (db .payment).find).all (·.provider == .klump)))
    (hfirst : (db .klumpTransaction).first (fun _ k => k.paymentGroupId == groupId) = none) :
    group.paymentId = none := by
  obtain ⟨hterms, -⟩ := books_group hg
  by_contra hsome
  obtain ⟨p, hp⟩ := Option.ne_none_iff_exists'.mp hsome
  obtain ⟨q, hq, -⟩ := hB.linked groupId _ p hterms hp
  obtain ⟨r, hr, rfl⟩ := Option.map_eq_some_iff.mp hq
  have hklump : r.provider = .klump := by
    rw [hp, Option.bind_some, hr] at hprovider
    simpa using hprovider
  obtain ⟨k, t, ht, hid⟩ := hB.klump_started groupId _ p _ hterms hp hq hklump
  obtain ⟨t', ht', rfl⟩ := Option.map_eq_some_iff.mp ht
  have hno := Relational.Table.first_eq_none.mp hfirst k t' ht'
  rw [beq_eq_false_iff_ne] at hno
  exact hno hid

/-- Klump is asked for by a legitimate step. -/
theorem startTransaction_refines (e : Env) (userId groupId : ℕ) :
    Within (Refines spared) (startTransaction e userId groupId) := by
  intro db
  refine refines_of_steps fun hB => ?_
  rw [startTransaction, wp_bind, wp_find, wp_bind, wp_orThrow]
  intro group hgroup
  obtain ⟨hg, -⟩ := Option.filter_eq_some_iff.mp hgroup
  obtain ⟨hterms, hstatus⟩ := books_group hg
  rw [wp_bind, wp_require]
  intro _
  rw [wp_bind, wp_require]
  intro hfailed
  rw [wp_bind, wp_first]
  cases hfirst : (db .klumpTransaction).first fun _ k => k.paymentGroupId == groupId with
  | some existing => exact (wp_pure _ _ _).mpr .refl
  | none =>
    rw [wp_bind, wp_query, wp_bind, wp_require]
    intro hprovider
    have hnone := paymentId_eq_none hB hg hprovider hfirst
    rw [wp_bind, wp_query, wp_bind, wp_ofExcept]
    intro _ _
    rw [wp_bind, paymentOf, hnone, wp_createUnique]
    intro _
    rw [wp_bind, wp_update]
    intro _ _
    rw [wp_bind, wp_ofExcept]
    intro isLive _
    rw [wp_bind, wp_createUnique]
    intro _
    have hpaid := hB.unpaid hterms hnone
    rw [wp_pure, books_create_klump, books_create_link hg rfl]
    refine .single (Books.Change.link (B := books db) (s := .processing) (g := group.terms)
      (f := Books.enter (books db).klump (db .klumpTransaction).next ⟨groupId, (db .payment).next⟩) ?_)
    exact
      { group := hterms
        fresh := books_payment_next db
        unlinked := hnone
        amount := rfl
        special := rfl
        reference := fun h => by cases h
        pending := fun _ => rfl
        agree := fun o h => h.received hpaid (hstatus ▸ hfailed)
        status := by decide
        unpaid := hpaid
        unreleased := hstatus ▸ hfailed
        kept := fun k t hk => Books.enter_of_eq_some (books_klump_next db) hk
        new := fun k t hk => (Books.enter_eq_some hk).symm.imp_right (·.2)
        started := fun _ => ⟨_, Books.enter_self⟩ }

/-- A verified Klump checkout is finished by legitimate steps. -/
theorem completeTransaction_refines (e : Env) {id : ℕ} {transaction : KlumpTransaction}
    {providerReference : String} {db : Database}
    (h : ∃ k, (books db).klump k = some transaction.terms) :
    wp db (completeTransaction e id transaction providerReference)
      fun _ db' => Refines spared db db' := by
  obtain ⟨k, hk⟩ := h
  rw [completeTransaction, wp_bind, wp_findOrThrow]
  intro r hr
  rw [wp_bind, wp_require]
  intro _
  have hupdate : Within (Refines spared) (update .klumpTransaction id fun k =>
      { k with status := .successful, providerReference := some providerReference
               verifiedAt := some e.now }) := fun db => by
    rw [wp_update]
    exact fun _ _ => .of_eq (books_set_klump db _ fun _ => rfl)
  refine Within.after ?_ fun _ => hupdate
  rw [wp_when]
  refine ⟨fun _ => refines_of_steps fun hB => ?_, fun _ => refl_of _ db⟩
  obtain ⟨g, hg, hp⟩ := hB.klump_linked k _ hk
  obtain ⟨q, hq, -, hspecial, -⟩ := hB.linked _ g _ hg hp
  obtain rfl := Option.some.inj ((books_payment hr).1.symm.trans hq)
  rw [wp_bind, wp_update]
  intro _ _
  refine wp_mono (completeGroup_steps spared e (books_set_paymentStatus hr ?_) hg ?_) ?_
  · rw [Payment.terms, Payment.terms, show r.special = false from hspecial]
    rfl
  · rw [hp]
    rfl
  · rintro _ db' ⟨B', hahead, hpaid⟩
    rw [hahead.books]
    refine hahead.steps.tail (.paid fun j g' hg' hp' => ?_)
    obtain ⟨hB', hlater⟩ := Books.Steps.advances hahead.steps hB
    obtain ⟨g₁, hg₁, hlater₁⟩ := hlater.group _ g hg
    rw [hB'.payer_unique j g' _ g₁ _ hg' hg₁ hp' (hlater₁.paymentId _ hp)]
    exact hpaid

end Klump

/-! ## Placing a checkout -/

namespace Checkout

/-- What placing some orders does to the books: they are entered under new keys. -/
structure Places (as : List Allocation) (db db' : Database) : Prop where
  books : books db' = { Superstore.books db with order := (Superstore.books db').order }
  kept : ∀ k n, (Superstore.books db).order k = some n → (Superstore.books db').order k = some n
  carried : ∀ k n, (Superstore.books db').order k = some n →
    (Superstore.books db).order k = some n ∨ k ∈ as.map (·.orderId)
  placed : ∀ k ∈ as.map (·.orderId), ((Superstore.books db').order k).isSome
  fresh : ∀ k ∈ as.map (·.orderId), (Superstore.books db).order k = none ∧
    (Superstore.books db).orderStatus k = .orderReceived

/-- Placing no orders leaves the books as they are. -/
theorem Places.nil (db : Database) : Places [] db db :=
  ⟨rfl, fun _ _ => id, fun _ _ => .inl, by simp, by simp⟩

/-- Orders that are placed one after the other are placed together. -/
theorem Places.cons {a : Allocation} {as : List Allocation} {db db₁ db' : Database}
    (h : Places [a] db db₁) (h' : Places as db₁ db') : Places (a :: as) db db' where
  books := by rw [h'.books, h.books]
  kept k n hn := h'.kept k n (h.kept k n hn)
  carried k n hn := by
    rcases h'.carried k n hn with hold | hnew
    · exact (h.carried k n hold).imp_right fun hk => by simp_all
    · exact .inr (List.mem_cons_of_mem _ hnew)
  placed := by
    rw [List.map_cons, List.forall_mem_cons]
    refine ⟨?_, h'.placed⟩
    obtain ⟨n, hn⟩ := Option.isSome_iff_exists.mp (h.placed a.orderId (by simp))
    rw [h'.kept _ n hn]
    rfl
  fresh := by
    rw [List.map_cons, List.forall_mem_cons]
    refine ⟨h.fresh _ (by simp), fun k hk => ?_⟩
    obtain ⟨hnone, hstatus⟩ := h'.fresh k hk
    constructor
    · cases hn : (Superstore.books db).order k with
      | none => rfl
      | some n =>
        rw [h.kept k n hn] at hnone
        cases hnone
    · rw [h.books] at hstatus
      exact hstatus

/-- What does not touch the books may come before or after. -/
theorem Places.of_frame {as : List Allocation} {db db₁ db₂ db' : Database}
    (h : Places as db₁ db₂) (hbefore : Superstore.books db₁ = Superstore.books db)
    (hafter : Superstore.books db' = Superstore.books db₂) : Places as db db' where
  books := by rw [hafter, h.books, hbefore]
  kept := by rw [hafter, ← hbefore]; exact h.kept
  carried := by rw [hafter, ← hbefore]; exact h.carried
  placed := by rw [hafter]; exact h.placed
  fresh := by rw [← hbefore]; exact h.fresh

/-- One order is entered, with the price of its part of the quote. -/
theorem placeOrder_places (e : Env) (userId : ℕ) (q : Quote) (order : QuoteOrder × ℕ) (db : Database) :
    wp db (placeOrder e userId q order)
      fun a db' => Places [a] db db' ∧ a.amount = order.1.total := by
  have hreserve : Writes [.storeProduct] (order.1.items.forM reserve) :=
    .forM fun item _ => .bind (.query _) fun _ => .bind (.updateMany (by decide) _ _) fun _ => .require _ _
  rw [placeOrder, wp_bind]
  refine wp_mono (hreserve db) fun _ db₁ hsame => ?_
  rw [wp_bind, wp_createUnique]
  intro _
  set db₂ := db₁.set .order _ with hdb₂
  have hplaced (amount : ℚ) : Places [⟨(db₁ .order).next, amount⟩] db₁ db₂ := by
    have hbooks : books db₂ = { books db₁ with
        order := Books.enter (books db₁).order (db₁ .order).next (e.orderNumber order.2) } :=
      books_create_order db₁ rfl
    constructor
    · rw [hbooks]
    · rw [hbooks]
      exact fun k n hn => Books.enter_of_eq_some (books_order_next db₁).1 hn
    · rw [hbooks]
      exact fun k n hn => (Books.enter_eq_some hn).symm.imp_right fun h => by simp [h.1]
    · rw [hbooks]
      simp [Books.enter_self]
    · simpa using books_order_next db₁
  refine wp_mono (Q := fun a db' => (∀ n ∉ [TableName.orderStatusHistory, .pickup, .delivery], db' n = db₂ n) ∧
      a = ⟨(db₁ .order).next, order.1.total⟩) (wp_and ?_ ?_) ?_
  · refine Writes.bind (.create (by decide) _) (fun _ => ?_) db₂
    split
    · exact .bind (.create (by decide) _) fun _ => .pure _
    · exact .bind (.create (by decide) _) fun _ => .pure _
  · rw [wp_bind, wp_create]
    cases q.fulfillmentType <;> exact (wp_bind _ _ _ _).mpr ((wp_create _ _ _ _).mpr ((wp_pure _ _ _).mpr rfl))
  · rintro _ db' ⟨hsame', rfl⟩
    refine ⟨(hplaced _).of_frame ?_ ?_, rfl⟩
    · exact books_congr fun n hn => hsame n (by revert n; decide)
    · exact books_congr fun n hn => hsame' n (by revert n; decide)

/-- The orders of a quote are entered, with the prices of its parts. -/
theorem placeOrders_places (e : Env) (userId : ℕ) (q : Quote) (orders : List (QuoteOrder × ℕ))
    (db : Database) :
    wp db (orders.mapM (placeOrder e userId q)) fun as db' =>
      Places as db db' ∧ as.map (·.amount) = orders.map (·.1.total) := by
  refine wp_mapM_rec (R := fun (os : List (QuoteOrder × ℕ)) as db db' =>
    Places as db db' ∧ as.map (·.amount) = os.map (·.1.total)) (fun db => ⟨.nil db, rfl⟩)
    (fun o _ os as db => ?_) db
  refine wp_mono (placeOrder_places e userId q o db) fun a db₁ ⟨hplaces, hamount⟩ db' h' => ?_
  exact ⟨hplaces.cons h'.1, by rw [List.map_cons, List.map_cons, h'.2, hamount]⟩

/-- The group of placed orders is entered with them. -/
theorem books_create_placed {as : List Allocation} {db db₁ : Database} (h : Places as db db₁)
    {group : CheckoutPaymentGroup} (hallocations : group.allocations = as)
    (hnone : group.paymentId = none) (hpending : group.status = .pending)
    (hnonneg : ∀ a ∈ as, 0 ≤ a.amount) (htotal : (as.map (·.amount)).sum = group.totalAmount) :
    Books.Change spared (books db)
      (books (db₁.set .checkoutPaymentGroup ((db₁ .checkoutPaymentGroup).create group))) := by
  obtain ⟨hnext, hstatus⟩ := books_group_next db₁
  rw [books_create_group db₁ hpending, h.books]
  rw [h.books] at hnext hstatus
  have horders : group.terms.orders = as.map (·.orderId) := by rw [← hallocations]; rfl
  have hplaces : Books.Places (books db) (books db₁).order (db₁ .checkoutPaymentGroup).next group.terms :=
    { group := hnext
      groupStatus := hstatus
      kept := h.kept
      carried := horders ▸ h.carried
      placed := horders ▸ h.placed
      fresh := horders ▸ h.fresh
      unlinked := hnone
      nodup := group.orders_nodup
      nonneg := by rw [show group.terms.allocations = as from hallocations]; exact hnonneg
      balanced := by rw [show group.terms.allocations = as from hallocations]; exact htotal }
  exact .place hplaces

/-- A group that is paid at once is linked and finished. -/
theorem payAtOnce_refines (e : Env) {userId groupId : ℕ} {q : Quote} {method : PaymentMethod}
    {credit : Option Credit} {group : CheckoutPaymentGroup} {db : Database}
    (hg : (db .checkoutPaymentGroup).find groupId = some group) (hnone : group.paymentId = none)
    (hpending : group.status = .pending) (htotal : group.totalAmount = q.total) :
    wp db (payAtOnce e userId groupId q method credit) fun _ db' => Refines spared db db' := by
  have hdebit (reference : String) : Writes [.wallet, .walletTransaction]
      (when (method = .wallet) (debitWallet userId q.total reference)) :=
    .when (debitWallet_writes _ _ _)
  rw [payAtOnce, wp_bind]
  refine wp_mono (hdebit _ db) fun _ db₁ hsame => ?_
  have hbooks : books db₁ = books db := books_congr fun n hn => hsame n (by revert n; decide)
  rw [← hsame .checkoutPaymentGroup (by decide)] at hg
  refine wp_mono (Q := fun _ db' => Refines spared db₁ db') ?_
    fun _ _ h => trans_of (Refines spared) (.of_eq hbooks) h
  refine refines_of_steps fun hB => ?_
  obtain ⟨hterms, hstatus⟩ := books_group hg
  rw [wp_bind, wp_createUnique]
  intro _
  rw [wp_bind, wp_update]
  intro _ _
  have hpaid := hB.unpaid hterms hnone
  have hfailed : (books db₁).groupStatus groupId ≠ .failed := by
    rw [hstatus, hpending]
    decide
  have hlink (p : Payment) (hamount : p.amount = q.total) (hprovider : p.provider = .manual)
      (hspecial : p.special = false) : Books.Links (books db₁) groupId (db₁ .payment).next group.terms p.terms
        group.status p.status (books db₁).klump :=
    { group := hterms
      fresh := books_payment_next db₁
      unlinked := hnone
      amount := hamount.trans htotal.symm
      special := hspecial
      reference := fun h => by rw [show p.terms.provider = .manual from hprovider] at h; cases h
      pending := fun h => by rw [show p.terms.provider = .manual from hprovider] at h; cases h
      agree := fun o h => hstatus ▸ h
      status := by rw [hpending]; decide
      unpaid := hpaid
      unreleased := hfailed
      kept := fun _ _ => id
      new := fun _ _ => .inl
      started := fun h => by rw [show p.terms.provider = .manual from hprovider] at h; cases h }
  set db₂ := (db₁.set .payment _).set .checkoutPaymentGroup _ with hdb₂
  have hchange : Books.Change spared (books db₁) (books db₂) := by
    rw [hdb₂, books_create_link hg rfl]
    exact .link (hlink _ rfl rfl rfl)
  have hg₂ : (books db₂).group groupId =
      some { group.terms with paymentId := some (db₁ .payment).next } := by
    rw [hdb₂, books_create_link hg rfl]
    exact Books.modify_self hterms
  exact wp_mono (completeGroup_steps spared e (Books.setPayment_self (books db₂) 0).symm hg₂ rfl)
    fun _ _ ⟨_, hahead, _⟩ => hahead.steps_of_eq.head hchange

/-- The quoted checkout is placed by legitimate steps. -/
theorem placeCheckout_refines (e : Env) {userId cartId : ℕ} {input : CreateCheckoutDto} {q : Quote}
    {credit : Option Credit} {db : Database} (hnonneg : ∀ o ∈ q.orders, 0 ≤ o.total)
    (htotal : sumOrders (·.total) q.orders = q.total) :
    wp db (placeCheckout e userId cartId input q credit) fun _ db' => Refines spared db db' := by
  rw [placeCheckout, wp_bind]
  refine wp_mono (placeOrders_places e userId q _ db) fun as db₁ ⟨hplaces, hamounts⟩ => ?_
  have hamounts' : as.map (·.amount) = q.orders.map (·.total) := by
    rw [hamounts, ← List.zipIdx_map_fst 0 q.orders, List.map_map, List.zipIdx_map_fst]
    rfl
  rw [wp_bind, wp_ofExcept]
  intro group hgroup
  obtain ⟨hallocations, hnone, hpending, hprice⟩ : group.allocations = as ∧ group.paymentId = none ∧
      group.status = .pending ∧ group.totalAmount = q.total := by
    unfold newGroup at hgroup
    split at hgroup
    · cases hgroup
      exact ⟨rfl, rfl, rfl, rfl⟩
    · cases hgroup
  rw [wp_bind, wp_createUnique]
  intro _
  set db₂ := db₁.set .checkoutPaymentGroup ((db₁ .checkoutPaymentGroup).create group) with hdb₂
  have hplaced : Books.Change spared (books db) (books db₂) := by
    refine books_create_placed hplaces hallocations hnone hpending (fun a ha => ?_)
      (by rw [hamounts', hprice]; exact htotal)
    obtain ⟨o, ho, heq⟩ := List.mem_map.mp (hamounts' ▸ List.mem_map_of_mem ha)
    rw [← heq]
    exact hnonneg o ho
  refine wp_mono (Q := fun _ db' => Refines spared db₂ db') ?_
    fun _ db' h => trans_of (Refines spared) (fun _ => .single hplaced) h
  refine Within.after ((wp_when _ _ _ _).mpr ⟨fun _ => ?_, fun _ => refl_of _ _⟩) fun _ => .pure _
  refine payAtOnce_refines e ?_ hnone hpending hprice
  rw [hdb₂, Relational.Database.set_self]
  exact Relational.Table.find_create_self _ _

/-- A checkout is created by legitimate steps. -/
theorem createInTransaction_refines (e : Env) (userId : ℕ) (input : CreateCheckoutDto)
    (credit : Option Credit) :
    Within (Refines spared) (createInTransaction e userId input credit) := by
  refine .bind (refines_of_writes (Cart.lock_writes userId) (by decide)) fun cart => ?_
  refine .bind (.of_reads (.require _ _)) fun _ => .bind (.of_reads (.first _ _)) fun pending => ?_
  cases pending with
  | some pending => exact .bind (.of_reads (.require _ _)) fun _ => .pure _
  | none =>
    intro db
    rw [wp_bind, wp_query, wp_bind, wp_ofExcept]
    intro q hq
    obtain ⟨hnonneg, htotal⟩ := quote_balanced hq
    rw [wp_bind, wp_require]
    intro _
    exact Within.after (placeCheckout_refines e hnonneg htotal) fun _ =>
      .bind (.of_reads (.findOrThrow _ _)) fun _ => .pure _

/-- Approved financing is turned into a checkout by legitimate steps. -/
theorem confirm_refines (e : Env) (userId id : ℕ) :
    Within (Refines spared) (Checkout.confirm e userId id) := by
  refine .bind (.of_reads (.find _ _)) fun _ => .bind (.of_reads (.orThrow _ _)) fun app => ?_
  split
  · exact .pure _
  · refine .bind (.of_reads (.require _ _)) fun _ => .bind (.of_reads (.findOrThrow _ _)) fun _ => ?_
    refine .bind (.of_reads (.require _ _)) fun _ => ?_
    refine .bind (createInTransaction_refines e _ _ _) fun _ => ?_
    refine .bind (refines_of_writes (.update (List.mem_singleton_self _) _ _) (by decide)) fun _ => ?_
    exact .bind (refines_of_writes (createInstallments_writes _ _) (by decide)) fun _ => .pure _

end Checkout

end Superstore

import Superstore.Books.Payments
import Superstore.Wallets.Transactions

/-!
# Orders in the books

A cancellation, the claim of a delivery and the intervention of staff make sure inside their
transaction that an order has been paid for. The other writers of a status rely on what their
caller has read.
-/

namespace Superstore

open Relational.Tx
open Payments (setCurrentStatus)

variable {spared : Prop}

/-- An order that a paid group carries. -/
def Books.OrderPaid (B : Books) (k : ℕ) : Prop :=
  ∃ i g, B.group i = some g ∧ B.groupStatus i = .paid ∧ k ∈ g.orders

/-- A paid order may go to any status but back to the start. -/
theorem Books.OrderPaid.change {B : Books} {k : ℕ} (h : B.OrderPaid k) {s : OrderStatus}
    (hs : s ≠ .orderReceived) : Books.Change spared B (B.setOrder k s) := by
  obtain ⟨i, g, hg, hpaid, hk⟩ := h
  exact .order hs hg hpaid hk

/-- An order that has been confirmed and not been cancelled has been paid for. -/
theorem orderPaid_of_find {db : Database} (hB : Consistent (books db)) {k : ℕ} {o : Order}
    (ho : (db .order).find k = some o) (hreceived : o.currentStatus ≠ .orderReceived)
    (hcancelled : o.currentStatus ≠ .cancelled) : (books db).OrderPaid k := by
  obtain ⟨hn, hs⟩ := books_order ho
  obtain ⟨i, g, hg, hk⟩ := hB.carried k _ hn
  obtain ⟨a, ha, rfl⟩ := List.mem_map.mp hk
  have hagree := hB.agree i g hg a ha
  rw [hs] at hagree
  exact ⟨i, g, hg, hagree.paid hreceived hcancelled, hk⟩

/-- An order that may go to some status that is not reserved to the financial workflows. -/
theorem orderPaid_of_transition {db : Database} (hB : Consistent (books db)) {k : ℕ} {o : Order}
    {s : OrderStatus} (ho : (db .order).find k = some o)
    (hreceived : o.currentStatus ≠ .orderReceived) (hnext : canTransitionOrder o.currentStatus s) :
    (books db).OrderPaid k :=
  orderPaid_of_find hB ho hreceived fun h => not_terminal_of_canTransition hnext (.inr h)

/-- Putting an order into a status, if it is in the database. -/
theorem refines_putStatus {target : Option (ℕ × OrderStatus)} {db db' : Database}
    (horder : db' .order = Orders.putStatus target (db .order))
    (hsame : ∀ n ∈ [TableName.storeWalletTransaction, .payment, .checkoutPaymentGroup, .refund,
      .klumpTransaction], db' n = db n)
    (h : ∀ k s, target = some (k, s) → s ≠ .orderReceived ∧ (books db).OrderPaid k) :
    Refines spared db db' := by
  set db₁ := db.set .order (Orders.putStatus target (db .order)) with hdb₁
  have hput : Refines spared db db₁ := by
    intro _
    cases target with
    | none =>
      rw [hdb₁, show Orders.putStatus none (db .order) = db .order from rfl,
        Relational.Database.set, Function.update_eq_self]
    | some x =>
      obtain ⟨hs, hpaid⟩ := h x.1 x.2 rfl
      cases hfind : (db .order).find x.1 with
      | none =>
        rw [hdb₁, show Orders.putStatus (some x) (db .order) = db .order from
          Relational.Table.update_of_none hfind _, Relational.Database.set, Function.update_eq_self]
      | some o =>
        rw [hdb₁, show Orders.putStatus (some x) (db .order) =
          (db .order).update x.1 (setCurrentStatus x.2) from rfl, books_set_order hfind]
        exact .single (hpaid.change hs)
  refine trans_of (Refines spared) hput (.of_eq (books_congr fun n hn => ?_))
  by_cases hn' : n = .order
  · subst hn'
    rw [horder, hdb₁, Relational.Database.set_self]
  · rw [hsame n (by revert n; decide), hdb₁, Relational.Database.set_of_ne _ _ hn']

namespace Orders

/-! ## Statuses that the caller decides on -/

/-- An operation that puts an order into a status, and writes nothing else of the books. -/
theorem refines_of_puts {α : Type} {m : Tx α} {target : Option (ℕ × OrderStatus)} {db : Database}
    (hwrites : Writes progressTables m)
    (hputs : wp db m fun _ db' => db' .order = putStatus target (db .order))
    (h : ∀ k s, target = some (k, s) → s ≠ .orderReceived ∧ (books db).OrderPaid k) :
    wp db m fun _ db' => Refines spared db db' :=
  wp_mono (wp_and (hwrites db) hputs) fun _ _ ⟨hsame, hput⟩ =>
    refines_putStatus hput (fun n hn => hsame n (by revert n; decide)) h

/-- A status that the store sets refines the books, where the order is paid. -/
theorem writeStatus_refines {id : ℕ} {fromStatus status : OrderStatus} {actorId : ℕ}
    {reason : Option String} {db : Database}
    (h : status ≠ .orderReceived ∧ (books db).OrderPaid id) :
    wp db (writeStatus id fromStatus status actorId reason) fun _ db' => Refines spared db db' :=
  refines_of_puts ((writeStatus_writes _ _ _ _ _).mono (by decide)) (writeStatus_puts _ _ _ _ _ db)
    (by rintro _ _ ⟨⟩; exact h)

/-- Completing the packing refines the books, where the order is paid. -/
theorem writePacked_refines {id : ℕ} {fromStatus : OrderStatus} {actorId : ℕ} {db : Database}
    (h : (books db).OrderPaid id) :
    wp db (writePacked id fromStatus actorId) fun _ db' => Refines spared db db' :=
  refines_of_puts ((writePacked_writes _ _ _).mono (by decide)) (writePacked_puts _ _ _ db)
    (by rintro _ _ ⟨⟩; exact ⟨by decide, h⟩)

/-- Confirming a pickup refines the books, where the order is paid. -/
theorem writePickup_refines (e : Env) {id : ℕ} {fromStatus : OrderStatus}
    {riderId credentialId : ℕ} {db : Database} (h : (books db).OrderPaid id) :
    wp db (writePickup e id fromStatus riderId credentialId) fun _ db' => Refines spared db db' :=
  refines_of_puts ((writePickup_writes _ _ _ _ _).mono (by decide))
    (wp_mono (writePickup_puts e _ _ _ _ db) fun _ _ h => h.2)
    (by rintro _ _ ⟨⟩; exact ⟨by decide, h⟩)

/-- Confirming a delivery refines the books, where the order is paid. -/
theorem writeDelivery_refines (e : Env) {id : ℕ} {order : Order}
    {riderId credentialId deliveryId : ℕ} {db : Database} (h : (books db).OrderPaid id) :
    wp db (writeDelivery e id order riderId credentialId deliveryId)
      fun _ db' => Refines spared db db' :=
  refines_of_puts ((writeDelivery_writes _ _ _ _ _ _).mono (by decide))
    (wp_mono (writeDelivery_puts e _ _ _ _ _ db) fun _ _ h => h.2)
    (by rintro _ _ ⟨⟩; exact ⟨by decide, h⟩)

/-- The report of a rider refines the books, where the order is paid. -/
theorem writeProgress_refines (e : Env) {deliveryId : ℕ} {status : DeliveryStatus} {orderId : ℕ}
    {orderStatus : OrderStatus} {riderId : ℕ} {location note : Option String} {db : Database}
    (h : (progressTarget status orderId orderStatus).isSome → (books db).OrderPaid orderId) :
    wp db (writeProgress e deliveryId status orderId orderStatus riderId location note)
      fun _ db' => Refines spared db db' := by
  refine refines_of_puts ((writeProgress_writes _ _ _ _ _ _ _ _).mono (by decide))
    (writeProgress_puts e _ _ _ _ _ _ _ db) fun k s htarget => ?_
  obtain ⟨-, -, rfl, rfl⟩ := progressTarget_eq_some htarget
  exact ⟨by decide, h (by rw [htarget]; rfl)⟩

/-! ## Statuses that the transaction decides on -/

/-- Claiming a delivery refines the books. -/
theorem claimDelivery_refines (e : Env) (riderId deliveryId : ℕ) (offerId : Option ℕ) :
    Within (Refines spared) (claimDelivery e riderId deliveryId offerId) := fun db => by
  refine wp_mono (wp_and (claimDelivery_writes e riderId deliveryId offerId db)
    (claimDelivery_puts e riderId deliveryId offerId db)) fun _ db' ⟨hsame, id, o, ho, hready, hput⟩ hB => ?_
  refine refines_putStatus hput (fun n hn => hsame n (by revert n; decide)) ?_ hB
  rintro _ _ ⟨⟩
  exact ⟨by decide, orderPaid_of_find hB ho (by rw [hready]; decide) (by rw [hready]; decide)⟩

/-- A status that the staff set refines the books. -/
theorem intervene_refines (e : Env) (orderId : ℕ) (status : OrderStatus) (reason : String) :
    Within (Refines spared) (intervene e orderId status reason) := fun db => by
  refine wp_mono (wp_and (intervene_writes e orderId status reason db)
    (intervene_puts e orderId status reason db)) fun _ db' ⟨hsame, o, ho, hadmin, hnext, hput⟩ hB => ?_
  refine refines_putStatus hput (fun n hn => hsame n (by revert n; decide)) ?_ hB
  rintro _ _ ⟨⟩
  refine ⟨(managed_not_financial (.inr hadmin)).1, orderPaid_of_transition hB ho ?_ hnext⟩
  intro hreceived
  rw [hreceived] at hnext
  exact not_canTransition_of_received hadmin hnext

/-! ## Cancellation -/

/-- The group and the share that a cancellation finds for its order. -/
theorem allocationOf_eq_some {id i : ℕ} {g : CheckoutPaymentGroup} {a : Allocation} {db : Database}
    (h : allocationOf id db = some (i, g, a)) :
    (db .checkoutPaymentGroup).find i = some g ∧ a ∈ g.allocations ∧ a.orderId = id := by
  simp only [allocationOf, Option.bind_eq_some_iff, Option.map_eq_some_iff, Prod.mk.injEq] at h
  obtain ⟨⟨j, g'⟩, hfirst, a', ha, rfl, rfl, rfl⟩ := h
  exact ⟨(Relational.Table.find_of_first hfirst).1, List.mem_of_find?_eq_some ha,
    by simpa using List.find?_some ha⟩

variable (spared) in
/-- The refund of a cancelled order is noted by a legitimate step, and there is one then. -/
theorem noteRefund_steps (e : Env) {userId id p : ℕ} {order : Order} {a : Allocation}
    {isWallet isKlump : Bool} {reason : String} {db : Database} {i : ℕ} {g : GroupTerms}
    (hB : Consistent (books db)) (hg : (books db).group i = some g)
    (hpaid : (books db).groupStatus i = .paid) (hp : g.paymentId = some p) (ha : a ∈ g.allocations)
    (hid : a.orderId = id) :
    wp db (noteRefund e userId id p order a isWallet isKlump reason) fun _ db' =>
      Books.Steps spared (books db) (books db') ∧ ∃ k r, (books db').refund k = some r ∧ r.paymentId = p := by
  rw [noteRefund, wp_bind, wp_first]
  cases hfirst : (db .refund).first fun _ r => r.orderId == id with
  | some existing =>
    obtain ⟨hr, hid'⟩ := Relational.Table.find_of_first hfirst
    refine (wp_pure _ _ _).mpr ⟨.refl, existing.1, existing.2.terms, books_refund hr, ?_⟩
    obtain ⟨j, g', hg', hp', hmem⟩ := hB.refund_owed _ _ (books_refund hr)
    have hk : a.orderId ∈ g'.orders := by
      rw [hid, ← beq_iff_eq.mp hid']
      exact List.mem_map_of_mem hmem
    obtain rfl := hB.carrier_unique i g j g' hg hg' _ (List.mem_map_of_mem ha) hk
    obtain rfl := Option.some.inj (hg.symm.trans hg')
    exact Option.some.inj (hp'.symm.trans hp)
  | none =>
    rw [wp_bind, wp_createUnique]
    intro _
    rw [wp_pure, books_create_refund]
    refine ⟨.single (.refund (books_refund_next db) hg hpaid hp ?_ fun l s hs => ?_), _, _,
      Books.enter_self, rfl⟩
    · rw [← hid]
      exact ha
    · obtain ⟨s', hs', rfl⟩ := Option.map_eq_some_iff.mp hs
      simpa [Refund.terms] using Relational.Table.first_eq_none.mp hfirst l s' hs'

/-- The refund status of a payment that has a refund. -/
theorem syncInTransaction_refines {p : ℕ} {db : Database}
    (h : ∃ k r, (books db).refund k = some r ∧ r.paymentId = p) :
    wp db (syncInTransaction p) fun _ db' => Refines spared db db' := by
  obtain ⟨k, r, hr, rfl⟩ := h
  rw [syncInTransaction, wp_bind, wp_findOrThrow]
  intro row hrow
  rw [wp_bind, wp_query, wp_update]
  intro _ _ _
  rw [books_set_paymentStatus hrow rfl]
  refine .single (.refunded hr ?_)
  dsimp only [Payments.refundedStatus]
  split <;> decide

/-- Taking a settlement back adds to the ledger. -/
theorem reverseSettlement_refines (orderId : ℕ) (order : Order) :
    Within (Refines spared) (reverseSettlement orderId order) := fun db => by
  have hledger : Evolves .storeWalletTransaction Eq (reverseSettlement orderId order) := by
    refine .bind (.of_reads (.first _ _)) fun _ => .bind (.of_reads (.first _ _)) fun _ => ?_
    split
    · exact .bind (.update_of_ne (by decide) _ _) fun _ => .bind (.createUnique _ _) fun _ => .pure _
    · exact .pure _
  exact wp_mono (wp_and (reverseSettlement_writes orderId order db) (hledger db))
    fun _ _ ⟨hsame, hkept⟩ => .of_frame (fun n hn => hsame n (by revert n; decide)) hkept

/-- A customer's cancellation is made of legitimate steps. -/
theorem cancel_refines (e : Env) (userId id : ℕ) (reason : String) :
    Within (Refines spared) (cancel e userId id reason) := by
  intro db
  refine refines_of_steps fun hB => ?_
  rw [cancel, wp_bind, wp_find, wp_bind, wp_orThrow]
  intro order horder
  obtain ⟨ho, -⟩ := Option.filter_eq_some_iff.mp horder
  rw [wp_bind, wp_require]
  intro hstatus
  have hpaid : (books db).OrderPaid id := by
    refine orderPaid_of_find hB ho ?_ ?_ <;> rcases hstatus with hs | hs <;> rw [hs] <;> decide
  have hcancel : Books.Change spared (books db) ((books db).setOrder id .cancelled) :=
    hpaid.change (by decide)
  rw [wp_bind]
  refine wp_mono (callOff_books ho) fun _ db₁ hbooks₁ => ?_
  have hB₁ : Consistent (books db₁) := hbooks₁ ▸ (hcancel.advances hB).1
  rw [wp_bind, wp_query, wp_bind, wp_orThrow]
  rintro ⟨⟨i, group, a⟩, p⟩ hlocated
  simp only [Option.bind_eq_some_iff, Option.map_eq_some_iff, Prod.mk.injEq] at hlocated
  obtain ⟨_, halloc, _, hp, rfl, rfl⟩ := hlocated
  obtain ⟨hg, ha, hid⟩ := allocationOf_eq_some halloc
  obtain ⟨hg, -⟩ := books_group hg
  have hpaid₁ : (books db₁).groupStatus i = .paid := by
    obtain ⟨j, g, hg', hpaid, hk⟩ := hpaid
    have hk' : id ∈ group.terms.orders := hid ▸ List.mem_map_of_mem ha
    rw [hbooks₁] at hg ⊢
    rw [hB.carrier_unique i _ j g hg hg' id hk' hk]
    exact hpaid
  rw [wp_bind, wp_query, wp_bind]
  have hcredit (c : Prop) [Decidable c] (amount : ℚ) (reference : String) :
      Writes [.wallet, .walletTransaction] (when c (Payments.creditWallet userId amount reference)) :=
    .when (Payments.creditWallet_writes _ _ _)
  refine wp_mono (hcredit _ _ _ db₁) fun _ db₂ hsame => ?_
  rw [← books_congr fun n hn => hsame n (by revert n; decide)] at hbooks₁ hB₁ hg hpaid₁
  rw [wp_bind]
  refine wp_mono (noteRefund_steps spared e hB₁ hg hpaid₁ hp ha hid) fun refund db₃ hstep => ?_
  obtain ⟨hnoted, howed⟩ := hstep
  have hsteps : Books.Steps spared (books db) (books db₃) := by
    rw [hbooks₁] at hnoted
    exact hnoted.head hcancel
  refine wp_mono (Q := fun _ db' => Refines spared db₃ db') ?_
    fun _ db' h => hsteps.trans (h (Books.Steps.advances hsteps hB).1)
  refine Within.after ((wp_when _ _ _ _).mpr ⟨fun _ => syncInTransaction_refines howed, fun _ => refl_of _ _⟩)
    fun _ => .bind (reverseSettlement_refines _ _) fun _ => ?_
  exact .bind (refines_of_writes (.updateMany (List.mem_singleton_self _) _ _) (by decide)) fun _ => .pure _

end Orders

/-- A store's withdrawal only adds an entry to the ledger. -/
theorem Wallets.withdrawStore_refines (storeId walletId : ℕ) (amount : ℚ) (reference : String) :
    Within (Refines spared) (Wallets.withdrawStore storeId walletId amount reference) := fun db => by
  have hledger : Evolves .storeWalletTransaction Eq
      (Wallets.withdrawStore storeId walletId amount reference) :=
    .bind (.update_of_ne (by decide) _ _) fun _ => .bind (.createUnique _ _) fun _ =>
      .create_of_ne (by decide) _
  exact wp_mono (wp_and (Wallets.withdrawStore_writes storeId walletId amount reference db) (hledger db))
    fun _ _ ⟨hsame, hkept⟩ => .of_frame (fun n hn => hsame n (by revert n; decide)) hkept

end Superstore

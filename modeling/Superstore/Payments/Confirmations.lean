import Superstore.Payments.Lifecycle
import Superstore.Relational.Ledger

/-!
# The outbox of order confirmations

Completing a payment group puts each of its orders into the outbox, from which the customer is told of
it. Whichever transaction a group is completed by, the orders of a paid group are in the outbox, and no
order is in it twice.
-/

namespace Superstore.Payments

open Relational Relational.Tx

/-- An order is in the outbox. -/
def Posted (db : Database) (orderId : ℕ) : Prop :=
  ∃ k o, (db .orderConfirmationOutbox).find k = some o ∧ o.orderId = orderId

/-- No order is in the outbox twice. -/
def PostedOnce (db : Database) : Prop :=
  ∀ k l o p, (db .orderConfirmationOutbox).find k = some o → (db .orderConfirmationOutbox).find l = some p →
    o.orderId = p.orderId → k = l

/-- The orders of paid groups are in the outbox, and none is in it twice. -/
structure Announced (db : Database) : Prop where
  posted : ∀ i g, (db .checkoutPaymentGroup).find i = some g → g.status = .paid →
    ∀ a ∈ g.allocations, Posted db a.orderId
  once : PostedOnce db

variable {db db' : Database}

/-- Whether a confirmation has been posted depends on the outbox alone. -/
theorem Posted.congr {orderId : ℕ} (h : Posted db orderId)
    (hsame : db' .orderConfirmationOutbox = db .orderConfirmationOutbox) : Posted db' orderId := by
  unfold Posted
  rw [hsame]
  exact h

/-- Whether confirmations have been posted once depends on the outbox alone. -/
theorem PostedOnce.congr (h : PostedOnce db) (hsame : db' .orderConfirmationOutbox = db .orderConfirmationOutbox) :
    PostedOnce db' := by
  unfold PostedOnce
  rw [hsame]
  exact h

/-- Groups that are as they were, apart from those that are not paid. -/
theorem Announced.of_groups (h : Announced db)
    (houtbox : db' .orderConfirmationOutbox = db .orderConfirmationOutbox)
    (hgroups : ∀ i g, (db' .checkoutPaymentGroup).find i = some g → g.status = .paid →
      ∃ g₀, (db .checkoutPaymentGroup).find i = some g₀ ∧ g₀.status = .paid ∧ g₀.allocations = g.allocations) :
    Announced db' where
  posted i g hg hpaid a ha := by
    obtain ⟨g₀, hg₀, hpaid₀, hsame⟩ := hgroups i g hg hpaid
    exact (h.posted i g₀ hg₀ hpaid₀ a (hsame ▸ ha)).congr houtbox
  once := h.once.congr houtbox

/-- A transaction that writes neither groups nor the outbox. -/
theorem announced_of_writes {α : Type} {ns : List TableName} {m : Tx α} (h : Writes ns m)
    (hgroup : TableName.checkoutPaymentGroup ∉ ns) (houtbox : TableName.orderConfirmationOutbox ∉ ns) :
    Within (Keeps Announced) m :=
  .of_writes h fun db db' hsame hannounced => by
    refine hannounced.of_groups (hsame _ houtbox) fun i g hg hpaid => ?_
    rw [hsame _ hgroup] at hg
    exact ⟨g, hg, hpaid, rfl⟩

/-- A group that is not paid by what is written to it. -/
theorem announced_updateGroup (id : ℕ) {f : CheckoutPaymentGroup → CheckoutPaymentGroup}
    (hstatus : ∀ g, (f g).status = .paid → g.status = .paid) (hsame : ∀ g, (f g).allocations = g.allocations) :
    Within (Keeps Announced) (update .checkoutPaymentGroup id f) := by
  intro db
  refine wp_keeps fun h => ?_
  rw [wp_update]
  intro _ _
  refine h.of_groups (Database.set_of_ne _ _ (by decide)) fun i g hg hpaid => ?_
  rw [Database.set_self, Table.find_update] at hg
  split at hg
  · obtain ⟨g₀, hg₀, rfl⟩ := Option.map_eq_some_iff.mp hg
    exact ⟨g₀, hg₀, hstatus g₀ hpaid, (hsame g₀).symm⟩
  · exact ⟨g, hg, hpaid, rfl⟩

/-- A group that is entered before it is paid. -/
theorem announced_createGroup (clash : ℕ → CheckoutPaymentGroup → Bool) {group : CheckoutPaymentGroup}
    (hstatus : group.status ≠ .paid) :
    Within (Keeps Announced) (createUnique .checkoutPaymentGroup clash group) := by
  intro db
  refine wp_keeps fun h => ?_
  rw [wp_createUnique]
  intro _
  refine h.of_groups (Database.set_of_ne _ _ (by decide)) fun i g hg hpaid => ?_
  rw [Database.set_self] at hg
  rcases Ledger.find_of_create hg with ⟨-, rfl⟩ | hold
  · exact absurd hpaid hstatus
  · exact ⟨g, hold, hpaid, rfl⟩

/-! ## Completing a group -/

/-- Orders are put into the outbox, which loses none, and groups stay as they are. -/
structure Posts (orderIds : List ℕ) (db db' : Database) : Prop where
  groups : db' .checkoutPaymentGroup = db .checkoutPaymentGroup
  kept : ∀ orderId, Posted db orderId → Posted db' orderId
  once : PostedOnce db → PostedOnce db'
  posted : ∀ orderId ∈ orderIds, Posted db' orderId

/-- A confirmation puts its order into the outbox. -/
theorem confirmOrder_posts (e : Env) (userId : ℕ) (a : Allocation) (db : Database) :
    wp db (confirmOrder e userId a) fun _ db' => Posts [a.orderId] db db' := by
  rw [confirmOrder, wp_bind, wp_findOrThrow]
  intro order _
  have hconfirm : Writes ([.order, .orderStatusHistory] ++ Settlements.tables)
      (when (order.currentStatus = .orderReceived) do
        update .order a.orderId (setCurrentStatus .confirmed)
        let _ ← create .orderStatusHistory
          { orderId := a.orderId, fromStatus := some .orderReceived, toStatus := .confirmed
            reason := some "Payment or approved financing confirmed." }
        Settlements.settleOrder e a.orderId) :=
    .when (.bind (.update (by decide) _ _) fun _ => .bind (.create (by decide) _) fun _ =>
      (Settlements.settleOrder_writes e _).mono (by decide))
  refine hconfirm.before fun _ db₁ hsame => ?_
  have houtbox : db₁ .orderConfirmationOutbox = db .orderConfirmationOutbox := hsame _ (by decide)
  have hgroups : db₁ .checkoutPaymentGroup = db .checkoutPaymentGroup := hsame _ (by decide)
  rw [wp_bind, wp_require]
  intro _
  rw [wp_bind, wp_firstOrCreate]
  refine ⟨fun found hfound => ?_, fun hnone => ?_⟩
  · obtain ⟨hfind, hof⟩ := Table.find_of_first hfound
    refine (wp_pure _ _ _).mpr ⟨hgroups, fun _ h => h.congr houtbox, fun h =>
      h.congr houtbox, fun orderId hid => ?_⟩
    rw [List.mem_singleton.mp hid]
    exact ⟨found.1, found.2, hfind, beq_iff_eq.mp hof⟩
  · have hfresh := Table.first_eq_none.mp hnone
    refine (wp_pure _ _ _).mpr ⟨(Database.set_of_ne _ _ (by decide)).trans hgroups, ?_, ?_, ?_⟩
    · rintro orderId ⟨k, o, ho, hof⟩
      rw [← houtbox] at ho
      exact ⟨k, o, by rw [Database.set_self]; exact Table.find_create_of_find _ ho, hof⟩
    · intro honce k l o p ho hp hsameOrder
      rw [Database.set_self] at ho hp
      have hno {j : ℕ} {q : OrderConfirmationOutbox} (hq : (db₁ .orderConfirmationOutbox).find j = some q) :
          q.orderId ≠ a.orderId := by simpa using hfresh j q hq
      rcases Ledger.find_of_create ho with ⟨rfl, rfl⟩ | hold <;>
        rcases Ledger.find_of_create hp with ⟨rfl, rfl⟩ | hold'
      · rfl
      · exact absurd hsameOrder.symm (hno hold')
      · exact absurd hsameOrder (hno hold)
      · exact honce.congr houtbox k l o p hold hold' hsameOrder
    · intro orderId hid
      rw [List.mem_singleton.mp hid]
      exact ⟨_, _, by rw [Database.set_self]; exact Table.find_create_self _ _, rfl⟩

/-- Confirming the orders of a group puts all of them into the outbox. -/
theorem confirmOrders_post (e : Env) (userId : ℕ) (allocations : List Allocation) (db : Database) :
    wp db (allocations.forM (confirmOrder e userId)) fun _ db' =>
      Posts (allocations.map Allocation.orderId) db db' := by
  refine wp_forM_rec (R := fun as => Posts (as.map Allocation.orderId))
    (fun db => ⟨rfl, fun _ h => h, fun h => h, nofun⟩) (fun a _ as db => ?_) db
  refine wp_mono (confirmOrder_posts e userId a db) fun _ db₁ h₁ db' h' => ?_
  refine ⟨h'.groups.trans h₁.groups, fun i h => h'.kept i (h₁.kept i h), fun h => h'.once (h₁.once h), ?_⟩
  intro orderId hid
  rw [List.map_cons] at hid
  rcases List.mem_cons.mp hid with rfl | hrest
  · exact h'.kept _ (h₁.posted _ List.mem_cons_self)
  · exact h'.posted _ hrest

/-- Completing a group announces its orders. -/
theorem completeGroup_announced (e : Env) (id : ℕ) : Within (Keeps Announced) (completeGroup e id) := by
  intro db
  refine wp_keeps fun h => ?_
  rw [completeGroup, wp_bind, wp_findOrThrow]
  intro group hgroup
  rw [wp_when]
  refine ⟨fun _ => ?_, fun _ => h⟩
  rw [wp_bind, wp_require]
  intro _
  rw [wp_bind]
  refine wp_mono (confirmOrders_post e group.userId group.allocations db) fun _ db₁ hposts => ?_
  refine (Cart.consume_writes _ _ _).before fun _ db₂ hsame => ?_
  have houtbox : db₂ .orderConfirmationOutbox = db₁ .orderConfirmationOutbox := hsame _ (by decide)
  have hgroups : db₂ .checkoutPaymentGroup = db .checkoutPaymentGroup := (hsame _ (by decide)).trans hposts.groups
  rw [wp_update]
  intro _ _
  refine ⟨fun i g hg hpaid a ha => ?_, ?_⟩
  · rw [Database.set_self, hgroups, Table.find_update] at hg
    have hposted : Posted db₂ a.orderId := by
      split at hg
      · next heq =>
        rw [heq, hgroup] at hg
        obtain rfl := Option.some.inj hg
        exact (hposts.posted _ (List.mem_map.mpr ⟨a, ha, rfl⟩)).congr houtbox
      · exact (hposts.kept _ (h.posted i g hg hpaid a ha)).congr houtbox
    exact hposted.congr (Database.set_of_ne _ _ (by decide))
  · exact ((hposts.once h.once).congr houtbox).congr (Database.set_of_ne _ _ (by decide))

/-- Failing a group announces nothing. -/
theorem failGroup_announced (e : Env) (id : ℕ) : Within (Keeps Announced) (failGroup e id) := by
  refine .bind (.of_reads (.findOrThrow _ _)) fun group => .when (.bind (.of_reads (.require _ _)) fun _ => ?_)
  refine .bind (.forM fun a _ => announced_of_writes (releaseOrder_writes e a) (by decide) (by decide)) fun _ => ?_
  exact announced_updateGroup id (fun _ h => by cases h) fun _ => rfl

/-! ## Transactions -/

/-- Finishing a payment announces the orders of groups that are paid. -/
theorem finalizePayment_announced (e : Env) (paymentId : ℕ) (groups : List (ℕ × ℕ)) (success : Bool) :
    Within (Keeps Announced) (finalizePayment e paymentId groups success) := by
  have hpayment (f : Payment → Payment) : Within (Keeps Announced) (update .payment paymentId f) :=
    announced_of_writes (.update (List.mem_singleton_self _) _ _) (by decide) (by decide)
  have hlock (userId : ℕ) : Within (Keeps Announced) (Cart.lock userId) :=
    announced_of_writes (Cart.lock_writes userId) (by decide) (by decide)
  refine .bind (.forM fun g _ => .bind (hlock g.2) fun _ => .pure _) fun _ => ?_
  refine .bind (.of_reads (.findOrThrow _ _)) fun current => ?_
  split
  · exact .pure _
  · split
    · split
      · exact announced_of_writes (acceptLatePayment_writes e _) (by decide) (by decide)
      · exact .pure _
    · split
      · exact .bind (hpayment _) fun _ => .bind (.forM fun g _ => completeGroup_announced e g.1) fun _ => .pure _
      · exact .bind (hpayment _) fun _ => .bind (.forM fun g _ => failGroup_announced e g.1) fun _ => .pure _

/-- Completing groups that were left over announces their orders. -/
theorem completeIncomplete_announced (e : Env) (groups : List (ℕ × ℕ)) :
    Within (Keeps Announced) (completeIncomplete e groups) :=
  .forM fun g _ => .bind (announced_of_writes (Cart.lock_writes g.2) (by decide) (by decide)) fun _ =>
    completeGroup_announced e g.1

/-- Cancelling a group announces nothing. -/
theorem cancelGroup_announced (e : Env) (userId id : ℕ) : Within (Keeps Announced) (cancelGroup e userId id) := by
  refine .bind (announced_of_writes (Cart.lock_writes userId) (by decide) (by decide)) fun _ => ?_
  refine .bind (.of_reads (.find _ _)) fun _ => .bind (.of_reads (.orThrow _ _)) fun group => ?_
  refine .bind (.of_reads (.query _)) fun _ => .bind (.of_reads (.require _ _)) fun _ => .when ?_
  exact .bind (announced_of_writes (failPayment_writes _) (by decide) (by decide)) fun _ => failGroup_announced e id

/-- Claiming the start of a payment announces nothing. -/
theorem claimInitialization_announced (e : Env) (userId groupId : ℕ) :
    Within (Keeps Announced) (claimInitialization e userId groupId) := by
  refine .bind (.of_reads (.find _ _)) fun _ => .bind (.of_reads (.orThrow _ _)) fun group => ?_
  refine .bind (.of_reads (.require _ _)) fun _ => ?_
  split
  · refine .bind (.of_reads (.findOrThrow _ _)) fun payment => ?_
    split
    · exact .pure _
    · refine .bind ?_ fun _ => .bind (.of_reads (.findOrThrow _ _)) fun _ => .pure _
      exact announced_of_writes (.update (List.mem_singleton_self _) _ _) (by decide) (by decide)
  · refine .bind (.of_reads (.require _ _)) fun _ => .bind ?_ fun _ => .bind ?_ fun _ => .pure _
    · exact announced_of_writes (.createUnique (List.mem_singleton_self _) _ _) (by decide) (by decide)
    · exact announced_updateGroup groupId (fun _ h => by cases h) fun _ => rfl

end Superstore.Payments

namespace Superstore

open Relational Relational.Tx Payments

/-- Starting a transaction of Klump announces nothing. -/
theorem Klump.startTransaction_announced (e : Env) (userId groupId : ℕ) :
    Within (Keeps Announced) (Klump.startTransaction e userId groupId) := by
  refine .bind (.of_reads (.find _ _)) fun _ => .bind (.of_reads (.orThrow _ _)) fun group => ?_
  refine .bind (.of_reads (.require _ _)) fun _ => .bind (.of_reads (.require _ _)) fun _ => ?_
  refine .bind (.of_reads (.first _ _)) fun existing => ?_
  cases existing with
  | some existing => exact .pure _
  | none =>
    refine .bind (.of_reads (.query _)) fun _ => .bind (.of_reads (.require _ _)) fun _ => ?_
    refine .bind (.of_reads (.query _)) fun _ => .bind (.of_reads (.ofExcept _)) fun _ => .bind ?_ fun _ => ?_
    · unfold Klump.paymentOf
      split
      · exact .pure _
      · exact announced_of_writes (.createUnique (List.mem_singleton_self _) _ _) (by decide) (by decide)
    · refine .bind (announced_updateGroup groupId (fun _ h => by cases h) fun _ => rfl) fun _ => ?_
      refine .bind (.of_reads (.ofExcept _)) fun _ => .bind ?_ fun _ => .pure _
      exact announced_of_writes (.createUnique (List.mem_singleton_self _) _ _) (by decide) (by decide)

/-- Completing a transaction of Klump announces the orders of its group. -/
theorem Klump.completeTransaction_announced (e : Env) (id : ℕ) (transaction : KlumpTransaction)
    (providerReference : String) :
    Within (Keeps Announced) (Klump.completeTransaction e id transaction providerReference) :=
  .bind (.of_reads (.findOrThrow _ _)) fun _ => .bind (.of_reads (.require _ _)) fun _ =>
    .bind (.when (.bind (announced_of_writes (.update (List.mem_singleton_self _) _ _) (by decide)
      (by decide)) fun _ =>
      completeGroup_announced e _)) fun _ =>
    announced_of_writes (.update (List.mem_singleton_self _) _ _) (by decide) (by decide)

namespace Checkout

/-- Paying at once announces the orders. -/
theorem payAtOnce_announced (e : Env) (userId groupId : ℕ) (q : Quote) (method : PaymentMethod)
    (credit : Option Credit) : Within (Keeps Announced) (payAtOnce e userId groupId q method credit) := by
  refine .bind (.when (announced_of_writes (debitWallet_writes _ _ _) (by decide) (by decide))) fun _ => ?_
  refine .bind (announced_of_writes (.createUnique (List.mem_singleton_self _) _ _) (by decide)
    (by decide)) fun _ => ?_
  exact .bind (announced_updateGroup groupId (fun _ h => h) fun _ => rfl) fun _ => completeGroup_announced e groupId

/-- Asking for a checkout announces orders that are paid at once. -/
theorem createInTransaction_announced (e : Env) (userId : ℕ) (input : CreateCheckoutDto) (credit : Option Credit) :
    Within (Keeps Announced) (createInTransaction e userId input credit) := by
  refine .bind (announced_of_writes (Cart.lock_writes userId) (by decide) (by decide)) fun cart => ?_
  refine .bind (.of_reads (.require _ _)) fun _ => .bind (.of_reads (.first _ _)) fun pending => ?_
  cases pending with
  | some pending => exact .bind (.of_reads (.require _ _)) fun _ => .pure _
  | none =>
    refine .bind (.of_reads (.query _)) fun _ => .bind (.of_reads (.ofExcept _)) fun q => ?_
    refine .bind (.of_reads (.require _ _)) fun _ => .bind ?_ fun _ =>
      .bind (.of_reads (.findOrThrow _ _)) fun _ => .pure _
    have horders := Writes.mapM fun order (_ : order ∈ q.orders.zipIdx) => placeOrder_writes e userId q order
    refine .bind (announced_of_writes horders (by decide) (by decide)) fun allocations => ?_
    intro db
    rw [wp_bind, wp_ofExcept]
    intro group hgroup
    refine (Within.bind (announced_createGroup _ ?_) fun _ => .bind (.when (payAtOnce_announced _ _ _ _ _ _))
      fun _ => .pure _ : Within (Keeps Announced) _) db
    unfold newGroup at hgroup
    split at hgroup
    · cases hgroup
      exact PaymentStatus.noConfusion
    · cases hgroup

/-- Confirming an application announces its orders. -/
theorem confirm_announced (e : Env) (userId id : ℕ) : Within (Keeps Announced) (confirm e userId id) := by
  refine .bind (.of_reads (.find _ _)) fun _ => .bind (.of_reads (.orThrow _ _)) fun app => ?_
  split
  · exact .pure _
  · refine .bind (.of_reads (.require _ _)) fun _ => .bind (.of_reads (.findOrThrow _ _)) fun _ => ?_
    refine .bind (.of_reads (.require _ _)) fun _ => .bind (createInTransaction_announced e _ _ _) fun _ => ?_
    refine .bind (announced_of_writes (.update (List.mem_singleton_self _) _ _) (by decide) (by decide)) fun _ => ?_
    exact .bind (announced_of_writes (createInstallments_writes _ _) (by decide) (by decide)) fun _ => .pure _

end Checkout

end Superstore

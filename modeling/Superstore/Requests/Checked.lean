import Superstore.Orders.Moves
import Superstore.Requests.Effects
import Superstore.Requests.Kinds

/-!
# Requests that write no status they were told

Only the requests of stores, riders and staff come to an operation that writes the status of
an order without reading it. Every other request is a program over the other operations; those
of the wallets belong to the requests about wallets.
-/

namespace Superstore

open Interleaving Relational.Tx

/-- An operation of the requests about payments, which read every order whose status they write, and
issue no credential. -/
def Op.checked : {α : Type} → Op α → Bool
  | _, .writeStatus _ _ _ _ _ => false
  | _, .writePacked _ _ _ => false
  | _, .writePickup _ _ _ _ => false
  | _, .writeDelivery _ _ _ _ _ => false
  | _, .writeProgress _ _ _ _ _ _ _ => false
  | _, .revokeCredentials _ _ _ => false
  | _, .createCredential _ _ _ _ => false
  | _, .requestWalletWithdrawal _ _ => false
  | _, .withdrawRider _ _ _ _ => false
  | _, .withdrawStore _ _ _ _ => false
  | _, .claimReferrals _ => false
  | _, .redeemCashback _ _ => false
  | _, _ => true

/-- The statuses in which an operation calls orders off. -/
def Op.calls : {α : Type} → Op α → OrderStatus → Bool
  | _, .cancelOrder _ _ _, s => s == .confirmed || s == .preparing
  | _, _, s => s == .orderReceived

/-- The statuses that staff put an order into by an operation. -/
def Op.sets : {α : Type} → Op α → OrderStatus → Bool
  | _, .intervene _ status _, s => s == status
  | _, _, _ => false

/-- Whatever respects the table of transitions is kept by every operation that reads the orders it writes. -/
theorem Orders.Respects.exec {calls sets : OrderStatus → Prop} {R : Database → Database → Prop}
    [IsPreorder Database R] (h : Orders.Respects calls sets R) {α : Type} {op : Op α} (hchecked : op.checked)
    (hcalls : ∀ s, op.calls s → calls s) (hsets : ∀ s, op.sets s → sets s) (e : Env) (w : World) :
    R w.db (op.exec e w).2.db := by
  by_cases hwrites : ∃ n ∈ Orders.goodsTables, n ∈ op.writes
  swap
  · exact h.frame _ _ fun n hn => exec_frame op e w n fun hmem => hwrites ⟨n, hn, hmem⟩
  have hwithin {α : Type} {op : Op α} {m : Env → Tx α} (hop : op.transaction = some m)
      (hm : Within R (m e)) : R w.db (op.exec e w).2.db :=
    exec_transaction hop (Φ := fun w' => R w.db w'.db) (refl_of R _) (hm w.db)
  cases op <;> dsimp only [Op.writes] at hwrites <;>
    first | exact absurd hwrites (by decide) | exact absurd hchecked Bool.false_ne_true | clear hwrites
  case createCheckout => exact hwithin rfl (h.createInTransaction e _ _ _)
  case confirmFinancing => exact hwithin rfl (h.confirm e _ _)
  case finalizePayment => exact hwithin rfl (h.finalizePayment (hcalls .orderReceived rfl) e _ _ _)
  case completeIncomplete => exact hwithin rfl (h.completeIncomplete e _)
  case cancelGroup => exact hwithin rfl (h.cancelGroup (hcalls .orderReceived rfl) e _ _)
  case completeKlump => exact hwithin rfl (h.completeTransaction e _ _ _)
  case cancelOrder => exact hwithin rfl (h.cancel (hcalls .confirmed rfl) (hcalls .preparing rfl) e _ _ _)
  case claimDelivery => exact hwithin rfl (h.claimDelivery e _ _ _)
  case intervene => exact hwithin rfl (h.intervene e _ _ _ (hsets _ (beq_self_eq_true _)))

/-- No operation calls an order off that is not open. -/
theorem Op.open_of_calls {α : Type} (op : Op α) (s : OrderStatus) (h : op.calls s) : s.Open := by
  cases op
  case cancelOrder => exact .inr (by simpa [Op.calls] using h)
  all_goals exact .inl (beq_iff_eq.mp h)

/-- An operation that is not a customer's cancellation calls off orders that are unpaid only. -/
theorem Op.received_of_calls {α : Type} {op : Op α} (h : op.calls .confirmed = false) (s : OrderStatus)
    (hs : op.calls s) : s = .orderReceived := by
  cases op
  case cancelOrder => cases h
  all_goals exact beq_iff_eq.mp hs

/-- The order that an operation is going to write without having read it, and the status that it
leaves the order in. -/
def Op.overwrites : {α : Type} → Op α → Env → World → Option (ℕ × OrderStatus)
  | _, .writeStatus id _ status _ _, _, _ => some (id, status)
  | _, .writePacked id _ _, _, _ => some (id, .readyForPickup)
  | _, .writePickup id _ _ credentialId, e, w =>
    if Orders.usable e.now credentialId w.db then some (id, .pickedUp) else none
  | _, .writeDelivery id _ _ credentialId _, e, w =>
    if Orders.usable e.now credentialId w.db then some (id, .completed) else none
  | _, .writeProgress _ status orderId orderStatus _ _ _, _, _ =>
    Orders.progressTarget status orderId orderStatus
  | _, _, _, _ => none

/-- An operation moves orders along the table, or puts the order that it overwrites into its status. -/
theorem exec_orders {α : Type} (op : Op α) (e : Env) (w : World) :
    OrdersMove w.db (op.exec e w).2.db ∨
      (op.exec e w).2.db .order = Orders.putStatus (op.overwrites e w) (w.db .order) := by
  by_cases hwrites : TableName.order ∈ op.writes
  swap
  · left
    change (w.db .order).Evolves Order.Moves ((op.exec e w).2.db .order)
    rw [exec_frame op e w _ hwrites]
    exact .refl _
  by_cases hchecked : op.checked = true
  · exact .inl (Orders.respects_ordersMove.exec hchecked op.open_of_calls (fun _ _ => trivial) e w)
  have hput {α : Type} {op : Op α} {m : Env → Tx α} (hop : op.transaction = some m)
      (h : wp w.db (m e) fun _ db => db .order = Orders.putStatus (op.overwrites e w) (w.db .order)) :
      OrdersMove w.db (op.exec e w).2.db ∨
        (op.exec e w).2.db .order = Orders.putStatus (op.overwrites e w) (w.db .order) :=
    exec_transaction hop (Φ := fun w' => OrdersMove w.db w'.db ∨ w'.db .order = _) (.inl (refl_of _ _))
      (wp_mono h fun _ _ h' => .inr h')
  cases op <;> dsimp only [Op.writes] at hwrites <;>
    first | exact absurd rfl hchecked | exact absurd hwrites (by decide) | clear hchecked hwrites
  case writeStatus id fromStatus status actorId reason =>
    exact hput rfl (Orders.writeStatus_puts _ _ _ _ _ w.db)
  case writePacked id fromStatus actorId =>
    exact hput rfl (Orders.writePacked_puts _ _ _ w.db)
  case writePickup id fromStatus riderId credentialId =>
    refine hput rfl (wp_mono (Orders.writePickup_puts e _ _ _ _ w.db) fun _ _ h => ?_)
    rw [Op.overwrites, if_pos h.1]
    exact h.2
  case writeDelivery id order riderId credentialId deliveryId =>
    refine hput rfl (wp_mono (Orders.writeDelivery_puts e _ _ _ _ _ w.db) fun _ _ h => ?_)
    rw [Op.overwrites, if_pos h.1]
    exact h.2
  case writeProgress deliveryId status orderId orderStatus riderId location note =>
    exact hput rfl (Orders.writeProgress_puts e _ _ _ _ _ _ _ w.db)

/-- Only the status of an order changes. -/
def Order.Restated (o o' : Order) : Prop := o' = Payments.setCurrentStatus o'.currentStatus o

/-- Changing only the status is reflexive and transitive. -/
instance : IsPreorder Order Order.Restated where
  refl _ := rfl
  trans a b c hab hbc := by
    rw [Order.Restated, hbc, hab]
    rfl

/-- No operation changes anything but the status of an order. -/
theorem exec_restates {α : Type} (op : Op α) (e : Env) (w : World) :
    (w.db .order).Evolves Order.Restated ((op.exec e w).2.db .order) := by
  rcases exec_orders op e w with hmoves | hput
  · exact hmoves.mono fun _ _ h => h.1
  · rw [hput]
    cases op.overwrites e w with
    | none => exact .refl _
    | some x => exact .update fun _ _ => rfl

/-- A program over operations that read the orders they write. -/
abbrev Checked {α : Type} (p : Request α) : Prop := p.All fun _ op => op.checked

/-- A call of a checked operation is checked. -/
theorem checked_call {α : Type} {op : Op α} (h : op.checked) : Checked (call op) :=
  Prog.all_call op |>.mpr h

/-- A read is checked. -/
theorem checked_selectOrThrow {α : Type} (f : Database → Option α) (err : Error) :
    Checked (selectOrThrow f err) := checked_call rfl

/-- A program that may be left out is checked if it is. -/
theorem checked_onlyIf {c : Prop} [Decidable c] {p : Request Unit} (h : Checked p) :
    Checked (onlyIf c p) := by
  unfold onlyIf
  split
  · exact h
  · exact Prog.all_done _

/-- The kinds of operations that are told a status, or belong to the requests about wallets. -/
def uncheckedKinds : List OpKind := [.status, .credential, .withdrawal, .riderWithdrawal, .storeWithdrawal, .reward]

/-- A program that comes to no operation of these kinds. -/
theorem Uses.checked {α : Type} {ks : List OpKind} {p : Request α} (h : Uses ks p)
    (hks : ∀ k ∈ uncheckedKinds, k ∉ ks) : Checked p := by
  refine Prog.All.imp h fun _ op hop => ?_
  cases op <;> first | rfl | exact absurd hop (hks _ (by dsimp only [Op.kind]; decide))

/-- The requests about payments. -/
theorem PaymentRequest.checked {p : Request Unit} (h : PaymentRequest p) : Checked p :=
  h.uses.checked (by decide)

/-- The requests about refunds. -/
theorem RefundRequest.Staff.checked {p : Request Unit} (h : RefundRequest.Staff p) : Checked p :=
  h.uses.checked (by decide)

end Superstore

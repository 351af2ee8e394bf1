import Superstore.Orders.Moves
import Superstore.Requests.Effects

/-!
# Orders that go together

The orders of a checkout are placed, confirmed and released together, by six operations. A relation between
databases that is kept by placing, confirming and releasing one order, and is about no other table that these
operations write, is kept by all of them. -/

namespace Superstore

open Relational.Tx
open Payments (restock)

/-- The tables that the operations on the orders of a checkout write besides those of the orders. -/
def besideTables : List TableName :=
  [.payment, .checkoutPaymentGroup, .klumpTransaction, .refund, .bnplApplication, .bnplInstallment, .wallet,
    .walletTransaction] ++ Cart.tables

/-- A relation between databases that is about some tables only, and that is kept by placing, confirming and
releasing an order in an environment. -/
structure Bundles (e : Env) (ns : List TableName) (R : Database → Database → Prop) : Prop where
  apart : ∀ n ∈ ns, n ∉ besideTables
  frame : ∀ db db', (∀ n ∈ ns, db' n = db n) → R db db'
  placeOrder : ∀ (userId : ℕ) (q : Quote) (order : QuoteOrder × ℕ),
    Within R (Checkout.placeOrder e userId q order)
  confirmOrder : ∀ (userId : ℕ) (a : Allocation), Within R (Payments.confirmOrder e userId a)
  releaseOrder : ∀ (a : Allocation), Within R (Payments.releaseOrder e a)

namespace Bundles

variable {e : Env} {ns : List TableName} {R : Database → Database → Prop} (h : Bundles e ns R)

include h

/-- A transaction that writes other tables only. -/
theorem of_writes {α : Type} {ks : List TableName} {m : Tx α} (hm : Writes ks m)
    (hks : ∀ k ∈ ks, k ∈ besideTables) :
    Within R m :=
  .of_writes hm fun db db' hsame => h.frame db db' fun n hn => hsame n fun hmem => h.apart n hn (hks n hmem)

variable [IsPreorder Database R]

/-- Completing a group stays within the relation. -/
theorem completeGroup (id : ℕ) : Within R (Payments.completeGroup e id) := by
  refine .bind (.of_reads (.findOrThrow _ _)) fun group => .when (.bind (.of_reads (.require _ _)) fun _ => ?_)
  refine .bind (.forM fun a _ => h.confirmOrder _ a) fun _ => ?_
  refine .bind (h.of_writes (Cart.consume_writes _ _ _) (by decide)) fun _ => ?_
  exact h.of_writes (.update (List.mem_singleton_self TableName.checkoutPaymentGroup) _ _) (by decide)

/-- Failing a group stays within the relation. -/
theorem failGroup (id : ℕ) : Within R (Payments.failGroup e id) := by
  refine .bind (.of_reads (.findOrThrow _ _)) fun group => .when (.bind (.of_reads (.require _ _)) fun _ => ?_)
  refine .bind (.forM fun a _ => h.releaseOrder a) fun _ => ?_
  exact h.of_writes (.update (List.mem_singleton_self TableName.checkoutPaymentGroup) _ _) (by decide)

/-- Finishing a payment stays within the relation. -/
theorem finalizePayment (paymentId : ℕ) (groups : List (ℕ × ℕ)) (success : Bool) :
    Within R (Payments.finalizePayment e paymentId groups success) := by
  have hpayment (f : Payment → Payment) : Within R (update .payment paymentId f) :=
    h.of_writes (.update (List.mem_singleton_self TableName.payment) _ _) (by decide)
  refine .bind (.forM fun g _ => .bind (h.of_writes (Cart.lock_writes g.2) (by decide)) fun _ =>
    .pure _) fun _ => ?_
  refine .bind (.of_reads (.findOrThrow _ _)) fun current => ?_
  split
  · exact .pure _
  · split
    · split
      · exact h.of_writes (Payments.acceptLatePayment_writes e paymentId) (by decide)
      · exact .pure _
    · split
      · exact .bind (hpayment _) fun _ => .bind (.forM fun g _ => h.completeGroup g.1) fun _ => .pure _
      · exact .bind (hpayment _) fun _ => .bind (.forM fun g _ => h.failGroup g.1) fun _ => .pure _

/-- Completing groups that were left over stays within the relation. -/
theorem completeIncomplete (groups : List (ℕ × ℕ)) : Within R (Payments.completeIncomplete e groups) :=
  .forM fun g _ => .bind (h.of_writes (Cart.lock_writes g.2) (by decide)) fun _ => h.completeGroup g.1

/-- Cancelling a group stays within the relation. -/
theorem cancelGroup (userId id : ℕ) : Within R (Payments.cancelGroup e userId id) := by
  refine .bind (h.of_writes (Cart.lock_writes userId) (by decide)) fun _ =>
    .bind (.of_reads (.find _ _)) fun _ => ?_
  refine .bind (.of_reads (.orThrow _ _)) fun group => .bind (.of_reads (.query _)) fun _ => ?_
  refine .bind (.of_reads (.require _ _)) fun _ => .when (.bind ?_ fun _ => h.failGroup id)
  exact h.of_writes (Payments.failPayment_writes group.paymentId) (by decide)

/-- Completing a transaction of Klump stays within the relation. -/
theorem completeTransaction (id : ℕ) (transaction : KlumpTransaction) (reference : String) :
    Within R (Klump.completeTransaction e id transaction reference) := by
  refine .bind (.of_reads (.findOrThrow _ _)) fun _ => .bind (.of_reads (.require _ _)) fun _ => ?_
  refine .bind (.when (.bind ?_ fun _ => h.completeGroup _)) fun _ => ?_
  · exact h.of_writes (.update (List.mem_singleton_self TableName.payment) _ _) (by decide)
  · exact h.of_writes (.update (List.mem_singleton_self TableName.klumpTransaction) _ _) (by decide)

/-- Paying at once stays within the relation. -/
theorem payAtOnce (userId groupId : ℕ) (q : Quote) (method : PaymentMethod) (credit : Option Checkout.Credit) :
    Within R (Checkout.payAtOnce e userId groupId q method credit) := by
  refine .bind (.when (h.of_writes (Checkout.debitWallet_writes _ _ _) (by decide))) fun _ => ?_
  refine .bind (h.of_writes (.createUnique (List.mem_singleton_self TableName.payment) _ _) (by decide)) fun p => ?_
  refine .bind ?_ fun _ => h.completeGroup groupId
  exact h.of_writes (.update (List.mem_singleton_self TableName.checkoutPaymentGroup) _ _) (by decide)

/-- Asking for a checkout stays within the relation. -/
theorem createInTransaction (userId : ℕ) (input : CreateCheckoutDto) (credit : Option Checkout.Credit) :
    Within R (Checkout.createInTransaction e userId input credit) := by
  refine .bind (h.of_writes (Cart.lock_writes userId) (by decide)) fun cart => ?_
  refine .bind (.of_reads (.require _ _)) fun _ => .bind (.of_reads (.first _ _)) fun pending => ?_
  cases pending with
  | some pending => exact .bind (.of_reads (.require _ _)) fun _ => .pure _
  | none =>
    refine .bind (.of_reads (.query _)) fun _ => .bind (.of_reads (.ofExcept _)) fun q => ?_
    refine .bind (.of_reads (.require _ _)) fun _ => ?_
    refine .bind ?_ fun _ => .bind (.of_reads (.findOrThrow _ _)) fun _ => .pure _
    refine .bind (.mapM fun order _ => h.placeOrder userId q order) fun _ => ?_
    refine .bind (.of_reads (.ofExcept _)) fun group => ?_
    refine .bind (h.of_writes
      (.createUnique (List.mem_singleton_self TableName.checkoutPaymentGroup) _ _) (by decide))
      fun id => ?_
    exact .bind (.when (h.payAtOnce userId id q _ credit)) fun _ => .pure _

/-- Confirming an application stays within the relation. -/
theorem confirm (userId id : ℕ) : Within R (Checkout.confirm e userId id) := by
  refine .bind (.of_reads (.find _ _)) fun _ => .bind (.of_reads (.orThrow _ _)) fun app => ?_
  split
  · exact .pure _
  · refine .bind (.of_reads (.require _ _)) fun _ => .bind (.of_reads (.findOrThrow _ _)) fun _ => ?_
    refine .bind (.of_reads (.require _ _)) fun _ => .bind (h.createInTransaction userId _ _) fun _ => ?_
    refine .bind (h.of_writes (.update (List.mem_singleton_self TableName.bnplApplication) _ _)
      (by decide)) fun _ => ?_
    exact .bind (h.of_writes (Checkout.createInstallments_writes _ _) (by decide)) fun _ => .pure _

end Bundles

/-! ## Operations -/

/-- The operations on the orders of a checkout. -/
def Op.bundles : {α : Type} → Op α → Bool
  | _, .createCheckout _ _ | _, .confirmFinancing _ _ | _, .finalizePayment _ _ _ | _, .completeIncomplete _
  | _, .cancelGroup _ _ | _, .completeKlump _ _ _ => true
  | _, _ => false

/-- What is kept by placing, confirming and releasing an order is kept by the operations that do so. -/
theorem Bundles.exec {e : Env} {ns : List TableName} {R : Database → Database → Prop} [IsPreorder Database R]
    (h : Bundles e ns R) {α : Type} {op : Op α} (hop : op.bundles) (w : World) : R w.db (op.exec e w).2.db := by
  have hrun {α : Type} {op : Op α} {m : Env → Tx α} (hop : op.transaction = some m) (hm : Within R (m e)) :
      R w.db (op.exec e w).2.db :=
    exec_transaction hop (Φ := fun w' => R w.db w'.db) (refl_of R _) (hm w.db)
  cases op <;> try cases hop
  case createCheckout => exact hrun rfl (h.createInTransaction _ _ _)
  case confirmFinancing => exact hrun rfl (h.confirm _ _)
  case finalizePayment => exact hrun rfl (h.finalizePayment _ _ _)
  case completeIncomplete => exact hrun rfl (h.completeIncomplete _)
  case cancelGroup => exact hrun rfl (h.cancelGroup _ _)
  case completeKlump => exact hrun rfl (h.completeTransaction _ _ _)

end Superstore

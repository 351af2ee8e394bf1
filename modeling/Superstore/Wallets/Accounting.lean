import Superstore.Checkout.Bnpl
import Superstore.Payments.Klump
import Superstore.Wallets.Ledgers

/-!
# The transactions that move money

A relation that holds where no wallet is written holds across a transaction that moves money in
one place only if it holds there. One that holds across the settlement of an order as well holds
across everything that completes a checkout.
-/

namespace Superstore

open Relational.Tx

/-- The tables of the wallets and their ledgers. -/
def walletTables : List TableName := [.wallet, .walletTransaction, .storeWallet, .storeWalletTransaction]

/-- The tables that movements of money are about: the wallets, and the fees held for riders. -/
def accountTables : List TableName := walletTables ++ [.riderEarning, .riderProfile]

/-- A relation that only the movements of money matter to. -/
structure Accounting (R : Database → Database → Prop) : Prop where
  frame : ∀ db db', (∀ n ∈ accountTables, db' n = db n) → R db db'

/-- A relation that settlements stay within. -/
structure Settling (R : Database → Database → Prop) : Prop extends Accounting R where
  settleOrder : ∀ e orderId, Within R (Settlements.settleOrder e orderId)

namespace Accounting

variable {R : Database → Database → Prop} [IsPreorder Database R] (h : Accounting R)

include h

omit [IsPreorder Database R] in
/-- A transaction that writes none of the wallets. -/
theorem of_writes {α : Type} {ns : List TableName} {m : Tx α} (hm : Writes ns m)
    (hns : ∀ n ∈ accountTables, n ∉ ns) : Within R m :=
  .of_writes hm fun _ _ hsame => h.frame _ _ fun n hn => hsame n (hns n hn)

/-! ## Orders -/

/-- The tables of the stores' wallets. -/
def storeWalletTables : List TableName := [.storeWallet, .storeWalletTransaction]

/-- A cancellation may credit the customer, and then takes a settlement back from the wallets of the
stores as they were. -/
theorem cancel (e : Env) {userId id : ℕ} (reason : String) {db : Database}
    (hcredit : ∀ amount, Within R (Payments.creditWallet userId amount ("ORDER-CANCEL-" ++ toString id)))
    (hreverse : ∀ order db₁, (db .order).find id = some order →
      (∀ n ∈ storeWalletTables, db₁ n = db n) →
      wp db₁ (Orders.reverseSettlement id order) fun _ db' => R db₁ db') :
    wp db (Orders.cancel e userId id reason) fun _ db' => R db db' := by
  let S (db db' : Database) : Prop := R db db' ∧ ∀ n ∈ storeWalletTables, db' n = db n
  have : IsPreorder Database S :=
    { refl := fun db => ⟨refl_of R db, fun _ _ => rfl⟩
      trans := fun _ _ _ h h' => ⟨trans_of R h.1 h'.1, fun n hn => (h'.2 n hn).trans (h.2 n hn)⟩ }
  have hwrites {α : Type} {ns : List TableName} {m : Tx α} (hm : Writes ns m)
      (hns : ∀ n ∈ accountTables, n ∉ ns) (hstores : ∀ n ∈ storeWalletTables, n ∉ ns) : Within S m :=
    .of_writes hm fun _ _ hsame =>
      ⟨h.frame _ _ fun n hn => hsame n (hns n hn), fun n hn => hsame n (hstores n hn)⟩
  rw [Orders.cancel, wp_bind, wp_find, wp_bind, wp_orThrow]
  intro order horder
  obtain ⟨horder, -⟩ := Option.filter_eq_some_iff.mp horder
  rw [wp_bind, wp_require]
  intro _
  refine Within.then (R := S) (refl_of S db)
    (hwrites (Payments.callOff_writes _ _ _ _) (by decide) (by decide)) fun _ db₁ hs => ?_
  refine Within.then hs (.of_reads (.query _)) fun _ db₁ hs => ?_
  refine Within.then hs (.of_reads (.orThrow _ _)) fun _ db₁ hs => ?_
  refine Within.then hs (.of_reads (.query _)) fun _ db₁ hs => ?_
  refine Within.then hs (.when fun db => ?_) fun _ db₁ hs => ?_
  · refine wp_mono (wp_and (hcredit _ db) (Payments.creditWallet_writes _ _ _ db))
      fun _ db' ⟨hr, hsame⟩ => ⟨hr, fun n hn => hsame n ?_⟩
    revert n
    decide
  refine Within.then hs (hwrites (Orders.noteRefund_writes _ _ _ _ _ _ _ _ _) (by decide) (by decide))
    fun _ db₁ hs => ?_
  refine Within.then hs (.when (hwrites (Orders.syncInTransaction_writes _) (by decide) (by decide)))
    fun _ db₁ hs => ?_
  refine wp_mono (Q := fun _ db' => R db₁ db') ?_ fun _ _ => trans_of R hs.1
  exact Within.after (hreverse order db₁ horder hs.2) fun _ =>
    .bind (h.of_writes (.updateMany (List.mem_singleton_self _) _ _) (by decide)) fun _ => .pure _

/-! ## Deliveries -/

/-- A delivery that is handed over releases the fee of its rider. -/
theorem writeDelivery (e : Env) (id : ℕ) (order : Order) (riderId credentialId : ℕ) {deliveryId : ℕ}
    (hrelease : Within R (Settlements.releaseRiderEarning e.now deliveryId)) :
    Within R (Orders.writeDelivery e id order riderId credentialId deliveryId) :=
  .bind (h.of_writes (Orders.consumeCredential_writes _ _ _) (by decide)) fun _ =>
    .bind (h.of_writes (.update (List.mem_singleton_self _) _ _) (by decide)) fun _ =>
    .bind (h.of_writes (Orders.updateDeliveryOf_writes _ _) (by decide)) fun _ =>
    .bind hrelease fun _ =>
    .bind (h.of_writes (Orders.history_writes _ _ _ _ _) (by decide)) fun _ =>
    h.of_writes (Orders.completeOrder_writes _ _ _ _ _) (by decide)

/-- A delivery that is claimed holds the fee of its rider. -/
theorem claimDelivery (e : Env) (riderId : ℕ) {deliveryId : ℕ} (offerId : Option ℕ)
    (hhold : Within R (Settlements.holdRiderEarning deliveryId)) :
    Within R (Orders.claimDelivery e riderId deliveryId offerId) := by
  refine .bind (.of_reads (.ofExcept _)) fun _ => .bind (.of_reads (.find _ _)) fun _ => ?_
  refine .bind (.of_reads (.orThrow _ _)) fun _ => .bind (.of_reads (.require _ _)) fun _ => ?_
  refine .bind (.of_reads (.findOrThrow _ _)) fun _ => .bind (.of_reads (.require _ _)) fun _ => ?_
  refine .bind (.of_reads (.ofExcept _)) fun _ => ?_
  refine .bind (h.of_writes (.updateMany (List.mem_singleton_self _) _ _) (by decide)) fun _ => ?_
  refine .bind (.of_reads (.require _ _)) fun _ => ?_
  refine .bind (h.of_writes (.updateMany (List.mem_singleton_self _) _ _) (by decide)) fun _ => ?_
  refine .bind (.of_reads (.require _ _)) fun _ => ?_
  refine .bind (h.of_writes (Orders.acceptOffer_writes _ _ _) (by decide)) fun _ => ?_
  refine .bind (h.of_writes (.updateMany (List.mem_singleton_self _) _ _) (by decide)) fun _ => ?_
  refine .bind (h.of_writes (Orders.history_writes _ _ _ _ _) (by decide)) fun _ => ?_
  exact .bind hhold fun _ => .of_reads (.findOrThrow _ _)

end Accounting

namespace Settling

variable {R : Database → Database → Prop} [IsPreorder Database R] (h : Settling R)

include h

/-! ## Checkouts -/

/-- Confirming an order stays within the relation. -/
theorem confirmOrder (e : Env) (userId : ℕ) (a : Allocation) :
    Within R (Payments.confirmOrder e userId a) := by
  refine .bind (.of_reads (.findOrThrow _ _)) fun order => .bind (.when ?_) fun _ => ?_
  · exact .bind (h.of_writes (.update (List.mem_singleton_self _) _ _) (by decide)) fun _ =>
      .bind (h.of_writes (.create (List.mem_singleton_self _) _) (by decide)) fun _ =>
      h.settleOrder e _
  · exact .bind (.of_reads (.require _ _)) fun _ =>
      .bind (h.of_writes (.firstOrCreate (List.mem_singleton_self _) _ _) (by decide)) fun _ => .pure _

/-- Completing a group stays within the relation. -/
theorem completeGroup (e : Env) (id : ℕ) : Within R (Payments.completeGroup e id) := by
  refine .bind (.of_reads (.findOrThrow _ _)) fun group => .when (.bind (.of_reads (.require _ _)) fun _ => ?_)
  exact .bind (.forM fun a _ => h.confirmOrder e _ a) fun _ =>
    .bind (h.of_writes (Cart.consume_writes _ _ _) (by decide)) fun _ =>
    h.of_writes (.update (List.mem_singleton_self _) _ _) (by decide)

/-- Finishing a payment stays within the relation. -/
theorem finalizePayment (e : Env) (paymentId : ℕ) (groups : List (ℕ × ℕ)) (success : Bool) :
    Within R (Payments.finalizePayment e paymentId groups success) := by
  have hpayment (f : Payment → Payment) : Within R (update .payment paymentId f) :=
    h.of_writes (.update (List.mem_singleton_self _) _ _) (by decide)
  refine .bind (.forM fun g _ => .bind (h.of_writes (Cart.lock_writes _) (by decide)) fun _ => .pure _) fun _ => ?_
  refine .bind (.of_reads (.findOrThrow _ _)) fun current => ?_
  split
  · exact .pure _
  · split
    · split
      · exact h.of_writes (Payments.acceptLatePayment_writes e _) (by decide)
      · exact .pure _
    · split
      · exact .bind (hpayment _) fun _ => .bind (.forM fun g _ => h.completeGroup e g.1) fun _ => .pure _
      · exact .bind (hpayment _) fun _ =>
          .bind (.forM fun g _ => h.of_writes (Payments.failGroup_writes e g.1) (by decide)) fun _ => .pure _

/-- Completing groups that were left over stays within the relation. -/
theorem completeIncomplete (e : Env) (groups : List (ℕ × ℕ)) :
    Within R (Payments.completeIncomplete e groups) :=
  .forM fun g _ => .bind (h.of_writes (Cart.lock_writes g.2) (by decide)) fun _ => h.completeGroup e g.1

/-- Completing a transaction of Klump stays within the relation. -/
theorem completeTransaction (e : Env) (id : ℕ) (transaction : KlumpTransaction)
    (providerReference : String) :
    Within R (Klump.completeTransaction e id transaction providerReference) :=
  .bind (.of_reads (.findOrThrow _ _)) fun _ => .bind (.of_reads (.require _ _)) fun _ =>
    .bind (.when (.bind (h.of_writes (.update (List.mem_singleton_self _) _ _) (by decide)) fun _ =>
      h.completeGroup e _)) fun _ => h.of_writes (.update (List.mem_singleton_self _) _ _) (by decide)

/-- The reference that a checkout is debited under. -/
def debitReference (reference : String) : Prop := ∃ s, reference = "WALLET-" ++ s ∨ reference = "BNPL-" ++ s

/-- A checkout that is paid at once may be taken out of the wallet. -/
theorem payAtOnce (e : Env) {userId : ℕ} (groupId : ℕ) (q : Quote) (method : PaymentMethod)
    (credit : Option Checkout.Credit)
    (hdebit : ∀ amount reference, debitReference reference →
      Within R (Checkout.debitWallet userId amount reference)) :
    Within R (Checkout.payAtOnce e userId groupId q method credit) := by
  refine .bind (.when (hdebit _ _ ?_)) fun _ => ?_
  · cases credit with
    | none => exact ⟨_, .inl rfl⟩
    | some c => exact ⟨_, .inr rfl⟩
  · exact .bind (h.of_writes (.createUnique (List.mem_singleton_self _) _ _) (by decide)) fun _ =>
      .bind (h.of_writes (.update (List.mem_singleton_self _) _ _) (by decide)) fun _ =>
      h.completeGroup e groupId

/-- Asking for a checkout stays within the relation, where its debits do. -/
theorem createInTransaction (e : Env) {userId : ℕ} (input : CreateCheckoutDto)
    (credit : Option Checkout.Credit)
    (hdebit : ∀ amount reference, debitReference reference →
      Within R (Checkout.debitWallet userId amount reference)) :
    Within R (Checkout.createInTransaction e userId input credit) := by
  refine .bind (h.of_writes (Cart.lock_writes userId) (by decide)) fun cart => ?_
  refine .bind (.of_reads (.require _ _)) fun _ => .bind (.of_reads (.first _ _)) fun pending => ?_
  cases pending with
  | some pending => exact .bind (.of_reads (.require _ _)) fun _ => .pure _
  | none =>
    refine .bind (.of_reads (.query _)) fun _ => .bind (.of_reads (.ofExcept _)) fun q => ?_
    refine .bind (.of_reads (.require _ _)) fun _ => .bind ?_ fun _ =>
      .bind (.of_reads (.findOrThrow _ _)) fun _ => .pure _
    refine .bind (.mapM fun order _ => h.of_writes (Checkout.placeOrder_writes e userId q order) (by decide))
      fun _ => ?_
    refine .bind (.of_reads (.ofExcept _)) fun _ => ?_
    refine .bind (h.of_writes (.createUnique (List.mem_singleton_self _) _ _) (by decide)) fun _ => ?_
    exact .bind (.when (h.payAtOnce _ _ _ _ _ hdebit)) fun _ => .pure _

/-- Confirming an application stays within the relation, where its debits do. -/
theorem confirm (e : Env) {userId : ℕ} (id : ℕ)
    (hdebit : ∀ amount reference, debitReference reference →
      Within R (Checkout.debitWallet userId amount reference)) :
    Within R (Checkout.confirm e userId id) := by
  refine .bind (.of_reads (.find _ _)) fun _ => .bind (.of_reads (.orThrow _ _)) fun app => ?_
  split
  · exact .pure _
  · refine .bind (.of_reads (.require _ _)) fun _ => .bind (.of_reads (.findOrThrow _ _)) fun _ => ?_
    refine .bind (.of_reads (.require _ _)) fun _ => ?_
    refine .bind (h.createInTransaction _ _ _ hdebit) fun _ => ?_
    refine .bind (h.of_writes (.update (List.mem_singleton_self _) _ _) (by decide)) fun _ => ?_
    exact .bind (h.of_writes (Checkout.createInstallments_writes _ _) (by decide)) fun _ => .pure _

end Settling

end Superstore

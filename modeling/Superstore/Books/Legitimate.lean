import Superstore.Books.Checkouts
import Superstore.Books.Orders
import Superstore.Requests.Ready

/-!
# What an operation has to be told correctly

An operation takes legitimate steps of the books wherever the facts about the books that it
relies on hold. These facts are stable: they still hold in all later books, so that a request
may establish them in one read and use them at a later operation.
-/

namespace Superstore

open Interleaving Relational.Tx

/-- The facts about the books that an operation relies on. -/
def Op.Legitimate (spared : Prop) : {α : Type} → Op α → Books → Prop
  | _, .updatePayment id u, B => u.topup = true → B.Unlinked id
  | _, .finalizePayment p groups _, B =>
    (∃ q, B.payment p = some q ∧ q.provider = .paystack) ∧ B.Carries p (groups.map Prod.fst)
  | _, .completeIncomplete groups, B =>
    ∀ x ∈ groups, ∃ g, B.group x.1 = some g ∧ g.paymentId.isSome
  | _, .settleRepayment _ p _, B => B.Unlinked p
  | _, .creditTopup p _ _, B => B.Unlinked p
  | _, .creditFunding p _ _ _, B => spared → ∀ i g, ¬B.PaysFor p i g
  | _, .writeRefundStatus p s, B => (∃ k r, B.refund k = some r ∧ r.paymentId = p) ∧ s.Refunded
  | _, .completeKlump _ transaction _, B => ∃ k, B.klump k = some transaction.terms
  | _, .writeStatus id _ s _ _, B => s ≠ .orderReceived ∧ B.OrderPaid id
  | _, .writePacked id _ _, B => B.OrderPaid id
  | _, .writePickup id _ _ _, B => B.OrderPaid id
  | _, .writeDelivery id _ _ _ _, B => B.OrderPaid id
  | _, .writeProgress _ status orderId orderStatus _ _ _, B =>
    (Orders.progressTarget status orderId orderStatus).isSome → B.OrderPaid orderId
  | _, _, _ => True

open Payments in
/-- Every operation takes legitimate steps of the books where the facts it relies on hold. -/
theorem Op.Legitimate.refines {spared : Prop} {α : Type} {op : Op α} {w : World}
    (h : op.Legitimate spared (books w.db)) (e : Env) : Refines spared w.db (op.exec e w).2.db := by
  have hsteps {α : Type} {op : Op α} {m : Env → Tx α} (hop : op.transaction = some m)
      (hm : wp w.db (m e) fun _ db => Refines spared w.db db) :
      Refines spared w.db (op.exec e w).2.db :=
    exec_transaction hop (Φ := fun w' => Refines spared w.db w'.db) (refl_of _ _) hm
  have hframe {α : Type} (op : Op α)
      (hwrites : ∀ n ∈ .storeWalletTransaction :: bookTables, n ∉ op.writes) :
      Refines spared w.db (op.exec e w).2.db :=
    .of_eq (books_congr fun n hn => exec_frame op e w n (hwrites n hn))
  cases op
  case createCheckout => exact hsteps rfl (Checkout.createInTransaction_refines e _ _ _ _)
  case confirmFinancing => exact hsteps rfl (Checkout.confirm_refines e _ _ _)
  case claimInitialization => exact hsteps rfl (claimInitialization_refines e _ _ _)
  case updatePayment => exact hsteps rfl (updatePayment_refines h)
  case finalizePayment => exact hsteps rfl (finalizePayment_refines e _ h.1 h.2)
  case completeIncomplete => exact hsteps rfl (completeIncomplete_refines e h)
  case cancelGroup => exact hsteps rfl (cancelGroup_refines e _ _ _)
  case settleRepayment => exact hsteps rfl (settleRepayment_refines e _ _ h)
  case creditTopup => exact hsteps rfl (creditTopup_refines e _ _ h)
  case createPayment => exact hsteps rfl (createPayment_refines e _ _)
  case upsertFundingPayment => exact hsteps rfl (upsertFundingPayment_refines e _ _ _ _ _)
  case creditFunding => exact hsteps rfl (creditFunding_refines e _ _ _ h)
  case claimRefund =>
    refine hsteps rfl ?_
    rw [Payments.claimRefund]
    exact updateMany_refund_refines _ (by exact fun _ => rfl) _
  case reopenRefund =>
    refine hsteps rfl ?_
    rw [Payments.reopenRefund]
    exact updateMany_refund_refines _ (by exact fun _ => rfl) _
  case updateRefund => exact hsteps rfl (updateRefund_refines e _ _ _)
  case completeManual => exact hsteps rfl (completeManual_refines e _ _ _ _)
  case writeRefundStatus => exact hsteps rfl (writeRefundStatus_refines h.1 h.2.ne_failed)
  case startKlump => exact hsteps rfl (Klump.startTransaction_refines e _ _ _)
  case updateKlump => exact hsteps rfl (Klump.updateTransaction_refines _ _ _ _)
  case completeKlump => exact hsteps rfl (Klump.completeTransaction_refines e h)
  case cancelOrder => exact hsteps rfl (Orders.cancel_refines e _ _ _ _)
  case writeStatus => exact hsteps rfl (Orders.writeStatus_refines h)
  case writePacked => exact hsteps rfl (Orders.writePacked_refines h)
  case writePickup => exact hsteps rfl (Orders.writePickup_refines e h)
  case writeDelivery => exact hsteps rfl (Orders.writeDelivery_refines e h)
  case writeProgress => exact hsteps rfl (Orders.writeProgress_refines e h)
  case claimDelivery => exact hsteps rfl (Orders.claimDelivery_refines e _ _ _ _)
  case intervene => exact hsteps rfl (Orders.intervene_refines e _ _ _ _)
  case withdrawStore => exact hsteps rfl (Wallets.withdrawStore_refines _ _ _ _ _)
  -- The others write none of the tables that the books are kept in.
  all_goals
    refine hframe _ ?_
    dsimp only [Op.writes]
    decide

/-! ## Facts that stay -/

namespace Books

variable {B B' : Books}

/-- A payment stays in the books. -/
theorem Later.isSome_payment (h : B.Later B') {p : ℕ} (hp : (B.payment p).isSome) :
    (B'.payment p).isSome := by
  obtain ⟨q, hq⟩ := Option.isSome_iff_exists.mp hp
  obtain ⟨q', hq', -⟩ := h.payment p q hq
  rw [hq']
  rfl

/-- A payment that no group is linked to is never linked to one. -/
theorem Unlinked.later {p : ℕ} (h : B.Unlinked p) (hlater : B.Later B') : B'.Unlinked p := by
  refine ⟨hlater.isSome_payment h.1, fun i g hg hp => ?_⟩
  obtain ⟨g₀, hg₀, hp₀⟩ := hlater.links i g p hg hp h.1
  exact h.2 i g₀ hg₀ hp₀

/-- The groups that a payment pays for stay the same. -/
theorem Carries.later {p : ℕ} {ids : List ℕ} (h : B.Carries p ids) (hp : (B.payment p).isSome)
    (hlater : B.Later B') : B'.Carries p ids := by
  refine fun i => ⟨fun hi => ?_, fun ⟨g, hg, hlinked⟩ => Payments.Carries.of_steps h hp hlater hg hlinked⟩
  obtain ⟨g, hg, hlinked⟩ := (h i).mp hi
  obtain ⟨g', hg', hl⟩ := hlater.group i g hg
  exact ⟨g', hg', hl.paymentId p hlinked⟩

/-- An order that has been paid for stays so. -/
theorem OrderPaid.later {k : ℕ} (h : B.OrderPaid k) (hlater : B.Later B') : B'.OrderPaid k := by
  obtain ⟨i, g, hg, hpaid, hk⟩ := h
  obtain ⟨g', hg', hl⟩ := hlater.group i g hg
  refine ⟨i, g', hg', hlater.paid i g hg hpaid, ?_⟩
  rw [GroupTerms.orders, hl.allocations]
  exact hk

/-- Whom a payment is made through is fixed. -/
theorem Later.paystack {p : ℕ} (h : B.Later B')
    (hp : ∃ q, B.payment p = some q ∧ q.provider = .paystack) :
    ∃ q, B'.payment p = some q ∧ q.provider = .paystack := by
  obtain ⟨q, hq, hprovider⟩ := hp
  obtain ⟨q', hq', -, hsame, -⟩ := h.payment p q hq
  exact ⟨q', hq', hsame.trans hprovider⟩

/-- A payment that has a refund keeps it. -/
theorem Later.refunded {p : ℕ} (h : B.Later B')
    (hp : ∃ k r, B.refund k = some r ∧ r.paymentId = p) :
    ∃ k r, B'.refund k = some r ∧ r.paymentId = p := by
  obtain ⟨k, r, hr, hid⟩ := hp
  exact ⟨k, r, h.refund k r hr, hid⟩

end Books

end Superstore

import Superstore.Orders.Cancellation
import Superstore.Relational.Returns
import Superstore.Requests.Store

/-!
# What an operation can change

Each operation either leaves the world alone, runs one transaction, or adds to the record of
what Paystack was asked for. The tables outside of `Op.writes` are the same before and after.
-/

namespace Superstore

open Interleaving Relational.Tx

/-- The tables that an operation may write. -/
def Op.writes : {α : Type} → Op α → List TableName
  | _, .createCheckout _ _ => Checkout.placementTables ++ Checkout.paymentTables
  | _, .confirmFinancing _ _ => Checkout.financingTables
  | _, .claimInitialization _ _ => [.payment, .checkoutPaymentGroup]
  | _, .updatePayment _ _ => [.payment]
  | _, .finalizePayment _ _ _ => Payments.outcomeTables
  | _, .completeIncomplete _ => Payments.completionTables
  | _, .cancelGroup _ _ => .payment :: .checkoutPaymentGroup :: Payments.callOffTables ++ Cart.tables
  | _, .settleRepayment _ _ _ => [.payment, .bnplRepayment, .bnplInstallment]
  | _, .repayFromWallet _ _ _ _ => [.wallet, .walletTransaction, .bnplRepayment, .bnplInstallment]
  | _, .creditTopup _ _ _ => [.payment, .wallet, .walletTransaction]
  | _, .createPayment _ => [.payment]
  | _, .createRepayment _ => [.bnplRepayment]
  | _, .upsertFundingPayment _ _ _ _ => [.payment]
  | _, .creditFunding _ _ _ _ => [.payment, .wallet, .walletTransaction]
  | _, .requestFundingAccount _ _ _ => [.walletFundingAccount]
  | _, .updateFundingAccount _ _ => [.walletFundingAccount]
  | _, .upsertWebhookEvent _ _ _ _ => [.paymentWebhookEvent]
  | _, .claimRefund _ => [.refund]
  | _, .reopenRefund _ => [.refund]
  | _, .updateRefund _ _ => [.refund]
  | _, .completeManual _ _ _ => [.refund]
  | _, .writeRefundStatus _ _ => [.payment]
  | _, .startKlump _ _ => [.payment, .checkoutPaymentGroup, .klumpTransaction]
  | _, .updateKlump _ _ _ => [.klumpTransaction]
  | _, .completeKlump _ _ _ => .klumpTransaction :: .payment :: Payments.completionTables
  | _, .cancelOrder _ _ _ => Payments.callOffTables ++ Orders.reversalTables
  | _, .writeStatus _ _ _ _ _ => Orders.statusTables
  | _, .writePacked _ _ _ => Orders.statusTables
  | _, .writePickup _ _ _ _ => Orders.pickupTables
  | _, .writeDelivery _ _ _ _ _ => Orders.deliveryTables
  | _, .writeProgress _ _ _ _ _ _ _ => Orders.movementTables
  | _, .claimDelivery _ _ _ => Orders.claimTables
  | _, .intervene _ _ _ => Orders.rewardedTables
  | _, .createScan _ => [.orderItemScan]
  | _, .revokeCredentials _ _ _ => [.orderQrCredential]
  | _, .createCredential _ _ _ _ => [.orderQrCredential]
  | _, .requestWalletWithdrawal _ _ => [.wallet, .walletTransaction, .withdrawal]
  | _, .withdrawRider _ _ _ _ => [.wallet, .walletTransaction, .withdrawal]
  | _, .withdrawStore _ _ _ _ => [.storeWallet, .storeWalletTransaction, .storeWithdrawal]
  | _, .claimReferrals _ => [.wallet, .walletTransaction, .referral]
  | _, .redeemCashback _ _ => [.wallet, .walletTransaction, .cashbackReward]
  | _, _ => []

/-- A property that holds of the world as it is, and of every database that a transaction may
return, holds after the operation that runs it. -/
theorem exec_transaction {α : Type} {op : Op α} {m : Env → Tx α} (hop : op.transaction = some m)
    {e : Env} {w : World} {Φ : World → Prop} (hsame : Φ w)
    (h : wp w.db (m e) fun _ db => Φ { w with db := db }) : Φ (op.exec e w).2 := by
  rw [Op.exec, hop]
  dsimp only [runTx]
  split
  · exact hsame
  · split
    · next a db hm => exact h a db hm
    · exact hsame

/-- A call of the database that does not come back has no effect. -/
theorem exec_fails {α : Type} {op : Op α} {m : Env → Tx α} (hop : op.transaction = some m) {e : Env}
    (he : e.fails) (w : World) : (op.exec e w).2 = w := by
  rw [Op.exec, hop]
  dsimp only [runTx]
  rw [if_pos he]

/-- A call of the database that does not come back has no answer. -/
theorem exec_fails_error {α : Type} {op : Op α} {m : Env → Tx α} (hop : op.transaction = some m) {e : Env}
    (he : e.fails) (w : World) {a : α} : (op.exec e w).1 ≠ .ok a := by
  rw [Op.exec, hop]
  dsimp only [runTx]
  rw [if_pos he]
  rintro ⟨⟩

/-- The answer of a returning operation of the database, and the database it leaves. -/
theorem exec_ok {α : Type} {op : Op α} {m : Env → Tx α} (hop : op.transaction = some m) {e : Env}
    {w : World} {a : α} (h : (op.exec e w).1 = .ok a) :
    m e w.db = .ok (a, (op.exec e w).2.db) := by
  rw [Op.exec, hop] at h ⊢
  dsimp only [runTx] at h ⊢
  split at h
  · cases h
  · next hfails =>
    rw [if_neg hfails]
    split at h
    · next b db hm =>
      cases h
      rw [hm]
    · cases h

/-- An operation whose answer and outcome are known. -/
theorem ends_call_of_exec {α : Type} {op : Op α} {e : Env} {w w' : World} {a : α} {Q : α → World → Prop}
    (h : op.exec e w = (.ok a, w')) (hQ : Q a w') : Prog.Ends machine e (call op) Q w := by
  refine (Prog.ends_call machine e op Q w).mpr ⟨a, ?_⟩
  change (op.exec e w).1 = .ok a ∧ Q a (op.exec e w).2
  rw [h]
  exact ⟨rfl, hQ⟩

/-- A call of the database that comes back returns as its transaction does. -/
theorem ends_call_of_returns {α : Type} {op : Op α} {m : Env → Tx α} (hop : op.transaction = some m)
    {e : Env} (he : e.fails = false) {w : World} {Q : α → World → Prop}
    (h : Returns w.db (m e) fun a db => Q a { w with db := db }) :
    Prog.Ends machine e (call op) Q w := by
  obtain ⟨a, db, hm, hQ⟩ := h
  refine ends_call_of_exec (?_ : op.exec e w = (.ok a, { w with db := db })) hQ
  rw [Op.exec, hop]
  simp [runTx, he, hm]

/-- An operation of the database leaves the record of Paystack's requests alone. -/
theorem exec_paystack {α : Type} {op : Op α} {m : Env → Tx α} (hop : op.transaction = some m)
    (e : Env) (w : World) : (op.exec e w).2.paystack = w.paystack :=
  exec_transaction hop (Φ := fun w' => w'.paystack = w.paystack) rfl fun _ _ _ => rfl

/-- An operation of a provider leaves the database alone. -/
theorem exec_external {α : Type} {op : Op α} (hop : op.transaction = none) (e : Env) (w : World) :
    (op.exec e w).2.db = w.db := by
  rw [Op.exec, hop]
  cases op <;> first | rfl | (simp only [Op.external, charge, requestRefund]; split <;> rfl)

/-- A call that does not come back leaves the database alone. -/
theorem exec_fails_db {α : Type} {op : Op α} {e : Env} (he : e.fails) {w : World} :
    (op.exec e w).2.db = w.db := by
  cases hop : op.transaction with
  | none => exact exec_external hop e w
  | some m => rw [exec_fails hop he]

/-- A cancellation that is refused leaves the database alone. -/
theorem exec_cancel_refused {userId id : ℕ} {reason : String} {e : Env} {w : World}
    (h : ¬Orders.cancellable userId id w.db = true) : ((Op.cancelOrder userId id reason).exec e w).2.db = w.db := by
  have hop : (Op.cancelOrder userId id reason).transaction = some fun e => Orders.cancel e userId id reason := rfl
  refine exec_transaction hop (Φ := fun w' => w'.db = w.db) rfl
    (wp_mono (Orders.cancel_cancels e userId id reason w.db) fun _ _ hcancelled => ?_)
  obtain ⟨o, g, a, p, hcancelled⟩ := hcancelled
  exact absurd hcancelled.cancellable h

/-- A read changes nothing. -/
theorem exec_read {α : Type} (f : Database → Except Error α) (e : Env) (w : World) :
    (Op.exec (.read f) e w).2 = w := by
  rw [Op.exec, Op.transaction]
  dsimp only [runTx]
  split
  · rfl
  · cases hf : f w.db <;> simp [bind, StateT.bind, Relational.Tx.query, Relational.Tx.ofExcept,
      Except.bind, Except.map, hf]

/-- A read answers with what it has read. -/
theorem exec_read_ok {α : Type} {f : Database → Except Error α} {e : Env} {w : World} {a : α}
    (h : (Op.exec (.read f) e w).1 = .ok a) : f w.db = .ok a := by
  have hrun := exec_ok (m := fun _ => do let x ← Relational.Tx.query f; Relational.Tx.ofExcept x) rfl h
  rw [exec_read] at hrun
  cases hf : f w.db <;> simp_all [bind, StateT.bind, Relational.Tx.query, Relational.Tx.ofExcept,
    Except.bind, Except.map]

/-! ## Undisturbed requests -/

section Within

variable {α β : Type} {R : World → World → Prop} [IsPreorder World R] {w : World}

/-- A request that reads the tables goes on with what they say. -/
theorem within_read {f : Database → Except Error β} {k : β → Request α}
    (hk : ∀ b, f w.db = .ok b → (k b).Within machine R w) :
    ((call (.read f)).bind k).Within machine R w :=
  .read_bind (fun e => exec_read f e w) fun _ b hb => hk b (exec_read_ok hb)

/-- A request that asks the tables goes on with their answer. -/
theorem within_select {f : Database → β} {k : β → Request α}
    (hk : (k (f w.db)).Within machine R w) : ((select f).bind k).Within machine R w :=
  within_read fun b hb => by
    cases hb
    exact hk

/-- A request that needs a row goes on with it. -/
theorem within_selectOrThrow {f : Database → Option β} {err : Error} {k : β → Request α}
    (hk : ∀ b, f w.db = some b → (k b).Within machine R w) :
    ((selectOrThrow f err).bind k).Within machine R w :=
  within_read fun b hb => hk b (fromOption_eq_ok.mp hb)

/-- A request that asks for the time changes nothing. -/
theorem within_now {k : ℕ → Request α} (hk : ∀ now, (k now).Within machine R w) :
    ((call .now).bind k).Within machine R w := .read_bind (fun _ => rfl) fun _ b _ => hk b

/-- A request that checks a condition goes on where it holds. -/
theorem within_check {c : Prop} [Decidable c] {err : Error} {k : Unit → Request α}
    (hk : c → (k ()).Within machine R w) : ((check c err).bind k).Within machine R w :=
  .done_bind fun _ hc => hk (ensure_eq_ok.mp hc)

end Within

/-! ## Requests under one answer of the environment -/

section Ends

variable {α β : Type} {e : Env} {w : World} {Q : α → World → Prop}

/-- A decision ends with its value. -/
theorem ends_decided {x : Except Error α} {a : α} (hx : x = .ok a) (hQ : Q a w) :
    Prog.Ends machine e (decided x) Q w := by
  rw [decided, hx]
  exact (Prog.ends_done machine e _ Q w).mpr ⟨a, rfl, hQ⟩

/-- A check that succeeds ends well. -/
theorem ends_check {Q : Unit → World → Prop} {c : Prop} [Decidable c] {err : Error} (hc : c) (hQ : Q () w) :
    Prog.Ends machine e (check c err) Q w :=
  ends_decided (if_pos hc) hQ

/-- What is done under a condition ends well where it is not done. -/
theorem ends_onlyIf {Q : Unit → World → Prop} {c : Prop} [Decidable c] {p : Request Unit}
    (hp : c → Prog.Ends machine e p Q w) (hQ : ¬c → Q () w) : Prog.Ends machine e (onlyIf c p) Q w := by
  unfold onlyIf
  split
  · next hc => exact hp hc
  · next hc => exact (Prog.ends_done machine e _ Q w).mpr ⟨(), rfl, hQ hc⟩

/-- A row that is there is found, where the tables can be read. -/
theorem ends_selectOrThrow (he : e.fails = false) {f : Database → Option α} {err : Error} {a : α}
    (ha : f w.db = some a) (hQ : Q a w) : Prog.Ends machine e (selectOrThrow f err) Q w := by
  refine ends_call_of_returns (m := fun _ => do
    let x ← Relational.Tx.query fun db => fromOption (f db) err
    Relational.Tx.ofExcept x) rfl he ?_
  simpa [ha] using hQ

end Ends

open Payments in
/-- The transaction of an operation writes the tables listed for it only. -/
theorem transaction_writes {α : Type} {op : Op α} {m : Env → Tx α} (hop : op.transaction = some m)
    (e : Env) : Writes op.writes (m e) := by
  cases op <;> cases hop
  case read f => exact .bind (.query _) fun _ => .ofExcept _
  case createCheckout => exact Checkout.createInTransaction_writes _ _ _ _
  case confirmFinancing => exact Checkout.confirm_writes _ _ _
  case claimInitialization => exact claimInitialization_writes _ _ _
  case updatePayment => exact .update List.mem_cons_self _ _
  case finalizePayment => exact finalizePayment_writes _ _ _ _
  case completeIncomplete => exact completeIncomplete_writes _ _
  case cancelGroup => exact cancelGroup_writes _ _ _
  case settleRepayment => exact settleRepayment_writes _ _ _ _
  case repayFromWallet => exact repayFromWallet_writes _ _ _ _ _
  case creditTopup => exact creditTopup_writes _ _ _ _
  case createPayment => exact .bind (.createUnique List.mem_cons_self _ _) fun _ => .pure _
  case createRepayment => exact .createUnique List.mem_cons_self _ _
  case upsertFundingPayment => exact .firstOrCreate List.mem_cons_self _ _
  case creditFunding => exact creditFunding_writes _ _ _ _ _
  case requestFundingAccount => exact requestFundingAccount_writes _ _ _ _
  case updateFundingAccount => exact updateFundingAccount_writes _ _ _
  case upsertWebhookEvent => exact upsertWebhookEvent_writes _ _ _ _ _
  case claimRefund => exact .updateMany List.mem_cons_self _ _
  case reopenRefund => exact .updateMany List.mem_cons_self _ _
  case updateRefund => exact .bind (.update List.mem_cons_self _ _) fun _ => .findOrThrow _ _
  case completeManual => exact .bind (.update List.mem_cons_self _ _) fun _ => .findOrThrow _ _
  case writeRefundStatus => exact .update List.mem_cons_self _ _
  case startKlump => exact Klump.startTransaction_writes _ _ _
  case updateKlump => exact .update List.mem_cons_self _ _
  case completeKlump => exact Klump.completeTransaction_writes _ _ _ _
  case cancelOrder => exact Orders.cancel_writes _ _ _ _
  case writeStatus => exact Orders.writeStatus_writes _ _ _ _ _
  case writePacked => exact Orders.writePacked_writes _ _ _
  case writePickup => exact Orders.writePickup_writes _ _ _ _ _
  case writeDelivery => exact Orders.writeDelivery_writes _ _ _ _ _ _
  case writeProgress => exact Orders.writeProgress_writes _ _ _ _ _ _ _ _
  case claimDelivery => exact Orders.claimDelivery_writes _ _ _ _
  case intervene => exact Orders.intervene_writes _ _ _ _
  case createScan => exact Orders.createScan_writes _
  case revokeCredentials => exact Orders.revokeCredentials_writes _ _ _
  case createCredential => exact Orders.createCredential_writes _ _ _ _
  case requestWalletWithdrawal => exact Wallets.requestWalletWithdrawal_writes _ _ _
  case withdrawRider => exact Wallets.withdrawRider_writes _ _ _ _
  case withdrawStore => exact Wallets.withdrawStore_writes _ _ _ _
  case claimReferrals => exact Wallets.claimReferrals_writes _ _
  case redeemCashback => exact Wallets.redeemCashback_writes _ _ _

/-- An operation leaves every table outside of its list as it was. -/
theorem exec_frame {α : Type} (op : Op α) (e : Env) (w : World) :
    ∀ n ∉ op.writes, (op.exec e w).2.db n = w.db n := by
  intro n hn
  cases hop : op.transaction with
  | none => rw [exec_external hop]
  | some m =>
    exact exec_transaction hop (Φ := fun w' => w'.db n = w.db n) rfl
      (wp_mono (transaction_writes hop e w.db) fun _ _ h => h n hn)

end Superstore

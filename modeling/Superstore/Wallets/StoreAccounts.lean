import Superstore.Orders.Cancellation
import Superstore.Orders.Dispatch
import Superstore.Relational.Keys
import Superstore.Requests.Bundles
import Superstore.Requests.Checked

/-!
# What an order brings its store

The settlement of an order credits its store, and a cancellation takes the credit back; both leave an entry of the
order in the wallet of the store. The other entries are withdrawals. Entries are told apart by their references,
since the numbers of orders begin as the checkout makes them up. -/

namespace Superstore

open Interleaving Relational Relational.Tx
open Payments (setCurrentStatus)
open Settlements (settlementReference)

/-- The reference under which the settlement of an order is taken back. -/
def reversalReference (orderNumber : String) : String := "ORDER-CANCEL-" ++ orderNumber

/-- The checkout makes the numbers of orders up as it does. -/
def Env.Numbered (e : Env) : Prop := ∀ i, ∃ s, e.orderNumber i = "PUR-" ++ s

/-- No order is settled under the reference under which another settlement is taken back. -/
theorem settlement_ne_reversal {number number' : String} (h : ∃ s, number = "PUR-" ++ s) :
    settlementReference number ≠ reversalReference number' := by
  obtain ⟨s, rfl⟩ := h
  intro heq
  have hlist := congrArg String.toList heq
  simp [settlementReference, reversalReference, String.toList_append] at hlist

/-- Every order is settled under a reference of its own. -/
theorem settlementReference_inj {number number' : String}
    (h : settlementReference number = settlementReference number') : number = number' :=
  (String.append_right_inj _).mp h

namespace StoreWalletTransaction

/-- The credit of the order with this number. -/
structure Settles (t : StoreWalletTransaction) (number : String) : Prop where
  type : t.type = .credit
  nonneg : 0 ≤ t.amount
  reference : t.reference = some (settlementReference number)

/-- The debit by which the credit of the order with this number is taken back. -/
structure TakesBack (t : StoreWalletTransaction) (number : String) : Prop where
  type : t.type = .debit
  reference : t.reference = some (reversalReference number)

end StoreWalletTransaction

/-- An entry of an order is in a wallet of its store; it is the credit of the order, or takes such a credit back. -/
def EntryOf (db : Database) (k : ℕ) (t : StoreWalletTransaction) : Prop :=
  ∃ o v, (db .order).find k = some o ∧ (db .storeWallet).find t.walletId = some v ∧ v.storeId = o.storeId ∧
    (t.Settles o.orderNumber ∨ t.TakesBack o.orderNumber ∧ ∃ j u, (db .storeWalletTransaction).find j = some u ∧
      u.orderId = some k ∧ u.Settles o.orderNumber ∧ u.amount = t.amount)

/-- The entries of orders are credits and what takes them back, those of no order are withdrawals, and every entry
under the reference of a settlement belongs to an order. -/
structure StoreAccounts (db : Database) : Prop where
  numbered : ∀ k o, (db .order).find k = some o → ∃ s, o.orderNumber = "PUR-" ++ s
  distinct : (db .order).Distinct fun o => some o.orderNumber
  known : ∀ i t number, (db .storeWalletTransaction).find i = some t →
    t.reference = some (settlementReference number) → t.orderId.isSome
  entries : ∀ i t k, (db .storeWalletTransaction).find i = some t → t.orderId = some k → EntryOf db k t
  withdrawals : ∀ i t, (db .storeWalletTransaction).find i = some t → t.orderId = none → t.type = .debit

/-- An order keeps its number and its store. -/
def Order.SameNumber (o o' : Order) : Prop := o'.orderNumber = o.orderNumber ∧ o'.storeId = o.storeId

/-- Keeping number and store is reflexive and transitive. -/
instance : IsPreorder Order Order.SameNumber where
  refl _ := ⟨rfl, rfl⟩
  trans _ _ _ h h' := ⟨h'.1.trans h.1, h'.2.trans h.2⟩

/-- An order of which only the status changes keeps its number and its store. -/
theorem Order.Restated.sameNumber {o o' : Order} (h : o.Restated o') : o.SameNumber o' := by
  rw [h]
  exact ⟨rfl, rfl⟩

/-- A wallet stays with its store. -/
def StoreWallet.SameStore (w w' : StoreWallet) : Prop := w'.storeId = w.storeId

/-- Staying with a store is reflexive and transitive. -/
instance : IsPreorder StoreWallet StoreWallet.SameStore where
  refl _ := rfl
  trans _ _ _ h h' := Eq.trans h' h

variable {db db' : Database}

/-- An entry of an order stays one while orders and wallets keep their stores and entries stay. -/
theorem EntryOf.mono {k : ℕ} {t : StoreWalletTransaction} (h : EntryOf db k t)
    (horders : (db .order).Evolves Order.SameNumber (db' .order))
    (hwallets : (db .storeWallet).Evolves StoreWallet.SameStore (db' .storeWallet))
    (hkept : ∀ i u, (db .storeWalletTransaction).find i = some u → (db' .storeWalletTransaction).find i = some u) :
    EntryOf db' k t := by
  obtain ⟨o, v, ho, hv, hstore, hentry⟩ := h
  obtain ⟨o', ho', hnumber, hstore'⟩ := horders k o ho
  obtain ⟨v', hv', hsame⟩ := hwallets _ v hv
  refine ⟨o', v', ho', hv', (Eq.trans hsame hstore).trans hstore'.symm, ?_⟩
  rw [hnumber]
  refine hentry.imp_right fun h => ?_
  obtain ⟨htakes, j, u, hu, hcredit⟩ := h
  exact ⟨htakes, j, u, hkept j u hu, hcredit⟩

namespace StoreAccounts

/-- What every change of orders, wallets and entries has to show. -/
theorem step (h : StoreAccounts db) (horders : (db .order).Evolves Order.SameNumber (db' .order))
    (hnumbered : ∀ k o, (db' .order).find k = some o → ∃ s, o.orderNumber = "PUR-" ++ s)
    (hdistinct : (db' .order).Distinct fun o => some o.orderNumber)
    (hwallets : (db .storeWallet).Evolves StoreWallet.SameStore (db' .storeWallet))
    (hkept : ∀ i u, (db .storeWalletTransaction).find i = some u → (db' .storeWalletTransaction).find i = some u)
    (hnew : ∀ i t, (db' .storeWalletTransaction).find i = some t → (db .storeWalletTransaction).find i = some t ∨
      (∀ number, t.reference = some (settlementReference number) → t.orderId.isSome) ∧
        (∀ k, t.orderId = some k → EntryOf db' k t) ∧
        (t.orderId = none → t.type = .debit)) : StoreAccounts db' where
  numbered := hnumbered
  distinct := hdistinct
  known i t number ht href := by
    rcases hnew i t ht with hold | ⟨hknown, -⟩
    · exact h.known i t number hold href
    · exact hknown number href
  entries i t k ht hk := by
    rcases hnew i t ht with hold | ⟨-, hentry, -⟩
    · exact (h.entries i t k hold hk).mono horders hwallets hkept
    · exact hentry k hk
  withdrawals i t ht hnone := by
    rcases hnew i t ht with hold | ⟨-, -, hdebit⟩
    · exact h.withdrawals i t hold hnone
    · exact hdebit hnone

/-- Orders that change their status only. -/
theorem restate (h : StoreAccounts db) (horders : (db .order).Grows (fun _ => False) Order.Restated (db' .order))
    (hwallets : db' .storeWallet = db .storeWallet)
    (hentries : db' .storeWalletTransaction = db .storeWalletTransaction) : StoreAccounts db' := by
  refine h.step (horders.kept.mono fun _ _ => Order.Restated.sameNumber) (fun k o ho => ?_) ?_ (.of_eq hwallets)
    (fun i u hu => ?_) fun i t ht => ?_
  · obtain ⟨o₀, ho₀, hsame⟩ := horders.back ho
    rw [hsame.sameNumber.1]
    exact h.numbered k o₀ ho₀
  · exact h.distinct.grows horders fun a b hsame c hc => (congrArg some hsame.sameNumber.1.symm).trans hc
  · rw [hentries]
    exact hu
  · rw [hentries] at ht
    exact .inl ht

/-- The accounts are about these tables only. -/
theorem congr (h : StoreAccounts db) (horder : db' .order = db .order)
    (hwallets : db' .storeWallet = db .storeWallet)
    (hentries : db' .storeWalletTransaction = db .storeWalletTransaction) : StoreAccounts db' :=
  h.restate (.of_eq horder) hwallets hentries

/-- A new order has a number of its own. -/
theorem place (h : StoreAccounts db) {o : Order} (hnumber : ∃ s, o.orderNumber = "PUR-" ++ s)
    (hfree : (db .order).first (fun _ o' => o'.orderNumber == o.orderNumber) = none) :
    StoreAccounts (db.set .order ((db .order).create o)) := by
  refine h.step ?_ ?_ ?_ (.refl _) (fun _ _ => id) fun _ _ => .inl
  · rw [Database.set_self]
    exact .create _ _
  · intro k o' ho'
    rw [Database.set_self] at ho'
    rcases Ledger.find_of_create ho' with ⟨-, rfl⟩ | hold
    · exact hnumber
    · exact h.numbered k o' hold
  · rw [Database.set_self]
    refine h.distinct.create fun i o' c ho' hc hc' => ?_
    have hother := Table.first_eq_none.mp hfree i o' ho'
    rw [Option.some.inj (hc'.trans hc.symm), beq_self_eq_true] at hother
    cases hother

/-- A new entry, in a wallet whose balance may move. -/
theorem enter (h : StoreAccounts db) {t : StoreWalletTransaction} (horder : db' .order = db .order)
    (hwallets : (db .storeWallet).Evolves StoreWallet.SameStore (db' .storeWallet))
    (hentries : db' .storeWalletTransaction = (db .storeWalletTransaction).create t)
    (hknown : ∀ number, t.reference = some (settlementReference number) → t.orderId.isSome)
    (hentry : ∀ k, t.orderId = some k → EntryOf db' k t) (hdebit : t.orderId = none → t.type = .debit) :
    StoreAccounts db' := by
  refine h.step (.of_eq horder) (fun k o ho => ?_) ?_ hwallets (fun i u hu => ?_) fun i u hu => ?_
  · rw [horder] at ho
    exact h.numbered k o ho
  · rw [horder]
    exact h.distinct
  · rw [hentries]
    exact Table.find_create_of_find _ hu
  · rw [hentries] at hu
    rcases Ledger.find_of_create hu with ⟨-, rfl⟩ | hold
    · exact .inr ⟨hknown, hentry, hdebit⟩
    · exact .inl hold

/-- The credit of an order, in the wallet of its store. -/
theorem credit (h : StoreAccounts db) {id i : ℕ} {o : Order} {w : StoreWallet} {amount : ℚ}
    (ho : (db .order).find id = some o) (hw : (db' .storeWallet).find i = some w) (hstore : w.storeId = o.storeId)
    (hnonneg : 0 ≤ amount) (horder : db' .order = db .order)
    (hwallets : (db .storeWallet).Evolves StoreWallet.SameStore (db' .storeWallet))
    (hentries : db' .storeWalletTransaction = (db .storeWalletTransaction).create
      { walletId := i, amount := amount, type := .credit, reference := some (settlementReference o.orderNumber)
        orderId := some id }) : StoreAccounts db' := by
  refine h.enter horder hwallets hentries (fun _ _ => rfl) (fun k hk => ?_) fun hnone => by cases hnone
  obtain rfl := Option.some.inj hk
  refine ⟨o, w, ?_, hw, hstore, .inl ⟨rfl, hnonneg, rfl⟩⟩
  rw [horder]
  exact ho

/-- The entry under the reference of a settlement is the credit of the order with the number. -/
theorem settlement (h : StoreAccounts db) {i k : ℕ} {t : StoreWalletTransaction} {o : Order}
    (ht : (db .storeWalletTransaction).find i = some t) (ho : (db .order).find k = some o)
    (href : t.reference = some (settlementReference o.orderNumber)) :
    t.orderId = some k ∧ t.Settles o.orderNumber := by
  obtain ⟨l, hl⟩ := Option.isSome_iff_exists.mp (h.known i t _ ht href)
  obtain ⟨o', v, ho', -, -, hkind⟩ := h.entries i t l ht hl
  rcases hkind with hsettles | ⟨htakes, -⟩
  · have hnumber : o.orderNumber = o'.orderNumber :=
      settlementReference_inj (Option.some.inj (href.symm.trans hsettles.reference))
    obtain rfl := h.distinct k l o o' _ ho ho' rfl (congrArg some hnumber.symm)
    obtain rfl := Option.some.inj (ho.symm.trans ho')
    exact ⟨hl, hsettles⟩
  · exact absurd (Option.some.inj (href.symm.trans htakes.reference)) (settlement_ne_reversal (h.numbered k o ho))

/-- A settlement that is taken back leaves an entry of its order, beside the credit. -/
theorem takenBack (h : StoreAccounts db) {id : ℕ} {o : Order} (ho : (db .order).find id = some o)
    (htaken : TakenBack id o db db') (horder : db' .order = db .order) : StoreAccounts db' := by
  rcases htaken with ⟨wallet, settlement, hwallet, hsettlement, -, hwallets, hentries⟩ | ⟨-, hwallets, hentries⟩
  · obtain ⟨hrow, hstore⟩ := Table.find_of_first hwallet
    obtain ⟨hcredit, href⟩ := Table.find_of_first hsettlement
    obtain ⟨hown, hsettles⟩ := h.settlement hcredit ho (beq_iff_eq.mp href)
    have hnumber : ∃ s, o.orderNumber = "PUR-" ++ s := h.numbered id o ho
    refine h.enter horder ?_ hentries (fun _ _ => rfl) (fun k hk => ?_) fun hnone => by cases hnone
    · rw [hwallets]
      exact .update fun _ _ => rfl
    · obtain rfl := Option.some.inj hk
      refine ⟨o, { wallet.2 with balance := wallet.2.balance - settlement.2.amount }, ?_, ?_, beq_iff_eq.mp hstore,
        .inr ⟨⟨rfl, rfl⟩, settlement.1, settlement.2, ?_, hown, hsettles, rfl⟩⟩
      · rw [horder]
        exact ho
      · rw [hwallets, Table.find_update_self, hrow]
        rfl
      · rw [hentries]
        exact Table.find_create_of_find _ hcredit
  · exact h.congr horder hwallets hentries

end StoreAccounts

/-! ## Transactions -/

/-- A transaction that keeps the accounts of stores. -/
abbrev KeepsAccounts {α : Type} (m : Tx α) : Prop := Within (Keeps StoreAccounts) m

/-- The tables of the accounts of stores. -/
def storeAccountTables : List TableName := [.order, .storeWallet, .storeWalletTransaction]

/-- A transaction that writes other tables. -/
theorem keepsAccounts_of_writes {α : Type} {ns : List TableName} {m : Tx α} (hm : Writes ns m)
    (hns : ∀ n ∈ storeAccountTables, n ∉ ns) : KeepsAccounts m :=
  .of_writes hm fun _ _ hsame h =>
    h.congr (hsame _ (hns _ (by decide))) (hsame _ (hns _ (by decide))) (hsame _ (hns _ (by decide)))

/-- An order that is put into a status. -/
theorem keepsAccounts_setStatus (id : ℕ) (status : OrderStatus) :
    KeepsAccounts (update .order id (setCurrentStatus status)) := by
  intro db
  rw [wp_update]
  exact fun _ _ h => h.restate (by rw [Database.set_self]; exact .update fun _ _ => rfl) rfl rfl

namespace Settlements

/-- The wallet of a store is found, or opened. -/
theorem storeWallet_keeps (storeId : ℕ) (db : Database) :
    wp db (firstOrCreate .storeWallet (fun _ w => w.storeId == storeId) { storeId := storeId }) fun wallet db' =>
      (db .storeWallet).Evolves StoreWallet.SameStore (db' .storeWallet) ∧
        (db' .storeWallet).find wallet.1 = some wallet.2 ∧ wallet.2.storeId = storeId ∧
        ∀ n, n ≠ .storeWallet → db' n = db n := by
  rw [wp_firstOrCreate]
  refine ⟨fun wallet hfirst => ?_, fun _ => ?_⟩
  · obtain ⟨hfind, hstore⟩ := Table.find_of_first hfirst
    exact ⟨.refl _, hfind, beq_iff_eq.mp hstore, fun _ _ => rfl⟩
  · refine ⟨?_, ?_, rfl, fun n hn => Database.set_of_ne _ _ hn⟩
    · rw [Database.set_self]
      exact .create _ _
    · rw [Database.set_self]
      exact Table.find_create_self _ _

/-- The settlement of an order enters its credit, in the wallet of its store. -/
theorem settleOrder_accounts (e : Env) (orderId : ℕ) : KeepsAccounts (settleOrder e orderId) := by
  intro db
  rw [settleOrder, wp_bind, wp_findOrThrow]
  intro order horder
  rw [wp_bind, wp_first, wp_when]
  refine ⟨fun _ => ?_, fun _ => refl_of (Keeps StoreAccounts) db⟩
  refine (getRate_writes e _).before fun vatRate db₁ h₁ => ?_
  refine (getRate_writes e _).before fun serviceChargeRate db₂ h₂ => ?_
  refine (getRate_writes e _).before fun platformFeeRate db₃ h₃ => ?_
  obtain rfl : db₃ = db := by
    funext n
    rw [h₃ n List.not_mem_nil, h₂ n List.not_mem_nil, h₁ n List.not_mem_nil]
  rw [wp_bind, wp_require]
  intro _
  rw [wp_bind, wp_ofExcept]
  intro vatAmt _
  rw [wp_bind, wp_ofExcept]
  intro serviceChargeAmt _
  rw [wp_bind, wp_ofExcept]
  intro platformFeeAmt _
  dsimp only
  rw [wp_bind, wp_require]
  intro hnonneg
  rw [wp_bind]
  refine wp_mono (storeWallet_keeps order.storeId db₃) fun wallet db₄ h₄ => ?_
  obtain ⟨hevolves, hfind, hstore, hsame⟩ := h₄
  rw [wp_bind, wp_createUnique]
  intro _
  rw [wp_bind, wp_update]
  intro w hw
  refine Within.from (fun h => ?_) (.bind (.of_reads (.first _ _)) fun delivery => ?_)
  swap
  · cases delivery with
    | none => exact .pure _
    | some delivery => exact keepsAccounts_of_writes (holdRiderEarning_writes _) (by decide)
  have hmoved : (db₃ .storeWallet).Evolves StoreWallet.SameStore ((db₄ .storeWallet).update wallet.1 fun w =>
      { w with balance := w.balance + (order.subtotal - vatAmt - serviceChargeAmt - platformFeeAmt) }) :=
    hevolves.trans (.update fun _ _ => rfl)
  refine h.credit horder (i := wallet.1) (w := { wallet.2 with
    balance := wallet.2.balance + (order.subtotal - vatAmt - serviceChargeAmt - platformFeeAmt) }) ?_ hstore hnonneg
    (hsame .order (by decide)) ?_ ?_
  · rw [Database.set_self, Database.set_of_ne _ _ (by decide), Table.find_update_self, hfind]
    rfl
  · rw [Database.set_self, Database.set_of_ne _ _ (by decide)]
    exact hmoved
  · rw [Database.set_of_ne _ _ (by decide), Database.set_self, hsame .storeWalletTransaction (by decide)]

end Settlements

namespace Checkout

/-- An order is placed under a number of its own. -/
theorem placeOrder_accounts {e : Env} (he : e.Numbered) (userId : ℕ) (q : Quote) (order : QuoteOrder × ℕ) :
    KeepsAccounts (placeOrder e userId q order) := by
  refine .bind (.forM fun item _ => keepsAccounts_of_writes (reserve_writes item) (by decide)) fun _ db => ?_
  change wp db _ fun _ db' => Keeps StoreAccounts db db'
  rw [wp_bind, wp_createUnique]
  intro hfree
  refine Within.from (fun h => h.place (he _) hfree) (R := Keeps StoreAccounts) ?_
  refine .bind (keepsAccounts_of_writes
    (.create (List.mem_singleton_self TableName.orderStatusHistory) _) (by decide))
    fun _ => ?_
  split
  · exact .bind (keepsAccounts_of_writes (.create (List.mem_singleton_self TableName.pickup) _) (by decide))
      fun _ => .pure _
  · exact .bind (keepsAccounts_of_writes (.create (List.mem_singleton_self TableName.delivery) _) (by decide))
      fun _ => .pure _

end Checkout

namespace Payments

/-- Confirming an order keeps the accounts of the stores. -/
theorem confirmOrder_accounts (e : Env) (userId : ℕ) (a : Allocation) :
    KeepsAccounts (confirmOrder e userId a) := by
  refine .bind (.of_reads (.findOrThrow _ _)) fun order => .bind (.when ?_) fun _ => ?_
  · refine .bind (keepsAccounts_setStatus _ _) fun _ => .bind ?_ fun _ => Settlements.settleOrder_accounts e _
    exact keepsAccounts_of_writes (.create (List.mem_singleton_self TableName.orderStatusHistory) _) (by decide)
  · refine .bind (.of_reads (.require _ _)) fun _ => .bind ?_ fun _ => .pure _
    exact keepsAccounts_of_writes (.firstOrCreate (List.mem_singleton_self TableName.orderConfirmationOutbox) _ _)
      (by decide)

/-- Releasing an order keeps the accounts of the stores. -/
theorem releaseOrder_accounts (e : Env) (a : Allocation) : KeepsAccounts (releaseOrder e a) := by
  refine .bind (.of_reads (.findOrThrow _ _)) fun order => .bind (.of_reads (.require _ _)) fun _ db => ?_
  refine wp_mono (wp_and (callOff_callsOff _ _ _ _ db) (callOff_writes _ _ _ _ db)) fun _ db' h hacc => ?_
  obtain ⟨hoff, hsame⟩ := h
  refine hacc.restate ?_ (hsame _ (by decide)) (hsame _ (by decide))
  rw [hoff.order]
  exact .update fun _ _ => rfl

end Payments

/-- The operations on the orders of a checkout keep the accounts of stores. -/
theorem bundles_accounts {e : Env} (he : e.Numbered) : Bundles e storeAccountTables (Keeps StoreAccounts) where
  apart := by decide
  frame db db' hsame h := h.congr (hsame _ (by decide)) (hsame _ (by decide)) (hsame _ (by decide))
  placeOrder := Checkout.placeOrder_accounts he
  confirmOrder := Payments.confirmOrder_accounts e
  releaseOrder := Payments.releaseOrder_accounts e

/-! ## Operations -/

/-- The withdrawal of a store has a reference of its own kind. -/
def Op.Marked : {α : Type} → Op α → Prop
  | _, .withdrawStore _ _ _ reference => ∃ s, reference = "SW-" ++ s
  | _, _ => True

/-- An operation on single orders changes their status only. -/
theorem exec_restated {α : Type} (op : Op α) (hop : op.bundles = false) (e : Env) (w : World) :
    (w.db .order).Grows (fun _ => False) Order.Restated ((op.exec e w).2.db .order) := by
  by_cases hwrites : TableName.order ∈ op.writes
  swap
  · exact .of_eq (exec_frame op e w _ hwrites)
  have hrun {α : Type} {op : Op α} {m : Env → Tx α} (hop : op.transaction = some m)
      (hm : wp w.db (m e) fun _ db => (w.db .order).Grows (fun _ => False) Order.Restated (db .order)) :
      (w.db .order).Grows (fun _ => False) Order.Restated ((op.exec e w).2.db .order) :=
    exec_transaction hop (Φ := fun w' => (w.db .order).Grows (fun _ => False) Order.Restated (w'.db .order))
      (.refl _) hm
  by_cases hchecked : op.checked = true
  · cases op <;> dsimp only [Op.writes] at hwrites <;>
      first
      | exact absurd hwrites (by decide)
      | exact absurd hchecked Bool.false_ne_true
      | exact absurd hop.symm Bool.false_ne_true
      | clear hwrites hchecked hop
    case cancelOrder userId id reason =>
      refine hrun rfl (wp_mono (Orders.cancel_cancels e userId id reason w.db) fun _ db' h => ?_)
      obtain ⟨o, g, a, p, hcancelled⟩ := h
      rw [hcancelled.calledOff.order]
      exact .update fun _ _ => rfl
    case claimDelivery riderId deliveryId offerId =>
      refine hrun rfl (wp_mono (Orders.claimDelivery_dispatch e riderId deliveryId offerId w.db) fun _ db' h => ?_)
      obtain ⟨d, o, h, -, -, -, -, -, -, hdispatch⟩ := h
      rw [show db' .order = _ from congrArg Dispatch.orders hdispatch]
      exact .update fun _ _ => rfl
    case intervene orderId status reason =>
      refine hrun rfl (wp_mono (Orders.intervene_dispatch e orderId status reason w.db) fun _ db' h => ?_)
      obtain ⟨o, h, -, -, -, -, hdispatch⟩ := h
      rw [show db' .order = _ from congrArg Dispatch.orders hdispatch]
      exact .update fun _ _ => rfl
  · have hput {x : Option (ℕ × OrderStatus)} {t : Table Order} (h : t = Orders.putStatus x (w.db .order)) :
        (w.db .order).Grows (fun _ => False) Order.Restated t := by
      rw [h]
      cases x with
      | none => exact .refl _
      | some x => exact .update fun _ _ => rfl
    cases op <;> dsimp only [Op.writes] at hwrites <;>
      first | exact absurd hwrites (by decide) | exact absurd rfl hchecked | clear hwrites hchecked hop
    case writeStatus => exact hrun rfl (wp_mono (Orders.writeStatus_puts _ _ _ _ _ w.db) fun _ _ h => hput h)
    case writePacked => exact hrun rfl (wp_mono (Orders.writePacked_puts _ _ _ w.db) fun _ _ h => hput h)
    case writePickup => exact hrun rfl (wp_mono (Orders.writePickup_puts e _ _ _ _ w.db) fun _ _ h => hput h.2)
    case writeDelivery =>
      exact hrun rfl (wp_mono (Orders.writeDelivery_puts e _ _ _ _ _ w.db) fun _ _ h => hput h.2)
    case writeProgress =>
      exact hrun rfl (wp_mono (Orders.writeProgress_puts e _ _ _ _ _ _ _ w.db) fun _ _ h => hput h)

/-- No withdrawal of a store has the reference of a settlement. -/
theorem withdrawal_ne_settlement (s number : String) : "SW-" ++ s ≠ settlementReference number := by
  intro heq
  have hlist := congrArg String.toList heq
  simp [settlementReference, String.toList_append] at hlist

/-- The withdrawal of a store leaves an entry of no order. -/
theorem withdrawStore_accounts (storeId walletId : ℕ) (amount : ℚ) (s : String) :
    KeepsAccounts (Wallets.withdrawStore storeId walletId amount ("SW-" ++ s)) := by
  intro db
  rw [Wallets.withdrawStore, wp_bind, wp_update]
  intro _ _
  rw [wp_bind, wp_createUnique]
  intro _
  rw [wp_create]
  have hevolves : (db .storeWallet).Evolves StoreWallet.SameStore
      ((db .storeWallet).update walletId fun w => { w with balance := w.balance - amount }) :=
        .update fun _ _ => rfl
  refine fun h => h.enter rfl hevolves rfl (fun number href => ?_) (fun k hk => by cases hk) fun _ => rfl
  exact absurd (Option.some.inj href) (withdrawal_ne_settlement s number)

/-- Every operation keeps the accounts of stores. -/
theorem exec_accounts {α : Type} (op : Op α) {e : Env} (he : e.Numbered) (hop : op.Marked) {w : World}
    (h : StoreAccounts w.db) : StoreAccounts (op.exec e w).2.db := by
  by_cases hbundles : op.bundles = true
  · exact (bundles_accounts he).exec hbundles w h
  have hrestated := exec_restated op (Bool.eq_false_iff.mpr hbundles) e w
  by_cases hstores : TableName.storeWallet ∈ op.writes ∨ TableName.storeWalletTransaction ∈ op.writes
  swap
  · rw [not_or] at hstores
    exact h.restate hrestated (exec_frame op e w _ hstores.1) (exec_frame op e w _ hstores.2)
  cases op <;> dsimp only [Op.writes] at hstores <;>
    first | exact absurd hstores (by decide) | exact absurd rfl hbundles | clear hstores hbundles
  case cancelOrder userId id reason =>
    have hcancel : (Op.cancelOrder userId id reason).transaction = some fun e =>
      Orders.cancel e userId id reason := rfl
    refine exec_transaction hcancel (Φ := fun w' => StoreAccounts w'.db) h
      (wp_mono (Orders.cancel_cancels e userId id reason w.db) fun _ db' hc => ?_)
    obtain ⟨o, g, a, p, hc⟩ := hc
    have htaken : StoreAccounts (db'.set .order (w.db .order)) :=
      h.takenBack hc.found (hc.takenBack.congr fun n hn => ⟨rfl, Database.set_of_ne _ _ (by revert n; decide)⟩) rfl
    have hcalledOff : (w.db .order).Grows (fun _ => False) Order.Restated (db' .order) := by
      rw [hc.calledOff.order]
      exact .update fun _ _ => rfl
    exact htaken.restate hcalledOff rfl rfl
  case withdrawStore storeId walletId amount reference =>
    obtain ⟨s, rfl⟩ := hop
    exact exec_transaction rfl (Φ := fun w' => StoreAccounts w'.db) h
      (wp_mono (withdrawStore_accounts storeId walletId amount s w.db) fun _ _ hkeeps => hkeeps h)

end Superstore

import Superstore.Properties.OrderTotals
import Superstore.Properties.StoreShares

/-!
# Cancellations

A customer may cancel an order that is paid and not packed yet. Nobody gains or loses by it: the customer is given
back what the order has cost, once, the store loses what the order has brought it, the goods are back on the shelf,
and other orders are not concerned. -/

namespace Superstore

open Interleaving Relational Relational.Tx
open Settlements (settlementReference)

variable {db db' : Database}

/-- An order that is paid and has not been taken back has no refund, so that a cancellation notes a new one. -/
theorem cancelled_unrefunded {id : ℕ} {o : Order} (ho : (db .order).find id = some o) (haccounts : StoreAccounts db)
    (hmatched : RefundsMatched db) (hfunded : OrderFunded db id)
    (hfree : (db .storeWalletTransaction).first (fun _ t =>
      t.reference == some (reversalReference o.orderNumber)) = none) :
    ¬HasReversal db id ∧ ¬HasRefund db id := by
  have hnot : ¬HasReversal db id := by
    rintro ⟨j, t, ht, hk, hdebit⟩
    obtain ⟨o', v, ho', -, -, hkind⟩ := haccounts.entries j t id ht hk
    obtain rfl := Option.some.inj (ho.symm.trans ho')
    rcases hkind with hsettles | ⟨htakes, -⟩
    · rw [hsettles.type] at hdebit
      cases hdebit
    · have hother := Table.first_eq_none.mp hfree j t ht
      rw [htakes.reference, beq_self_eq_true] at hother
      cases hother
  exact ⟨hnot, fun hrefund => hnot (hmatched.reversed id hfunded hrefund)⟩

/-- Entering the reversal of an order leaves what other orders have brought as it is. -/
theorem orderNet_of_other {id k : ℕ} {t : StoreWalletTransaction} (hk : t.orderId = some id) (hne : k ≠ id)
    (hentries : db' .storeWalletTransaction = (db .storeWalletTransaction).create t) :
    orderNet db' k = orderNet db k := by
  rw [orderNet, hentries, Table.total_create, if_neg, add_zero]
  · rfl
  · rw [hk]
    exact fun heq => hne (Option.some.inj heq).symm

/-- Taking back what a store got for an order brings the order to nothing. -/
theorem orderNet_of_taken {id i : ℕ} {t : StoreWalletTransaction} {reference : String}
    (hentries : db' .storeWalletTransaction = (db .storeWalletTransaction).create
      { walletId := i, amount := t.amount, type := .debit, reference := some reference, orderId := some id })
    (hnet : orderNet db id = t.amount) : orderNet db' id = 0 := by
  rw [orderNet, hentries, Table.total_create, if_pos rfl, ← orderNet, hnet]
  exact add_neg_cancel t.amount

/-- Of the wallets of stores only that of the order's store moves. -/
theorem storeBalance_of_taken {i j : ℕ} {v u : StoreWallet} {x : ℚ} (howned : storeLedger.Owned (db .storeWallet))
    (hv : (db .storeWallet).find i = some v)
    (hwallets : db' .storeWallet = (db .storeWallet).update i fun w => { w with balance := w.balance - x })
    (hu : (db .storeWallet).find j = some u) : ∃ u', (db' .storeWallet).find j = some u' ∧ u'.storeId = u.storeId ∧
      u'.balance = u.balance - if u.storeId = v.storeId then x else 0 := by
  rw [hwallets]
  by_cases hj : j = i
  · subst hj
    obtain rfl := Option.some.inj (hu.symm.trans hv)
    rw [Table.find_update_self, hu, if_pos rfl]
    exact ⟨_, rfl, rfl, rfl⟩
  · have hstore : u.storeId ≠ v.storeId := fun hsame => hj (howned j u i v hu hv hsame)
    rw [Table.find_update_of_ne _ _ hj, if_neg hstore, sub_zero]
    exact ⟨u, hu, rfl, rfl⟩

/-- The order of a customer has been reversed: it was paid and could still be cancelled, and is called off. There
is a refund now, of what the order has cost, where there was none; the amount is in the wallet of the customer at
once if the order had been paid from there, and no wallet of a customer moves otherwise. The order has brought its
store nothing in the end, while what other orders have brought stays, as do the wallets of other stores. -/
structure OrderReversed (e : Env) (userId id : ℕ) (reason : String) (o : Order) (g : CheckoutPaymentGroup)
    (db db' : Database) : Prop where
  found : (db .order).find id = some o
  own : o.userId = userId
  status : o.currentStatus = .confirmed ∨ o.currentStatus = .preparing
  calledOff : CalledOff e.now id o { orderId := id, fromStatus := some o.currentStatus, toStatus := .cancelled
                                     changedById := some userId, reason := some reason } db db'
  group : ∃ i, (db .checkoutPaymentGroup).find i = some g
  paid : g.status = .paid
  share : ⟨id, o.total⟩ ∈ g.allocations
  unrefunded : ¬HasRefund db id
  refund : ∃ r : Refund, r.orderId = id ∧ r.userId = userId ∧ g.paymentId = some r.paymentId ∧ r.amount = o.total ∧
    db' .refund = (db .refund).create r
  credited : g.paymentMethod = .wallet →
    ∃ j, WalletCredited userId o.total ("ORDER-CANCEL-" ++ toString id) db db' j
  uncredited : g.paymentMethod ≠ .wallet →
    db' .wallet = db .wallet ∧ db' .walletTransaction = db .walletTransaction
  returned : orderNet db' id = 0
  others : ∀ k, k ≠ id → orderNet db' k = orderNet db k
  stores : ∀ j u, (db .storeWallet).find j = some u → ∃ u', (db' .storeWallet).find j = some u' ∧
    u'.storeId = u.storeId ∧ u'.balance = u.balance - if u.storeId = o.storeId then orderNet db id else 0

/-- In every state that a store reaches, whatever the customers, the staff and Paystack have done until then, a
cancellation that succeeds reverses an order of its customer. -/
theorem customer_cancellation {w : World} (hw : Untouched w) {c : Config Op Error World}
    (hrun : treasury.Run (fun _ e _ => e.Honest ∧ e.Numbered) ⟨w, []⟩ c) {e : Env} {userId id : ℕ} {reason : String}
    {r : Orders.CancelResult} (hok : ((Op.cancelOrder userId id reason).exec e c.world).1 = .ok r) :
    ∃ o g, OrderReversed e userId id reason o g c.world.db
    ((Op.cancelOrder userId id reason).exec e c.world).2.db := by
  obtain ⟨⟨hinv, -⟩, -⟩ := storeShares_holds.run hw.shares hrun
  obtain ⟨⟨⟨hB, hM⟩, hledgers⟩, haccounts, hmatched⟩ := hinv
  have hpriced : PricedGroups c.world.db :=
    (prices_holds.run hw.fresh.prices (System.Run.mono treasury hrun fun _ _ _ _ => trivial)).1.1.2
  obtain ⟨o, g, a, p, h⟩ := Orders.cancel_cancels e userId id reason c.world.db r _ (exec_ok rfl hok)
  obtain ⟨hfunded, hsettled⟩ := funded_of_open hB hM h.found h.status
  obtain ⟨l, v, j, t, hv, hstore, ht, href, hfree, hwallets, hentries⟩ :=
    h.takenBack.of_settled h.found haccounts hsettled
  obtain ⟨hunreversed, hunrefunded⟩ := cancelled_unrefunded h.found haccounts hmatched hfunded hfree
  have hnet : orderNet c.world.db id = t.amount :=
    orderNet_share hledgers.stores haccounts h.found ht href hunreversed
  -- The share of the order in its group is what the order costs.
  obtain ⟨i, hcarried⟩ := h.carried
  obtain ⟨hg, ha, hid⟩ := Orders.allocationOf_eq_some hcarried
  obtain ⟨o', ho', htotal, -⟩ := hpriced i g hg a ha
  rw [hid] at ho'
  obtain rfl := Option.some.inj (h.found.symm.trans ho')
  refine ⟨o, g, ?_⟩
  exact
    { found := h.found
      own := h.own
      status := h.status
      calledOff := h.calledOff
      group := ⟨i, hg⟩
      paid := by
        obtain ⟨i', g', hg', hpaid, hk⟩ := hfunded
        have hshare : id ∈ g.terms.orders := hid ▸ List.mem_map_of_mem ha
        obtain rfl := hB.carrier_unique i _ i' _ (books_group hg).1 (books_group hg').1 id hshare hk
        rw [Option.some.inj (hg.symm.trans hg')]
        exact hpaid
      share := by
        rw [htotal, ← hid]
        exact ha
      unrefunded := hunrefunded
      refund := by
        rcases h.refund with ⟨x, hfirst, -⟩ | ⟨-, refund, horder, huser, hpayment, hamount, -, hrefunds⟩
        · obtain ⟨hx, hkey⟩ := Table.find_of_first hfirst
          exact (hunrefunded ⟨x.1, x.2, hx, beq_iff_eq.mp hkey⟩).elim
        · exact ⟨refund, horder, huser, hpayment ▸ h.payment, hamount.trans htotal.symm, hrefunds⟩
      credited := h.credited
      uncredited := h.uncredited
      returned := orderNet_of_taken hentries hnet
      others := fun k hk => orderNet_of_other rfl hk hentries
      stores := fun j u hu => by
        rw [hnet, ← hstore]
        exact storeBalance_of_taken hledgers.stores.owned hv hwallets hu }

/-- The order is placed and paid. -/
def paidInStore : Config Op Error World :=
  treasury.follow ⟨cardShop, paidThenCancelled⟩ (List.replicate 6 (0, numberedPaystack) ++
    List.replicate 5 (1, numberedPaystack))

/-- The payment of the order is a run. -/
theorem paidInStore_run : treasury.Run (fun _ e _ => e.Honest ∧ e.Numbered) ⟨cardShop, []⟩ paidInStore := by
  have hstarted : treasury.Run (fun _ e _ => e.Honest ∧ e.Numbered) ⟨cardShop, []⟩ ⟨cardShop, paidThenCancelled⟩ :=
    treasury.start_all_run paidThenCancelled_start
  refine hstarted.trans (treasury.follow_run_env fun round hround => ?_)
  simp only [List.mem_append, List.mem_replicate] at hround
  rcases hround with ⟨-, rfl⟩ | ⟨-, rfl⟩ <;> exact numberedPaystack_honest

/-- The customer cancels what was bought by card. -/
theorem customer_cancellation_paid :
    ∃ o g, OrderReversed numberedPaystack 1 1 "Changed my mind." o g paidInStore.world.db
    ((Op.cancelOrder 1 1 "Changed my mind.").exec numberedPaystack paidInStore.world).2.db := by
  have hok : ((Op.cancelOrder 1 1 "Changed my mind.").exec numberedPaystack paidInStore.world).1.isOk = true := by
    decide +kernel
  cases hresult : ((Op.cancelOrder 1 1 "Changed my mind.").exec numberedPaystack paidInStore.world).1 with
  | error err =>
    rw [hresult] at hok
    cases hok
  | ok r => exact customer_cancellation untouched_cardShop paidInStore_run hresult

end Superstore

import Superstore.Orders.Stock
import Superstore.Requests.Checked

/-!
# Stock

For each offer, what is on the shelf and what open orders hold add up to the same number for
ever. Customers' requests, the outcomes of payments and cancellations interleave in any
order; the requests of stores, riders and staff are run as a whole, since a status that one
of them has read may otherwise be out of date when it is written.
-/

namespace Superstore

open Interleaving Relational.Tx
open Payments (setCurrentStatus)

/-- An order keeps its lines, and does not come back from its cancellation. -/
def Order.Kept (o o' : Order) : Prop :=
  o'.items = o.items ∧ (o.currentStatus = .cancelled → o'.currentStatus = .cancelled)

/-- Staying cancelled, with the same items, is reflexive and transitive. -/
instance : IsPreorder Order Order.Kept where
  refl _ := ⟨rfl, id⟩
  trans _ _ _ h h' := ⟨h'.1.trans h.1, h'.2 ∘ h.2⟩

/-- An order that moves along keeps its items, and stays cancelled. -/
theorem Order.Moves.kept {o o' : Order} (h : o.Moves o') : o.Kept o' := by
  refine ⟨by rw [h.1]; rfl, fun ho => ?_⟩
  rw [h.terminal (.inr ho), ho]

/-- No goods appear or vanish, and no cancelled order comes back. -/
def GoodsKept (db db' : Database) : Prop :=
  Gains 0 db db' ∧ (db .order).Evolves Order.Kept (db' .order)

/-- Keeping goods is reflexive and transitive. -/
instance : IsPreorder Database GoodsKept where
  refl db := ⟨.refl db, .refl _⟩
  trans _ _ _ h h' := ⟨trans_of (Gains 0) h.1 h'.1, h.2.trans h'.2⟩

/-- Transactions that respect the table of transitions keep the goods. -/
theorem respects_goodsKept : Orders.Respects OrderStatus.Open (fun _ => True) GoodsKept :=
  (respects_gains.and Orders.respects_ordersMove).mono fun _ _ h =>
    ⟨h.1, h.2.mono fun _ _ => Order.Moves.kept⟩

/-- Where orders and stock stay as they are, the goods are kept. -/
theorem GoodsKept.of_eq {db db' : Database} (horder : db' .order = db .order)
    (hstock : db' .storeProduct = db .storeProduct) : GoodsKept db db' := by
  refine ⟨.of_eq horder hstock, ?_⟩
  rw [horder]
  exact .refl _

/-- Putting an order that is not over into a status other than cancelled keeps the goods. -/
theorem goodsKept_of_putStatus {target : Option (ℕ × OrderStatus)} {db db' : Database}
    (horder : db' .order = Orders.putStatus target (db .order))
    (hstock : db' .storeProduct = db .storeProduct)
    (hopen : ∀ id s o, target = some (id, s) → (db .order).find id = some o →
      ¬o.currentStatus.Terminal ∧ s ≠ .cancelled) : GoodsKept db db' := by
  cases target with
  | none => exact .of_eq horder hstock
  | some x =>
    cases hfind : (db .order).find x.1 with
    | none =>
      refine .of_eq (horder.trans ?_) hstock
      exact Relational.Table.update_of_none hfind _
    | some o =>
      obtain ⟨hterminal, hs⟩ := hopen x.1 x.2 o rfl hfind
      constructor
      · exact trans_of (Gains 0) (move_gains hfind (fun h => hterminal (.inr h)) hs)
          (.of_eq (by rw [horder, Relational.Database.set_self]; rfl) hstock)
      · rw [horder]
        refine .update fun o' ho' => ⟨rfl, fun hc => ?_⟩
        obtain rfl := Option.some.inj (hfind.symm.trans ho')
        exact absurd (.inr hc) hterminal

/-! ## Whole requests of stores, riders and staff -/

/-- The goods are kept from one state of the world to another. -/
def KeepsGoods (w w' : World) : Prop := GoodsKept w.db w'.db

/-- Keeping the goods of a world is reflexive and transitive. -/
instance : IsPreorder World KeepsGoods where
  refl w := refl_of GoodsKept w.db
  trans _ _ _ := trans_of GoodsKept

/-- A program that reads the orders it writes keeps the goods. -/
theorem Checked.within {α : Type} {p : Request α} (h : Checked p) (w : World) :
    p.Within machine KeepsGoods w :=
  Prog.All.within (h.imp fun _ _ hop e w =>
    respects_goodsKept.exec hop (Op.open_of_calls _) (fun _ _ => trivial) e w) w

/-- An operation keeps the goods that puts an order into the status it is told, where the order is not over. -/
theorem exec_keepsGoods {α : Type} {op : Op α} {m : Env → Tx α} (hop : op.transaction = some m)
    (hwrites : op.writes ⊆ Orders.progressTables) {e : Env} {w : World} {id : ℕ} {s : OrderStatus}
    {o : Order} (ho : (w.db .order).find id = some o) (hopen : ¬o.currentStatus.Terminal)
    (hs : s ≠ .cancelled)
    (hputs : wp w.db (m e) fun _ db => db .order = Orders.putStatus (some (id, s)) (w.db .order)) :
    KeepsGoods w (op.exec e w).2 := by
  have hshelf : (op.exec e w).2.db .storeProduct = w.db .storeProduct :=
    exec_frame op e w _ fun h => absurd (hwrites h) (by decide)
  rcases exec_transaction hop (Φ := fun w' => w' = w ∨
      w'.db .order = Orders.putStatus (some (id, s)) (w.db .order)) (.inl rfl)
      (wp_mono hputs fun _ _ h => .inr h) with hsame | hput
  · rw [hsame]
    exact refl_of KeepsGoods w
  · refine goodsKept_of_putStatus hput hshelf ?_
    rintro _ _ o' ⟨⟩ ho'
    obtain rfl := Option.some.inj (ho.symm.trans ho')
    exact ⟨hopen, hs⟩

namespace Orders

/-- A status that the store sets keeps the goods. -/
theorem setStatus_within (actorId id : ℕ) (status : OrderStatus) (reason : Option String)
    (w : World) : (setStatus actorId id status reason).Within machine KeepsGoods w := by
  refine within_selectOrThrow fun r hr => ?_
  obtain ⟨o, ho, rfl⟩ := Option.map_eq_some_iff.mp hr
  refine within_check fun _ => within_check fun _ => within_check fun hmanaged => ?_
  refine within_check fun hnext => ?_
  refine .call_bind (fun e => ?_) fun updated w₁ => ?_
  · exact exec_keepsGoods rfl (List.subset_append_left _ _) ho (not_terminal_of_canTransition hnext)
      (managed_not_financial (.inl hmanaged)).2.2 (writeStatus_puts _ _ _ _ _ _)
  · exact Checked.within (.bind (checked_call rfl) fun _ => checked_onlyIf (checked_call rfl)) w₁

/-- Completing the packing keeps the goods. -/
theorem completePacking_within (actorId storeId id : ℕ) (w : World) :
    (completePacking actorId storeId id).Within machine KeepsGoods w := by
  refine within_selectOrThrow fun _ _ => within_select <| within_check fun _ => ?_
  refine within_select <| within_check fun _ => within_selectOrThrow fun o ho => ?_
  refine within_check fun hstatus => .call_bind (fun e => ?_) fun _ w₁ => ?_
  · refine exec_keepsGoods rfl (List.subset_append_left _ _) ho ?_ (by decide) (writePacked_puts _ _ _ _)
    rcases hstatus with hs | hs <;> rw [hs] <;> decide
  · exact Checked.within (.bind (checked_call rfl) fun _ => checked_call rfl) w₁

/-- Confirming a pickup keeps the goods. -/
theorem confirmPickup_within (riderId id : ℕ) (token : String) (w : World) :
    (confirmPickup riderId id token).Within machine KeepsGoods w := by
  refine within_selectOrThrow fun r hr => within_now fun now => within_read fun credentialId _ => ?_
  refine within_selectOrThrow fun _ _ => within_select <| within_check fun _ => ?_
  refine within_check fun hstatus e => ?_
  refine exec_keepsGoods rfl (List.subset_append_left _ _) (find_of_riderOrder hr) ?_ (by decide)
    (wp_mono (writePickup_puts e _ _ _ _ _) fun _ _ h => h.2)
  rcases hstatus with hs | hs <;> rw [hs] <;> decide

/-- Confirming a delivery keeps the goods. -/
theorem confirmDelivery_within (riderId id : ℕ) (token : String) (w : World) :
    (confirmDelivery riderId id token).Within machine KeepsGoods w := by
  refine within_selectOrThrow fun r hr => within_now fun now => within_read fun credentialId _ => ?_
  refine within_check fun hstatus => .call_bind (fun e => ?_) fun _ w₁ => ?_
  · refine exec_keepsGoods rfl (by dsimp only [Op.writes]; decide) (find_of_riderOrder hr) (by rw [hstatus]; decide)
      (by decide) (wp_mono (writeDelivery_puts e _ _ _ _ _ _) fun _ _ h => h.2)
  · exact Checked.within (.bind (checked_call rfl) fun _ => checked_onlyIf (checked_call rfl)) w₁

/-- A status that the rider reports keeps the goods. -/
theorem updateStatus_within (riderId deliveryId : ℕ) (status : DeliveryStatus)
    (location note : Option String) (w : World) :
    (updateStatus riderId deliveryId status location note).Within machine KeepsGoods w := by
  refine within_selectOrThrow fun r hr => ?_
  simp only [deliveryWithOrder, Option.bind_eq_bind, Option.bind_eq_some_iff, Option.pure_def,
    Option.some.injEq] at hr
  obtain ⟨d, _, o, ho, rfl⟩ := hr
  refine within_check fun _ => within_check fun _ => within_check fun _ => within_check fun _ => ?_
  refine within_check fun hnext e => ?_
  have hshelf := exec_frame (.writeProgress deliveryId status d.orderId o.currentStatus riderId
    location note) e w .storeProduct (show TableName.storeProduct ∉ movementTables by decide)
  have hop : (Op.writeProgress deliveryId status d.orderId o.currentStatus riderId location note).transaction =
      some _ := rfl
  rcases exec_transaction hop (Φ := fun w' => w' = w ∨ w'.db .order =
        putStatus (progressTarget status d.orderId o.currentStatus) (w.db .order)) (.inl rfl)
      (wp_mono (writeProgress_puts e _ _ _ _ _ _ _ w.db) fun _ _ h => .inr h) with hsame | hput
  · exact hsame.symm ▸ refl_of KeepsGoods w
  · refine goodsKept_of_putStatus hput hshelf fun i s o' htarget ho' => ?_
    obtain ⟨hs, hne, rfl, rfl⟩ := progressTarget_eq_some htarget
    obtain rfl := Option.some.inj (ho.symm.trans ho')
    rw [hs, Option.all_some, Bool.or_eq_true, beq_iff_eq] at hnext
    exact ⟨not_terminal_of_canTransition (hnext.resolve_left hne), by decide⟩

end Orders

/-- A status request that is run as a whole keeps the goods. -/
theorem StatusRequest.within {p : Request Unit} (h : StatusRequest p) (w : World) :
    p.Within machine KeepsGoods w := by
  cases h with
  | setStatus actorId id status reason => exact Orders.setStatus_within _ _ _ _ w
  | completePacking actorId storeId id => exact Orders.completePacking_within _ _ _ w
  | confirmPickup riderId id token => exact Orders.confirmPickup_within _ _ _ w
  | confirmDelivery riderId id token => exact Orders.confirmDelivery_within _ _ _ w
  | updateStatus riderId deliveryId status location note =>
    exact Orders.updateStatus_within _ _ _ _ _ w
  | claim riderId deliveryId =>
    exact Checked.within (.bind (checked_call rfl) fun _ => checked_call rfl) w
  | accept riderId offerId =>
    exact Checked.within (.bind (checked_selectOrThrow _ _) fun _ =>
      .bind (checked_call rfl) fun _ => checked_call rfl) w
  | updateOrderStatus id status reason =>
    exact Checked.within (.bind (checked_call rfl) fun _ => .bind (checked_call rfl) fun _ =>
      checked_onlyIf (checked_call rfl)) w

/-! ## All runs -/

/-- The store as far as goods go: the requests of customers and about their payments and refunds
interleave, with whole status requests in between. -/
def goodsSystem : System Op Error World Env := { machine with
  starts := fun p => PaymentRequest p ∨ RefundRequest.Staff p
  background := fun w w' => OtherChange w w' ∨
    ∃ p r, StatusRequest p ∧ Prog.Alone machine p w r w' }

/-- What every step keeps of the goods. -/
def goods : Contract Op World Env where
  inv w := Stocked w.db
  guar := KeepsGoods
  known op _ := op.checked
  allowed _ _ _ := True
  refl := refl_of KeepsGoods
  trans := trans_of KeepsGoods

/-- Changes made outside of the requests leave the goods alone. -/
theorem OtherChange.keepsGoods {w w' : World} (h : OtherChange w w') : KeepsGoods w w' := by
  have horder : w'.db .order = w.db .order := h.owned .order (by decide)
  refine ⟨⟨fun i p hp => ?_, fun hs i p' hp' => ?_⟩, ?_⟩
  · obtain ⟨p', hp', hsame⟩ := h.stock i p hp
    exact ⟨p', hp', by simp only [hsame, heldUnits, horder, Pi.zero_apply, add_zero]⟩
  · cases hfind : (w.db .storeProduct).find i with
    | none => exact h.offered i p' hp' hfind
    | some p =>
      obtain ⟨p₁, hp₁, hsame⟩ := h.stock i p hfind
      obtain rfl := Option.some.inj (hp₁.symm.trans hp')
      exact hsame ▸ hs i p hfind
  · rw [horder]
    exact .refl _

/-- The requests about goods keep the stock. -/
theorem goods_holds : goods.Holds goodsSystem where
  starts {p} hp s _ := by
    have hchecked : Checked p := hp.elim PaymentRequest.checked RefundRequest.Staff.checked
    exact Contract.informed_of_all (hchecked.imp fun _ _ hop _ => hop) s
  performs op e w hinv hknown _ := by
    have hkept := respects_goodsKept.exec hknown op.open_of_calls (fun _ _ => trivial) e w
    exact ⟨hkept.1.stocked hinv, hkept⟩
  background {w w'} h hinv := by
    have hkept : KeepsGoods w w' := by
      rcases h with hother | ⟨p, r, hp, hrun⟩
      · exact hother.keepsGoods
      · exact (Prog.wpAlone_iff _ _ _ _).mp (hp.within w) r w' hrun
    exact ⟨hkept.1.stocked hinv, hkept⟩

/-- In every run from a state in which no offer is in debt: what an offer has on the shelf and
what orders that are not cancelled hold of it add up to what they added up to at first; no
offer ever is in debt; and an order that has been cancelled stays cancelled with the same
lines, so that its goods are given back once only. -/
theorem stock_conserved {w : World} (hw : Stocked w.db) {c c' : Config Op Error World}
    (hrun : goodsSystem.Run System.anyOp ⟨w, []⟩ c) (hrun' : goodsSystem.Run System.anyOp c c') :
    (∀ i p, (w.db .storeProduct).find i = some p → ∃ p', (c.world.db .storeProduct).find i = some p' ∧
      p'.stockQuantity + heldUnits c.world.db i = p.stockQuantity + heldUnits w.db i) ∧
    (∀ i p, (c.world.db .storeProduct).find i = some p → 0 ≤ p.stockQuantity) ∧
    ∀ i o, (c.world.db .order).find i = some o → o.currentStatus = .cancelled →
      ∃ o', (c'.world.db .order).find i = some o' ∧ o'.currentStatus = .cancelled ∧
        o'.items = o.items := by
  have hsound : goods.Sound goodsSystem ⟨w, []⟩ := ⟨hw, by simp⟩
  obtain ⟨hsound', hkept⟩ := goods_holds.run hsound hrun
  obtain ⟨-, hkept'⟩ := goods_holds.run hsound' hrun'
  refine ⟨fun i p hp => ?_, hsound'.1, fun i o ho hcancelled => ?_⟩
  · obtain ⟨p', hp', hbalance⟩ := hkept.1.balance i p hp
    exact ⟨p', hp', by simpa using hbalance⟩
  · obtain ⟨o', ho', hitems, hstays⟩ := hkept'.2 i o ho
    exact ⟨o', ho', hstays hcancelled, hitems⟩

/-- The checkout is about one order. -/
theorem unpaid_orders_nodup : ([(⟨1, 100⟩ : Allocation)].map Allocation.orderId).Nodup := by simp

/-- An unpaid checkout that holds two units of an offer, of which three are left. -/
def unpaidCheckout : World where
  db := ((Database.empty.set .storeProduct (Relational.Table.empty.create
      { storeId := 1, productId := 1, price := 50, stockQuantity := 3 })).set .order
      (Relational.Table.empty.create
        { orderNumber := "A-1", userId := 1, storeId := 1, fulfillmentType := .pickup
          subtotal := 100, total := 100, items := [⟨0, 1, 1, none, 2, 50, 100⟩] })).set
      .checkoutPaymentGroup (Relational.Table.empty.create
        { userId := 1, activeCartId := some 1, totalAmount := 100
          allocations := [⟨1, 100⟩], orders_nodup := unpaid_orders_nodup })

/-- The customer cancels the checkout. -/
def cancelledCheckout : Config Op Error World :=
  goodsSystem.follow ⟨unpaidCheckout, [discard (Payments.cancelCheckout 1 1)]⟩
    (List.replicate 4 (0, { now := 1 }))

/-- After the cancellation the five units are all accounted for. -/
theorem stock_conserved_cancelled :
    ∃ p, (cancelledCheckout.world.db .storeProduct).find 1 = some p ∧
      p.stockQuantity + heldUnits cancelledCheckout.world.db 1 = 5 := by
  have hstocked : Stocked unpaidCheckout.db := by
    intro i p hp
    change (Relational.Table.empty.create _).find i = some p at hp
    rw [Relational.Table.find_create] at hp
    split at hp
    · cases hp
      decide
    · cases hp
  have hstarts : ∀ p ∈ [discard (Payments.cancelCheckout 1 1)], goodsSystem.starts p := by
    intro p hp
    rw [List.mem_singleton.mp hp]
    exact .inl (.cancelCheckout 1 1)
  have hrun := goodsSystem.schedule_run (s := unpaidCheckout) hstarts (List.replicate 4 (0, { now := 1 }))
  obtain ⟨p, hp, hbalance⟩ := (stock_conserved hstocked hrun .refl).1 1 _ rfl
  refine ⟨p, hp, hbalance.trans ?_⟩
  decide +kernel

end Superstore

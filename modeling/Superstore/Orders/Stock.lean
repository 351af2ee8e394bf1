import Mathlib.Algebra.Group.Pi.Basic
import Superstore.Orders.Moves

/-!
# Stock and the orders that hold it

An order that is not cancelled holds the goods of its lines; the rest of a store's stock is
on the shelf. A transaction may move goods between the two, and gains a number of units for
each offer: the rise of stock and held goods together. Every transaction that respects the
table of transitions gains nothing.
-/

namespace Superstore

open Relational.Tx
open Payments (setCurrentStatus callOff restock)

/-- The units of each offer that the lines of an order ask for. -/
def units (items : List OrderItem) : ℕ → ℤ :=
  (items.map fun item => Pi.single item.storeProductId (item.quantity : ℤ)).sum

/-- The units that an order holds: all of its lines, unless it has been cancelled. -/
def Order.held (o : Order) : ℕ → ℤ := if o.currentStatus = .cancelled then 0 else units o.items

/-- A cancelled order holds nothing. -/
@[simp] theorem held_setCurrentStatus_cancelled (o : Order) :
    (setCurrentStatus .cancelled o).held = 0 := if_pos rfl

/-- An order that is not cancelled holds all of its lines. -/
theorem held_of_open {o : Order} (h : o.currentStatus ≠ .cancelled) : o.held = units o.items :=
  if_neg h

/-- The units of each offer that are held by orders. -/
def heldUnits (db : Database) : ℕ → ℤ := (db .order).total fun _ o => o.held

/-- No offer has less than nothing on the shelf. -/
def Stocked (db : Database) : Prop :=
  ∀ i p, (db .storeProduct).find i = some p → 0 ≤ p.stockQuantity

/-- For each offer, the stock and the held units have together grown by `d`; and no stock has
fallen below nothing. -/
structure Gains (d : ℕ → ℤ) (db db' : Database) : Prop where
  balance : ∀ i p, (db .storeProduct).find i = some p → ∃ p', (db' .storeProduct).find i = some p' ∧
    p'.stockQuantity + heldUnits db' i = p.stockQuantity + heldUnits db i + d i
  stocked : Stocked db → Stocked db'

namespace Gains

/-- Nothing is gained where nothing is done. -/
theorem refl (db : Database) : Gains 0 db db := ⟨fun _ p hp => ⟨p, hp, by simp⟩, id⟩

/-- What is gained one after the other is gained together. -/
theorem add {d d' : ℕ → ℤ} {db db₁ db' : Database} (h : Gains d db db₁) (h' : Gains d' db₁ db') :
    Gains (d + d') db db' := by
  refine ⟨fun i p hp => ?_, h'.stocked ∘ h.stocked⟩
  obtain ⟨p₁, hp₁, heq₁⟩ := h.balance i p hp
  obtain ⟨p', hp', heq'⟩ := h'.balance i p₁ hp₁
  exact ⟨p', hp', by rw [heq', heq₁, Pi.add_apply, add_assoc]⟩

/-- Gaining nothing is reflexive and transitive. -/
instance : IsPreorder Database (Gains 0) where
  refl := refl
  trans _ _ _ h h' := by simpa using h.add h'

/-- Nothing is gained where neither stock nor orders change. -/
theorem of_eq {db db' : Database} (horder : db' .order = db .order)
    (hstock : db' .storeProduct = db .storeProduct) : Gains 0 db db' := by
  refine ⟨fun i p hp => ⟨p, hstock ▸ hp, ?_⟩, fun h i p hp => h i p (hstock ▸ hp)⟩
  simp only [heldUnits, horder, Pi.zero_apply, add_zero]

/-- A rewriting of an order gains what the order holds more than before. -/
theorem order_update {db : Database} {id : ℕ} {o : Order} (ho : (db .order).find id = some o)
    (f : Order → Order) :
    Gains ((f o).held - o.held) db (db.set .order ((db .order).update id f)) := by
  refine ⟨fun i p hp => ⟨p, hp, ?_⟩, fun h => h⟩
  have htotal := congrFun (Relational.Table.total_update ho f fun _ o => o.held) i
  simp only [Pi.add_apply, Pi.sub_apply] at htotal
  simp only [heldUnits, Relational.Database.set_self, htotal, Pi.sub_apply]
  omega

/-- A new order gains the units of its lines. -/
theorem order_create (db : Database) {o : Order} (ho : o.currentStatus ≠ .cancelled) :
    Gains (units o.items) db (db.set .order ((db .order).create o)) := by
  rw [← held_of_open ho]
  refine ⟨fun i p hp => ⟨p, hp, ?_⟩, fun h => h⟩
  have htotal := congrFun (Relational.Table.total_create (db .order) o fun _ o => o.held) i
  simp only [heldUnits, Relational.Database.set_self, htotal, Pi.add_apply]
  omega

/-- A change of the shelf gains what it adds to each offer, if it leaves no offer in debt. -/
theorem shelf {db : Database} {p : ℕ → StoreProduct → Bool} {f : StoreProduct → StoreProduct}
    {d : ℕ → ℤ} (h : ∀ i a, (db .storeProduct).find i = some a →
      (if p i a then f a else a).stockQuantity = a.stockQuantity + d i)
    (hdebt : ∀ i a, p i a → 0 ≤ a.stockQuantity → 0 ≤ (f a).stockQuantity) :
    Gains d db (db.set .storeProduct ((db .storeProduct).updateMany p f)) := by
  constructor
  · intro i a ha
    refine ⟨if p i a then f a else a, ?_, ?_⟩
    · rw [Relational.Database.set_self, Relational.Table.find_updateMany, ha]
      rfl
    · rw [h i a ha]
      have hheld : heldUnits (db.set .storeProduct ((db .storeProduct).updateMany p f)) =
          heldUnits db := rfl
      rw [hheld]
      omega
  · intro hs i a' ha'
    rw [Relational.Database.set_self, Relational.Table.find_updateMany,
      Option.map_eq_some_iff] at ha'
    obtain ⟨a, ha, rfl⟩ := ha'
    split
    · next hp => exact hdebt i a hp (hs i a ha)
    · exact hs i a ha

end Gains

/-- A transaction that writes neither orders nor stock gains nothing. -/
theorem gains_of_writes {α : Type} {ns : List TableName} {m : Tx α} (hm : Writes ns m)
    (horder : TableName.order ∉ ns) (hstock : TableName.storeProduct ∉ ns) : Within (Gains 0) m :=
  .of_writes hm fun _ _ hsame => .of_eq (hsame _ horder) (hsame _ hstock)

/-- Taking goods off the shelf, if there are enough. -/
theorem reserve_gains (item : QuoteItem) (db : Database) :
    wp db (Checkout.reserve item)
      fun _ db' => Gains (-Pi.single item.storeProductId (item.quantity : ℤ)) db db' := by
  rw [Checkout.reserve, wp_bind, wp_query, wp_bind, wp_updateMany, wp_require]
  intro hcount
  obtain ⟨r, hr⟩ := List.exists_mem_of_length_pos (hcount ▸ Nat.one_pos)
  obtain ⟨hfind, hreservable⟩ := Relational.Table.mem_many.mp hr
  have hid (i : ℕ) (a : StoreProduct) (h : Checkout.reservable db item i a) :
      i = item.storeProductId ∧ (item.quantity : ℤ) ≤ a.stockQuantity := by
    simp only [Checkout.reservable, Bool.and_eq_true, beq_iff_eq, decide_eq_true_eq] at h
    exact ⟨h.1.1.1.1.1.1, h.1.2⟩
  refine Gains.shelf (fun i a ha => ?_) fun i a h _ => ?_
  · by_cases hi : i = item.storeProductId
    · subst hi
      have hrow : r.1 = item.storeProductId := (hid _ _ hreservable).1
      obtain rfl : r.2 = a := Option.some.inj (hfind.symm.trans (hrow ▸ ha))
      rw [← hrow, if_pos hreservable]
      simp
      omega
    · rw [if_neg fun h => hi (hid i a h).1]
      simp [Pi.single_eq_of_ne hi]
  · have := (hid i a h).2
    simp only
    omega

/-- Putting the goods of a line back on the shelf. -/
theorem restock_gains (item : OrderItem) (db : Database) :
    wp db (restock item)
      fun _ db' => Gains (Pi.single item.storeProductId (item.quantity : ℤ)) db db' := by
  rw [restock, wp_update]
  refine fun _ _ => Gains.shelf (fun i a _ => ?_) fun i a _ h => ?_
  · by_cases hi : i = item.storeProductId
    · simp [hi]
    · simp [hi]
  · simp only
    omega

/-- The lines of a new order are the lines that were reserved. -/
theorem units_orderItems (items : List QuoteItem) :
    units (Checkout.orderItems items) =
      (items.map fun item => Pi.single item.storeProductId (item.quantity : ℤ)).sum := by
  rw [units, Checkout.orderItems, List.map_map]
  conv_rhs => rw [← List.zipIdx_map_fst 0 items, List.map_map]
  rfl

/-- A placed order holds what was taken off the shelf for it. -/
theorem placeOrder_gains (e : Env) (userId : ℕ) (q : Quote) (order : QuoteOrder × ℕ) :
    Within (Gains 0) (Checkout.placeOrder e userId q order) := by
  intro db
  rw [Checkout.placeOrder, wp_bind]
  refine wp_mono (wp_forM_sum Gains.refl Gains.add (fun item _ => reserve_gains item) db)
    fun _ db₁ htaken => ?_
  rw [wp_bind, wp_createUnique]
  intro _
  have hnone : (order.1.items.map fun item =>
      -(Pi.single item.storeProductId (item.quantity : ℤ) : ℕ → ℤ)).sum +
      units (Checkout.orderItems order.1.items) = 0 := by
    rw [units_orderItems, ← List.sum_map_add]
    simp
  have hplaced (o : Order) (ho : o.currentStatus ≠ .cancelled)
      (hitems : o.items = Checkout.orderItems order.1.items) :
      Gains 0 db (db₁.set .order ((db₁ .order).create o)) := by
    rw [← hnone, ← hitems]
    exact htaken.add (Gains.order_create db₁ ho)
  refine Within.from (hplaced _ OrderStatus.noConfusion rfl) ?_
  refine .bind (gains_of_writes (.create (List.mem_singleton_self _) _) (by decide) (by decide))
    fun _ => ?_
  split
  · exact .bind (gains_of_writes (.create (List.mem_singleton_self _) _) (by decide) (by decide))
      fun _ => .pure _
  · exact .bind (gains_of_writes (.create (List.mem_singleton_self _) _) (by decide) (by decide))
      fun _ => .pure _

/-- An order that is called off gives back what it held. -/
theorem callOff_gains {now orderId : ℕ} {order : Order} {history : OrderStatusHistory}
    {db : Database} (horder : (db .order).find orderId = some order)
    (h : canTransitionOrder order.currentStatus .cancelled) :
    wp db (callOff now orderId order history) fun _ db' => Gains 0 db db' := by
  have hopen : order.currentStatus ≠ .cancelled := fun hc =>
    not_terminal_of_canTransition h (.inr hc)
  have hshelf : Writes [.storeProduct] (order.items.forM restock) :=
    .forM fun item _ => Payments.restock_writes item
  rw [callOff, wp_bind]
  refine wp_mono (wp_and (hshelf db)
    (wp_forM_sum Gains.refl Gains.add (fun item _ => restock_gains item) db))
    fun _ db₁ hstep => ?_
  obtain ⟨hsame, hgiven⟩ := hstep
  rw [← hsame .order (by decide)] at horder
  have hnone : (order.items.map fun item =>
      (Pi.single item.storeProductId (item.quantity : ℤ) : ℕ → ℤ)).sum +
      ((setCurrentStatus .cancelled order).held - order.held) = 0 := by
    rw [held_setCurrentStatus_cancelled, held_of_open hopen, units]
    abel
  rw [wp_bind, wp_update]
  intro _ _
  refine Within.from (hnone ▸ hgiven.add (Gains.order_update horder _)) ?_
  have hwithdraw (n : TableName) (p : ℕ → Row n → Bool) (f : Row n → Row n) (hn : n ≠ .order)
      (hn' : n ≠ .storeProduct) : Within (Gains 0) (updateMany n p f) :=
    gains_of_writes (.updateMany (List.mem_singleton_self _) _ _) (by simpa using hn.symm)
      (by simpa using hn'.symm)
  refine .bind (hwithdraw _ _ _ (by decide) (by decide)) fun _ => ?_
  refine .bind (hwithdraw _ _ _ (by decide) (by decide)) fun _ => ?_
  refine .bind (hwithdraw _ _ _ (by decide) (by decide)) fun _ => ?_
  exact .bind (gains_of_writes (.create (List.mem_singleton_self _) _) (by decide) (by decide))
    fun _ => .pure _

/-- Moving an order on gains nothing, unless it cancels the order. -/
theorem move_gains {db : Database} {id : ℕ} {order : Order} {status : OrderStatus}
    (horder : (db .order).find id = some order) (hopen : order.currentStatus ≠ .cancelled)
    (h : status ≠ .cancelled) :
    Gains 0 db (db.set .order ((db .order).update id (setCurrentStatus status))) := by
  have hheld := Gains.order_update horder (setCurrentStatus status)
  have hnone : (setCurrentStatus status order).held - order.held = 0 := by
    rw [held_of_open hopen, held_of_open (o := setCurrentStatus status order) h]
    exact sub_self _
  rwa [hnone] at hheld

/-- Transactions that respect the table of transitions neither lose nor make up goods. -/
theorem respects_gains : Orders.Respects OrderStatus.Open (fun _ => True) (Gains 0) :=
  Orders.respects_of_moves (fun _ _ => .of_eq)
    (fun horder hnext h => move_gains horder (fun hc => not_terminal_of_canTransition hnext (.inr hc)) h)
    callOff_gains placeOrder_gains

end Superstore

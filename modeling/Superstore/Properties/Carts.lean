import Superstore.Checkout.CartOperations
import Superstore.Properties.ActiveCheckouts

/-!
# Carts and their totals

A cart stores the sum of its lines and the number of its items beside the lines. Seven operations change
the lines: six of the customer, and the payment of a checkout, which takes what was paid for out of a cart
that may have been changed in between. Each of them stores the totals again, so that they are those of the
lines whenever nobody is at work on the cart. A transaction is one step: those of one customer wait for each
other at the lock of the cart, except for the completion of a Klump checkout, which takes no such lock.
-/

namespace Relational.Table

variable {α : Type} {t : Table α} {p : ℕ → α → Bool}

/-- A change that keeps every row inside or outside of a selection, and those inside as they are, does not show. -/
theorem filter_map_of_fixed {β : Type} {q : β → Bool} {g : β → β} {rows : List β}
    (h : ∀ r ∈ rows, q (g r) = q r ∧ (q r = true → g r = r)) : (rows.map g).filter q = rows.filter q := by
  induction rows with
  | nil => rfl
  | cons r rest ih =>
    obtain ⟨hsame, hfixed⟩ := h r List.mem_cons_self
    have hrest := ih fun s hs => h s (List.mem_cons_of_mem _ hs)
    by_cases hr : q r = true
    · rw [List.map_cons, List.filter_cons_of_pos (hsame.trans hr), List.filter_cons_of_pos hr, hrest, hfixed hr]
    · rw [List.map_cons, List.filter_cons_of_neg (fun h => hr (hsame.symm.trans h)),
        List.filter_cons_of_neg hr, hrest]

/-- A row that is not among some rows before and after a change leaves them as they are. -/
theorem many_update_of_not {i : ℕ} {f : α → α} (h : ∀ a, t.find i = some a → p i a = false ∧ p i (f a) = false) :
    (t.update i f).many p = t.many p := by
  apply filter_map_of_fixed
  intro r hr
  dsimp only
  by_cases hi : r.1 = i
  · have hfalse := h r.2 (find_eq_some.mpr (hi ▸ hr))
    rw [if_pos (beq_iff_eq.mpr hi), hi, hfalse.1, hfalse.2]
    exact ⟨rfl, fun h => absurd h Bool.false_ne_true⟩
  · rw [if_neg (by simpa using hi)]
    exact ⟨rfl, fun _ => rfl⟩

/-- Rows that are removed are not among those that are left. -/
theorem many_deleteMany_of_not {q : ℕ → α → Bool} (h : ∀ i a, t.find i = some a → q i a = true → p i a = false) :
    (t.deleteMany q).many p = t.many p := by
  simp only [many, deleteMany, List.filter_filter]
  refine List.filter_congr fun r hr => ?_
  cases hq : q r.1 r.2 with
  | true => rw [h r.1 r.2 (find_eq_some.mpr hr) hq, Bool.false_and]
  | false => rw [Bool.not_false, Bool.and_true]

end Relational.Table

namespace Superstore

open Interleaving Relational Relational.Tx

/-- The lines of a cart. -/
def cartItems (db : Database) (i : ℕ) : List (ℕ × CartItem) := (db .cartItem).many fun _ item => item.cartId == i

/-- The totals that a cart stores are those of some lines. -/
structure Cart.Totalled (c : Cart) (items : List (ℕ × CartItem)) : Prop where
  subtotal : c.subtotal = Cart.lineTotal items
  totalItems : c.totalItems = (items.map fun item => item.2.quantity).sum

/-- A line is known by its cart and its offer. -/
def CartItem.lineKey (item : CartItem) : Option (ℕ × ℕ) := some (item.cartId, item.storeProductId)

/-- Every customer has one cart and every offer one line in it, of one item at least; and the totals are stored, but
for the carts that are just being changed. -/
structure CartsInStep (changing : ℕ → Prop) (db : Database) : Prop where
  own : OwnCarts db
  placed : ∀ k item, (db .cartItem).find k = some item → ∃ c, (db .cart).find item.cartId = some c
  positive : ∀ k item, (db .cartItem).find k = some item → 1 ≤ item.quantity
  lines : (db .cartItem).Distinct CartItem.lineKey
  totals : ∀ i c, ¬changing i → (db .cart).find i = some c → c.Totalled (cartItems db i)

/-- Nobody is at work on a cart. -/
abbrev CartsSettled (db : Database) : Prop := CartsInStep (fun _ => False) db

variable {changing : ℕ → Prop} {db : Database} {i : ℕ}

/-- Whether carts are in step depends on the carts and their lines alone. -/
theorem CartsInStep.congr {db' : Database} (h : CartsInStep changing db) (hcart : db' .cart = db .cart)
    (hitem : db' .cartItem = db .cartItem) : CartsInStep changing db' := by
  obtain ⟨hown, hplaced, hpositive, hlines, htotals⟩ := h
  constructor
  · rwa [OwnCarts, hcart]
  · rwa [hitem, hcart]
  · rwa [hitem]
  · rwa [hitem]
  · intro i c hi hc
    rw [hcart] at hc
    rw [cartItems, hitem]
    exact htotals i c hi hc

/-- Fewer carts are said to be in step. -/
theorem CartsInStep.weaken (h : CartsInStep (fun _ => False) db) : CartsInStep changing db where
  own := h.own
  placed := h.placed
  positive := h.positive
  lines := h.lines
  totals i c _ hc := h.totals i c id hc

/-- The lines of one cart are replaced. -/
theorem CartsInStep.reline {t : Table CartItem} (h : CartsInStep (· = i) db)
    (hrow : ∀ k item, t.find k = some item → 1 ≤ item.quantity ∧ ∃ c, (db .cart).find item.cartId = some c)
    (hlines : t.Distinct CartItem.lineKey)
    (hother : ∀ j, j ≠ i → (t.many fun _ item => item.cartId == j) = cartItems db j) :
    CartsInStep (· = i) (db.set .cartItem t) := by
  have hcart : (db.set .cartItem t) .cart = db .cart := Database.set_of_ne _ _ (by decide)
  constructor
  · rw [OwnCarts, hcart]
    exact h.own
  · rw [Database.set_self, hcart]
    exact fun k item hk => (hrow k item hk).2
  · rw [Database.set_self]
    exact fun k item hk => (hrow k item hk).1
  · rw [Database.set_self]
    exact hlines
  · intro j c hj hc
    rw [hcart] at hc
    rw [cartItems, Database.set_self, hother j hj]
    exact h.totals j c hj hc

/-- A line of the cart is changed, and stays that of its offer. -/
theorem CartsInStep.update {k : ℕ} {item : CartItem} {f : CartItem → CartItem} (h : CartsInStep (· = i) db)
    (hk : (db .cartItem).find k = some item) (hcart : item.cartId = i) (hf : ∀ b, (f b).lineKey = b.lineKey)
    (hpositive : 1 ≤ (f item).quantity) : CartsInStep (· = i) (db.set .cartItem ((db .cartItem).update k f)) := by
  have hsame (b : CartItem) : (f b).cartId = b.cartId := congrArg Prod.fst (Option.some.inj (hf b))
  refine h.reline (fun l b hb => ?_) ?_ fun j hj => Table.many_update_of_not fun a ha => ?_
  · rw [Table.find_update] at hb
    by_cases hl : l = k
    · rw [if_pos hl, hl, hk] at hb
      obtain rfl := Option.some.inj hb
      rw [hsame]
      exact ⟨hpositive, h.placed k item hk⟩
    · rw [if_neg hl] at hb
      exact ⟨h.positive l b hb, h.placed l b hb⟩
  · have hgrows : (db .cartItem).Grows (fun _ => False)
      (fun a b => b.lineKey = a.lineKey) ((db .cartItem).update k f) :=
      have : IsPreorder CartItem fun a b => b.lineKey = a.lineKey :=
        { refl := fun _ => rfl, trans := fun _ _ _ h h' => Eq.trans h' h }
      .update fun _ _ => hf _
    exact h.lines.grows hgrows fun a b hab c hc => hab.symm.trans hc
  · obtain rfl := Option.some.inj (hk.symm.trans ha)
    have hne : (item.cartId == j) = false := beq_false_of_ne fun heq => hj (heq.symm.trans hcart)
    exact ⟨hne, by rw [hsame]; exact hne⟩

/-- Lines of the cart are removed. -/
theorem CartsInStep.delete {q : ℕ → CartItem → Bool} (h : CartsInStep (· = i) db)
    (hq : ∀ k item, (db .cartItem).find k = some item → q k item = true → item.cartId = i) :
    CartsInStep (· = i) (db.set .cartItem ((db .cartItem).deleteMany q)) := by
  have hold {l : ℕ} {b : CartItem} (hb : ((db .cartItem).deleteMany q).find l = some b) :
      (db .cartItem).find l = some b := by
    rw [Table.find_deleteMany] at hb
    exact (Option.filter_eq_some_iff.mp hb).1
  refine h.reline (fun l b hb => ⟨h.positive l b (hold hb), h.placed l b (hold hb)⟩)
    (fun l m a b c ha hb => h.lines l m a b c (hold ha) (hold hb)) fun j hj =>
      Table.many_deleteMany_of_not fun l b hb hdel => ?_
  exact beq_false_of_ne fun heq => hj (heq.symm.trans (hq l b hb hdel))

/-- A line of an offer that has none yet is entered in the cart. -/
theorem CartsInStep.create {line : CartItem} {cart : Cart} (h : CartsInStep (· = i) db) (hcart : line.cartId = i)
    (hfind : (db .cart).find i = some cart) (hpositive : 1 ≤ line.quantity)
    (hfree : ∀ k item, (db .cartItem).find k = some item → item.lineKey ≠ line.lineKey) :
    CartsInStep (· = i) (db.set .cartItem ((db .cartItem).create line)) := by
  refine h.reline (fun l b hb => ?_) ?_ fun j hj => ?_
  · rcases Ledger.find_of_create hb with ⟨-, rfl⟩ | hold
    · rw [hcart]
      exact ⟨hpositive, cart, hfind⟩
    · exact ⟨h.positive l b hold, h.placed l b hold⟩
  · exact h.lines.create fun l b c hb hc hbc => hfree l b hb (hbc.trans hc.symm)
  · have hne : ¬(line.cartId == j) = true := fun heq => hj ((beq_iff_eq.mp heq).symm.trans hcart)
    rw [Table.many_create, if_neg hne, List.append_nil]
    rfl

namespace Cart

/-- The cart of a customer is found, or opened without lines. -/
theorem lock_settled (userId : ℕ) (h : CartsSettled db) :
    wp db (lock userId) fun cart db' => CartsSettled db' ∧ (db' .cart).find cart.1 = some cart.2 := by
  rw [lock, wp_firstOrCreate]
  constructor
  · intro cart hcart
    exact ⟨h, (Table.find_of_first hcart).1⟩
  · intro hnone
    have hitem : (db.set .cart ((db .cart).create { userId := userId })) .cartItem = db .cartItem :=
      Database.set_of_ne _ _ (by decide)
    refine ⟨⟨?_, ?_, ?_, ?_, ?_⟩, ?_⟩
    · rw [OwnCarts, Database.set_self]
      apply h.own.create
      intro j c u hc hu huser
      have hother := Table.first_eq_none.mp hnone j c hc
      rw [Option.some.inj (huser.trans hu.symm), beq_self_eq_true] at hother
      cases hother
    · intro k item hk
      rw [hitem] at hk
      obtain ⟨c, hc⟩ := h.placed k item hk
      rw [Database.set_self]
      exact ⟨c, Table.find_create_of_find _ hc⟩
    · rw [hitem]
      exact h.positive
    · rw [hitem]
      exact h.lines
    · intro j c _ hc
      rw [Database.set_self] at hc
      rw [cartItems, hitem]
      rcases Ledger.find_of_create hc with ⟨rfl, rfl⟩ | hold
      · have hempty : cartItems db (db .cart).next = [] := by
          refine List.eq_nil_iff_forall_not_mem.mpr fun r hr => ?_
          obtain ⟨hfind, hmatch⟩ := Table.mem_many.mp hr
          obtain ⟨c, hc⟩ := h.placed r.1 r.2 hfind
          rw [beq_iff_eq.mp hmatch, Table.find_of_next_le le_rfl] at hc
          cases hc
        rw [cartItems] at hempty
        rw [hempty]
        exact ⟨rfl, rfl⟩
      · exact h.totals j c id hold
    · rw [Database.set_self]
      exact Table.find_create_self _ _

/-- The totals of the cart that has been changed are stored again. -/
theorem recalculate_settles (h : CartsInStep (· = i) db) : wp db (recalculate i) fun _ db' => CartsSettled db' := by
  rw [recalculate, wp_bind, wp_many, wp_update]
  intro cart hcart
  have hitem (t : Table Cart) : (db.set .cart t) .cartItem = db .cartItem := Database.set_of_ne _ _ (by decide)
  refine ⟨?_, ?_, ?_, ?_, ?_⟩
  · have hgrows : (db .cart).Grows (fun _ => False) SameOwner ((db .cart).update i fun cart =>
        { cart with
          subtotal := lineTotal (cartItems db i)
          totalItems := ((cartItems db i).map fun item => item.2.quantity).sum }) := .update fun _ _ => rfl
    rw [OwnCarts, Database.set_self]
    exact h.own.grows hgrows fun a b hsame c hc => (congrArg some (Eq.symm hsame)).trans hc
  · intro k item hk
    rw [hitem] at hk
    obtain ⟨c, hc⟩ := h.placed k item hk
    rw [Database.set_self, Table.find_update, hc]
    split
    · exact ⟨_, rfl⟩
    · exact ⟨c, rfl⟩
  · rw [hitem]
    exact h.positive
  · rw [hitem]
    exact h.lines
  · intro j c _ hc
    rw [Database.set_self, Table.find_update] at hc
    rw [cartItems, hitem]
    split at hc
    · next hj =>
      obtain ⟨c₀, -, rfl⟩ := Option.map_eq_some_iff.mp hc
      rw [hj]
      exact ⟨rfl, rfl⟩
    · next hj => exact h.totals j c hj hc

/-! ## What customers do -/

/-- A line that may be written over the one that is there. -/
theorem upsertLine_inStep {line : CartItem} {cart : Cart} (h : CartsInStep (· = i) db) (hcart : line.cartId = i)
    (hfind : (db .cart).find i = some cart) (hpositive : 1 ≤ line.quantity) :
    wp db (upsertLine line) fun _ db' => CartsInStep (· = i) db' ∧ db' .cart = db .cart := by
  refine wp_mono (wp_and ?_ (upsertLine_writes line db)) fun _ db' hw => ⟨hw.1, hw.2 _ (by decide)⟩
  rw [upsertLine, wp_bind, wp_first]
  cases hfirst : (db .cartItem).first fun _ item => isLine line.cartId line.storeProductId item with
  | some existing =>
    obtain ⟨hk, hline⟩ := Table.find_of_first hfirst
    refine (wp_update _ _ _ _ _).mpr fun _ _ => ?_
    exact h.update hk ((beq_iff_eq.mp (Bool.and_eq_true_iff.mp hline).1).trans hcart) (fun _ => rfl) hpositive
  | none =>
    refine (wp_bind _ _ _ _).mpr ((wp_create _ _ _ _).mpr ((wp_pure _ _ _).mpr ?_))
    refine h.create hcart hfind hpositive fun k item hk hkey => ?_
    have hother := Table.first_eq_none.mp hfirst k item hk
    obtain ⟨hcartId, hoffer⟩ := Prod.mk.inj (Option.some.inj hkey)
    rw [isLine, hcartId, hoffer, beq_self_eq_true, beq_self_eq_true] at hother
    cases hother

/-- A line that is added is one of the cart, of one item at least. -/
theorem addedLine_spec {cartId storeProductId quantity : ℕ} {line : CartItem}
    (h : addedLine cartId storeProductId quantity db = .ok line) : line.cartId = cartId ∧ 1 ≤ line.quantity := by
  simp only [addedLine, bind_eq_ok] at h
  obtain ⟨_, hvalid, _, -, _, -, h⟩ := h
  obtain ⟨-, hpositive⟩ := ensure_eq_ok.mp hvalid
  rw [← Except.ok.inj h]
  exact ⟨rfl, by dsimp only; omega⟩

/-- Ordering an item again leaves the cart to be added up. -/
theorem reorderItem_inStep {cart : Cart} (item : OrderItem) (h : CartsInStep (· = i) db)
    (hfind : (db .cart).find i = some cart) :
    wp db (reorderItem i item) fun _ db' => CartsInStep (· = i) db' ∧ db' .cart = db .cart := by
  rw [reorderItem, wp_bind, wp_query]
  split
  · next line hline =>
    obtain ⟨hcart, hpositive⟩ := addedLine_spec hline
    exact upsertLine_inStep h hcart hfind hpositive
  · exact (wp_pure _ _ _).mpr ⟨h, rfl⟩
  · exact (wp_pure _ _ _).mpr ⟨h, rfl⟩
  · exact (wp_pure _ _ _).mpr ⟨h, rfl⟩
  · exact (wp_ofExcept _ _ _).mpr fun _ he => by cases he

/-- A price that is taken over again leaves the cart to be added up. -/
theorem refreshPrice_inStep {item : ℕ × CartItem} (h : CartsInStep (· = i) db)
    (hk : ∃ b, (db .cartItem).find item.1 = some b ∧ b.cartId = i) :
    wp db (refreshPrice item) fun _ db' => CartsInStep (· = i) db' ∧
      ∀ k b, (db .cartItem).find k = some b → ∃ b', (db' .cartItem).find k = some b' ∧ b'.cartId = b.cartId := by
  rw [refreshPrice, wp_bind, wp_findOrThrow]
  intro offer _
  rw [wp_when, wp_update]
  refine ⟨fun _ _ _ => ⟨?_, fun k b hb => ?_⟩, fun _ => ⟨h, fun k b hb => ⟨b, hb, rfl⟩⟩⟩
  · obtain ⟨b, hb, hbcart⟩ := hk
    exact h.update hb hbcart (fun _ => rfl) (h.positive item.1 b hb)
  · rw [Database.set_self, Table.find_update, hb]
    split
    · exact ⟨_, rfl, rfl⟩
    · exact ⟨b, rfl, rfl⟩

/-- Every call of a customer leaves the carts in step. -/
theorem Call.settled (call : Call) (h : CartsSettled db) :
    wp db call.transaction fun _ db' => CartsSettled db' := by
  cases call with
  | get userId =>
    rw [Call.transaction, Cart.get, wp_bind]
    refine wp_mono (lock_settled userId h) fun cart db₁ hlock => ?_
    obtain ⟨h₁, hfind⟩ := hlock
    rw [wp_bind, wp_many, wp_bind]
    refine wp_mono (wp_forM (P := fun db' => CartsInStep (· = cart.1) db' ∧ ∀ k b, (db₁ .cartItem).find k = some b →
        ∃ b', (db' .cartItem).find k = some b' ∧ b'.cartId = b.cartId) (fun item hitem db₂ h₂ => ?_)
      ⟨h₁.weaken, fun k b hb => ⟨b, hb, rfl⟩⟩) fun _ db₂ h₂ => recalculate_settles h₂.1
    obtain ⟨hrow, hcart⟩ := Table.mem_many.mp hitem
    obtain ⟨b, hb, hsame⟩ := h₂.2 item.1 item.2 hrow
    refine wp_mono (refreshPrice_inStep h₂.1 ⟨b, hb, hsame.trans (beq_iff_eq.mp hcart)⟩)
      fun _ db₃ h₃ => ⟨h₃.1, fun k b hb => ?_⟩
    obtain ⟨b₂, hb₂, hsame₂⟩ := h₂.2 k b hb
    obtain ⟨b₃, hb₃, hsame₃⟩ := h₃.2 k b₂ hb₂
    exact ⟨b₃, hb₃, hsame₃.trans hsame₂⟩
  | add userId storeProductId quantity =>
    rw [Call.transaction, Cart.add, wp_bind, wp_ofExcept]
    intro _ _
    rw [wp_bind]
    refine wp_mono (lock_settled userId h) fun cart db₁ hlock => ?_
    rw [wp_bind, addInTransaction, wp_bind, wp_query, wp_bind, wp_ofExcept]
    intro line hline
    obtain ⟨hcart, hpositive⟩ := addedLine_spec hline
    exact wp_mono (upsertLine_inStep hlock.1.weaken hcart hlock.2 hpositive) fun _ db₂ h₂ =>
      recalculate_settles h₂.1
  | updateQuantity userId storeProductId quantity =>
    rw [Call.transaction, Cart.updateQuantity, wp_bind, wp_ofExcept]
    intro _ hvalid
    rw [wp_bind]
    refine wp_mono (lock_settled userId h) fun cart db₁ hlock => ?_
    rw [wp_bind, wp_first, wp_bind, wp_orThrow]
    intro item hitem
    obtain ⟨hk, hline⟩ := Table.find_of_first hitem
    rw [wp_bind, wp_findOrThrow]
    intro offer _
    rw [wp_bind, wp_require]
    intro _
    rw [wp_bind, wp_update]
    intro _ _
    apply recalculate_settles
    exact hlock.1.weaken.update hk (beq_iff_eq.mp (Bool.and_eq_true_iff.mp hline).1) (fun _ => rfl)
      (ensure_eq_ok.mp hvalid).2
  | remove userId storeProductId =>
    rw [Call.transaction, Cart.remove, wp_bind]
    refine wp_mono (lock_settled userId h) fun cart db₁ hlock => ?_
    rw [wp_bind, wp_deleteMany]
    exact recalculate_settles (hlock.1.weaken.delete fun k item _ hline =>
      beq_iff_eq.mp (Bool.and_eq_true_iff.mp hline).1)
  | clear userId =>
    rw [Call.transaction, Cart.clear, wp_bind]
    refine wp_mono (lock_settled userId h) fun cart db₁ hlock => ?_
    rw [wp_bind, wp_deleteMany]
    exact recalculate_settles (hlock.1.weaken.delete fun k item _ hline => beq_iff_eq.mp hline)
  | reorder userId items =>
    rw [Call.transaction, Cart.reorder, wp_bind]
    refine wp_mono (lock_settled userId h) fun cart db₁ hlock => ?_
    rw [wp_bind]
    refine wp_mono (wp_forM (P := fun db' => CartsInStep (· = cart.1) db' ∧ db' .cart = db₁ .cart)
      (fun item _ db₂ h₂ => ?_) ⟨hlock.1.weaken, rfl⟩) fun _ db₂ h₂ => recalculate_settles h₂.1
    refine wp_mono (reorderItem_inStep item h₂.1 (h₂.2 ▸ hlock.2)) fun _ db₃ h₃ => ⟨h₃.1, h₃.2.trans h₂.2⟩

/-! ## What payments do -/

/-- What was bought of a line is taken out of the cart, if the line is still there. -/
theorem removeLine_inStep (line : CartSnapshotLine) (h : CartsInStep (· = i) db) :
    wp db (removeLine i line) fun _ db' => CartsInStep (· = i) db' := by
  rw [removeLine, wp_bind, wp_find]
  cases hk : (db .cartItem).find line.cartItemId with
  | none => exact (wp_pure _ _ _).mpr h
  | some item =>
    dsimp only
    split
    · exact (wp_pure _ _ _).mpr h
    · next hcart =>
      have hcart : item.cartId = i := not_not.mp hcart
      split
      · rw [wp_deleteMany]
        apply h.delete
        intro k b hb heq
        rw [beq_iff_eq.mp heq, hk] at hb
        obtain rfl := Option.some.inj hb
        exact hcart
      · next hless =>
        have hpositive : 1 ≤ item.quantity - line.quantity := by omega
        exact (wp_update _ _ _ _ _).mpr fun _ _ => h.update hk hcart (fun _ => rfl) hpositive

/-- A paid checkout leaves the carts in step. -/
theorem consume_settled (userId now : ℕ) (snapshot : List CartSnapshotLine) (h : CartsSettled db) :
    wp db (consume userId now snapshot) fun _ db' => CartsSettled db' := by
  rw [consume, wp_bind, wp_first]
  cases (db .cart).first fun _ c => c.userId == userId with
  | none => exact (wp_pure _ _ _).mpr h
  | some cart =>
    dsimp only
    rw [wp_bind]
    refine wp_mono (wp_forM (P := fun db' => CartsInStep (· = cart.1) db') (fun line _ _ => removeLine_inStep line)
      h.weaken) fun _ db₁ h₁ => ?_
    rw [wp_bind]
    refine wp_mono (recalculate_settles h₁) fun _ db₂ h₂ => ?_
    rw [wp_bind]
    refine wp_mono (redeemVoucher_writes cart.1 userId now db₂) fun _ db₃ h₃ => ?_
    refine wp_mono (redeemCoupon_writes cart.1 db₃) fun _ db₄ h₄ => ?_
    exact (h₂.congr (h₃ _ (by decide)) (h₃ _ (by decide))).congr (h₄ _ (by decide)) (h₄ _ (by decide))

end Cart

/-- A transaction that writes no carts leaves them in step. -/
theorem settled_of_writes {α : Type} {ns : List TableName} {m : Tx α} (h : Writes ns m) (hcart : .cart ∉ ns)
    (hitem : .cartItem ∉ ns) : Within (Keeps CartsSettled) m :=
  fun db => wp_mono (h db) fun _ _ hsame hsettled => hsettled.congr (hsame _ hcart) (hsame _ hitem)

/-- Locking a cart leaves all carts in step. -/
theorem Cart.lock_keeps (userId : ℕ) : Within (Keeps CartsSettled) (Cart.lock userId) :=
  fun _ => wp_keeps fun h => wp_mono (Cart.lock_settled userId h) fun _ _ h => h.1

namespace Payments

/-- Completing a group leaves all carts in step. -/
theorem completeGroup_settled (e : Env) (id : ℕ) : Within (Keeps CartsSettled) (completeGroup e id) := by
  refine .bind (.of_reads (.findOrThrow _ _)) fun group => .when (.bind (.of_reads (.require _ _)) fun _ => ?_)
  refine .bind (.forM fun a _ => settled_of_writes (confirmOrder_writes e _ a) (by decide) (by decide)) fun _ => ?_
  refine .bind (fun _ => wp_keeps fun h => Cart.consume_settled _ _ _ h) fun _ => ?_
  exact settled_of_writes (.update (List.mem_singleton_self TableName.checkoutPaymentGroup) _ _)
    (by decide) (by decide)

/-- Failing a group leaves all carts in step. -/
theorem failGroup_settled (e : Env) (id : ℕ) : Within (Keeps CartsSettled) (failGroup e id) :=
  settled_of_writes (failGroup_writes e id) (by decide) (by decide)

/-- Finishing a payment leaves all carts in step. -/
theorem finalizePayment_settled (e : Env) (p : ℕ) (groups : List (ℕ × ℕ)) (success : Bool) :
    Within (Keeps CartsSettled) (finalizePayment e p groups success) := by
  have hpayment (f : Payment → Payment) : Within (Keeps CartsSettled) (update .payment p f) :=
    settled_of_writes (.update (List.mem_singleton_self TableName.payment) _ _) (by decide) (by decide)
  refine .bind (.forM fun g _ => .bind (Cart.lock_keeps g.2) fun _ => .pure _) fun _ => ?_
  refine .bind (.of_reads (.findOrThrow _ _)) fun current => ?_
  split
  · exact .pure _
  · split
    · split
      · exact settled_of_writes (acceptLatePayment_writes e p) (by decide) (by decide)
      · exact .pure _
    · split
      · exact .bind (hpayment _) fun _ => .bind (.forM fun g _ => completeGroup_settled e g.1) fun _ => .pure _
      · exact .bind (hpayment _) fun _ => .bind (.forM fun g _ => failGroup_settled e g.1) fun _ => .pure _

/-- Completing groups that were left over leaves all carts in step. -/
theorem completeIncomplete_settled (e : Env) (groups : List (ℕ × ℕ)) :
    Within (Keeps CartsSettled) (completeIncomplete e groups) :=
  .forM fun g _ => .bind (Cart.lock_keeps g.2) fun _ => completeGroup_settled e g.1

/-- Cancelling a group leaves all carts in step. -/
theorem cancelGroup_settled (e : Env) (userId id : ℕ) : Within (Keeps CartsSettled) (cancelGroup e userId id) := by
  refine .bind (Cart.lock_keeps userId) fun _ => .bind (.of_reads (.find _ _)) fun _ => ?_
  refine .bind (.of_reads (.orThrow _ _)) fun group => .bind (.of_reads (.query _)) fun _ => ?_
  refine .bind (.of_reads (.require _ _)) fun _ => .when (.bind ?_ fun _ => failGroup_settled e id)
  exact settled_of_writes (failPayment_writes group.paymentId) (by decide) (by decide)

end Payments

/-- Completing a transaction of Klump leaves all carts in step. -/
theorem Klump.completeTransaction_settled (e : Env) (id : ℕ) (transaction : KlumpTransaction) (reference : String) :
    Within (Keeps CartsSettled) (completeTransaction e id transaction reference) := by
  refine .bind (.of_reads (.findOrThrow _ _)) fun _ => .bind (.of_reads (.require _ _)) fun _ => ?_
  refine .bind (.when (.bind ?_ fun _ => Payments.completeGroup_settled e _)) fun _ => ?_
  · exact settled_of_writes (.update (List.mem_singleton_self TableName.payment) _ _) (by decide) (by decide)
  · exact settled_of_writes (.update (List.mem_singleton_self TableName.klumpTransaction) _ _)
      (by decide) (by decide)

namespace Checkout

/-- Paying at once leaves all carts in step. -/
theorem payAtOnce_settled (e : Env) (userId groupId : ℕ) (q : Quote) (method : PaymentMethod)
    (credit : Option Credit) :
    Within (Keeps CartsSettled) (payAtOnce e userId groupId q method credit) := by
  refine .bind (.when (settled_of_writes (debitWallet_writes _ _ _) (by decide) (by decide))) fun _ => ?_
  refine .bind (settled_of_writes (.createUnique (List.mem_singleton_self TableName.payment) _ _)
    (by decide) (by decide))
    fun p => .bind ?_ fun _ => Payments.completeGroup_settled e groupId
  exact settled_of_writes (.update (List.mem_singleton_self TableName.checkoutPaymentGroup) _ _)
    (by decide) (by decide)

/-- Asking for a checkout leaves all carts in step. -/
theorem createInTransaction_settled (e : Env) (userId : ℕ) (input : CreateCheckoutDto) (credit : Option Credit) :
    Within (Keeps CartsSettled) (createInTransaction e userId input credit) := by
  refine .bind (Cart.lock_keeps userId) fun cart => .bind (.of_reads (.require _ _)) fun _ => ?_
  refine .bind (.of_reads (.first _ _)) fun pending => ?_
  cases pending with
  | some pending => exact .bind (.of_reads (.require _ _)) fun _ => .pure _
  | none =>
    refine .bind (.of_reads (.query _)) fun _ => .bind (.of_reads (.ofExcept _)) fun q => ?_
    refine .bind (.of_reads (.require _ _)) fun _ => .bind ?_ fun _ =>
      .bind (.of_reads (.findOrThrow _ _)) fun _ => .pure _
    refine .bind (.mapM fun order _ =>
      settled_of_writes (placeOrder_writes e userId q order) (by decide) (by decide))
      fun _ => .bind (.of_reads (.ofExcept _)) fun _ => ?_
    refine .bind (settled_of_writes (.createUnique (List.mem_singleton_self TableName.checkoutPaymentGroup) _ _)
      (by decide) (by decide)) fun id => ?_
    exact .bind (.when (payAtOnce_settled e userId id q _ credit)) fun _ => .pure _

/-- Confirming an application leaves all carts in step. -/
theorem confirm_settled (e : Env) (userId id : ℕ) : Within (Keeps CartsSettled) (confirm e userId id) := by
  refine .bind (.of_reads (.find _ _)) fun _ => .bind (.of_reads (.orThrow _ _)) fun app => ?_
  split
  · exact .pure _
  · refine .bind (.of_reads (.require _ _)) fun _ => .bind (.of_reads (.findOrThrow _ _)) fun _ => ?_
    refine .bind (.of_reads (.require _ _)) fun _ => .bind (createInTransaction_settled e userId _ _) fun _ => ?_
    refine .bind (settled_of_writes (.update (List.mem_singleton_self TableName.bnplApplication) _ _)
      (by decide) (by decide)) fun _ => ?_
    exact .bind (settled_of_writes (createInstallments_writes _ _) (by decide) (by decide)) fun _ => .pure _

end Checkout

/-- Every operation leaves the carts in step. -/
theorem exec_settled {α : Type} (op : Op α) (e : Env) {w : World} (h : CartsSettled w.db) :
    CartsSettled (op.exec e w).2.db := by
  by_cases hwrites : TableName.cart ∈ op.writes ∨ TableName.cartItem ∈ op.writes
  swap
  · obtain ⟨hcart, hitem⟩ := not_or.mp hwrites
    exact h.congr (exec_frame op e w _ hcart) (exec_frame op e w _ hitem)
  have hkeeps {α : Type} {op : Op α} {m : Env → Tx α} (hop : op.transaction = some m)
      (hm : Within (Keeps CartsSettled) (m e)) : CartsSettled (op.exec e w).2.db :=
    exec_transaction hop (Φ := fun w' => CartsSettled w'.db) h (wp_mono (hm w.db) fun _ _ hkept => hkept h)
  cases op <;> dsimp only [Op.writes] at hwrites <;>
    first | exact absurd hwrites (by decide) | clear hwrites
  case createCheckout => exact hkeeps rfl (Checkout.createInTransaction_settled e _ _ _)
  case confirmFinancing => exact hkeeps rfl (Checkout.confirm_settled e _ _)
  case finalizePayment => exact hkeeps rfl (Payments.finalizePayment_settled e _ _ _)
  case completeIncomplete => exact hkeeps rfl (Payments.completeIncomplete_settled e _)
  case cancelGroup => exact hkeeps rfl (Payments.cancelGroup_settled e _ _)
  case completeKlump => exact hkeeps rfl (Klump.completeTransaction_settled e _ _ _)

/-! ## What a payment takes out of a cart -/

/-- The units of a line that a line of a snapshot stands for. -/
def CartSnapshotLine.units (line : CartSnapshotLine) (k : ℕ) : ℕ := if line.cartItemId = k then line.quantity else 0

/-- The units of each line that a snapshot stands for. -/
def unitsBought (snapshot : List CartSnapshotLine) : ℕ → ℕ := (snapshot.map fun line => line.units).sum

/-- What is left of a line without some of its units. -/
def CartItem.less (item : CartItem) (n : ℕ) : Option CartItem :=
  if item.quantity ≤ n then none else some { item with quantity := item.quantity - n }

/-- Units are taken out of the lines of one cart. -/
structure CartItems.Taken (i : ℕ) (units : ℕ → ℕ) (t t' : Table CartItem) : Prop where
  positive : ∀ k item, t'.find k = some item → 1 ≤ item.quantity
  left : ∀ k, t'.find k = (t.find k).bind fun item => if item.cartId = i then item.less (units k) else some item

namespace CartItems.Taken

variable {t t' t'' : Table CartItem} {units more : ℕ → ℕ}

/-- Nothing is taken where nothing was bought. -/
theorem none (h : ∀ k item, t.find k = some item → 1 ≤ item.quantity) : Taken i 0 t t where
  positive := h
  left k := by
    cases hk : t.find k with
    | none => rfl
    | some item =>
      have hpositive : ¬item.quantity ≤ 0 := by have := h k item hk; omega
      rw [Option.bind_some, CartItem.less, Pi.zero_apply, if_neg hpositive, Nat.sub_zero, ite_self]

/-- What is taken in two steps is taken together. -/
theorem add (h : Taken i units t t') (h' : Taken i more t' t'') : Taken i (units + more) t t'' where
  positive := h'.positive
  left k := by
    rw [h'.left k, h.left k]
    cases t.find k with
    | none => rfl
    | some item =>
      simp only [Option.bind_some, Pi.add_apply]
      by_cases hcart : item.cartId = i
      · rw [if_pos hcart, if_pos hcart, CartItem.less, CartItem.less]
        by_cases hgone : item.quantity ≤ units k
        · rw [if_pos hgone, if_pos (by omega), Option.bind_none]
        · rw [if_neg hgone, Option.bind_some, if_pos hcart, CartItem.less]
          dsimp only
          by_cases hall : item.quantity ≤ units k + more k
          · rw [if_pos (by omega), if_pos hall]
          · rw [if_neg (by omega), if_neg hall, Nat.sub_sub]
      · rw [if_neg hcart, if_neg hcart, Option.bind_some, if_neg hcart]

end CartItems.Taken

/-- One line of a snapshot is taken out of the cart. -/
theorem Cart.removeLine_takes (line : CartSnapshotLine)
    (h : ∀ k item, (db .cartItem).find k = some item → 1 ≤ item.quantity) :
    wp db (removeLine i line) fun _ db' => CartItems.Taken i line.units (db .cartItem) (db' .cartItem) := by
  -- Lines other than that of the snapshot keep their units.
  have hother {t : Table CartItem} (k : ℕ) (hk : line.cartItemId ≠ k) (hsame : t.find k = (db .cartItem).find k) :
      t.find k = ((db .cartItem).find k).bind fun item =>
        if item.cartId = i then item.less (line.units k) else some item := by
    rw [CartSnapshotLine.units, if_neg hk, hsame]
    exact (CartItems.Taken.none (i := i) h).left k
  have hpositive {t : Table CartItem} (hold : ∀ k item, t.find k = some item → k ≠ line.cartItemId →
      (db .cartItem).find k = some item) (hline : ∀ item, t.find line.cartItemId = some item → 1 ≤ item.quantity) :
      ∀ k item, t.find k = some item → 1 ≤ item.quantity := by
    intro k item hk
    by_cases hi : k = line.cartItemId
    · exact hline item (hi ▸ hk)
    · exact h k item (hold k item hk hi)
  rw [removeLine, wp_bind, wp_find]
  cases hk : (db .cartItem).find line.cartItemId with
  | none =>
    refine (wp_pure _ _ _).mpr ⟨h, fun k => ?_⟩
    by_cases hi : line.cartItemId = k
    · rw [← hi, hk, Option.bind_none]
    · exact hother k hi rfl
  | some item =>
    dsimp only
    split
    · next hcart =>
      refine (wp_pure _ _ _).mpr ⟨h, fun k => ?_⟩
      by_cases hi : line.cartItemId = k
      · rw [← hi, hk, Option.bind_some, if_neg hcart]
      · exact hother k hi rfl
    · next hcart =>
      have hcart : item.cartId = i := not_not.mp hcart
      split
      · next hgone =>
        rw [wp_deleteMany, Database.set_self]
        refine ⟨fun k b hb => ?_, fun k => ?_⟩
        · rw [Table.find_deleteMany] at hb
          exact h k b (Option.filter_eq_some_iff.mp hb).1
        · by_cases hi : line.cartItemId = k
          · rw [← hi, Table.find_deleteMany, hk, Option.bind_some, if_pos hcart, CartItem.less,
              CartSnapshotLine.units,
              if_pos rfl, if_pos hgone, Option.filter_some, beq_self_eq_true, Bool.not_true,
                if_neg Bool.false_ne_true]
          · apply hother k hi
            rw [Table.find_deleteMany, beq_false_of_ne (Ne.symm hi), Bool.not_false]
            cases (db .cartItem).find k <;> rfl
      · next hleft =>
        rw [wp_update]
        intro b hb
        rw [Database.set_self]
        refine ⟨hpositive (fun k c hc hi => ?_) fun c hc => ?_, fun k => ?_⟩
        · rwa [Table.find_update_of_ne _ _ hi] at hc
        · rw [Table.find_update_self, hk] at hc
          obtain rfl := Option.some.inj hc
          dsimp only
          omega
        · by_cases hi : line.cartItemId = k
          · rw [← hi, Table.find_update_self, hk, Option.bind_some, if_pos hcart, CartItem.less,
              CartSnapshotLine.units,
              if_pos rfl, if_neg hleft]
            rfl
          · exact hother k hi (Table.find_update_of_ne _ _ (Ne.symm hi))

/-- Units are taken out of a cart, if every line has one at least. -/
def TakesOut (i : ℕ) (units : ℕ → ℕ) (db db' : Database) : Prop :=
  (∀ k item, (db .cartItem).find k = some item → 1 ≤ item.quantity) →
    CartItems.Taken i units (db .cartItem) (db' .cartItem)

/-- A snapshot is taken out of the cart of its customer. -/
theorem Cart.consume_takes (now : ℕ) (snapshot : List CartSnapshotLine) {cart : Cart} (h : CartsSettled db)
    (hcart : (db .cart).find i = some cart) : wp db (consume cart.userId now snapshot) fun _ db' =>
      CartItems.Taken i (unitsBought snapshot) (db .cartItem) (db' .cartItem) := by
  have hfirst : (db .cart).first (fun _ c => c.userId == cart.userId) = some (i, cart) := h.own.first hcart rfl
  rw [consume, wp_bind, wp_first, hfirst]
  dsimp only
  rw [wp_bind]
  have htaken : wp db (snapshot.forM (removeLine i)) fun _ db' => TakesOut i (unitsBought snapshot) db db' :=
    wp_forM_sum (fun _ h => .none h) (fun ha hb h => (ha h).add (hb (ha h).positive))
      (fun line _ _ => wp_imp fun h => removeLine_takes line h) db
  refine wp_mono htaken fun _ db₁ h₁ => ?_
  rw [wp_bind]
  refine wp_mono (recalculate_writes i db₁) fun _ db₂ h₂ => ?_
  rw [wp_bind]
  refine wp_mono (redeemVoucher_writes i cart.userId now db₂) fun _ db₃ h₃ => ?_
  refine wp_mono (redeemCoupon_writes i db₃) fun _ db₄ h₄ => ?_
  rw [h₄ _ (by decide), h₃ _ (by decide), h₂ _ (by decide)]
  exact h₁ h.positive

/-- A group that is paid and holds no cart is not completed again, however the store goes on in the meantime. -/
theorem Payments.completeGroup_again (e : Env) {id : ℕ} {group : CheckoutPaymentGroup}
    (hgroup : (db .checkoutPaymentGroup).find id = some group) (hpaid : group.status = .paid)
    (hnone : group.activeCartId = none) : completeGroup e id db = .ok ((), db) := by
  have hagain : Returns db (completeGroup e id) fun _ db' => db' = db := by
    refine (returns_bind _ _ _ _).mpr
      ((returns_findOrThrow _ _ _ _).mpr ⟨group, hgroup, (returns_when _ _ _ _).mpr ?_⟩)
    exact ⟨fun hnot => absurd ⟨hpaid, hnone⟩ hnot, fun _ => rfl⟩
  obtain ⟨_, db', hresult, hsame⟩ := hagain
  rw [hsame] at hresult
  exact hresult

/-- Whatever the customer has done to the cart since it was checked out, the payment of the group takes what was
bought out of it: each line of the cart loses as many units as were bought of it, or goes if it has no more than
these, and lines of other carts and lines added since stay. Completing the group again changes nothing, neither at
once nor in any state in which it is still paid and holds no cart. -/
theorem Payments.completeGroup_takes (e : Env) {db' : Database} {id : ℕ}
    {group : CheckoutPaymentGroup} {cart : Cart}
    (h : CartsSettled db) (hgroup : (db .checkoutPaymentGroup).find id = some group)
    (hopen : ¬(group.status = .paid ∧ group.activeCartId = none)) (hcart : (db .cart).find i = some cart)
    (howner : cart.userId = group.userId) (hrun : completeGroup e id db = .ok ((), db')) :
    CartsSettled db' ∧ (∀ e', completeGroup e' id db' = .ok ((), db')) ∧
      (∀ e' later g, (later .checkoutPaymentGroup).find id = some g → g.status = .paid → g.activeCartId = none →
        completeGroup e' id later = .ok ((), later)) ∧
      ∀ k, (db' .cartItem).find k = ((db .cartItem).find k).bind fun item =>
        if item.cartId = i then item.less (unitsBought group.cartSnapshot k) else some item := by
  have htakes : wp db (completeGroup e id) fun _ db' =>
      ((db' .checkoutPaymentGroup).find id).map (fun g => (g.status, g.activeCartId)) = some (.paid, none) ∧
        CartItems.Taken i (unitsBought group.cartSnapshot) (db .cartItem) (db' .cartItem) := by
    rw [completeGroup, wp_bind, wp_findOrThrow]
    intro g hg
    obtain rfl := Option.some.inj (hgroup.symm.trans hg)
    rw [wp_when]
    refine ⟨fun _ => ?_, fun hpaid => absurd hopen hpaid⟩
    have hconfirmed : Writes confirmationTables (group.allocations.forM (confirmOrder e group.userId)) :=
      .forM fun a _ => confirmOrder_writes e _ a
    rw [wp_bind, wp_require]
    intro _
    rw [wp_bind]
    refine wp_mono (hconfirmed db) fun _ db₁ h₁ => ?_
    have hsettled := h.congr (h₁ _ (by decide)) (h₁ _ (by decide))
    rw [wp_bind, ← howner]
    rw [← h₁ .cart (by decide)] at hcart
    refine wp_mono (Cart.consume_takes e.now group.cartSnapshot hsettled hcart) fun _ db₂ h₂ => ?_
    rw [wp_update]
    intro g₂ hg₂
    rw [Database.set_self, Table.find_update_self, hg₂, Database.set_of_ne _ _ (by decide),
      ← h₁ .cartItem (by decide)]
    exact ⟨rfl, h₂⟩
  obtain ⟨hpaid, htaken⟩ := htakes () db' hrun
  obtain ⟨g, hg, hvalues⟩ := Option.map_eq_some_iff.mp hpaid
  obtain ⟨hstatus, hactive⟩ := Prod.mk.inj hvalues
  exact ⟨completeGroup_settled e id db () db' hrun h, fun e' => completeGroup_again e' hg hstatus hactive,
    fun e' _ _ hlater hpaid' hnone => completeGroup_again e' hlater hpaid' hnone, htaken.left⟩

/-! ## Runs -/

/-- The store, while customers change their carts, and no other code writes them. -/
def baskets : System Op Error World Env :=
  { store with
    background := fun w w' => (∃ (call : Cart.Call) (e : Env), w' = (runTx (fun _ => call.transaction) e w).2) ∨
      OtherChange w w' ∧ w'.db .cart = w.db .cart ∧ w'.db .cartItem = w.db .cartItem }

/-- The contract of the carts. -/
def cartsBooks : Contract Op World Env where
  inv w := CartsSettled w.db
  guar _ _ := True
  known _ _ := True
  allowed _ _ _ := True
  refl _ := trivial
  trans _ _ := trivial

/-- A call that fails leaves no trace. -/
theorem Cart.Call.run_settled (call : Call) (e : Env) {w : World} (h : CartsSettled w.db) :
    CartsSettled (runTx (fun _ => call.transaction) e w).2.db := by
  have hcall := call.settled h
  unfold runTx
  split
  · exact h
  · split
    · next hrun => exact hcall _ _ hrun
    · exact h

/-- The requests of the customers keep the carts in step. -/
theorem cartsBooks_holds : cartsBooks.Holds baskets where
  starts _ w _ := Contract.informed_of_forall (fun _ _ => trivial) _ w
  performs op := fun e w hinv _ _ => ⟨exec_settled op e hinv, trivial⟩
  background {w w'} h hinv := by
    rcases h with ⟨call, e, rfl⟩ | ⟨-, hcart, hitem⟩
    · exact ⟨call.run_settled e hinv, trivial⟩
    · exact ⟨hinv.congr hcart hitem, trivial⟩

/-- A store in which nobody has a cart yet. -/
structure NoCarts (w : World) : Prop where
  carts : ∀ i, (w.db .cart).find i = none
  items : ∀ k, (w.db .cartItem).find k = none

/-- Before the first cart all carts are in step. -/
theorem NoCarts.settled {w : World} (h : NoCarts w) : CartsSettled w.db where
  own := .of_empty h.carts
  placed k item hk := by
    rw [h.items k] at hk
    cases hk
  positive k item hk := by
    rw [h.items k] at hk
    cases hk
  lines := .of_empty h.items
  totals i c _ hc := by
    rw [h.carts i] at hc
    cases hc

/-- Carts are in step in every state of a run. -/
theorem NoCarts.settled_run {w : World} (h : NoCarts w) {c : Config Op Error World}
    (hrun : baskets.Run System.anyOp ⟨w, []⟩ c) : CartsSettled c.world.db :=
  (cartsBooks_holds.run (c := ⟨w, []⟩) ⟨h.settled, by simp⟩
    (System.Run.mono baskets hrun fun _ _ _ _ => trivial)).1.1

/-- In every run of requests, with customers at their carts in between: each cart stores the sum and the number of
the items that are in it, every line is one of a cart and has at least one item, no cart has two lines of one
offer, and no customer has two carts. -/
theorem carts_in_step {w : World} (hw : NoCarts w) {c : Config Op Error World}
    (hrun : baskets.Run System.anyOp ⟨w, []⟩ c) :
    (∀ i cart, (c.world.db .cart).find i = some cart → cart.subtotal = Cart.lineTotal (cartItems c.world.db i) ∧
      cart.totalItems = ((cartItems c.world.db i).map fun item => item.2.quantity).sum) ∧
    (∀ k item, (c.world.db .cartItem).find k = some item → 1 ≤ item.quantity ∧
      ∃ cart, (c.world.db .cart).find item.cartId = some cart) ∧
    (∀ k l item other, (c.world.db .cartItem).find k = some item → (c.world.db .cartItem).find l = some other →
      item.cartId = other.cartId → item.storeProductId = other.storeProductId → k = l) ∧
    ∀ i j cart other, (c.world.db .cart).find i = some cart → (c.world.db .cart).find j = some other →
      cart.userId = other.userId → i = j := by
  have hsettled := hw.settled_run hrun
  refine ⟨fun i cart hcart => ?_, fun k item hk => ⟨hsettled.positive k item hk, hsettled.placed k item hk⟩, ?_, ?_⟩
  · obtain ⟨hsubtotal, hitems⟩ := hsettled.totals i cart id hcart
    exact ⟨hsubtotal, hitems⟩
  · intro k l item other hk hl hcart hoffer
    have hkey : other.lineKey = item.lineKey := by rw [CartItem.lineKey, CartItem.lineKey, hcart, hoffer]
    exact hsettled.lines k l item other _ hk hl rfl hkey
  · intro i j cart other hi hj howner
    exact hsettled.own i j cart other _ hi hj rfl (congrArg some howner.symm)

/-! ## A cart that is filled and paid for -/

/-- The store with three units of its offer, before its customer has opened a cart. -/
def shelves : World where
  db := ((shop.db.set .cart Relational.Table.empty).set .cartItem Relational.Table.empty).set .storeProduct
    (Relational.Table.empty.create { storeId := 1, productId := 1, price := 50, stockQuantity := 3 })

/-- The shelves of the example have no carts. -/
theorem noCarts_shelves : NoCarts shelves := ⟨fun _ => rfl, fun _ => rfl⟩

/-- The customer adds a unit of the offer. -/
def addUnit (w : World) : World := (runTx (fun _ => (Cart.Call.add 1 1 1).transaction) { now := 1 } w).2

/-- The customer adds a unit, asks for a checkout, and adds the other unit. -/
def refilled (input : CreateCheckoutDto) : Config Op Error World :=
  let asked := baskets.follow ⟨addUnit shelves, [discard (Checkout.create 1 input)]⟩
    (List.replicate 4 (0, { now := 1, orderNumber := fun _ => "A-1" }))
  ⟨addUnit asked.world, asked.threads⟩

/-- The purchase of the example is a run. -/
theorem refilled_run (input : CreateCheckoutDto) : baskets.Run System.anyOp ⟨shelves, []⟩ (refilled input) := by
  have hadd (w : World) (ts : List (Request Unit)) : baskets.Run System.anyOp ⟨w, ts⟩ ⟨addUnit w, ts⟩ :=
    .single (.background (.inl ⟨_, _, rfl⟩))
  have hstarts : ∀ p ∈ [discard (Checkout.create 1 input)], baskets.starts p := by
    intro p hp
    rw [List.mem_singleton.mp hp]
    exact .payment (.create 1 input)
  have hasked := (hadd shelves []).trans ((baskets.start_all_run hstarts).trans
    (baskets.follow_run _ (List.replicate 4 (0, { now := 1, orderNumber := fun _ => "A-1" }))))
  exact hasked.trans (hadd _ _)

/-- After the payment out of the wallet, the cart has the price of the second unit. -/
theorem carts_in_step_refilled :
    ∃ cart, ((refilled walletPickup).world.db .cart).find 1 = some cart ∧
      cart.subtotal = Cart.lineTotal (cartItems (refilled walletPickup).world.db 1) ∧
      Cart.lineTotal (cartItems (refilled walletPickup).world.db 1) = 50 := by
  have hcart : (((refilled walletPickup).world.db .cart).find 1).isSome := by decide +kernel
  obtain ⟨cart, hcart⟩ := Option.isSome_iff_exists.mp hcart
  have htotal : Cart.lineTotal (cartItems (refilled walletPickup).world.db 1) = 50 := by decide +kernel
  exact ⟨cart, hcart, ((carts_in_step noCarts_shelves (refilled_run walletPickup)).1 1 cart hcart).1, htotal⟩

/-- A transfer that comes in after the second unit was added takes the first one out of the cart. -/
theorem completeGroup_takes_one :
    ∃ db', Payments.completeGroup { now := 2 } 1 (refilled transferPickup).world.db = .ok ((), db') ∧
      Payments.completeGroup { now := 3 } 1 db' = .ok ((), db') ∧
      ((db' .cartItem).find 1).map (·.quantity) = some 1 := by
  have hgroup : (((refilled transferPickup).world.db .checkoutPaymentGroup).find 1).map
      (fun g => (g.status, g.userId, unitsBought g.cartSnapshot 1)) = some (.pending, 1, 1) := by decide +kernel
  have hcart : (((refilled transferPickup).world.db .cart).find 1).map (·.userId) = some 1 := by decide +kernel
  have hitem : (((refilled transferPickup).world.db .cartItem).find 1).map (fun b => (b.cartId, b.quantity)) =
      some (1, 2) := by decide +kernel
  have hok : (Payments.completeGroup { now := 2 } 1 (refilled transferPickup).world.db).isOk := by decide +kernel
  obtain ⟨g, hg, hvalues⟩ := Option.map_eq_some_iff.mp hgroup
  obtain ⟨hpending, howner, hunits⟩ : g.status = .pending ∧ g.userId = 1 ∧ unitsBought g.cartSnapshot 1 = 1 := by
    simpa only [Prod.mk.injEq] using hvalues
  obtain ⟨cart, hc, hcustomer⟩ := Option.map_eq_some_iff.mp hcart
  obtain ⟨item, hk, hline⟩ := Option.map_eq_some_iff.mp hitem
  obtain ⟨hplace, htwo⟩ := Prod.mk.inj hline
  cases hrun : Payments.completeGroup { now := 2 } 1 (refilled transferPickup).world.db with
  | error err =>
    rw [hrun] at hok
    cases hok
  | ok r =>
    obtain ⟨u, db'⟩ := r
    have hopen : ¬(g.status = .paid ∧ g.activeCartId = none) := by
      rw [hpending]
      exact fun h => by cases h.1
    have htaken := Payments.completeGroup_takes _
      (noCarts_shelves.settled_run (refilled_run transferPickup)) hg hopen hc
      (hcustomer.trans howner.symm) hrun
    refine ⟨db', rfl, ?_, ?_⟩
    · exact htaken.2.1 { now := 3 }
    · rw [htaken.2.2.2 1, hk, Option.bind_some, if_pos hplace, hunits, CartItem.less, htwo]
      rfl

end Superstore

import Mathlib.Data.List.Infix
import Superstore.Paging.Resorted
import Superstore.Store.Schema

/-!
# Browsing the marketplace

A page of products is cut in the order of their names, or of their times, and a page that is asked for
by price is sorted by price afterwards. It is shown for which catalogues all pages together are sorted
by price.
-/

namespace Superstore.Marketplace

open Paging

/-! ## Products and requests -/

/-- A product with its offers. -/
structure Product extends Superstore.Product where
  id : ℕ
  brand : Option String := none
  categoryId : ℕ
  createdAt : ℕ := 0
  offers : List StoreProduct

/-- The products of all stores; each has its own key. -/
structure Catalogue where
  rows : List Product
  ids_nodup : (rows.map (·.id)).Nodup

/-- What products can be sorted by. -/
inductive SortBy
  | relevance | price_asc | price_desc | newest
  deriving DecidableEq

/-- A request for products. -/
structure Query where
  q : Option String := none
  categoryId : Option ℕ := none
  storeId : Option ℕ := none
  minPrice : Option String := none
  maxPrice : Option String := none
  sort : Option SortBy := none
  page : ℤ := 1
  limit : ℤ := 15

/-- How texts are read and compared: a text as a finite number, and the comparisons of the database, which may
take different texts for equal. -/
structure Text where
  number : String → Option ℚ
  le : String → String → Bool
  le_trans : ∀ a b c, le a b → le b c → le a c
  le_total : ∀ a b, le a b ∨ le b a
  contains : String → String → Bool
  equals : String → String → Bool

/-! ## The filter -/

/-- The conditions of a request. -/
structure Filter where
  q : Option String
  categoryId : Option ℕ
  storeId : Option ℕ
  gte : Option ℚ
  lte : Option ℚ

variable (t : Text)

/-- A bound of the price. An empty text is none, and the database rejects what is not a number. -/
def Text.bound (price : Option String) : Except Error (Option ℚ) :=
  match price.filter (· != "") with
  | none => .ok none
  | some text => (fromOption (t.number text) .unavailable).map some

/-- The conditions of a request; what is empty or zero counts as absent. -/
def Text.filter (query : Query) : Except Error Filter := do
  let gte ← t.bound query.minPrice
  let lte ← t.bound query.maxPrice
  pure { q := query.q.filter (· != ""), categoryId := query.categoryId.filter (· != 0)
         storeId := query.storeId.filter (· != 0), gte := gte, lte := lte }

/-- Whether an offer meets the conditions. -/
def Filter.offer (f : Filter) (o : StoreProduct) : Bool :=
  o.isActive && o.availability && f.storeId.all (o.storeId == ·) && f.gte.all (decide <| · ≤ o.price) &&
    f.lte.all (decide <| o.price ≤ ·)

/-- Whether a product meets the conditions. -/
def Text.matches (f : Filter) (p : Product) : Bool :=
  p.status && f.q.all (fun q => t.contains p.name q || p.brand.any (t.contains · q) ||
    p.barcode.any (t.equals · q)) &&
    f.categoryId.all (p.categoryId == ·) && p.offers.any f.offer

/-- A product with the offers that are shown of it, the cheapest first. -/
def Filter.shown (f : Filter) (p : Product) : Product :=
  { p with offers := (p.offers.filter f.offer).insertionSort fun a b => a.price ≤ b.price }

/-- The products that meet the conditions, each with the offers that are shown of it. -/
def Text.matching (f : Filter) (c : Catalogue) : List Product := (c.rows.filter (t.matches f)).map f.shown

/-! ## The pages -/

/-- The order in which the database reads products. -/
def Text.orderBy (sort : Option SortBy) (a b : Product) : Prop :=
  if sort = some .newest then b.createdAt ≤ a.createdAt else t.le a.name b.name

/-- Which of two products comes first can be decided. -/
instance (sort : Option SortBy) : DecidableRel (t.orderBy sort) := fun a b =>
  inferInstanceAs (Decidable (if sort = some .newest then b.createdAt ≤ a.createdAt else t.le a.name b.name))

/-- A reading of the database in an order. Rows that the order does not tell apart come in any order. -/
structure Reading (le : Product → Product → Prop) where
  rows : List Product → List Product
  listing : ∀ xs, Listing le xs (rows xs)

/-- The price of an offer. -/
def effectivePrice (o : StoreProduct) : ℚ := o.discountPrice.getD o.price

/-- The lowest price of a product, which is infinite if it has no offers. -/
def lowestPrice (p : Product) : WithTop ℚ := (p.offers.map fun o => (effectivePrice o : WithTop ℚ)).foldr min ⊤

/-- The direction of a sort by price. -/
inductive Direction
  | asc | desc

/-- Sorted by price, in a direction. -/
def Direction.le : Direction → Product → Product → Prop
  | .asc, a, b => lowestPrice a ≤ lowestPrice b
  | .desc, a, b => lowestPrice b ≤ lowestPrice a

/-- Which of two prices comes first can be decided. -/
instance (d : Direction) : DecidableRel d.le := fun a b =>
  match d with
  | .asc => inferInstanceAs (Decidable (lowestPrice a ≤ lowestPrice b))
  | .desc => inferInstanceAs (Decidable (lowestPrice b ≤ lowestPrice a))

/-- The sort that asks for a direction. -/
def Direction.sort : Direction → SortBy
  | .asc => .price_asc
  | .desc => .price_desc

/-- The direction that a sort asks for. -/
def SortBy.direction : SortBy → Option Direction
  | .price_asc => some .asc
  | .price_desc => some .desc
  | _ => none

/-- The rows of a page, sorted by price if that is asked for. -/
def sortItems (sort : Option SortBy) (items : List Product) : List Product :=
  match sort.bind SortBy.direction with
  | some d => items.insertionSort d.le
  | none => items

/-- Where a page stands. -/
structure Pagination where
  page : ℕ
  limit : ℕ
  total : ℕ
  pages : ℕ

/-- A page of products. -/
structure Page where
  items : List Product
  pagination : Pagination

/-- The number of the page that is asked for, which is at least one. -/
def Query.pageNumber (query : Query) : ℕ := (max 1 (if query.page = 0 then 1 else query.page)).toNat

/-- The length of a page, from one to fifteen. -/
def Query.pageLimit (query : Query) : ℕ := (min 15 (max 1 (if query.limit = 0 then 15 else query.limit))).toNat

/-- Browse the products. -/
def browse (query : Query) (read : Reading (t.orderBy query.sort)) (c : Catalogue) : Except Error Page := do
  let page := query.pageNumber
  let limit := query.pageLimit
  let skip := (page - 1) * limit
  let f ← t.filter query
  let items := ((read.rows (t.matching f c)).drop skip).take limit
  let total := (c.rows.filter (t.matches f)).length
  pure { items := sortItems query.sort items, pagination := ⟨page, limit, total, (total + limit - 1) / limit⟩ }

/-- The pages of a request one after the other, as many as the first of them tells. -/
def allPages (query : Query) (calls : ℕ → Reading (t.orderBy query.sort)) (c : Catalogue) :
    Except Error (List Product) := do
  let first ← browse t { query with page := 1 } (calls 0) c
  let pages ← (List.range first.pagination.pages).mapM fun i =>
    browse t { query with page := (i + 1 : ℕ) } (calls i) c
  pure (pages.flatMap (·.items))

/-! ## All pages sorted by price -/

/-- All pages of a request that is sorted by price are the matching products, each once and sorted by their lowest
prices, however the database orders what it does not tell apart. -/
def PriceSorted (query : Query) (d : Direction) (c : Catalogue) : Prop :=
  ∀ f, t.filter query = .ok f → ∀ calls : ℕ → Reading (t.orderBy (some d.sort)),
    ∃ items, allPages t { query with sort := some d.sort } calls c = .ok items ∧
      items.Perm (t.matching f c) ∧ items.Pairwise d.le

/-- Of any two products one comes first. -/
instance (sort : Option SortBy) : Std.Total (t.orderBy sort) where
  total a b := by
    unfold Text.orderBy
    split
    · exact Nat.le_total b.createdAt a.createdAt
    · exact t.le_total a.name b.name

/-- The order of products is transitive. -/
instance (sort : Option SortBy) : IsTrans Product (t.orderBy sort) where
  trans a b c hab hbc := by
    unfold Text.orderBy at *
    by_cases hnewest : sort = some .newest
    · rw [if_pos hnewest] at *
      exact hbc.trans hab
    · rw [if_neg hnewest] at *
      exact t.le_trans _ _ _ hab hbc

/-- Of any two prices one comes first. -/
instance (d : Direction) : Std.Total d.le where
  total a b := by
    cases d with
    | asc => exact le_total (lowestPrice a) (lowestPrice b)
    | desc => exact le_total (lowestPrice b) (lowestPrice a)

/-- The order of prices is transitive. -/
instance (d : Direction) : IsTrans Product d.le where
  trans a b c hab hbc := by
    cases d with
    | asc => exact LE.le.trans (α := WithTop ℚ) hab hbc
    | desc => exact LE.le.trans (α := WithTop ℚ) hbc hab

/-- A page has room for a product. -/
theorem pageLimit_pos (query : Query) : 1 ≤ query.pageLimit := by
  unfold Query.pageLimit
  omega

/-- The matching products are distinct. -/
theorem matching_nodup (f : Filter) (c : Catalogue) : (t.matching f c).Nodup := by
  have hids : ((t.matching f c).map (·.id)).Nodup := by
    rw [Text.matching, List.map_map]
    exact c.ids_nodup.sublist (List.filter_sublist.map _)
  exact hids.of_map _

variable {t} {f : Filter} {c : Catalogue} {query : Query}

/-- A page is a slice of a reading, sorted again. -/
theorem browse_eq (hf : t.filter query = .ok f) (read : Reading (t.orderBy query.sort)) :
    browse t query read c = .ok
      { items := sortItems query.sort (slice (read.rows (t.matching f c)) query.pageNumber query.pageLimit)
        pagination := ⟨query.pageNumber, query.pageLimit, (t.matching f c).length,
          ((t.matching f c).length + query.pageLimit - 1) / query.pageLimit⟩ } := by
  have hpage : 1 ≤ query.pageNumber := by
    unfold Query.pageNumber
    omega
  have hlength : (c.rows.filter (t.matches f)).length = (t.matching f c).length := (List.length_map _).symm
  rw [← hlength, ← drop_take_eq_slice _ hpage, browse, hf]
  rfl

/-- All pages of a request that is sorted by price are those of a list, each sorted again. -/
theorem allPages_eq (hf : t.filter query = .ok f) (d : Direction) (calls : ℕ → Reading (t.orderBy (some d.sort))) :
    allPages t { query with sort := some d.sort } calls c = .ok
      (resorted d.le (fun i => (calls i).rows (t.matching f c)) query.pageLimit
        (((t.matching f c).length + query.pageLimit - 1) / query.pageLimit)) := by
  let n := ((t.matching f c).length + query.pageLimit - 1) / query.pageLimit
  let page (i : ℕ) : Page :=
    { items := (slice ((calls i).rows (t.matching f c)) (i + 1) query.pageLimit).insertionSort d.le
      pagination := ⟨i + 1, query.pageLimit, (t.matching f c).length, n⟩ }
  have hpage (i : ℕ) : browse t { query with sort := some d.sort, page := (i + 1 : ℕ) } (calls i) c =
      .ok (page i) := by
    have hnumber : Query.pageNumber { query with sort := some d.sort, page := (i + 1 : ℕ) } = i + 1 := by
      unfold Query.pageNumber
      dsimp only
      omega
    have hfilter : t.filter { query with sort := some d.sort, page := (i + 1 : ℕ) } = .ok f := hf
    rw [browse_eq hfilter, hnumber]
    cases d <;> rfl
  have hfirst : browse t { query with sort := some d.sort, page := 1 } (calls 0) c = .ok (page 0) := hpage 0
  have hpages : (List.range n).mapM (fun i =>
      browse t { query with sort := some d.sort, page := (i + 1 : ℕ) } (calls i) c) =
        .ok ((List.range n).map page) := by
    rw [funext hpage]
    exact List.mapM_pure
  rw [allPages, hfirst]
  change ((List.range n).mapM fun i =>
    browse t { query with sort := some d.sort, page := (i + 1 : ℕ) } (calls i) c) >>=
    (fun pages => pure (pages.flatMap (·.items))) = _
  rw [hpages]
  exact congrArg Except.ok (List.flatMap_map page (·.items) _)

/-- The database may read a list in any of its listings. -/
theorem exists_reading {le : Product → Product → Prop} [DecidableRel le] [Std.Total le] [IsTrans Product le]
    {xs ys : List Product} (h : Listing le xs ys) : ∃ read : Reading le, read.rows xs = ys := by
  classical
  let rows (zs : List Product) : List Product := if zs = xs then ys else zs.insertionSort le
  have hrows (zs : List Product) : Listing le zs (rows zs) := by
    by_cases hzs : zs = xs
    · rw [hzs, show rows xs = ys from if_pos rfl]
      exact h
    · rw [show rows zs = zs.insertionSort le from if_neg hzs]
      exact ⟨List.perm_insertionSort le zs, List.pairwise_insertionSort le zs⟩
  exact ⟨⟨rows, hrows⟩, if_pos rfl⟩

variable (t) in
/-- All pages of a request that is sorted by price are sorted by price, and hold every matching product once,
exactly if no products of one name are cut by the end of a page, and no product is dearer, or cheaper if the
dearest are to come first, than one on a later page in the order of the names. -/
theorem price_sorted_iff (query : Query) (d : Direction) (c : Catalogue) :
    PriceSorted t query d c ↔ ∀ f, t.filter query = .ok f →
      Uncut (t.orderBy (some d.sort)) (t.matching f c) query.pageLimit ∧
      Rises (t.orderBy (some d.sort)) d.le (t.matching f c) query.pageLimit := by
  apply forall_congr'
  intro f
  apply forall_congr'
  intro hf
  have hlimit := pageLimit_pos query
  rw [← resorted_iff (matching_nodup t f c) hlimit (le_pages_mul _ _ hlimit)]
  constructor
  · intro h s hs
    choose calls hcalls using fun i => exists_reading (hs i)
    obtain ⟨items, hitems, hpages⟩ := h calls
    rw [allPages_eq hf, funext hcalls] at hitems
    rwa [Except.ok.inj hitems]
  · intro h calls
    exact ⟨_, allPages_eq hf d calls, h _ fun i => (calls i).listing _⟩

/-! ## A dear product with an early name -/

/-- Texts compared character by character. -/
def exactText : Text where
  number text := text.toNat?.map (↑)
  le a b := decide (a ≤ b)
  le_trans _ _ _ hab hbc := decide_eq_true (String.le_trans (of_decide_eq_true hab) (of_decide_eq_true hbc))
  le_total a b := (String.le_total a b).imp decide_eq_true decide_eq_true
  contains text part := decide (part.toList <:+: text.toList)
  equals a b := a == b

/-- A product that one store offers. -/
def offered (id : ℕ) (name : String) (price : ℚ) : Product :=
  { id := id, name := name, categoryId := 1, offers := [{ storeId := 1, productId := id, price := price }] }

/-- Apples for five and bread for three. -/
def applesAndBread : Catalogue where
  rows := [offered 1 "Apples" 5, offered 2 "Bread" 3]
  ids_nodup := by decide

/-- On pages of one product each, the apples come before the cheaper bread. -/
theorem apples_before_bread : ¬PriceSorted exactText { limit := 1 } .asc applesAndBread := by
  intro h
  have hfilter : exactText.filter { limit := 1 } = .ok ⟨none, none, none, none, none⟩ := rfl
  let read : Reading (exactText.orderBy (some Direction.asc.sort)) :=
    ⟨List.insertionSort _, fun xs => ⟨List.perm_insertionSort _ xs, List.pairwise_insertionSort _ xs⟩⟩
  obtain ⟨items, hitems, _, hsorted⟩ := h _ hfilter fun _ => read
  obtain rfl := Except.ok.inj ((allPages_eq hfilter .asc fun _ => read).symm.trans hitems)
  exact absurd hsorted (by decide +kernel)

end Superstore.Marketplace

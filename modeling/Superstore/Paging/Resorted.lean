import Mathlib.Data.List.Nodup
import Mathlib.Data.List.Sort
import Superstore.Paging.Basic

/-!
# Pages that are sorted again

The pages of a list are cut under one order, and each page is then sorted under another one. Rows that
the first order does not tell apart may come differently at each page. All pages together are the rows,
each once and sorted, exactly if no such group of rows is cut and the second order follows the first
from page to page.
-/

namespace Paging

variable {α : Type} {le r : α → α → Prop} [DecidableRel le] [DecidableRel r] {xs ys : List α} {a b : α}

/-! ## Ranks -/

variable (le xs) in
/-- The number of rows that come before a row in every listing. -/
def before (a : α) : ℕ := xs.countP fun b => ¬le a b

variable (le xs) in
/-- The number of rows that come up to a row in some listing, the row with them. -/
def upto (a : α) : ℕ := xs.countP fun b => le b a

omit [DecidableRel le] in

/-- A row comes up to itself. -/
theorem le_self [Std.Total le] (a : α) : le a a := (Std.Total.total a a).elim id id

/-- A row counts itself among those that come up to it. -/
theorem upto_cons [Std.Total le] (a : α) (xs : List α) : upto le (a :: xs) a = upto le xs a + 1 :=
  List.countP_cons_of_pos (by simpa using le_self a)

/-- A row does not come before itself. -/
theorem before_cons [Std.Total le] (a : α) (xs : List α) : before le (a :: xs) a = before le xs a :=
  List.countP_cons_of_neg (by simpa using le_self a)

variable (le) in
/-- The rows in the order, in one of the ways that the order allows. -/
def Listing (xs ys : List α) : Prop := ys.Perm xs ∧ ys.Pairwise le

/-- A row stands between its two ranks in every listing. -/
theorem Listing.rank [Std.Total le] (h : Listing le xs ys) {k : ℕ} (hk : ys[k]? = some a) :
    before le xs a ≤ k ∧ k < upto le xs a := by
  obtain ⟨hlt, hget⟩ := List.getElem?_eq_some_iff.mp hk
  have hsplit : ys = ys.take k ++ a :: ys.drop (k + 1) := by
    rw [← hget, List.getElem_cons_drop, List.take_append_drop]
  have hlength : (ys.take k).length = k := by
    rw [List.length_take]
    omega
  have hsorted := h.2
  rw [hsplit] at hsorted
  obtain ⟨_, hright, hacross⟩ := List.pairwise_append.mp hsorted
  constructor
  · have hafter : before le (ys.drop (k + 1)) a = 0 := by
      apply List.countP_eq_zero.mpr
      intro b hb
      simpa using List.rel_of_pairwise_cons hright hb
    have hfront : before le (ys.take k) a ≤ (ys.take k).length := List.countP_le_length
    have hcount : before le xs a = before le (ys.take k) a + before le (a :: ys.drop (k + 1)) a := by
      rw [before, ← h.1.countP_eq, hsplit, List.countP_append]
      rw [← hsplit]
      rfl
    rw [before_cons, hafter] at hcount
    omega
  · have hfront : upto le (ys.take k) a = k := by
      rw [upto, List.countP_eq_length.mpr, hlength]
      intro b hb
      exact decide_eq_true (hacross b hb a List.mem_cons_self)
    have hcount : upto le xs a = upto le (ys.take k) a + upto le (a :: ys.drop (k + 1)) a := by
      rw [upto, ← h.1.countP_eq, hsplit, List.countP_append]
      rw [← hsplit]
      rfl
    rw [upto_cons, hfront] at hcount
    omega

/-- A row can be put behind any rows that may precede it, if the others may follow it. -/
theorem exists_listing [DecidableEq α] [Std.Total le] [IsTrans α le] (ha : a ∈ xs) (p : α → Bool)
    (hp : ∀ b, p b → le b a) (hn : ∀ b, ¬p b → le a b) :
    ∃ ys, Listing le xs ys ∧ ys[(xs.erase a).countP p]? = some a := by
  let front := ((xs.erase a).filter p).insertionSort le
  let back := ((xs.erase a).filter fun b => !p b).insertionSort le
  have hfront : ∀ b ∈ front, le b a := by
    intro b hb
    exact hp b (List.of_mem_filter ((List.mem_insertionSort le).mp hb))
  have hback : ∀ b ∈ back, le a b := by
    intro b hb
    apply hn
    simpa using List.of_mem_filter ((List.mem_insertionSort le).mp hb)
  refine ⟨front ++ a :: back, ⟨?_, ?_⟩, ?_⟩
  · have hparts : (front ++ back).Perm (xs.erase a) :=
      ((List.perm_insertionSort le _).append (List.perm_insertionSort le _)).trans (List.filter_append_perm p _)
    exact (List.perm_middle.trans (hparts.cons a)).trans (List.perm_cons_erase ha).symm
  · apply List.pairwise_append.mpr
    refine ⟨List.pairwise_insertionSort le _, List.pairwise_cons.mpr ⟨hback, List.pairwise_insertionSort le _⟩, ?_⟩
    intro b hb c hc
    rcases List.mem_cons.mp hc with rfl | hc
    · exact hfront b hb
    · exact IsTrans.trans b a c (hfront b hb) (hback c hc)
  · have hlength : front.length = (xs.erase a).countP p := by
      rw [List.length_insertionSort, List.countP_eq_length_filter]
    rw [← hlength, List.getElem?_append_right le_rfl, Nat.sub_self, List.getElem?_cons_zero]

/-- Some listing has a row as early as its rank allows. -/
theorem exists_listing_before [DecidableEq α] [Std.Total le] [IsTrans α le] (ha : a ∈ xs) :
    ∃ ys, Listing le xs ys ∧ ys[before le xs a]? = some a := by
  have hcount : before le xs a = (xs.erase a).countP fun b => ¬le a b := by
    rw [before, (List.perm_cons_erase ha).countP_eq]
    exact before_cons a (xs.erase a)
  rw [hcount]
  apply exists_listing ha
  · intro b hb
    exact (Std.Total.total a b).resolve_left (of_decide_eq_true hb)
  · intro b hb
    simpa using hb

/-- Some listing has a row as late as its rank allows. -/
theorem exists_listing_upto [DecidableEq α] [Std.Total le] [IsTrans α le] (ha : a ∈ xs) :
    ∃ ys, Listing le xs ys ∧ ys[upto le xs a - 1]? = some a := by
  have hcount : upto le xs a - 1 = (xs.erase a).countP fun b => le b a := by
    rw [upto, (List.perm_cons_erase ha).countP_eq]
    exact congrArg (· - 1) (upto_cons a (xs.erase a))
  rw [hcount]
  apply exists_listing ha
  · intro b hb
    exact of_decide_eq_true hb
  · intro b hb
    exact (Std.Total.total a b).resolve_right (by simpa using hb)

/-! ## Slices of a listing -/

/-- The rows of a page are those whose index falls on it. -/
theorem mem_slice {limit i : ℕ} (hlimit : 1 ≤ limit) :
    a ∈ slice ys (i + 1) limit ↔ ∃ k, k / limit = i ∧ ys[k]? = some a := by
  have hpage (k : ℕ) : k / limit = i ↔ i * limit ≤ k ∧ k < (i + 1) * limit := by
    rw [Nat.div_eq_iff hlimit, Nat.add_one_mul]
    omega
  rw [slice, Nat.add_sub_cancel, List.mem_iff_getElem?]
  constructor
  · intro hmem
    obtain ⟨j, hj⟩ := hmem
    rw [List.getElem?_drop, List.getElem?_take] at hj
    split at hj
    · exact ⟨i * limit + j, (hpage _).mpr ⟨Nat.le_add_right _ _, ‹_›⟩, hj⟩
    · cases hj
  · intro hmem
    obtain ⟨k, hk, hget⟩ := hmem
    obtain ⟨hle, hlt⟩ := (hpage k).mp hk
    refine ⟨k - i * limit, ?_⟩
    rw [List.getElem?_drop, List.getElem?_take, Nat.add_sub_cancel' hle, if_pos hlt]
    exact hget

/-- A page is a part of its listing, in order. -/
theorem slice_sublist (ys : List α) (page limit : ℕ) : (slice ys page limit).Sublist ys :=
  (List.drop_sublist _ _).trans (List.take_sublist _ _)

/-! ## All pages -/

variable (r) in
/-- All pages of a list: each page is read from a listing of its own and sorted again. -/
def resorted (s : ℕ → List α) (limit n : ℕ) : List α :=
  (List.range n).flatMap fun i => (slice (s i) (i + 1) limit).insertionSort r

variable (le xs) in
/-- No rows that the order does not tell apart are cut by the end of a page. -/
def Uncut (limit : ℕ) : Prop := ∀ a ∈ xs, before le xs a / limit = (upto le xs a - 1) / limit

variable (le r xs) in
/-- The second order follows the first from page to page. -/
def Rises (limit : ℕ) : Prop := ∀ a ∈ xs, ∀ b ∈ xs, before le xs a / limit < before le xs b / limit → r a b

section

variable {limit n : ℕ} {s : ℕ → List α}

/-- A relation between the pages in their order holds between any two of them. -/
theorem rel_of_range {R : ℕ → ℕ → Prop} (h : (List.range n).Pairwise R) {i j : ℕ} (hij : i < j)
    (hj : j < n) : R i j := by
  have hget := List.pairwise_iff_getElem.mp h i j (by rw [List.length_range]; omega)
    (by rw [List.length_range]; exact hj)
    hij
  rwa [List.getElem_range, List.getElem_range] at hget

/-- A row is on the page of its rank, in every listing. -/
theorem page_of_uncut [Std.Total le] (huncut : Uncut le xs limit) (ha : a ∈ xs) (h : Listing le xs ys) {k : ℕ}
    (hk : ys[k]? = some a) : k / limit = before le xs a / limit := by
  obtain ⟨hbefore, hupto⟩ := h.rank hk
  have hfrom : before le xs a / limit ≤ k / limit := Nat.div_le_div_right hbefore
  have hto : k / limit ≤ (upto le xs a - 1) / limit := Nat.div_le_div_right (by omega)
  have heq := huncut a ha
  omega

/-- Where no group is cut, a page holds the rows whose rank falls on it. -/
theorem mem_page [Std.Total le] (huncut : Uncut le xs limit) (hlimit : 1 ≤ limit) (h : Listing le xs ys) {i : ℕ} :
    a ∈ slice ys (i + 1) limit ↔ a ∈ xs ∧ before le xs a / limit = i := by
  rw [mem_slice hlimit]
  constructor
  · intro hpage
    obtain ⟨k, hk, hget⟩ := hpage
    have ha : a ∈ xs := h.1.mem_iff.mp (List.mem_of_getElem? hget)
    exact ⟨ha, (page_of_uncut huncut ha h hget).symm.trans hk⟩
  · intro hrow
    obtain ⟨ha, hpage⟩ := hrow
    obtain ⟨k, hget⟩ := List.mem_iff_getElem?.mp (h.1.mem_iff.mpr ha)
    exact ⟨k, (page_of_uncut huncut ha h hget).trans hpage, hget⟩

/-- All pages together hold every row once where no group is cut. -/
theorem resorted_perm [Std.Total le] (hnodup : xs.Nodup) (hlimit : 1 ≤ limit) (hn : xs.length ≤ n * limit)
    (huncut : Uncut le xs limit) (hs : ∀ i, Listing le xs (s i)) : (resorted r s limit n).Perm xs := by
  have hpages : (resorted r s limit n).Nodup := by
    apply List.nodup_flatMap.mpr
    constructor
    · intro i _
      have hlisted : (s i).Nodup := (hs i).1.nodup_iff.mpr hnodup
      exact (List.perm_insertionSort r _).nodup_iff.mpr (hlisted.sublist (slice_sublist _ _ _))
    · apply (List.nodup_range).imp
      intro i j hij a hi hj
      rw [List.mem_insertionSort, mem_page huncut hlimit (hs _)] at hi hj
      exact hij (hi.2.symm.trans hj.2)
  apply (List.perm_ext_iff_of_nodup hpages hnodup).mpr
  intro a
  rw [resorted, List.mem_flatMap]
  simp only [List.mem_range, List.mem_insertionSort, mem_page huncut hlimit (hs _)]
  constructor
  · intro hrow
    obtain ⟨_, _, ha, _⟩ := hrow
    exact ha
  · intro ha
    have hrank : before le xs a < xs.length := by
      obtain ⟨k, hget⟩ := List.mem_iff_getElem?.mp ((hs 0).1.mem_iff.mpr ha)
      have hlt := (List.getElem?_eq_some_iff.mp hget).1
      rw [(hs 0).1.length_eq] at hlt
      have hle := ((hs 0).rank hget).1
      omega
    exact ⟨_, (Nat.div_lt_iff_lt_mul hlimit).mpr (by omega), ha, rfl⟩

/-- All pages together are in order where no group is cut and the orders rise together. -/
theorem resorted_pairwise [Std.Total le] [Std.Total r] [IsTrans α r] (hlimit : 1 ≤ limit)
    (huncut : Uncut le xs limit)
    (hrises : Rises le r xs limit) (hs : ∀ i, Listing le xs (s i)) : (resorted r s limit n).Pairwise r := by
  apply List.pairwise_flatMap.mpr
  constructor
  · intro i _
    exact List.pairwise_insertionSort r _
  · apply (List.pairwise_lt_range).imp
    intro i j hij a ha b hb
    rw [List.mem_insertionSort, mem_page huncut hlimit (hs _)] at ha hb
    exact hrises a ha.1 b hb.1 (by omega)

/-- If all pages are the rows whatever listing each of them is read from, no group is cut. -/
theorem uncut_of_perm [Std.Total le] [IsTrans α le] (hnodup : xs.Nodup) (hlimit : 1 ≤ limit)
    (hn : xs.length ≤ n * limit)
    (h : ∀ s : ℕ → List α, (∀ i, Listing le xs (s i)) → (resorted r s limit n).Perm xs) : Uncut le xs limit := by
  classical
  intro a ha
  obtain ⟨early, hearly, hfirst⟩ : ∃ ys, Listing le xs ys ∧ ys[before le xs a]? = some a := exists_listing_before ha
  obtain ⟨late, hlate, hlast⟩ : ∃ ys, Listing le xs ys ∧ ys[upto le xs a - 1]? = some a := exists_listing_upto ha
  by_contra hcut
  let i := before le xs a / limit
  let j := (upto le xs a - 1) / limit
  let s (k : ℕ) : List α := if k = i then early else late
  have hsi : s i = early := if_pos rfl
  have hsj : s j = late := if_neg (Ne.symm hcut)
  have hs (k : ℕ) : Listing le xs (s k) := by
    by_cases hk : k = i
    · rw [hk, hsi]
      exact hearly
    · rw [show s k = late from if_neg hk]
      exact hlate
  -- The row is on two pages, so that all pages together hold it twice.
  have hi : a ∈ slice (s i) (i + 1) limit := by
    rw [hsi]
    exact (mem_slice hlimit).mpr ⟨_, rfl, hfirst⟩
  have hj : a ∈ slice (s j) (j + 1) limit := by
    rw [hsj]
    exact (mem_slice hlimit).mpr ⟨_, rfl, hlast⟩
  have hin : i < n := by
    have hlt := (List.getElem?_eq_some_iff.mp hfirst).1
    rw [hearly.1.length_eq] at hlt
    exact (Nat.div_lt_iff_lt_mul hlimit).mpr (by omega)
  have hjn : j < n := by
    have hlt := (List.getElem?_eq_some_iff.mp hlast).1
    rw [hlate.1.length_eq] at hlt
    exact (Nat.div_lt_iff_lt_mul hlimit).mpr (by omega)
  have hpages := (List.nodup_flatMap.mp ((h s hs).nodup_iff.mpr hnodup)).2
  have hij : i < j := by
    have hle : before le xs a ≤ upto le xs a - 1 := (hlate.rank hlast).1
    exact lt_of_le_of_ne (Nat.div_le_div_right hle) hcut
  exact rel_of_range hpages hij hjn ((List.mem_insertionSort r).mpr hi) ((List.mem_insertionSort r).mpr hj)

/-- If all pages are sorted whatever listing they are read from, the second order follows the first. -/
theorem rises_of_pairwise [Std.Total le] [IsTrans α le] (hlimit : 1 ≤ limit) (hn : xs.length ≤ n * limit)
    (huncut : Uncut le xs limit)
    (h : ∀ s : ℕ → List α, (∀ i, Listing le xs (s i)) → (resorted r s limit n).Pairwise r) :
    Rises le r xs limit := by
  intro a ha b hb hab
  have hlisting : Listing le xs (xs.insertionSort le) :=
    ⟨List.perm_insertionSort le xs, List.pairwise_insertionSort le xs⟩
  have hpages := (List.pairwise_flatMap.mp (h (fun _ => xs.insertionSort le) fun _ => hlisting)).2
  have hbn : before le xs b / limit < n := by
    obtain ⟨k, hget⟩ := List.mem_iff_getElem?.mp (hlisting.1.mem_iff.mpr hb)
    have hlt := (List.getElem?_eq_some_iff.mp hget).1
    rw [hlisting.1.length_eq] at hlt
    rw [← page_of_uncut huncut hb hlisting hget]
    exact (Nat.div_lt_iff_lt_mul hlimit).mpr (by omega)
  apply rel_of_range hpages hab hbn
  · exact (List.mem_insertionSort r).mpr ((mem_page huncut hlimit hlisting).mpr ⟨ha, rfl⟩)
  · exact (List.mem_insertionSort r).mpr ((mem_page huncut hlimit hlisting).mpr ⟨hb, rfl⟩)

/-- All pages are the rows, each once and sorted, whatever listing each page is read from, exactly if no
group is cut and the second order follows the first from page to page. -/
theorem resorted_iff [Std.Total le] [IsTrans α le] [Std.Total r] [IsTrans α r] (hnodup : xs.Nodup)
    (hlimit : 1 ≤ limit) (hn : xs.length ≤ n * limit) :
    (∀ s : ℕ → List α, (∀ i, Listing le xs (s i)) →
      (resorted r s limit n).Perm xs ∧ (resorted r s limit n).Pairwise r) ↔
      Uncut le xs limit ∧ Rises le r xs limit := by
  constructor
  · intro h
    have huncut := uncut_of_perm hnodup hlimit hn fun s hs => (h s hs).1
    exact ⟨huncut, rises_of_pairwise hlimit hn huncut fun s hs => (h s hs).2⟩
  · intro hcond s hs
    obtain ⟨huncut, hrises⟩ := hcond
    exact ⟨resorted_perm hnodup hlimit hn huncut hs, resorted_pairwise hlimit huncut hrises hs⟩

end

end Paging

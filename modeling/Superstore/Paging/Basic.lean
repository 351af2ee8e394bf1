import Mathlib.Data.List.Basic
import Mathlib.Data.List.Flatten
import Mathlib.Data.List.Range
import Mathlib.Tactic.Ring

/-!
# Pages of sorted lists

Three facts about pages. The consecutive slices of a list are the list. The front of two sorted
lists, sorted together, comes from the fronts of the two. And a page of the rows before a cursor
either reaches down to a row or is full of later ones.
-/

namespace Paging

variable {α κ : Type}

/-! ## Slices -/

/-- The slice of a list that is its page of a number, counted from one. -/
def slice (xs : List α) (page limit : ℕ) : List α := (xs.take (page * limit)).drop ((page - 1) * limit)

/-- A slice is what is taken after what is skipped. -/
theorem drop_take_eq_slice (xs : List α) {page : ℕ} (hpage : 1 ≤ page) (limit : ℕ) :
    (xs.drop ((page - 1) * limit)).take limit = slice xs page limit := by
  obtain ⟨n, rfl⟩ : ∃ n, page = n + 1 := ⟨page - 1, by omega⟩
  rw [slice, List.drop_take, Nat.add_sub_cancel, Nat.add_one_mul, Nat.add_sub_cancel_left]

/-- The pages up to a number are the front of the list. -/
theorem flatMap_slice (xs : List α) (limit n : ℕ) :
    (List.range n).flatMap (fun i => slice xs (i + 1) limit) = xs.take (n * limit) := by
  induction n with
  | zero => rw [Nat.zero_mul, List.take_zero, List.range_zero, List.flatMap_nil]
  | succ n ih =>
    rw [List.range_succ, List.flatMap_append, ih, List.flatMap_singleton, slice, Nat.add_sub_cancel,
      ← Nat.min_eq_left (Nat.mul_le_mul_right limit (Nat.le_succ n)), ← List.take_take, Nat.min_eq_left
      (Nat.mul_le_mul_right limit (Nat.le_succ n)), List.take_append_drop]

/-- The pages that a number of rows fills hold them all. -/
theorem le_pages_mul (total limit : ℕ) (hlimit : 1 ≤ limit) : total ≤ (total + limit - 1) / limit * limit := by
  have hdiv := Nat.div_add_mod (total + limit - 1) limit
  have hmod := Nat.mod_lt (total + limit - 1) hlimit
  rw [Nat.mul_comm] at hdiv
  omega

/-! ## Sorting two sorted lists -/

section Merge

variable {le : α → α → Bool}

/-- The front of a merge needs only the fronts of the two lists. -/
theorem take_merge {n a b : ℕ} (ha : n ≤ a) (hb : n ≤ b) (xs ys : List α) :
    ((xs.take a).merge (ys.take b) le).take n = (xs.merge ys le).take n := by
  induction n generalizing a b xs ys with
  | zero => rfl
  | succ n ih =>
    obtain ⟨a, rfl⟩ : ∃ a', a = a' + 1 := ⟨a - 1, by omega⟩
    obtain ⟨b, rfl⟩ : ∃ b', b = b' + 1 := ⟨b - 1, by omega⟩
    cases xs with
    | nil =>
      rw [List.take_nil, List.nil_merge, List.nil_merge, List.take_take, Nat.min_eq_left (by omega)]
    | cons x xs =>
      cases ys with
      | nil =>
        rw [List.take_nil, List.merge_right, List.merge_right, List.take_take, Nat.min_eq_left (by omega)]
      | cons y ys =>
        rw [List.take_succ_cons, List.take_succ_cons, List.cons_merge_cons, List.cons_merge_cons]
        split
        · have hrest := ih (a := a) (b := b + 1) (by omega) (by omega) xs (y :: ys)
          exact congrArg (x :: ·) hrest
        · have hrest := ih (a := a + 1) (b := b) (by omega) (by omega) (x :: xs) ys
          exact congrArg (y :: ·) hrest

/-- A new front element goes into a merge right before the elements that it may precede. -/
theorem merge_cons (trans : ∀ a b c, le a b → le b c → le a c) {x : α} {xs ys l₁ l₂ : List α}
    (hx : ∀ b ∈ xs, le x b) (hys : ys.Pairwise fun a b => le a b) (hmerge : xs.merge ys le = l₁ ++ l₂)
    (hbefore : ∀ b ∈ l₁, ¬le x b) (hafter : ∀ b ∈ l₂, le x b) :
    (x :: xs).merge ys le = l₁ ++ x :: l₂ := by
  induction ys generalizing l₁ with
  | nil =>
    rw [List.merge_right] at hmerge ⊢
    cases l₁ with
    | nil => rw [hmerge]; rfl
    | cons b l₁ =>
      have hb : b ∈ xs := by rw [hmerge]; exact List.mem_cons_self
      exact absurd (hx b hb) (hbefore b List.mem_cons_self)
  | cons y ys ih =>
    rw [List.cons_merge_cons]
    split
    · next hxy =>
      cases l₁ with
      | nil => rw [hmerge]; rfl
      | cons b l₁ =>
        have hb : b ∈ xs.merge (y :: ys) le := by rw [hmerge]; exact List.mem_cons_self
        have hle : le x b := by
          rcases List.mem_merge.mp hb with hb | hb
          · exact hx b hb
          · rcases List.mem_cons.mp hb with rfl | hb
            · exact hxy
            · exact trans x y b hxy (List.rel_of_pairwise_cons hys hb)
        exact absurd hle (hbefore b List.mem_cons_self)
    · next hxy =>
      have hfirst : xs.merge (y :: ys) le = y :: xs.merge ys le := by
        cases xs with
        | nil => rw [List.nil_merge, List.nil_merge]
        | cons x' xs =>
          refine List.cons_merge_cons_neg le xs ys fun h => hxy ?_
          exact trans x x' y (hx x' List.mem_cons_self) h
      rw [hfirst] at hmerge
      cases l₁ with
      | nil =>
        have hy : y ∈ l₂ := by rw [← List.nil_append l₂, ← hmerge]; exact List.mem_cons_self
        exact absurd (hafter y hy) hxy
      | cons b l₁ =>
        obtain ⟨rfl, hrest⟩ := List.cons.inj hmerge
        rw [ih hys.of_cons hrest fun b hb => hbefore b (List.mem_cons_of_mem _ hb)]
        rfl

/-- Sorting two sorted lists together is merging them. -/
theorem mergeSort_append (trans : ∀ a b c, le a b → le b c → le a c) (total : ∀ a b, le a b || le b a)
    {xs ys : List α} (hxs : xs.Pairwise fun a b => le a b) (hys : ys.Pairwise fun a b => le a b) :
    (xs ++ ys).mergeSort le = xs.merge ys le := by
  induction xs with
  | nil => rw [List.nil_append, List.nil_merge, List.mergeSort_of_pairwise hys]
  | cons x xs ih =>
    obtain ⟨l₁, l₂, hsort, hrest, hbefore⟩ := List.mergeSort_cons trans total x (xs ++ ys)
    have hsorted := List.pairwise_mergeSort trans total (x :: (xs ++ ys))
    rw [hsort] at hsorted
    have hafter : ∀ b ∈ l₂, le x b := fun b => List.rel_of_pairwise_cons (List.pairwise_append.mp hsorted).2.1
    rw [List.cons_append, hsort]
    rw [ih hxs.of_cons] at hrest
    exact (merge_cons trans (fun b => List.rel_of_pairwise_cons hxs) hys hrest
      (fun b hb => by simpa using hbefore b hb) hafter).symm

/-- The front of a sorted union of two sorted lists comes from the fronts of the two. -/
theorem take_mergeSort_append (trans : ∀ a b c, le a b → le b c → le a c) (total : ∀ a b, le a b || le b a)
    {xs ys : List α} (hxs : xs.Pairwise fun a b => le a b) (hys : ys.Pairwise fun a b => le a b) (n : ℕ) :
    ((xs.take n ++ ys.take n).mergeSort le).take n = (xs.merge ys le).take n := by
  rw [mergeSort_append trans total (hxs.sublist (List.take_sublist n xs)) (hys.sublist (List.take_sublist n ys)),
    take_merge le_rfl le_rfl]

end Merge

/-! ## Pages before a cursor -/

section Keyset

variable [LinearOrder κ] (key : α → κ)

/-- The last rows before a cursor, from the last one on; without a cursor, the last rows. -/
def pageBefore (rows : List α) (cursor : Option κ) (limit : ℕ) : List α :=
  ((rows.filter fun a => cursor.all fun c => decide (key a < c)).mergeSort
    fun a b => decide (key b ≤ key a)).take limit

variable {key} {rows : List α} {cursor : Option κ} {limit : ℕ}

/-- A row of a page is one of the rows before the cursor. -/
theorem mem_of_mem_pageBefore {a : α} (ha : a ∈ pageBefore key rows cursor limit) :
    a ∈ rows ∧ ∀ c, cursor = some c → key a < c := by
  have hmem := List.mem_mergeSort.mp (List.mem_of_mem_take ha)
  obtain ⟨hrows, hbefore⟩ := List.mem_filter.mp hmem
  refine ⟨hrows, fun c hc => ?_⟩
  rw [hc, Option.all_some] at hbefore
  exact of_decide_eq_true hbefore

/-- Rows that are sorted fall by their key. -/
theorem sorted_pairwise (key : α → κ) (rows : List α) :
    (rows.mergeSort fun a b => decide (key b ≤ key a)).Pairwise fun a b => key b ≤ key a := by
  have htrans (a b c : α) (hab : decide (key b ≤ key a) = true) (hbc : decide (key c ≤ key b) = true) :
      decide (key c ≤ key a) = true :=
    decide_eq_true ((of_decide_eq_true hbc).trans (of_decide_eq_true hab))
  have htotal (a b : α) : (decide (key b ≤ key a) || decide (key a ≤ key b)) = true := by
    simpa using le_total (key b) (key a)
  exact (List.pairwise_mergeSort htrans htotal rows).imp of_decide_eq_true

/-- The rows of a page have falling keys. -/
theorem pageBefore_pairwise (hkeys : (rows.map key).Nodup) :
    (pageBefore key rows cursor limit).Pairwise fun a b => key b < key a := by
  have hnodup : ((rows.filter fun a => cursor.all fun c => decide (key a < c)).map key).Nodup :=
    hkeys.sublist (List.filter_sublist.map key)
  have hne := List.pairwise_map.mp
    (((List.mergeSort_perm _ fun a b => decide (key b ≤ key a)).map key).nodup_iff.mpr
    hnodup)
  refine ((sorted_pairwise key _).and hne).imp (fun h => ?_) |>.sublist (List.take_sublist limit _)
  exact lt_of_le_of_ne h.1 h.2.symm

/-- A page of rows that are sorted already. -/
theorem pageBefore_of_pairwise (h : rows.Pairwise fun a b => key b ≤ key a) :
    pageBefore key rows cursor limit = (rows.filter fun a => cursor.all fun c =>
      decide (key a < c)).take limit := by
  rw [pageBefore, List.mergeSort_of_pairwise]
  exact (h.sublist List.filter_sublist).imp decide_eq_true

/-- A row before the cursor is on the page, or the page is full of later rows. -/
theorem mem_pageBefore_or {a : α} (ha : a ∈ rows) (hbefore : ∀ c, cursor = some c → key a < c) :
    a ∈ pageBefore key rows cursor limit ∨
      (pageBefore key rows cursor limit).length = limit ∧
        ∀ b ∈ pageBefore key rows cursor limit, key a ≤ key b := by
  let sorted := (rows.filter fun a => cursor.all fun c => decide (key a < c)).mergeSort
    fun a b => decide (key b ≤ key a)
  have hmem : a ∈ sorted := by
    refine List.mem_mergeSort.mpr (List.mem_filter.mpr ⟨ha, ?_⟩)
    cases cursor with
    | none => rfl
    | some c => exact decide_eq_true (hbefore c rfl)
  have hpairwise : sorted.Pairwise fun a b => key b ≤ key a := sorted_pairwise key _
  rw [← List.take_append_drop limit sorted] at hmem hpairwise
  rcases List.mem_append.mp hmem with htake | hdrop
  · exact .inl htake
  · right
    have hlength : limit < sorted.length := by
      by_contra hle
      rw [List.drop_eq_nil_of_le (not_lt.mp hle)] at hdrop
      cases hdrop
    refine ⟨(List.length_take).trans (Nat.min_eq_left hlength.le), fun b hb => ?_⟩
    exact (List.pairwise_append.mp hpairwise).2.2 b hb a hdrop

end Keyset

end Paging

import Mathlib.Algebra.Group.Nat.Defs
import Mathlib.Data.List.Sort
import Mathlib.Data.Multiset.AddSub
import Mathlib.Order.Compare
import Superstore.Json.Text

/-!
# The fingerprint of a quote

A quote is recognised by a digest of its text, taken after the keys of every object have been sorted.
Keys that the locale does not tell apart keep the order in which they were inserted, except array
indices, which every object lists first and in ascending order. So the digest identifies a value up to
the order of its keys exactly if no object of it has two such keys.
-/

namespace Superstore.Checkout

open Json (JsString NumberText onValue onValue_fst)
open Json.Value (Reorder rebuild)

/-- A JSON value: no object of it has a key twice. -/
abbrev JsonValue (Num : Type) := {v : Json.Value JsString Num // v.Distinct}

/-! ## The order of properties -/

/-- The decimal digits of a number. -/
def decimal (n : ℕ) : JsString := (Nat.toDigits 10 n).map fun c => .ofNat c.toNat

/-- The array index that a key is, if it is one. -/
def arrayIndex (key : JsString) : Option ℕ :=
  let n := key.foldl (fun n c => 10 * n + (c.toNat - 48)) 0
  if decimal n = key ∧ n < 2 ^ 32 - 1 then some n else none

/-- Array indices are compared as numbers. -/
def indexLE {α : Type} (e e' : JsString × α) : Bool := (arrayIndex e.1).getD 0 ≤ (arrayIndex e'.1).getD 0

/-- The order in which the properties of an object are listed: array indices first, in ascending order, then
the other keys in the order in which they were inserted. -/
def ownOrder {α : Type} (entries : List (JsString × α)) : List (JsString × α) :=
  (entries.filter fun e => (arrayIndex e.1).isSome).mergeSort indexLE ++
    entries.filter fun e => (arrayIndex e.1).isNone

/-- A value as parsing its own text gives it back: its properties are inserted in the order in which they
were listed. -/
def listed {Num : Type} (v : Json.Value JsString Num) : Json.Value JsString Num := v.rebuild ownOrder

/-! ## The fingerprint -/

/-- What the fingerprint takes from the platform. -/
structure Platform (Num Digest : Type) where
  numbers : NumberText Num
  localeCompare : JsString → JsString → Ordering
  /-- The comparison is a total preorder, which may take different keys to be equal. -/
  preorder : Std.TransCmp localeCompare
  sha256 : ByteArray → Digest
  sha256_injective : Function.Injective sha256

section

variable {Num Digest : Type} (p : Platform Num Digest)

/-- Entries are compared by the order that the locale gives their keys. -/
def localeLE {α : Type} (e e' : JsString × α) : Bool := (p.localeCompare e.1 e'.1).isLE

/-- Entries in the order of their keys; the sort is stable. -/
def sortEntries {α : Type} (entries : List (JsString × α)) : List (JsString × α) := entries.mergeSort (localeLE p)

/-- A value whose entries have been sorted, object by object. -/
def canonical (v : Json.Value JsString Num) : Json.Value JsString Num :=
  v.rebuild fun entries => sortEntries p (ownOrder entries)

/-- The text of a value. -/
def jsonText (v : Json.Value JsString Num) : String := String.ofList (Json.stringify p.numbers (listed v))

/-- The digest by which a quote is recognised. -/
def quoteFingerprint (value : Json.Value JsString Num) : Digest :=
  p.sha256 (jsonText p (canonical p (listed value))).toUTF8

/-! ## What the fingerprint sees -/

/-- The order of an object has the same entries. -/
theorem ownOrder_perm {α : Type} (entries : List (JsString × α)) : (ownOrder entries).Perm entries := by
  have hsplit := List.filter_append_perm (fun e : JsString × α => (arrayIndex e.1).isSome) entries
  have hnone : (fun e : JsString × α => !(arrayIndex e.1).isSome) = fun e => (arrayIndex e.1).isNone := by
    funext e
    exact Option.not_isSome _
  rw [hnone] at hsplit
  exact ((List.mergeSort_perm _ _).append_right _).trans hsplit

/-- Sorting keeps the entries. -/
theorem sortEntries_perm {α : Type} (entries : List (JsString × α)) : (sortEntries p entries).Perm entries :=
  List.mergeSort_perm _ _

/-- The order of an object depends on the keys alone. -/
theorem ownOrder_map {α β : Type} (h : α → β) (entries : List (JsString × α)) :
    ownOrder (entries.map (onValue h)) = (ownOrder entries).map (onValue h) := by
  have hsort (l : List (JsString × α)) : (l.map (onValue h)).mergeSort indexLE =
    (l.mergeSort indexLE).map (onValue h) :=
    (List.map_mergeSort (r := indexLE) (s := indexLE) (f := onValue h) fun _ _ _ _ => rfl).symm
  rw [ownOrder, ownOrder, List.map_append, List.filter_map, List.filter_map, hsort]
  rfl

/-- Sorting depends on the keys alone. -/
theorem sortEntries_map {α β : Type} (h : α → β) (entries : List (JsString × α)) :
    sortEntries p (entries.map (onValue h)) = (sortEntries p entries).map (onValue h) := by
  exact (List.map_mergeSort (r := localeLE p) (s := localeLE p) (f := onValue h) fun _ _ _ _ => rfl).symm

/-- The order in which the fingerprint takes the entries of an object. -/
def arrange {α : Type} (entries : List (JsString × α)) : List (JsString × α) :=
  ownOrder (sortEntries p (ownOrder (ownOrder entries)))

/-- Arranging keeps the entries. -/
theorem arrange_perm {α : Type} (entries : List (JsString × α)) : (arrange p entries).Perm entries :=
  (ownOrder_perm _).trans ((sortEntries_perm p _).trans ((ownOrder_perm _).trans (ownOrder_perm _)))

/-- The fingerprint is that of the arranged value. -/
theorem listed_canonical_listed (v : Json.Value JsString Num) :
    listed (canonical p (listed v)) = v.rebuild (arrange p) := by
  have hown : @Json.Value.Natural JsString Num ownOrder := fun h entries => ownOrder_map h entries
  have hsorted : @Json.Value.Natural JsString Num fun entries => sortEntries p (ownOrder entries) := by
    intro h entries
    dsimp only
    rw [ownOrder_map, sortEntries_map]
  rw [listed, canonical, listed, Json.Value.rebuild_rebuild hown, Json.Value.rebuild_rebuild]
  · rfl
  · intro h entries
    rw [Function.comp_apply, hown]
    exact hsorted h (ownOrder entries)

/-- Two fingerprints are the same exactly if the arranged values are. -/
theorem quoteFingerprint_eq_iff {v w : Json.Value JsString Num} :
    quoteFingerprint p v = quoteFingerprint p w ↔ v.rebuild (arrange p) = w.rebuild (arrange p) := by
  rw [quoteFingerprint, quoteFingerprint, p.sha256_injective.eq_iff, String.toUTF8_eq_toByteArray,
    String.toUTF8_eq_toByteArray, String.toByteArray_inj, jsonText, jsonText, String.ofList_inj,
    (Json.stringify_injective p.numbers).eq_iff, listed_canonical_listed, listed_canonical_listed]

/-- Values with one fingerprint are the same up to the order of keys. -/
theorem reorder_of_quoteFingerprint {v w : Json.Value JsString Num}
    (h : quoteFingerprint p v = quoteFingerprint p w) :
    Reorder v w := by
  have hv := Json.Value.reorder_rebuild (arrange_perm p) v
  have hw := Json.Value.reorder_rebuild (arrange_perm p) w
  rw [(quoteFingerprint_eq_iff p).mp h] at hv
  exact hv.trans hw.symm

/-! ## Keys that the locale does not tell apart -/

/-- Some object of a value has two different keys, neither an array index, that the locale takes to be equal. -/
inductive Tied : Json.Value JsString Num → Prop
  | here {entries k k'} : k ∈ entries.map Prod.fst → k' ∈ entries.map Prod.fst → k ≠ k' →
      arrayIndex k = none → arrayIndex k' = none → p.localeCompare k k' = .eq → Tied (.obj entries)
  | item {items v} : v ∈ items → Tied v → Tied (.arr items)
  | entry {entries e} : e ∈ entries → Tied e.2 → Tied (.obj entries)

variable {p}

/-- The order of keys does not tie them. -/
theorem Tied.reorder {v w : Json.Value JsString Num} (h : Reorder v w) : Tied p v → Tied p w := by
  induction h with
  | refl v => exact id
  | trans _ _ ih ih' => exact ih' ∘ ih
  | perm hperm =>
    intro hv
    cases hv with
    | here he he' hne hi hi' heq =>
      exact .here ((hperm.map _).mem_iff.mp he) ((hperm.map _).mem_iff.mp he') hne hi hi' heq
    | entry he hv => exact .entry (hperm.mem_iff.mp he) hv
  | item before after _ ih =>
    intro hv
    cases hv with
    | item hu hv =>
      rcases List.mem_append.mp hu with hu | hu
      · exact .item (List.mem_append_left _ hu) hv
      · rcases List.mem_cons.mp hu with rfl | hu
        · exact .item (List.mem_append_right _ List.mem_cons_self) (ih hv)
        · exact .item (List.mem_append_right _ (List.mem_cons_of_mem _ hu)) hv
  | entry before after k _ ih =>
    intro hv
    cases hv with
    | here he he' hne hi hi' heq =>
      rw [List.map_append, List.map_cons] at he he'
      refine .here ?_ ?_ hne hi hi' heq <;> rwa [List.map_append, List.map_cons]
    | entry he hv =>
      rcases List.mem_append.mp he with he | he
      · exact .entry (List.mem_append_left _ he) hv
      · rcases List.mem_cons.mp he with rfl | he
        · exact .entry (e := (k, _)) (List.mem_append_right _ List.mem_cons_self) (ih hv)
        · exact .entry (List.mem_append_right _ (List.mem_cons_of_mem _ he)) hv

/-! ## Untied values -/

/-- Comparing keys is transitive. -/
theorem localeLE_trans {α : Type} (a b c : JsString × α) : localeLE p a b → localeLE p b c → localeLE p a c :=
  p.preorder.isLE_trans

/-- Any two keys can be compared. -/
theorem localeLE_total {α : Type} (a b : JsString × α) : localeLE p a b || localeLE p b a := by
  have horiented := p.preorder.toOrientedCmp.eq_swap (a := a.1) (b := b.1)
  rw [localeLE, localeLE, horiented]
  cases p.localeCompare b.1 a.1 <;> rfl

/-- Two keys that come before one another are equal to the locale. -/
theorem localeLE_antisymm {α : Type} {a b : JsString × α} (h : localeLE p a b) (h' : localeLE p b a) :
    p.localeCompare a.1 b.1 = .eq := by
  have horiented := p.preorder.toOrientedCmp.eq_swap (a := a.1) (b := b.1)
  rw [localeLE] at h h'
  rw [horiented] at h ⊢
  revert h h'
  cases p.localeCompare b.1 a.1 <;> decide

/-- An array index is one key only. -/
theorem eq_of_arrayIndex {k k' : JsString} (hk : (arrayIndex k).isSome) (hk' : (arrayIndex k').isSome)
    (h : (arrayIndex k).getD 0 = (arrayIndex k').getD 0) : k = k' := by
  have hdecimal (k : JsString) (hk : (arrayIndex k).isSome) : decimal ((arrayIndex k).getD 0) = k := by
    obtain ⟨n, hn⟩ := Option.isSome_iff_exists.mp hk
    rw [hn]
    rw [arrayIndex] at hn
    split at hn
    · next hcond =>
      cases hn
      exact hcond.1
    · cases hn
  rw [← hdecimal k hk, ← hdecimal k' hk', h]

/-- The array indices of an object are listed alike, in whatever order its entries come. -/
theorem indices_eq {α : Type} {entries entries' : List (JsString × α)} (hperm : entries.Perm entries')
    (hkeys : (entries.map Prod.fst).Nodup) :
    (entries.filter fun e => (arrayIndex e.1).isSome).mergeSort indexLE =
      (entries'.filter fun e => (arrayIndex e.1).isSome).mergeSort indexLE := by
  have htrans (a b c : JsString × α) (hab : indexLE a b) (hbc : indexLE b c) : indexLE a c := by
    simp only [indexLE, decide_eq_true_eq] at hab hbc ⊢
    exact hab.trans hbc
  have htotal (a b : JsString × α) : indexLE a b || indexLE b a := by
    simp only [indexLE, Bool.or_eq_true, decide_eq_true_eq]
    exact le_total _ _
  have hsorted (es : List (JsString × α)) : (es.mergeSort indexLE).Pairwise fun a b => indexLE a b :=
    List.pairwise_mergeSort htrans htotal es
  apply List.Perm.eq_of_pairwise ?_ (hsorted _) (hsorted _)
  · exact (List.mergeSort_perm _ _).trans ((hperm.filter _).trans (List.mergeSort_perm _ _).symm)
  · intro a b ha hb hab hba
    obtain ⟨hamem, hai⟩ := List.mem_filter.mp (List.mem_mergeSort.mp ha)
    obtain ⟨hbmem, hbi⟩ := List.mem_filter.mp (List.mem_mergeSort.mp hb)
    simp only [indexLE, decide_eq_true_eq] at hab hba
    have hkey := eq_of_arrayIndex hai hbi (le_antisymm hab hba)
    exact List.inj_on_of_nodup_map hkeys hamem (hperm.mem_iff.mpr hbmem) hkey

/-- The other keys are sorted alike where the locale tells them apart. -/
theorem sorted_eq {α : Type} {entries entries' : List (JsString × α)} (hperm : entries.Perm entries')
    (hkeys : (entries.map Prod.fst).Nodup)
    (huntied : ∀ k ∈ entries.map Prod.fst, ∀ k' ∈ entries.map Prod.fst, arrayIndex k = none → arrayIndex k' = none →
      p.localeCompare k k' = .eq → k = k') :
    (sortEntries p entries).filter (fun e => (arrayIndex e.1).isNone) =
      (sortEntries p entries').filter fun e => (arrayIndex e.1).isNone := by
  have hsorted (l : List (JsString × α)) :
      ((sortEntries p l).filter fun e => (arrayIndex e.1).isNone).Pairwise fun a b => localeLE p a b :=
    (List.pairwise_mergeSort localeLE_trans localeLE_total l).filter _
  apply List.Perm.eq_of_pairwise ?_ (hsorted entries) (hsorted entries')
  · exact ((sortEntries_perm p entries).trans (hperm.trans (sortEntries_perm p entries').symm)).filter _
  · intro a b ha hb hab hba
    obtain ⟨ha, hai⟩ := List.mem_filter.mp ha
    obtain ⟨hb, hbi⟩ := List.mem_filter.mp hb
    have hamem := (sortEntries_perm p entries).mem_iff.mp ha
    have hbmem := hperm.mem_iff.mpr ((sortEntries_perm p entries').mem_iff.mp hb)
    have hkey := huntied _ (List.mem_map_of_mem hamem) _ (List.mem_map_of_mem hbmem)
      (Option.isNone_iff_eq_none.mp hai)
      (Option.isNone_iff_eq_none.mp hbi) (localeLE_antisymm hab hba)
    exact List.inj_on_of_nodup_map hkeys hamem hbmem hkey

/-- Entries whose keys the locale tells apart are arranged alike, in whatever order they come. -/
theorem arrange_eq {α : Type} {entries entries' : List (JsString × α)} (hperm : entries.Perm entries')
    (hkeys : (entries.map Prod.fst).Nodup)
    (huntied : ∀ k ∈ entries.map Prod.fst, ∀ k' ∈ entries.map Prod.fst, arrayIndex k = none → arrayIndex k' = none →
      p.localeCompare k k' = .eq → k = k') : arrange p entries = arrange p entries' := by
  have hown (l : List (JsString × α)) : (ownOrder (ownOrder l)).Perm l := (ownOrder_perm _).trans (ownOrder_perm l)
  have hperm' := (hown entries).trans (hperm.trans (hown entries').symm)
  have hsame : ∀ k, k ∈ (ownOrder (ownOrder entries)).map Prod.fst → k ∈ entries.map Prod.fst := fun _ =>
    ((hown entries).map _).mem_iff.mp
  have hnodup : ((ownOrder (ownOrder entries)).map Prod.fst).Nodup :=
    ((hown entries).map Prod.fst).nodup_iff.mpr hkeys
  have hsortedKeys : ((sortEntries p (ownOrder (ownOrder entries))).map Prod.fst).Nodup :=
    ((sortEntries_perm p _).map Prod.fst).nodup_iff.mpr hnodup
  have hsortedPerm := (sortEntries_perm p _).trans (hperm'.trans (sortEntries_perm p _).symm)
  rw [arrange, arrange, ownOrder, ownOrder.eq_1 (sortEntries p (ownOrder (ownOrder entries'))),
    indices_eq hsortedPerm hsortedKeys,
    sorted_eq hperm' hnodup fun k hk k' hk' => huntied k (hsame k hk) k' (hsame k' hk')]

/-- The order of keys makes no difference to the fingerprint of a value without ties. -/
theorem rebuild_eq_of_untied {v w : Json.Value JsString Num} (h : Reorder v w) :
    v.Distinct → ¬Tied p v → v.rebuild (arrange p) = w.rebuild (arrange p) := by
  induction h with
  | refl v => exact fun _ _ => rfl
  | trans huv hvw ih ih' =>
    intro hdistinct htied
    have hmiddle : ¬Tied p _ := fun h => htied (h.reorder huv.symm)
    exact (ih hdistinct htied).trans (ih' (hdistinct.reorder huv) hmiddle)
  | @perm entries entries' hperm =>
    intro hdistinct htied
    cases hdistinct with
    | obj hkeys hvalues =>
      have hfst : (entries.map (onValue (rebuild (arrange p)))).map Prod.fst = entries.map Prod.fst := by
        rw [List.map_map]
        rfl
      rw [Json.Value.rebuild_obj, Json.Value.rebuild_obj, arrange_eq (hperm.map _) (by rwa [hfst])]
      intro k hk k' hk' hi hi' heq
      rw [hfst] at hk hk'
      by_contra hne
      exact htied (.here hk hk' hne hi hi' heq)
  | @item before after u _ _ ih =>
    intro hdistinct htied
    cases hdistinct with
    | arr hitems =>
      have hmem : u ∈ before ++ u :: after := List.mem_append_right before List.mem_cons_self
      rw [Json.Value.rebuild_arr, Json.Value.rebuild_arr, List.map_append, List.map_append,
        List.map_cons, List.map_cons,
        ih (hitems _ hmem) fun h => htied (.item hmem h)]
  | @entry before after k u _ _ ih =>
    intro hdistinct htied
    cases hdistinct with
    | obj hkeys hvalues =>
      have hmem : (k, u) ∈ before ++ (k, u) :: after := List.mem_append_right before List.mem_cons_self
      rw [Json.Value.rebuild_obj, Json.Value.rebuild_obj, List.map_append, List.map_append,
        List.map_cons, List.map_cons,
        onValue, onValue, ih (hvalues _ hmem) fun h => htied (.entry hmem h)]

/-! ## Tied values -/

/-- Two different members of a list occur in it in one order or the other. -/
theorem pair_sublist {α : Type} {a b : α} {l : List α} (ha : a ∈ l) (hb : b ∈ l) (hne : a ≠ b) :
    [a, b].Sublist l ∨ [b, a].Sublist l := by
  obtain ⟨before, after, rfl⟩ := List.append_of_mem ha
  rcases List.mem_append.mp hb with hb | hb
  · exact .inr ((List.singleton_sublist.mpr hb).append (List.singleton_sublist.mpr List.mem_cons_self))
  · have hafter : b ∈ after := (List.mem_cons.mp hb).resolve_left (Ne.symm hne)
    exact .inl (((List.singleton_sublist.mpr hafter).cons_cons a).trans (List.sublist_append_right _ _))

/-- Members of a list without repetitions occur in one order only. -/
theorem not_sublist_both {α : Type} {a b : α} {l : List α} (hl : l.Nodup) (hab : [a, b].Sublist l) :
    ¬[b, a].Sublist l := by
  induction l with
  | nil => cases hab
  | cons c l ih =>
    intro hba
    obtain ⟨hc, hl⟩ := List.nodup_cons.mp hl
    rcases List.sublist_cons_iff.mp hab with htail | ⟨r, hr, htail⟩
    · rcases List.sublist_cons_iff.mp hba with htail' | ⟨r, hr, _⟩
      · exact ih hl htail htail'
      · rw [← (List.cons.inj hr).1] at hc
        exact hc (htail.subset (List.mem_cons_of_mem a List.mem_cons_self))
    · rw [← (List.cons.inj hr).1] at hc
      rw [← (List.cons.inj hr).2] at htail
      rcases List.sublist_cons_iff.mp hba with htail' | ⟨r, hr', _⟩
      · exact hc (htail'.subset (List.mem_cons_of_mem b List.mem_cons_self))
      · rw [(List.cons.inj hr).1, ← (List.cons.inj hr').1] at hc
        exact hc (htail.subset List.mem_cons_self)

/-- Two tied entries are listed in the order in which they were inserted. -/
theorem ownOrder_pair {α : Type} {a b : JsString × α} {entries : List (JsString × α)} (ha : arrayIndex a.1 = none)
    (hb : arrayIndex b.1 = none) (h : [a, b].Sublist entries) : [a, b].Sublist (ownOrder entries) := by
  have hfilter := h.filter fun e => (arrayIndex e.1).isNone
  rw [List.filter_cons, ha, List.filter_cons, hb] at hfilter
  exact hfilter.trans (List.sublist_append_right _ _)

/-- Two tied entries are arranged in the order in which they were inserted. -/
theorem arrange_pair {α : Type} {a b : JsString × α} {entries : List (JsString × α)} (ha : arrayIndex a.1 = none)
    (hb : arrayIndex b.1 = none) (heq : p.localeCompare a.1 b.1 = .eq) (h : [a, b].Sublist entries) :
    [a, b].Sublist (arrange p entries) := by
  apply ownOrder_pair ha hb
  apply List.pair_sublist_mergeSort localeLE_trans localeLE_total
  · rw [localeLE, heq]
    rfl
  · exact ownOrder_pair ha hb (ownOrder_pair ha hb h)

/-- Entries with a tie are arranged differently when they come in the reverse order. -/
theorem arrange_reverse_ne {α : Type} {a b : JsString × α} {entries : List (JsString × α)}
    (hkeys : (entries.map Prod.fst).Nodup) (ha : arrayIndex a.1 = none) (hb : arrayIndex b.1 = none)
    (heq : p.localeCompare a.1 b.1 = .eq) (h : [a, b].Sublist entries) :
    arrange p entries ≠ arrange p entries.reverse := by
  intro hsame
  have hswap := p.preorder.toOrientedCmp.eq_swap (a := b.1) (b := a.1)
  rw [heq] at hswap
  have hreverse := arrange_pair hb ha hswap (List.reverse_sublist.mpr h)
  rw [← hsame] at hreverse
  exact not_sublist_both ((arrange_perm p entries).nodup_iff.mpr (List.Nodup.of_map _ hkeys))
    (arrange_pair ha hb heq h) hreverse

/-- A value with a tie has the same entries in another order under another fingerprint. -/
theorem exists_of_tied {v : Json.Value JsString Num} (h : Tied p v) :
    v.Distinct → ∃ w, Reorder v w ∧ v.rebuild (arrange p) ≠ w.rebuild (arrange p) := by
  induction h with
  | @here entries k k' hk hk' hne hi hi' heq =>
    intro hdistinct
    cases hdistinct with
    | obj hkeys hvalues =>
      obtain ⟨e, he, rfl⟩ := List.mem_map.mp hk
      obtain ⟨e', he', rfl⟩ := List.mem_map.mp hk'
      refine ⟨.obj entries.reverse, .perm (List.reverse_perm entries).symm, fun h => ?_⟩
      rw [Json.Value.rebuild_obj, Json.Value.rebuild_obj, List.map_reverse] at h
      have hkeys' : ((entries.map (onValue (rebuild (arrange p)))).map Prod.fst).Nodup := by
        rw [List.map_map]
        exact hkeys
      rw [← onValue_fst (rebuild (arrange p)) e, ← onValue_fst (rebuild (arrange p)) e'] at hne
      rw [← onValue_fst (rebuild (arrange p)) e] at hi heq
      rw [← onValue_fst (rebuild (arrange p)) e'] at hi' heq
      have hpair : onValue (rebuild (arrange p)) e ≠ onValue (rebuild (arrange p)) e' :=
        fun h => hne (congrArg Prod.fst h)
      rcases pair_sublist (List.mem_map_of_mem he) (List.mem_map_of_mem he') hpair with hsub | hsub
      · exact arrange_reverse_ne hkeys' hi hi' heq hsub (Json.Value.obj.inj h)
      · have hswap := p.preorder.toOrientedCmp.eq_swap (a := (onValue (rebuild (arrange p)) e').1)
          (b := (onValue (rebuild (arrange p)) e).1)
        rw [heq] at hswap
        exact arrange_reverse_ne hkeys' hi' hi hswap hsub (Json.Value.obj.inj h)
  | @item items u hu _ ih =>
    intro hdistinct
    cases hdistinct with
    | arr hitems =>
      obtain ⟨w, hw, hne⟩ := ih (hitems u hu)
      obtain ⟨before, after, rfl⟩ := List.append_of_mem hu
      refine ⟨_, .item before after hw, fun h => hne ?_⟩
      rw [Json.Value.rebuild_arr, Json.Value.rebuild_arr, List.map_append, List.map_append, List.map_cons,
        List.map_cons] at h
      exact (List.cons.inj (List.append_cancel_left (Json.Value.arr.inj h))).1
  | @entry entries e he _ ih =>
    intro hdistinct
    cases hdistinct with
    | obj hkeys hvalues =>
      obtain ⟨w, hw, hne⟩ := ih (hvalues e he)
      obtain ⟨before, after, rfl⟩ := List.append_of_mem he
      refine ⟨_, .entry before after e.1 hw, fun h => hne ?_⟩
      rw [Json.Value.rebuild_obj, Json.Value.rebuild_obj] at h
      have hperm := (arrange_perm p _).symm.trans
        ((List.Perm.of_eq (Json.Value.obj.inj h)).trans (arrange_perm p _))
      rw [List.map_append, List.map_append, List.map_cons, List.map_cons, List.perm_append_left_iff] at hperm
      have hcons := Multiset.coe_eq_coe.mpr hperm
      rw [← Multiset.cons_coe, ← Multiset.cons_coe] at hcons
      exact congrArg Prod.snd ((Multiset.cons_inj_left _).mp hcons)

/-- The fingerprint of a value is shared by exactly the values that are the same up to the order of their keys, if
and only if the locale ties no keys of the value. -/
theorem fingerprint_identifies_iff (p : Platform Num Digest) (v : JsonValue Num) :
    (∀ w : JsonValue Num, quoteFingerprint p v.1 = quoteFingerprint p w.1 ↔ Reorder v.1 w.1) ↔ ¬Tied p v.1 := by
  constructor
  · intro h htied
    obtain ⟨w, hw, hne⟩ := exists_of_tied htied v.2
    exact hne ((quoteFingerprint_eq_iff p).mp ((h ⟨w, v.2.reorder hw⟩).mpr hw))
  · intro htied w
    constructor
    · exact reorder_of_quoteFingerprint p
    · intro h
      exact (quoteFingerprint_eq_iff p).mpr (rebuild_eq_of_untied h v.2 htied)

end

/-! ## Two spellings of one letter -/

/-- A letter with an accent is compared as the letter followed by the accent. -/
def decomposed (s : JsString) : List ℕ := s.flatMap fun c => if c = 0xe9 then [0x65, 0x301] else [c.toNat]

/-- Numbers without fractions, written in decimal digits. -/
def wholeNumbers : NumberText ℕ where
  text := Nat.toDigits 10
  injective m n h := by simpa using congrArg (Nat.ofDigitChars 10 · 0) h
  ne_nil n := by simp
  numeric n c hc := by
    have hdigit : c.isDigit := Nat.isDigit_of_mem_toDigits (b := 10) (by decide) (by decide) hc
    rw [Json.isNumeric, hdigit, Bool.true_or]

/-- A platform whose locale does not tell the two spellings of an accented letter apart. -/
def accents : Platform ℕ ByteArray where
  numbers := wholeNumbers
  localeCompare := compareOn decomposed
  preorder := inferInstance
  sha256 := id
  sha256_injective := Function.injective_id

/-- Two entries under the two spellings of a letter. -/
def spellings : List (JsString × Json.Value JsString ℕ) := [([0xe9], .num 1), ([0x65, 0x301], .num 2)]

/-- Two entries under the two spellings of a letter have another fingerprint in the other order. -/
theorem spellings_told_apart : Reorder (.obj spellings) (.obj spellings.reverse) ∧
    quoteFingerprint accents (.obj spellings) ≠ quoteFingerprint accents (.obj spellings.reverse) := by
  refine ⟨.perm (List.reverse_perm _).symm, fun h => ?_⟩
  have hentries := (quoteFingerprint_eq_iff accents).mp h
  rw [Json.Value.rebuild_obj, Json.Value.rebuild_obj, List.map_reverse] at hentries
  have hnodup : (spellings.map Prod.fst).Nodup := by decide
  have hfirst : arrayIndex [0xe9] = none := by decide +kernel
  have hsecond : arrayIndex [0x65, 0x301] = none := by decide +kernel
  have hequal : compareOn decomposed [0xe9] [0x65, 0x301] = .eq := by decide
  exact arrange_reverse_ne (p := accents) (a := ([0xe9], .num 1))
    (b := ([0x65, 0x301], .num 2)) hnodup hfirst hsecond
    hequal (List.Sublist.refl _) (Json.Value.obj.inj hentries)

end Superstore.Checkout

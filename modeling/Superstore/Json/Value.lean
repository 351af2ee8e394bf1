import Mathlib.Data.List.Nodup
import Mathlib.Data.List.Perm.Basic

/-!
# JSON values

An object is the list of its entries in the order in which they were inserted. Two values are the
same up to the order of their keys if permuting entries, at any depth, leads from one to the other.
Functions that rearrange the entries of every object are one definition, `rebuild`.
-/

namespace Json

/-- A JSON value over keys, which are also its strings, and numbers. -/
inductive Value (Key Num : Type)
  | null
  | bool (b : Bool)
  | num (n : Num)
  | str (s : Key)
  | arr (items : List (Value Key Num))
  | obj (entries : List (Key × Value Key Num))

/-- A function on the value of an entry. -/
def onValue {Key α β : Type} (f : α → β) (e : Key × α) : Key × β := (e.1, f e.2)

/-- The key of an entry stays. -/
@[simp] theorem onValue_fst {Key α β : Type} (f : α → β) (e : Key × α) : (onValue f e).1 = e.1 := rfl

namespace Value

variable {Key Num : Type}

/-- What holds of a value if it holds of its items and of the values of its entries holds of every value. -/
theorem induct {P : Value Key Num → Prop} (null : P .null) (bool : ∀ b, P (.bool b)) (num : ∀ n, P (.num n))
    (str : ∀ s, P (.str s)) (arr : ∀ items, (∀ v ∈ items, P v) → P (.arr items))
    (obj : ∀ entries, (∀ e ∈ entries, P e.2) → P (.obj entries)) (v : Value Key Num) : P v :=
  @Value.rec Key Num P (fun items => ∀ v ∈ items, P v) (fun entries => ∀ e ∈ entries, P e.2) (fun e => P e.2)
    null bool num str arr obj
    (fun _ h => absurd h List.not_mem_nil)
    (fun _ _ hv hvs w hw => (List.mem_cons.mp hw).elim (fun h => h ▸ hv) (hvs w))
    (fun _ h => absurd h List.not_mem_nil)
    (fun _ _ he hes e h => (List.mem_cons.mp h).elim (fun h => h ▸ he) (hes e))
    (fun _ _ h => h) v

/-! ## Rebuilding -/

mutual

/-- Rearrange the entries of every object of a value, the inner ones first. -/
def rebuild (f : List (Key × Value Key Num) → List (Key × Value Key Num)) : Value Key Num → Value Key Num
  | .null => .null
  | .bool b => .bool b
  | .num n => .num n
  | .str s => .str s
  | .arr items => .arr (rebuildItems f items)
  | .obj entries => .obj (f (rebuildEntries f entries))

/-- Rearrange within the items of an array. -/
def rebuildItems (f : List (Key × Value Key Num) → List (Key × Value Key Num)) :
    List (Value Key Num) → List (Value Key Num)
  | [] => []
  | v :: items => rebuild f v :: rebuildItems f items

/-- Rearrange within the values of entries. -/
def rebuildEntries (f : List (Key × Value Key Num) → List (Key × Value Key Num)) :
    List (Key × Value Key Num) → List (Key × Value Key Num)
  | [] => []
  | (k, v) :: entries => (k, rebuild f v) :: rebuildEntries f entries

end

variable {f g : List (Key × Value Key Num) → List (Key × Value Key Num)}

/-- The items of an array are rebuilt one by one. -/
theorem rebuildItems_eq (items : List (Value Key Num)) : rebuildItems f items = items.map (rebuild f) := by
  induction items with
  | nil => rw [rebuildItems, List.map_nil]
  | cons v items ih => rw [rebuildItems, ih, List.map_cons]

/-- The values of entries are rebuilt one by one. -/
theorem rebuildEntries_eq (entries : List (Key × Value Key Num)) :
    rebuildEntries f entries = entries.map (onValue (rebuild f)) := by
  induction entries with
  | nil => rw [rebuildEntries, List.map_nil]
  | cons e entries ih =>
    rw [rebuildEntries, ih, List.map_cons]
    rfl

/-- An array is rebuilt within its items. -/
theorem rebuild_arr (items : List (Value Key Num)) : rebuild f (.arr items) = .arr (items.map (rebuild f)) := by
  rw [rebuild, rebuildItems_eq]

/-- An object is rebuilt within its values and then rearranged. -/
theorem rebuild_obj (entries : List (Key × Value Key Num)) :
    rebuild f (.obj entries) = .obj (f (entries.map (onValue (rebuild f)))) := by
  rw [rebuild, rebuildEntries_eq]

/-- Rearranging the entries of an object does not look at their values. -/
def Natural (f : List (Key × Value Key Num) → List (Key × Value Key Num)) : Prop :=
  ∀ (h : Value Key Num → Value Key Num) entries, f (entries.map (onValue h)) = (f entries).map (onValue h)

/-- Rearranging twice is rearranging once, object by object. -/
theorem rebuild_rebuild (hg : Natural g) (v : Value Key Num) :
    rebuild f (rebuild g v) = rebuild (f ∘ g) v := by
  induction v using induct with
  | null => rfl
  | bool b => rfl
  | num n => rfl
  | str s => rfl
  | arr items ih =>
    rw [rebuild_arr, rebuild_arr, rebuild_arr, List.map_map]
    exact congrArg arr (List.map_congr_left ih)
  | obj entries ih =>
    rw [rebuild_obj, rebuild_obj, rebuild_obj, ← hg, List.map_map]
    have hentries : entries.map (onValue (rebuild f) ∘ onValue (rebuild g)) =
      entries.map (onValue (rebuild (f ∘ g))) :=
      List.map_congr_left fun e he => congrArg (Prod.mk e.1) (ih e he)
    rw [hentries, Function.comp_apply]

/-! ## The order of keys -/

/-- Two values are the same up to the order of the keys of their objects, at every depth. -/
inductive Reorder : Value Key Num → Value Key Num → Prop
  | refl (v) : Reorder v v
  | trans {u v w} : Reorder u v → Reorder v w → Reorder u w
  | perm {entries entries'} : entries.Perm entries' → Reorder (.obj entries) (.obj entries')
  | item (before after) {v w} : Reorder v w → Reorder (.arr (before ++ v :: after)) (.arr (before ++ w :: after))
  | entry (before after k) {v w} : Reorder v w →
      Reorder (.obj (before ++ (k, v) :: after)) (.obj (before ++ (k, w) :: after))

/-- The order of keys can be changed back. -/
theorem Reorder.symm {v w : Value Key Num} (h : Reorder v w) : Reorder w v := by
  induction h with
  | refl v => exact .refl v
  | trans _ _ ih ih' => exact ih'.trans ih
  | perm h => exact .perm h.symm
  | item before after _ ih => exact .item before after ih
  | entry before after k _ ih => exact .entry before after k ih

/-- Every item of an array may be reordered. -/
theorem Reorder.items {h : Value Key Num → Value Key Num} (before : List (Value Key Num)) :
    ∀ {items : List (Value Key Num)}, (∀ v ∈ items, Reorder v (h v)) →
      Reorder (.arr (before ++ items)) (.arr (before ++ items.map h))
  | [], _ => .refl _
  | v :: items, hall => by
    have hrest := Reorder.items (before ++ [h v]) fun w hw => hall w (List.mem_cons_of_mem v hw)
    rw [List.append_assoc, List.append_assoc] at hrest
    exact (Reorder.item before items (hall v List.mem_cons_self)).trans hrest

/-- The value of every entry of an object may be reordered. -/
theorem Reorder.entries {h : Value Key Num → Value Key Num} (before : List (Key × Value Key Num)) :
    ∀ {entries : List (Key × Value Key Num)}, (∀ e ∈ entries, Reorder e.2 (h e.2)) →
      Reorder (.obj (before ++ entries)) (.obj (before ++ entries.map (onValue h)))
  | [], _ => .refl _
  | e :: entries, hall => by
    have hrest := Reorder.entries (before ++ [onValue h e]) fun e' he => hall e' (List.mem_cons_of_mem e he)
    rw [List.append_assoc, List.append_assoc] at hrest
    exact (Reorder.entry before entries e.1 (hall e List.mem_cons_self)).trans hrest

/-- A value is the same up to the order of keys as what permuting its entries makes of it. -/
theorem reorder_rebuild (hf : ∀ entries, (f entries).Perm entries) (v : Value Key Num) :
    Reorder v (rebuild f v) := by
  induction v using induct with
  | null => exact .refl _
  | bool b => exact .refl _
  | num n => exact .refl _
  | str s => exact .refl _
  | arr items ih =>
    rw [rebuild_arr]
    exact Reorder.items [] ih
  | obj entries ih =>
    rw [rebuild_obj]
    exact (Reorder.entries [] ih).trans (.perm (hf _).symm)

/-! ## Distinct keys -/

/-- No object of a value has a key twice. -/
inductive Distinct : Value Key Num → Prop
  | null : Distinct .null
  | bool (b) : Distinct (.bool b)
  | num (n) : Distinct (.num n)
  | str (s) : Distinct (.str s)
  | arr {items} : (∀ v ∈ items, Distinct v) → Distinct (.arr items)
  | obj {entries} : (entries.map Prod.fst).Nodup → (∀ e ∈ entries, Distinct e.2) → Distinct (.obj entries)

/-- The order of keys does not make them distinct. -/
theorem Distinct.reorder {v w : Value Key Num} (h : Reorder v w) : Distinct v → Distinct w := by
  induction h with
  | refl v => exact id
  | trans _ _ ih ih' => exact ih' ∘ ih
  | perm hperm =>
    intro hv
    cases hv with
    | obj hkeys hvalues =>
      exact .obj ((hperm.map Prod.fst).nodup hkeys) fun e he => hvalues e (hperm.mem_iff.mpr he)
  | item before after _ ih =>
    intro hv
    cases hv with
    | arr hitems =>
      refine .arr fun u hu => ?_
      simp only [List.mem_append, List.mem_cons] at hu hitems
      rcases hu with hu | rfl | hu
      · exact hitems u (.inl hu)
      · exact ih (hitems _ (.inr (.inl rfl)))
      · exact hitems u (.inr (.inr hu))
  | entry before after k _ ih =>
    intro hv
    cases hv with
    | obj hkeys hvalues =>
      refine .obj ?_ fun e he => ?_
      · simpa only [List.map_append, List.map_cons] using hkeys
      · simp only [List.mem_append, List.mem_cons] at he hvalues
        rcases he with he | rfl | he
        · exact hvalues e (.inl he)
        · exact ih (hvalues (k, _) (.inr (.inl rfl)))
        · exact hvalues e (.inr (.inr he))

end Value

end Json

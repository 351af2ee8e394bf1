import Superstore.Relational.Table

/-!
# One marked row for each owner

Rows that belong to an owner often have one among them that is singled out: a default, a
primary one. `OneMarked` says that every owner of a row has exactly one marked row; the rules
say which changes of a table keep this.
-/

namespace Relational

namespace Table

variable {α κ : Type} {owner : α → κ} {marked : α → Bool} {t t' : Table α}

/-- Every owner of a row has exactly one marked row. -/
structure OneMarked (owner : α → κ) (marked : α → Bool) (t : Table α) : Prop where
  unique : ∀ i j a b, t.find i = some a → t.find j = some b → owner a = owner b → marked a = true →
    marked b = true → i = j
  marks : ∀ i a, t.find i = some a → ∃ j b, t.find j = some b ∧ owner b = owner a ∧ marked b = true

/-- A table without rows has no owners. -/
theorem OneMarked.of_empty (h : ∀ i, t.find i = none) : t.OneMarked owner marked where
  unique i _ a _ ha := by rw [h i] at ha; cases ha
  marks i a ha := by rw [h i] at ha; cases ha

/-- A change of the rows of one owner that leaves it with exactly one marked row, or with none at all. -/
theorem OneMarked.change (h : t.OneMarked owner marked) {o : κ}
    (hothers : ∀ i a, owner a ≠ o → (t'.find i = some a ↔ t.find i = some a))
    (howned : (∃ i a, t'.find i = some a ∧ owner a = o) → ∃ j b, t'.find j = some b ∧ owner b = o ∧
      marked b = true ∧ ∀ i a, t'.find i = some a → owner a = o → marked a = true → i = j) :
    t'.OneMarked owner marked where
  unique i j a b ha hb hab hma hmb := by
    by_cases ho : owner a = o
    · obtain ⟨k, _, _, _, _, honly⟩ := howned ⟨i, a, ha, ho⟩
      rw [honly i a ha ho hma, honly j b hb (hab ▸ ho) hmb]
    · have ha' := (hothers i a ho).mp ha
      have hb' := (hothers j b (hab ▸ ho)).mp hb
      exact h.unique i j a b ha' hb' hab hma hmb
  marks i a ha := by
    by_cases ho : owner a = o
    · obtain ⟨j, b, hb, hob, hmb, _⟩ := howned ⟨i, a, ha, ho⟩
      exact ⟨j, b, hb, hob.trans ho.symm, hmb⟩
    · obtain ⟨j, b, hb, hab, hmb⟩ := h.marks i a ((hothers i a ho).mp ha)
      exact ⟨j, b, (hothers j b (hab ▸ ho)).mpr hb, hab, hmb⟩

/-- A condition that selects all marked rows of an owner, and a change that takes their mark. -/
structure Clears (owner : α → κ) (marked : α → Bool) (o : κ) (kept : ℕ → Prop) (p : ℕ → α → Bool) (f : α → α) :
    Prop where
  owned : ∀ i a, p i a = true → owner a = o
  covers : ∀ i a, owner a = o → marked a = true → p i a = true ∨ kept i
  keeps : ∀ a, owner (f a) = owner a
  unmarks : ∀ a, marked (f a) = false

variable {o : κ} {kept : ℕ → Prop} {p : ℕ → α → Bool} {f : α → α}

/-- The rows of other owners are not affected. -/
theorem Clears.others (hc : Clears owner marked o kept p f) {i : ℕ} {a : α} (ho : owner a ≠ o) :
    (t.updateMany p f).find i = some a ↔ t.find i = some a := by
  rw [find_updateMany]
  cases hi : t.find i with
  | none => exact Iff.rfl
  | some b =>
    rw [Option.map_some, Option.some_inj, Option.some_inj]
    by_cases hp : p i b = true
    · rw [if_pos hp]
      have hb := hc.owned i b hp
      exact ⟨fun h => absurd ((hc.keeps b).symm.trans (congrArg owner h) |>.symm.trans hb) ho,
        fun h => absurd (h ▸ hb) ho⟩
    · rw [if_neg hp]

/-- Afterwards only a row that was kept has a mark. -/
theorem Clears.cleared (hc : Clears owner marked o kept p f) {i : ℕ} {a : α}
    (ha : (t.updateMany p f).find i = some a) (ho : owner a = o) (hm : marked a = true) : kept i := by
  rw [find_updateMany] at ha
  obtain ⟨b, hb, rfl⟩ := Option.map_eq_some_iff.mp ha
  by_cases hp : p i b = true
  · rw [if_pos hp, hc.unmarks] at hm
    cases hm
  · rw [if_neg hp] at ho hm
    exact (hc.covers i b ho hm).resolve_left hp

/-- A marked row is created after the others have lost their mark. -/
theorem OneMarked.create_marked (h : t.OneMarked owner marked) (hc : Clears owner marked o (fun _ => False) p f)
    {a : α} (ho : owner a = o) (hm : marked a = true) : ((t.updateMany p f).create a).OneMarked owner marked := by
  refine h.change (o := o) (fun i b hb => ?_) fun _ =>
    ⟨(t.updateMany p f).next, a, find_create_self _ _, ho, hm, ?_⟩
  · rw [find_create]
    split
    · next hi =>
      rw [hi, show t.find (t.updateMany p f).next = none from find_of_next_le (le_refl t.next)]
      exact ⟨fun h => absurd (Option.some.inj h ▸ ho) hb, fun h => by cases h⟩
    · exact hc.others hb
  · intro i b hb hob hmb
    rw [find_create] at hb
    split at hb
    · next hi => exact hi
    · exact (hc.cleared hb hob hmb).elim

/-- A row without a mark is created for an owner of other rows. -/
theorem OneMarked.create_unmarked (h : t.OneMarked owner marked) {a : α} (hm : marked a = false)
    (hother : ∃ i b, t.find i = some b ∧ owner b = owner a) : (t.create a).OneMarked owner marked := by
  obtain ⟨i, b, hb, hob⟩ := hother
  obtain ⟨j, c, hcfind, hoc, hmc⟩ := h.marks i b hb
  refine h.change (o := owner a) (fun k d hd => ?_) fun _ =>
    ⟨j, c, find_create_of_find a hcfind, hoc.trans hob, hmc, fun k d hd hod hmd => ?_⟩
  · rw [find_create]
    split
    · next hk =>
      rw [hk, find_of_next_le (le_refl t.next)]
      exact ⟨fun h => absurd (Option.some.inj h ▸ rfl) hd, fun h => by cases h⟩
    · exact Iff.rfl
  · rw [find_create] at hd
    split at hd
    · cases hd
      rw [hm] at hmd
      cases hmd
    · exact h.unique k j d c hd hcfind (hod.trans (hoc.trans hob).symm) hmd hmc

/-- A row gets the mark after all other rows of its owner have lost theirs. -/
theorem OneMarked.mark (h : t.OneMarked owner marked) {i : ℕ} {a : α} (ha : t.find i = some a) (ho : owner a = o)
    (hc : Clears owner marked o (· = i) p f) {g : α → α} (hkeeps : ∀ b, owner (g b) = owner b)
    (hmarks : ∀ b, marked (g b) = true) : ((t.updateMany p f).update i g).OneMarked owner marked := by
  have hcleared : ∃ b, (t.updateMany p f).find i = some b ∧ owner b = o := by
    rw [find_updateMany, ha]
    refine ⟨_, rfl, ?_⟩
    dsimp only
    split
    · exact (hc.keeps a).trans ho
    · exact ho
  obtain ⟨b, hb, hob⟩ := hcleared
  refine h.change (o := o) (fun j c hother => ?_) fun _ => ⟨i, g b, ?_, (hkeeps b).trans hob, hmarks b, ?_⟩
  · rw [find_update]
    split
    · next hj =>
      rw [hj, hb, ha, Option.map_some, Option.some_inj, Option.some_inj]
      exact ⟨fun h => absurd (h ▸ (hkeeps b).trans hob) hother, fun h => absurd (h ▸ ho) hother⟩
    · exact hc.others hother
  · rw [find_update_self, hb]
    rfl
  · intro j c hfind hoc hmc
    rw [find_update] at hfind
    split at hfind
    · next hj => exact hj
    · exact hc.cleared hfind hoc hmc

/-- A change of a row that leaves its owner and its mark. -/
theorem OneMarked.edit (h : t.OneMarked owner marked) {i : ℕ} {g : α → α} (hkeeps : ∀ b, owner (g b) = owner b)
    (hsame : ∀ a, t.find i = some a → marked (g a) = marked a) : (t.update i g).OneMarked owner marked := by
  have hback {j : ℕ} {b : α} (hb : (t.update i g).find j = some b) :
      ∃ a, t.find j = some a ∧ owner b = owner a ∧ marked b = marked a := by
    rw [find_update] at hb
    split at hb
    · next hj =>
      obtain ⟨a, ha, rfl⟩ := Option.map_eq_some_iff.mp hb
      exact ⟨a, ha, hkeeps a, hsame a (hj ▸ ha)⟩
    · exact ⟨b, hb, rfl, rfl⟩
  have hforth {j : ℕ} {a : α} (ha : t.find j = some a) :
      ∃ b, (t.update i g).find j = some b ∧ owner b = owner a ∧ marked b = marked a := by
    rw [find_update]
    split
    · next hj => exact ⟨g a, by rw [ha]; rfl, hkeeps a, hsame a (hj ▸ ha)⟩
    · exact ⟨a, ha, rfl, rfl⟩
  constructor
  · intro j k b c hb hc hbc hmb hmc
    obtain ⟨b', hb', hob, hmb'⟩ := hback hb
    obtain ⟨c', hc', hoc, hmc'⟩ := hback hc
    exact h.unique j k b' c' hb' hc' (hob.symm.trans (hbc.trans hoc)) (hmb' ▸ hmb) (hmc' ▸ hmc)
  · intro j b hb
    obtain ⟨b', hb', hob, _⟩ := hback hb
    obtain ⟨k, c, hc, hoc, hmc⟩ := h.marks j b' hb'
    obtain ⟨c', hc', hoc', hmc'⟩ := hforth hc
    exact ⟨k, c', hc', hoc'.trans (hoc.trans hob.symm), hmc'.trans hmc⟩

/-- The rows that are left after one has been deleted. -/
theorem find_delete {i j : ℕ} {b : α} :
    (t.deleteMany fun j _ => j == i).find j = some b ↔ t.find j = some b ∧ j ≠ i := by
  rw [find_deleteMany, Option.filter_eq_some_iff]
  simp

/-- A row without a mark is deleted. -/
theorem OneMarked.delete_unmarked (h : t.OneMarked owner marked) {i : ℕ}
    (hi : ∀ a, t.find i = some a → marked a = false) :
    (t.deleteMany fun j _ => j == i).OneMarked owner marked where
  unique j k b c hb hc := h.unique j k b c (find_delete.mp hb).1 (find_delete.mp hc).1
  marks j b hb := by
    obtain ⟨k, c, hc, hoc, hmc⟩ := h.marks j b (find_delete.mp hb).1
    refine ⟨k, c, find_delete.mpr ⟨hc, fun hk => ?_⟩, hoc, hmc⟩
    rw [hi c (hk ▸ hc)] at hmc
    cases hmc

/-- The marked row is deleted, and another row of its owner gets the mark. -/
theorem OneMarked.delete_promote (h : t.OneMarked owner marked) {i r : ℕ} {a b : α} (ha : t.find i = some a)
    (hm : marked a = true) (hb : (t.deleteMany fun j _ => j == i).find r = some b) (hob : owner b = owner a)
    {g : α → α} (hkeeps : ∀ b, owner (g b) = owner b) (hmarks : ∀ b, marked (g b) = true) :
    ((t.deleteMany fun j _ => j == i).update r g).OneMarked owner marked := by
  refine h.change (o := owner a) (fun j c hother => ?_) fun _ => ⟨r, g b, ?_, (hkeeps b).trans hob, hmarks b, ?_⟩
  · rw [find_update]
    split
    · next hj =>
      rw [hj, hb, (find_delete.mp hb).1, Option.map_some, Option.some_inj, Option.some_inj]
      exact ⟨fun h => absurd (h ▸ (hkeeps b).trans hob) hother, fun h => absurd (h ▸ hob) hother⟩
    · rw [find_delete, and_iff_left_iff_imp]
      rintro hc rfl
      exact hother (congrArg owner (Option.some.inj (hc.symm.trans ha)))
  · rw [find_update_self, hb]
    rfl
  · intro j c hc hoc hmc
    rw [find_update] at hc
    split at hc
    · next hj => exact hj
    · obtain ⟨hc, hj⟩ := find_delete.mp hc
      exact absurd (h.unique j i c a hc ha hoc hmc hm) hj

/-- The last row of an owner is deleted. -/
theorem OneMarked.delete_last (h : t.OneMarked owner marked) {i : ℕ} {a : α} (ha : t.find i = some a)
    (hlast : ∀ j b, (t.deleteMany fun j _ => j == i).find j = some b → owner b ≠ owner a) :
    (t.deleteMany fun j _ => j == i).OneMarked owner marked := by
  refine h.change (o := owner a) (fun j c hother => ?_) fun ⟨j, b, hb, hob⟩ => absurd hob (hlast j b hb)
  rw [find_delete, and_iff_left_iff_imp]
  rintro hc rfl
  exact hother (congrArg owner (Option.some.inj (hc.symm.trans ha)))

/-- Exactly one row of every owner of a row is marked. -/
theorem OneMarked.existsUnique (h : t.OneMarked owner marked) {i : ℕ} {a : α} (ha : t.find i = some a) :
    ∃! j, ∃ b, t.find j = some b ∧ owner b = owner a ∧ marked b = true := by
  obtain ⟨j, b, hb, hob, hmb⟩ := h.marks i a ha
  refine ⟨j, ⟨b, hb, hob, hmb⟩, fun k ⟨c, hc, hoc, hmc⟩ => ?_⟩
  exact h.unique k j c b hc hb (hoc.trans hob.symm) hmc hmb

end Table

end Relational

import Superstore.Calendar.Dates

/-!
# When installments are due

The installments of an application are due on the day of the month on which it was confirmed, one in
each of the months that follow, or on the last day of a shorter month.
-/

namespace Superstore.Checkout

open Calendar

/-- The date on which an installment is due some months after a start: the same day of the month, or its
last day if it is shorter. `none` is the invalid date. -/
def dueDate (start : Date) (monthOffset : ℕ) : Option Date := do
  let date ← Date.utc start.getUTCFullYear (start.getUTCMonth + monthOffset) 1
  let lastDay ← Date.utc date.getUTCFullYear (date.getUTCMonth + 1) 0
  date.setUTCDate (min start.getUTCDate lastDay.getUTCDate)

/-- The due dates of the installments of an application that is confirmed at a time. -/
def dueDates (now : Date) (months : ℕ) : List (Option Date) :=
  (List.range months).map fun index => dueDate now (index + 1)

/-- The last month of which every day can be stood for by a date: August 275760. -/
def lastMonth : ℕ := 12 * (275760 - 1970) + 7

/-- The due day of a month, counted from its first one. -/
def dueDay (start : Date) (s : ℕ) : ℕ := min start.getUTCDate (monthLength s) - 1

/-- The due day is a day of its month. -/
theorem dueDay_lt (start : Date) (s : ℕ) : dueDay start s < monthLength s := by
  have hlength := monthLength_ge s
  unfold dueDay
  omega

/-- The last day of a month can be stood for by a date exactly up to the last month. -/
theorem lastDay_valid {s : ℕ} : (firstDay (s + 1) - 1) * msPerDay ≤ maxTime ↔ s ≤ lastMonth := by
  have hin : (firstDay (lastMonth + 1) - 1) * msPerDay ≤ maxTime := by decide
  have hout : maxTime < (firstDay (lastMonth + 2) - 1) * msPerDay := by decide
  constructor
  · intro h
    by_contra hlater
    have hmono : firstDay (lastMonth + 2) ≤ firstDay (s + 1) := firstDay_strictMono.monotone (by omega)
    have hle : (firstDay (lastMonth + 2) - 1) * msPerDay ≤ (firstDay (s + 1) - 1) * msPerDay :=
      Nat.mul_le_mul_right _ (Nat.sub_le_sub_right hmono 1)
    omega
  · intro h
    have hmono : firstDay (s + 1) ≤ firstDay (lastMonth + 1) := firstDay_strictMono.monotone (by omega)
    exact (Nat.mul_le_mul_right _ (Nat.sub_le_sub_right hmono 1)).trans hin

/-- The first day of a month as a date. -/
theorem utc_first {year month s : ℕ} (h : 12 * (year - 1970) + month = s) :
    Date.utc year month 1 = timeClip (firstDay s * msPerDay) := by
  rw [Date.utc, makeDay, h, Nat.add_sub_cancel]

/-- The last day of a month as a date. -/
theorem utc_last {year month s : ℕ} (h : 12 * (year - 1970) + month = s) :
    Date.utc year (month + 1) 0 = timeClip ((firstDay s + (monthLength s - 1)) * msPerDay) := by
  have hlength := monthLength_ge s
  rw [Date.utc, makeDay, ← Nat.add_assoc, h, Nat.add_zero, firstDay_succ, Nat.add_sub_assoc (by omega)]

/-- What the three dates are that a due date is computed from. -/
theorem dueDate_eq (start : Date) (n : ℕ) :
    dueDate start n =
      if start.monthIndex + n ≤ lastMonth then
        timeClip ((firstDay (start.monthIndex + n) + dueDay start (start.monthIndex + n)) * msPerDay)
      else none := by
  have hmonth : 12 * (start.getUTCFullYear - 1970) + (start.getUTCMonth + n) = start.monthIndex + n := by
    rw [← Nat.add_assoc, start.monthIndex_eq]
  generalize start.monthIndex + n = s at hmonth
  have hlength := monthLength_ge s
  have hstart := start.getUTCDate_pos
  have hvalid : (firstDay s + (monthLength s - 1)) * msPerDay ≤ maxTime ↔ s ≤ lastMonth := by
    rw [← lastDay_valid, firstDay_succ, Nat.add_sub_assoc (by omega)]
  have hle : firstDay s * msPerDay ≤ (firstDay s + (monthLength s - 1)) * msPerDay :=
    Nat.mul_le_mul_right _ (Nat.le_add_right _ _)
  unfold dueDate
  rw [utc_first hmonth]
  cases hdate : timeClip (firstDay s * msPerDay) with
  | none =>
    have hinvalid := timeClip_eq_none.mp hdate
    have hlate : ¬s ≤ lastMonth := fun hin => absurd (hvalid.mpr hin) (not_le.mpr (hinvalid.trans_le hle))
    rw [if_neg hlate, Option.bind_eq_bind, Option.bind_none]
  | some date =>
    have hdateTime : date.time = (firstDay s + 0) * msPerDay := by
      rw [Nat.add_zero, timeClip_eq_some.mp hdate]
    obtain ⟨hdateMonth, _, hmidnight⟩ := Date.of_day (s := s) (k := 0) (by omega) hdateTime
    have hdateIndex : 12 * (date.getUTCFullYear - 1970) + date.getUTCMonth = s := by
      rw [date.monthIndex_eq, hdateMonth]
    rw [Option.bind_eq_bind, Option.bind_some, utc_last hdateIndex]
    cases hlastDay : timeClip ((firstDay s + (monthLength s - 1)) * msPerDay) with
    | none =>
      have hlate : ¬s ≤ lastMonth := fun hin => absurd (hvalid.mpr hin) (not_le.mpr (timeClip_eq_none.mp hlastDay))
      rw [if_neg hlate, Option.bind_none]
    | some lastDay =>
      have hlastTime := timeClip_eq_some.mp hlastDay
      have hin : s ≤ lastMonth := by
        rw [← hvalid, ← hlastTime]
        exact lastDay.valid
      obtain ⟨_, hlastDate, _⟩ := Date.of_day (s := s) (k := monthLength s - 1) (by omega) hlastTime
      rw [if_pos hin, Option.bind_some, Date.setUTCDate, makeDay, hdateIndex, hmidnight,
        Nat.add_zero, hlastDate, Nat.sub_add_cancel (by omega), Nat.add_sub_assoc (by omega), dueDay]

/-- A date is the due date some months after a start. -/
structure DueIn (start : Date) (n : ℕ) (d : Date) : Prop where
  month : 12 * d.getUTCFullYear + d.getUTCMonth = 12 * start.getUTCFullYear + start.getUTCMonth + n
  month_lt : d.getUTCMonth < 12
  date : d.getUTCDate = min start.getUTCDate (daysInMonth d.getUTCFullYear d.getUTCMonth)

/-- A due date lies in the month that it should, on the day that it should. -/
theorem dueDate_spec {start d : Date} {n : ℕ} (h : dueDate start n = some d) :
    DueIn start n d ∧ d.monthIndex = start.monthIndex + n := by
  rw [dueDate_eq] at h
  split at h
  · obtain ⟨hmonth, hdate, -⟩ := Date.of_day (dueDay_lt start _) (timeClip_eq_some.mp h)
    have hlength := monthLength_ge (start.monthIndex + n)
    have hstart := start.getUTCDate_pos
    refine ⟨⟨?_, d.getUTCMonth_lt, ?_⟩, hmonth⟩
    · rw [d.year_month, start.year_month, hmonth, Nat.add_assoc]
    · have hdays : daysInMonth d.getUTCFullYear d.getUTCMonth = monthLength (start.monthIndex + n) := by
        rw [← hmonth]
        rfl
      rw [hdate, hdays]
      unfold dueDay
      omega
  · cases h

/-- There is a due date exactly where dates go on to the end of its month. -/
theorem dueDate_isSome (start : Date) (n : ℕ) :
    (dueDate start n).isSome = true ↔ start.monthIndex + n ≤ lastMonth := by
  rw [dueDate_eq]
  split
  · next hin =>
    refine iff_of_true (Option.isSome_iff_ne_none.mpr fun hnone => ?_) hin
    have hvalid := lastDay_valid.mpr hin
    have hlate := timeClip_eq_none.mp hnone
    have hday := dueDay_lt start (start.monthIndex + n)
    rw [firstDay_succ] at hvalid
    have hle : (firstDay (start.monthIndex + n) + dueDay start (start.monthIndex + n)) * msPerDay ≤
        (firstDay (start.monthIndex + n) + monthLength (start.monthIndex + n) - 1) * msPerDay :=
      Nat.mul_le_mul_right _ (by omega)
    omega
  · next hout => exact iff_of_false (by simp) hout

/-- Dates in later months are later. -/
theorem time_lt_of_monthIndex_lt {d e : Date} (h : d.monthIndex < e.monthIndex) : d.time < e.time := by
  have hd := lt_firstDay_monthOf d.day
  have he := firstDay_monthOf_le e.day
  have hmono : firstDay (d.monthIndex + 1) ≤ firstDay e.monthIndex := firstDay_strictMono.monotone h
  have hday : d.day < e.day := by
    unfold Date.monthIndex at hmono
    omega
  by_contra hle
  exact absurd (Nat.div_le_div_right (not_lt.mp hle)) (not_le.mpr hday)

/-- A list of which every entry is there is a list of entries. -/
theorem exists_map_some {α : Type} {os : List (Option α)} (h : ∀ o ∈ os, o.isSome = true) :
    ∃ xs : List α, os = xs.map some := by
  induction os with
  | nil => exact ⟨[], rfl⟩
  | cons o os ih =>
    obtain ⟨x, rfl⟩ := Option.isSome_iff_exists.mp (h o List.mem_cons_self)
    obtain ⟨xs, rfl⟩ := ih fun p hp => h p (List.mem_cons_of_mem _ hp)
    exact ⟨x :: xs, rfl⟩

/-- Up to August 275760, the date of an installment is due in the month that it should be, on the day of
the start or the last day of the month; the due dates of an application rise, one in each month. -/
theorem due_dates (start : Date) :
    (∀ n, 12 * start.getUTCFullYear + start.getUTCMonth + n ≤ 12 * 275760 + 7 →
      ∃ d, dueDate start n = some d ∧ DueIn start n d) ∧
    ∀ months, 12 * start.getUTCFullYear + start.getUTCMonth + months ≤ 12 * 275760 + 7 →
      ∃ ds : List Date, dueDates start months = ds.map some ∧ (ds.Pairwise fun d e => d.time < e.time) ∧
        ∀ i d, ds[i]? = some d → DueIn start (i + 1) d := by
  have hin (n : ℕ) (h : 12 * start.getUTCFullYear + start.getUTCMonth + n ≤ 12 * 275760 + 7) :
      start.monthIndex + n ≤ lastMonth := by
    rw [start.year_month] at h
    unfold lastMonth
    omega
  constructor
  · intro n h
    obtain ⟨d, hd⟩ := Option.isSome_iff_exists.mp ((dueDate_isSome start n).mpr (hin n h))
    exact ⟨d, hd, (dueDate_spec hd).1⟩
  · intro months h
    have hsome : ∀ o ∈ dueDates start months, o.isSome = true := by
      intro o ho
      obtain ⟨index, hindex, rfl⟩ := List.mem_map.mp ho
      exact (dueDate_isSome start _).mpr
        ((Nat.add_le_add_left (List.mem_range.mp hindex) _).trans (hin months h))
    obtain ⟨ds, hds⟩ := exists_map_some hsome
    have hget (i : ℕ) (d : Date) (hd : ds[i]? = some d) : dueDate start (i + 1) = some d := by
      have hmap : (dueDates start months)[i]? = some (some d) := by rw [hds, List.getElem?_map, hd]; rfl
      unfold dueDates at hmap
      obtain ⟨index, hindex, hdue⟩ := Option.map_eq_some_iff.mp (List.getElem?_map ▸ hmap)
      obtain ⟨hlt, rfl⟩ := List.getElem?_eq_some_iff.mp hindex
      rwa [List.getElem_range] at hdue
    refine ⟨ds, hds, ?_, fun i d hd => (dueDate_spec (hget i d hd)).1⟩
    refine List.pairwise_iff_getElem.mpr fun i j hi hj hij => time_lt_of_monthIndex_lt ?_
    rw [(dueDate_spec (hget i _ (List.getElem?_eq_getElem hi))).2,
      (dueDate_spec (hget j _ (List.getElem?_eq_getElem hj))).2]
    omega

/-- 31 January 2024. -/
def january31 : Date := ⟨1706659200000, by decide⟩

example : (dueDates january31 3).map (Option.map fun d => (d.getUTCFullYear, d.getUTCMonth, d.getUTCDate)) =
    [some (2024, 1, 29), some (2024, 2, 31), some (2024, 3, 30)] := by decide +kernel

/-- Three installments from the end of January are due in the three months after it. -/
theorem due_dates_january :
    ∃ ds : List Date, dueDates january31 3 = ds.map some ∧ (ds.Pairwise fun d e => d.time < e.time) ∧
      ∀ i d, ds[i]? = some d → DueIn january31 (i + 1) d :=
  (due_dates january31).2 3 (by decide +kernel)

/-- The first date of all. -/
def epoch : Date := ⟨0, Nat.zero_le _⟩

/-- After August 275760 there are no due dates any more. -/
theorem dueDate_invalid : ¬∀ (start : Date) (n : ℕ), ∃ d, dueDate start n = some d ∧ DueIn start n d := by
  intro h
  obtain ⟨d, hd, -⟩ := h epoch 3285488
  have hin := (dueDate_isSome epoch 3285488).mp (by rw [hd]; rfl)
  have hmonth : epoch.monthIndex = 0 := rfl
  rw [hmonth] at hin
  unfold lastMonth at hin
  omega

end Superstore.Checkout

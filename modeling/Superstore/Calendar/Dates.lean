import Mathlib.Data.Nat.Find
import Mathlib.Order.Monotone.Basic
import Mathlib.Tactic.NormNum

/-!
# The days of the Gregorian calendar

Days are counted from 1 January 1970, and months from January 1970. The first days of the months
rise by the lengths of the months, so that every day lies in one month.
-/

namespace Calendar

/-- A year with a 29 February. -/
def Leap (year : ℕ) : Prop := year % 4 = 0 ∧ (year % 100 ≠ 0 ∨ year % 400 = 0)

/-- Whether a year is a leap year can be decided. -/
instance (year : ℕ) : Decidable (Leap year) := inferInstanceAs (Decidable (_ ∧ _))

/-- The number of days of a month; January is month zero. -/
def daysInMonth (year month : ℕ) : ℕ :=
  if month = 1 then (if Leap year then 29 else 28)
  else if month = 3 ∨ month = 5 ∨ month = 8 ∨ month = 10 then 30 else 31

/-- The days of a year before a month. -/
def daysBefore (year : ℕ) : ℕ → ℕ
  | 0 => 0
  | month + 1 => daysBefore year month + daysInMonth year month

/-- The first day of a year. -/
def dayFromYear (year : ℕ) : ℕ :=
  365 * (year - 1970) + ((year - 1969) / 4 + (year - 1601) / 400 - (year - 1901) / 100)

/-- The year of a month. -/
def yearOf (s : ℕ) : ℕ := 1970 + s / 12

/-- The first day of a month. -/
def firstDay (s : ℕ) : ℕ := dayFromYear (yearOf s) + daysBefore (yearOf s) (s % 12)

/-- The number of days of a month counted from January 1970. -/
def monthLength (s : ℕ) : ℕ := daysInMonth (yearOf s) (s % 12)

/-- The month that a day lies in. -/
def monthOf (day : ℕ) : ℕ := Nat.findGreatest (fun s => firstDay s ≤ day) (day / 28)

/-- A month has at least 28 days. -/
theorem monthLength_ge (s : ℕ) : 28 ≤ monthLength s := by
  unfold monthLength daysInMonth
  split_ifs <;> omega

/-- A year is as long as its months. -/
theorem dayFromYear_succ {year : ℕ} (h : 1970 ≤ year) :
    dayFromYear (year + 1) = dayFromYear year + daysBefore year 12 := by
  have hmonths : daysBefore year 12 = if Leap year then 366 else 365 := by
    by_cases hleap : Leap year <;> simp [daysBefore, daysInMonth, hleap]
  rw [hmonths]
  unfold dayFromYear
  by_cases hleap : Leap year
  · rw [if_pos hleap]
    unfold Leap at hleap
    omega
  · rw [if_neg hleap]
    unfold Leap at hleap
    omega

/-- The months follow one another. -/
theorem firstDay_succ (s : ℕ) : firstDay (s + 1) = firstDay s + monthLength s := by
  unfold firstDay monthLength yearOf
  by_cases h : s % 12 = 11
  · have hyear : 1970 + (s + 1) / 12 = 1970 + s / 12 + 1 := by omega
    have hmonth : (s + 1) % 12 = 0 := by omega
    have hyears : 1970 ≤ 1970 + s / 12 := Nat.le_add_right _ _
    rw [hyear, hmonth, h]
    generalize 1970 + s / 12 = year at hyears
    rw [dayFromYear_succ hyears, daysBefore, daysBefore]
    exact (Nat.add_zero _).trans (Nat.add_assoc _ _ _).symm
  · have hyear : 1970 + (s + 1) / 12 = 1970 + s / 12 := by omega
    have hmonth : (s + 1) % 12 = s % 12 + 1 := by omega
    rw [hyear, hmonth, daysBefore, Nat.add_assoc]

/-- Months begin one after another. -/
theorem firstDay_strictMono : StrictMono firstDay :=
  strictMono_nat_of_lt_succ fun s => by
    have hlength := monthLength_ge s
    rw [firstDay_succ]
    omega

/-- The months before a month have at least 28 days each. -/
theorem le_firstDay (s : ℕ) : 28 * s ≤ firstDay s := by
  induction s with
  | zero => exact Nat.zero_le _
  | succ s ih =>
    have hlength := monthLength_ge s
    rw [firstDay_succ]
    omega

/-- A day lies in the month of which it is neither before the first day nor after the last one. -/
theorem monthOf_eq {day s : ℕ} (hfirst : firstDay s ≤ day) (hlast : day < firstDay (s + 1)) : monthOf day = s := by
  have hbound : s ≤ day / 28 := by
    have hle := le_firstDay s
    omega
  refine (Nat.findGreatest_eq_iff).mpr ⟨hbound, fun _ => hfirst, fun t hlt _ hle => ?_⟩
  have hmono := firstDay_strictMono.monotone (show s + 1 ≤ t from hlt)
  omega

/-- A month begins no later than its days. -/
theorem firstDay_monthOf_le (day : ℕ) : firstDay (monthOf day) ≤ day := by
  have hzero : firstDay 0 ≤ day := Nat.zero_le _
  exact Nat.findGreatest_spec (P := fun s => firstDay s ≤ day) (Nat.zero_le _) hzero

/-- The next month begins after the days of a month. -/
theorem lt_firstDay_monthOf (day : ℕ) : day < firstDay (monthOf day + 1) := by
  by_contra hle
  have hbound : monthOf day + 1 ≤ day / 28 := by
    have hge := le_firstDay (monthOf day + 1)
    omega
  exact Nat.findGreatest_is_greatest (Nat.lt_succ_self _) hbound (not_lt.mp hle)

/-! ## Dates -/

/-- The milliseconds of a day. -/
def msPerDay : ℕ := 86400000

/-- The last time that a date can stand for. -/
def maxTime : ℕ := 8640000000000000

/-- A date from 1970 on, as a number of milliseconds. -/
structure Date where
  time : ℕ
  valid : time ≤ maxTime
  deriving DecidableEq

/-- A number of milliseconds as a date; `none` is the invalid date. -/
def timeClip (time : ℕ) : Option Date := if h : time ≤ maxTime then some ⟨time, h⟩ else none

/-- The day of a month; months beyond a year carry over, and day zero is the last of the month before. -/
def makeDay (year month date : ℕ) : ℕ := firstDay (12 * (year - 1970) + month) + date - 1

namespace Date

variable (d : Date)

/-- The day that a date lies in. -/
def day : ℕ := d.time / msPerDay

/-- The month that a date lies in, counted from January 1970. -/
def monthIndex : ℕ := monthOf d.day

/-- The year of a date. -/
def getUTCFullYear : ℕ := yearOf d.monthIndex

/-- The month of a date, counted from zero. -/
def getUTCMonth : ℕ := d.monthIndex % 12

/-- The day of a date in its month, counted from one. -/
def getUTCDate : ℕ := d.day - firstDay d.monthIndex + 1

/-- The start of a day of a month. -/
def utc (year month date : ℕ) : Option Date := timeClip (makeDay year month date * msPerDay)

/-- The date with another day of its month. -/
def setUTCDate (date : ℕ) : Option Date :=
  timeClip (makeDay d.getUTCFullYear d.getUTCMonth date * msPerDay + d.time % msPerDay)

/-- A year has twelve months. -/
theorem getUTCMonth_lt : d.getUTCMonth < 12 := Nat.mod_lt _ (by decide)

/-- The year and the month of a date say which month it is. -/
theorem monthIndex_eq : 12 * (d.getUTCFullYear - 1970) + d.getUTCMonth = d.monthIndex := by
  unfold getUTCFullYear getUTCMonth yearOf
  omega

/-- The year and the month of a date count its month. -/
theorem year_month : 12 * d.getUTCFullYear + d.getUTCMonth = 12 * 1970 + d.monthIndex := by
  unfold getUTCFullYear getUTCMonth yearOf
  omega

/-- The days of a month are counted from one. -/
theorem getUTCDate_pos : 1 ≤ d.getUTCDate := Nat.le_add_left _ _

end Date

/-- A time gives the date that has it. -/
theorem timeClip_eq_some {time : ℕ} {d : Date} : timeClip time = some d ↔ d.time = time := by
  unfold timeClip
  split
  · constructor
    · intro h
      rw [← Option.some.inj h]
    · rintro rfl
      rfl
  · next hinvalid =>
    refine iff_of_false (fun h => by cases h) fun h => hinvalid (h ▸ d.valid)

/-- A time gives no date exactly if it is past the last one. -/
theorem timeClip_eq_none {time : ℕ} : timeClip time = none ↔ maxTime < time := by
  unfold timeClip
  split
  · next h => simpa using h
  · next h => simpa using h

/-- A date that starts a day of a month lies in this month, on this day. -/
theorem Date.of_day {d : Date} {s k : ℕ} (hk : k < monthLength s) (htime : d.time = (firstDay s + k) * msPerDay) :
    d.monthIndex = s ∧ d.getUTCDate = k + 1 ∧ d.time % msPerDay = 0 := by
  have hday : d.day = firstDay s + k := by
    unfold Date.day
    rw [htime, Nat.mul_div_cancel _ (by decide)]
  have hmonth : d.monthIndex = s := by
    unfold Date.monthIndex
    rw [hday]
    refine monthOf_eq (Nat.le_add_right _ _) ?_
    rw [firstDay_succ]
    omega
  refine ⟨hmonth, ?_, ?_⟩
  · unfold Date.getUTCDate
    rw [hmonth, hday, Nat.add_sub_cancel_left]
  · rw [htime, Nat.mul_mod_left]

end Calendar

import Mathlib.Algebra.BigOperators.Group.List.Basic
import Mathlib.Algebra.Order.Floor.Ring
import Mathlib.Data.Rat.Floor
import Mathlib.Tactic.FieldSimp
import Mathlib.Tactic.Linarith
import Mathlib.Tactic.Ring
import Superstore.Store.Schema

/-!
# Amounts of money

Amounts are exact decimals. `money` accepts what is not negative and rounds it half up to
two places; everything that is later added, subtracted or compared has passed through it,
so an amount is a whole number of cents.
-/

namespace Superstore

/-- Round half up to two decimal places. -/
def toDecimalPlaces2 (x : ℚ) : ℚ := (⌊x * 100 + 1 / 2⌋ : ℤ) / 100

/-- An amount accepted from outside. -/
def money (value : ℚ) : Except Error ℚ :=
  if value < 0 then .error (.badRequest "Amount must be a finite, non-negative number.")
  else .ok (toDecimalPlaces2 value)

/-- The largest integer that a number represents safely. -/
def maxSafeInteger : ℚ := 2 ^ 53 - 1

/-- An amount in the provider's smallest unit. -/
def kobo (value : ℚ) : Except Error ℚ := do
  let amount ← money value
  if maxSafeInteger < amount * 100 then .error (.badRequest "Amount is too large.")
  else .ok (amount * 100)

/-- An amount written with two decimal places. -/
def toFixed2 (x : ℚ) : String :=
  let cents := ⌊|x| * 100 + 1 / 2⌋.toNat
  let fraction := toString (cents % 100)
  (if x < 0 then "-" else "") ++ toString (cents / 100) ++ "." ++
    (if fraction.length < 2 then "0" ++ fraction else fraction)

example : toFixed2 1250 = "1250.00" ∧ toFixed2 (7 / 100) = "0.07" := by decide +kernel

/-- An amount without fractions of a cent. -/
def Cents (x : ℚ) : Prop := ∃ n : ℤ, x = n / 100

/-- Nothing is a whole number of cents. -/
theorem Cents.zero : Cents 0 := ⟨0, by simp⟩

/-- A sum of cents is a whole number of cents. -/
theorem Cents.add {x y : ℚ} (hx : Cents x) (hy : Cents y) : Cents (x + y) := by
  obtain ⟨m, rfl⟩ := hx
  obtain ⟨n, rfl⟩ := hy
  exact ⟨m + n, by push_cast; ring⟩

/-- A difference of cents is a whole number of cents. -/
theorem Cents.sub {x y : ℚ} (hx : Cents x) (hy : Cents y) : Cents (x - y) := by
  obtain ⟨m, rfl⟩ := hx
  obtain ⟨n, rfl⟩ := hy
  exact ⟨m - n, by push_cast; ring⟩

/-- A multiple of cents is a whole number of cents. -/
theorem Cents.mul_nat {x : ℚ} (hx : Cents x) (k : ℕ) : Cents (x * k) := by
  obtain ⟨n, rfl⟩ := hx
  exact ⟨n * k, by push_cast; ring⟩

/-- A sum of many amounts of cents is a whole number of cents. -/
theorem Cents.sum {xs : List ℚ} (h : ∀ x ∈ xs, Cents x) : Cents xs.sum := by
  induction xs with
  | nil => exact Cents.zero
  | cons x xs ih =>
    rw [List.sum_cons]
    exact (h x List.mem_cons_self).add (ih fun y hy => h y (List.mem_cons_of_mem _ hy))

/-- What is rounded is a whole number of cents. -/
theorem cents_toDecimalPlaces2 (x : ℚ) : Cents (toDecimalPlaces2 x) := ⟨_, rfl⟩

/-- Rounding leaves a whole number of cents as it is. -/
theorem toDecimalPlaces2_of_cents {x : ℚ} (hx : Cents x) : toDecimalPlaces2 x = x := by
  obtain ⟨n, rfl⟩ := hx
  have hfloor : ⌊(n : ℚ) / 100 * 100 + 1 / 2⌋ = n := by
    rw [div_mul_cancel₀ _ (by norm_num), Int.floor_intCast_add]
    norm_num
  rw [toDecimalPlaces2, hfloor]

/-- Rounding keeps the order of amounts. -/
theorem toDecimalPlaces2_mono {x y : ℚ} (h : x ≤ y) : toDecimalPlaces2 x ≤ toDecimalPlaces2 y := by
  have hfloor : ⌊x * 100 + 1 / 2⌋ ≤ ⌊y * 100 + 1 / 2⌋ := Int.floor_le_floor (by linarith)
  have hcast : ((⌊x * 100 + 1 / 2⌋ : ℤ) : ℚ) ≤ (⌊y * 100 + 1 / 2⌋ : ℤ) := by exact_mod_cast hfloor
  simp only [toDecimalPlaces2]
  linarith

/-- Rounding an amount that is not negative gives none that is. -/
theorem toDecimalPlaces2_nonneg {x : ℚ} (h : 0 ≤ x) : 0 ≤ toDecimalPlaces2 x := by
  have h0 := toDecimalPlaces2_mono h
  rwa [toDecimalPlaces2_of_cents Cents.zero] at h0

/-- What `money` returns is its argument, rounded. -/
theorem money_eq_ok {x r : ℚ} : money x = .ok r ↔ 0 ≤ x ∧ r = toDecimalPlaces2 x := by
  rw [money]
  split
  · next h => simp [not_le.mpr h]
  · next h => simp [not_lt.mp h, eq_comm]

/-- An accepted amount is a whole number of cents, not negative. -/
theorem money_spec {x r : ℚ} (h : money x = .ok r) : Cents r ∧ 0 ≤ r := by
  obtain ⟨h0, rfl⟩ := money_eq_ok.mp h
  exact ⟨cents_toDecimalPlaces2 x, toDecimalPlaces2_nonneg h0⟩

/-- An accepted amount stays below every whole number of cents that bounds what was offered. -/
theorem money_le {x y r : ℚ} (h : money x = .ok r) (hy : Cents y) (hxy : x ≤ y) : r ≤ y := by
  obtain ⟨_, rfl⟩ := money_eq_ok.mp h
  rw [← toDecimalPlaces2_of_cents hy]
  exact toDecimalPlaces2_mono hxy

end Superstore

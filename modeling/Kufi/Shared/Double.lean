import Mathlib.Algebra.Order.Field.Power
import Mathlib.Data.Int.Log
import Mathlib.Data.Rat.Floor
import Mathlib.Tactic.Positivity

set_option autoImplicit false

/-!
# Doubles

The finite numbers of IEEE binary64 as rationals: multiples of a power of two
with 53 significant bits, and the rounding of any rational to one of them, ties
to even. The two zeros are one number here.
-/

namespace Shared.Double

/-- The nearest integer, of two the even one. -/
def nearest (x : ℚ) : ℤ :=
  let rest := x - ⌊x⌋
  if 2 * rest < 1 then ⌊x⌋
  else if 1 < 2 * rest then ⌊x⌋ + 1
  else ⌊x⌋ + ⌊x⌋ % 2

@[simp] theorem nearest_intCast (n : ℤ) : nearest n = n := by
  simp [nearest]

theorem floor_le_nearest (x : ℚ) : ⌊x⌋ ≤ nearest x := by
  unfold nearest
  dsimp only
  split_ifs <;> omega

theorem nearest_le_floor_add_one (x : ℚ) : nearest x ≤ ⌊x⌋ + 1 := by
  unfold nearest
  dsimp only
  split_ifs <;> omega

theorem abs_nearest_le {x : ℚ} {n : ℤ} (bound : |x| < n) : |nearest x| ≤ n := by
  obtain ⟨low, high⟩ := abs_lt.mp bound
  have below : -n ≤ ⌊x⌋ := Int.le_floor.mpr (by push_cast; exact low.le)
  have above : ⌊x⌋ < n := Int.floor_lt.mpr high
  have first := floor_le_nearest x
  have second := nearest_le_floor_add_one x
  exact abs_le.mpr ⟨by omega, by omega⟩

/-- The exponent of the last bit that a double of this size holds. -/
def exponent (x : ℚ) : ℤ := max (Int.log 2 |x| - 52) (-1074)

/-- Rounding without a largest number. -/
def rounded (x : ℚ) : ℚ := nearest (x / 2 ^ exponent x) * 2 ^ exponent x

@[simp] theorem rounded_zero : rounded 0 = 0 := by
  have zero : nearest 0 = 0 := by simpa using nearest_intCast 0
  simp [rounded, zero]

theorem two_zpow_pos (e : ℤ) : (0 : ℚ) < 2 ^ e := by positivity

theorem abs_lt_two_zpow (x : ℚ) : |x| < 2 ^ (exponent x + 53) := by
  have log : |x| < (2 : ℕ) ^ (Int.log 2 |x| + 1) := Int.lt_zpow_succ_log_self (by decide) _
  refine log.trans_le ?_
  push_cast
  exact zpow_le_zpow_right₀ (by norm_num) (by unfold exponent; omega)

theorem nearest_bound (x : ℚ) : |nearest (x / 2 ^ exponent x)| ≤ 2 ^ 53 := by
  apply abs_nearest_le
  rw [abs_div, abs_of_pos (two_zpow_pos _), div_lt_iff₀ (two_zpow_pos _)]
  have bound := abs_lt_two_zpow x
  rwa [zpow_add₀ (by norm_num), mul_comm] at bound

/-- A multiple of the last bit's unit is rounded to itself. -/
theorem rounded_of_multiple {x : ℚ} (k : ℤ) (multiple : x = k * 2 ^ exponent x) :
    rounded x = x := by
  have unit := (two_zpow_pos (exponent x)).ne'
  have quotient : x / 2 ^ exponent x = k := by
    rw [div_eq_iff unit]
    exact multiple
  rw [rounded, quotient, nearest_intCast]
  exact multiple.symm

theorem le_exponent (x : ℚ) : -1074 ≤ exponent x := le_max_right _ _

/-- Whatever has 53 significant bits is rounded to itself. -/
theorem rounded_eq {m e : ℤ} (bits : |m| ≤ 2 ^ 53) (least : -1074 ≤ e) :
    rounded (m * 2 ^ e) = m * 2 ^ e := by
  set x : ℚ := m * 2 ^ e with value
  by_cases nonzero : x = 0
  · rw [nonzero, rounded_zero]
  by_cases fine : exponent x ≤ e
  · refine rounded_of_multiple (m * 2 ^ (e - exponent x).toNat) ?_
    have split : (2 : ℚ) ^ e = 2 ^ (e - exponent x).toNat * 2 ^ exponent x := by
      rw [← zpow_natCast, ← zpow_add₀ (by norm_num)]
      congr 1
      omega
    push_cast
    rw [mul_assoc, ← split]
  · -- only the first number with one bit more has a coarser unit
    have coarse : e + 53 ≤ Int.log 2 |x| := by
      unfold exponent at fine
      omega
    have large : (2 : ℚ) ^ (e + 53) ≤ |x| := by
      have power : ((2 : ℕ) : ℚ) ^ Int.log 2 |x| ≤ |x| :=
        Int.zpow_log_le_self (by decide) (abs_pos.mpr nonzero)
      exact (zpow_le_zpow_right₀ (by norm_num) coarse).trans (by exact_mod_cast power)
    have size : |x| = |(m : ℚ)| * 2 ^ e := by
      rw [value, abs_mul, abs_of_pos (two_zpow_pos e)]
    have whole : |(m : ℚ)| = 2 ^ 53 := by
      refine le_antisymm (by exact_mod_cast bits) ?_
      rw [size, zpow_add₀ (by norm_num), mul_comm] at large
      exact_mod_cast le_of_mul_le_mul_right large (two_zpow_pos e)
    have log : Int.log 2 |x| = e + 53 := by
      have power : |x| = ((2 : ℕ) : ℚ) ^ (e + 53) := by
        rw [size, whole, zpow_add₀ (by norm_num), mul_comm]
        norm_num
      rw [power, Int.log_zpow (by decide)]
    have unit : exponent x = e + 1 := by
      unfold exponent
      omega
    have even : |m| = 2 ^ 53 := by exact_mod_cast whole
    refine rounded_of_multiple (m / 2) ?_
    have half : m = m / 2 * 2 := by
      rcases (abs_eq (by norm_num)).mp even with positive | negative <;> omega
    rw [unit, zpow_add₀ (by norm_num), zpow_one, value]
    nth_rewrite 1 [half]
    push_cast
    ring

@[simp] theorem rounded_rounded (x : ℚ) : rounded (rounded x) = rounded x :=
  rounded_eq (nearest_bound x) (le_exponent x)

theorem rounded_intCast {n : ℤ} (small : |n| ≤ 2 ^ 53) : rounded n = n := by
  have same := rounded_eq small (by decide : (-1074 : ℤ) ≤ 0)
  simpa using same

/-- The first power of two that is too large. -/
def limit : ℚ := 2 ^ (1024 : ℕ)

end Shared.Double

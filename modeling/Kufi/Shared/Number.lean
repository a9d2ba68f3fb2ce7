import Mathlib.Algebra.Order.Group.Int
import Mathlib.Data.Nat.Log
import Mathlib.Tactic.Ring

set_option autoImplicit false

/-!
# Integer-valued binary64 numbers

Sums of integers that are carried as IEEE doubles: the exact sum is rounded to
the nearest number with a 53-bit significand, ties to even. Everything up to
`2 ^ 53` is exact.
-/

namespace Shared.Number

/-- The low bits a double drops from an integer of this magnitude. -/
def droppedBits (magnitude : Nat) : Nat :=
  magnitude.log2 - 52

/-- The multiple of `unit` nearest to `magnitude`, ties to the even quotient. -/
def nearestMultiple (unit magnitude : Nat) : Nat :=
  let quotient := magnitude / unit
  let rest := magnitude % unit
  if 2 * rest < unit then quotient * unit
  else if unit < 2 * rest then (quotient + 1) * unit
  else (quotient + quotient % 2) * unit

def roundNat (magnitude : Nat) : Nat :=
  nearestMultiple (2 ^ droppedBits magnitude) magnitude

def round (n : Int) : Int :=
  if 0 ≤ n then roundNat n.natAbs else -roundNat n.natAbs

/-- A double holds the integer exactly. -/
def Exact (n : Int) : Prop :=
  2 ^ droppedBits n.natAbs ∣ n.natAbs

instance (n : Int) : Decidable (Exact n) :=
  inferInstanceAs (Decidable (_ ∣ _))

def add (a b : Int) : Int := round (a + b)

def sub (a b : Int) : Int := round (a - b)

theorem nearestMultiple_eq_iff {unit : Nat} (positive : 0 < unit) (magnitude : Nat) :
    nearestMultiple unit magnitude = magnitude ↔ unit ∣ magnitude := by
  constructor
  · intro same
    rw [← same]
    simp only [nearestMultiple]
    split_ifs <;> exact Nat.dvd_mul_left _ _
  · intro divides
    have rest : magnitude % unit = 0 := Nat.mod_eq_zero_of_dvd divides
    have whole : magnitude / unit * unit = magnitude := Nat.div_mul_cancel divides
    simp only [nearestMultiple, rest, Nat.mul_zero, positive, if_true, whole]

theorem roundNat_eq_iff (magnitude : Nat) :
    roundNat magnitude = magnitude ↔ 2 ^ droppedBits magnitude ∣ magnitude :=
  nearestMultiple_eq_iff (Nat.two_pow_pos _) magnitude

theorem round_eq_iff (n : Int) : round n = n ↔ Exact n := by
  rw [Exact, ← roundNat_eq_iff]
  unfold round
  split_ifs <;> omega

theorem add_eq_iff (a b : Int) : add a b = a + b ↔ Exact (a + b) := round_eq_iff _

theorem sub_eq_iff (a b : Int) : sub a b = a - b ↔ Exact (a - b) := round_eq_iff _

theorem exact_of_small {n : Int} (small : n.natAbs < 2 ^ 53) : Exact n := by
  have none : droppedBits n.natAbs = 0 := by
    unfold droppedBits
    by_cases zero : n.natAbs = 0
    · simp [zero]
    · have log := (Nat.log2_lt zero).2 small
      omega
  simp [Exact, none]

-- Rounding never crosses a power of two from above, so a small result was never rounded.
theorem le_roundNat {magnitude : Nat} (large : 2 ^ 53 ≤ magnitude) : 2 ^ 53 ≤ roundNat magnitude := by
  have nonzero : magnitude ≠ 0 := by omega
  have log : 53 ≤ magnitude.log2 := (Nat.le_log2 nonzero).2 large
  have power : 2 ^ magnitude.log2 ≤ magnitude := Nat.log2_self_le nonzero
  have split : 2 ^ magnitude.log2 = 2 ^ 52 * 2 ^ droppedBits magnitude := by
    rw [← Nat.pow_add]
    congr 1
    unfold droppedBits
    omega
  have unit : 0 < 2 ^ droppedBits magnitude := Nat.two_pow_pos _
  have quotient : 2 ^ 52 ≤ magnitude / 2 ^ droppedBits magnitude := by
    rw [Nat.le_div_iff_mul_le unit]
    omega
  have down : 2 ^ 52 * 2 ^ droppedBits magnitude ≤
      magnitude / 2 ^ droppedBits magnitude * 2 ^ droppedBits magnitude :=
    Nat.mul_le_mul_right _ quotient
  have large' : 2 ^ 53 ≤ 2 ^ magnitude.log2 := Nat.pow_le_pow_right (by decide) log
  unfold roundNat nearestMultiple
  simp only
  split_ifs
  · omega
  · rw [Nat.add_mul]
    omega
  · rw [Nat.add_mul]
    omega

theorem nearestMultiple_le {unit magnitude bound : Nat} (divides : unit ∣ bound)
    (below : magnitude ≤ bound) : nearestMultiple unit magnitude ≤ bound := by
  obtain ⟨factor, rfl⟩ := divides
  rcases Nat.eq_zero_or_pos unit with rfl | positive
  · simp [nearestMultiple]
  have quotient : magnitude / unit ≤ factor := Nat.div_le_of_le_mul below
  have split := Nat.div_add_mod magnitude unit
  have down : magnitude / unit * unit ≤ unit * factor := by
    rw [Nat.mul_comm]
    exact Nat.mul_le_mul_left unit quotient
  simp only [nearestMultiple]
  rcases Nat.lt_or_ge (magnitude / unit) factor with less | most
  · have up : (magnitude / unit + 1) * unit ≤ unit * factor := by
      rw [Nat.mul_comm]
      exact Nat.mul_le_mul_left unit less
    have parity : (magnitude / unit + magnitude / unit % 2) * unit ≤
        (magnitude / unit + 1) * unit := Nat.mul_le_mul_right unit (by omega)
    split_ifs <;> omega
  · -- the bound itself is left without a rest
    have same : magnitude / unit = factor := Nat.le_antisymm quotient most
    rw [same] at split
    have rest : magnitude % unit = 0 := by omega
    simp only [rest, Nat.mul_zero, positive, if_true]
    exact down

theorem roundNat_le {magnitude bits : Nat} (below : magnitude ≤ 2 ^ bits) :
    roundNat magnitude ≤ 2 ^ bits := by
  refine nearestMultiple_le (Nat.pow_dvd_pow 2 ?_) below
  unfold droppedBits
  by_cases zero : magnitude = 0
  · simp [zero]
  · have larger : magnitude < 2 ^ (bits + 1) := by
      have double := Nat.two_pow_pos bits
      omega
    have log := (Nat.log2_lt zero).2 larger
    omega

theorem exact_of_round_small {n : Int} (nonneg : 0 ≤ n) (small : round n < 2 ^ 53) : Exact n := by
  by_cases large : 2 ^ 53 ≤ n.natAbs
  · have rounded := le_roundNat large
    simp only [round, nonneg, if_true] at small
    omega
  · exact exact_of_small (by omega)

theorem round_nonneg {n : Int} (nonneg : 0 ≤ n) : 0 ≤ round n := by
  simp [round, nonneg]

theorem add_nonneg {a b : Int} (first : 0 ≤ a) (second : 0 ≤ b) : 0 ≤ add a b :=
  round_nonneg (Int.add_nonneg first second)

theorem sub_nonneg {a b : Int} (covered : b ≤ a) : 0 ≤ sub a b :=
  round_nonneg (Int.sub_nonneg.mpr covered)

end Shared.Number

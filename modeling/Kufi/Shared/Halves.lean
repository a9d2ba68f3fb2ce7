import Mathlib.Algebra.Order.Group.Int
import Mathlib.Data.BitVec
import Mathlib.Tactic.Ring

set_option autoImplicit false

/-!
# An integer in two signed halves

An integer of `2 * w` bits, sent as two signed integers of `w` bits.
-/

namespace Shared.Halves

variable {w : Nat}

def low (w : Nat) (v : Int) : BitVec w := BitVec.ofInt w v

def high (w : Nat) (v : Int) : BitVec w := BitVec.ofInt w (v / 2 ^ w)

theorem toNat_low (v : Int) : ((low w v).toNat : Int) = v % 2 ^ w := by
  have positive : (0 : Int) < 2 ^ w := Int.pow_pos (by decide)
  simp only [low, BitVec.toNat_ofInt, Int.natCast_pow, Int.cast_ofNat_Int]
  exact Int.toNat_of_nonneg (Int.emod_nonneg _ (by omega))

theorem toInt_ofInt_of_small {v : Int} (lower : -2 ^ w ≤ v * 2) (upper : v * 2 < 2 ^ w) :
    (BitVec.ofInt w v).toInt = v := by
  rw [BitVec.toInt_ofInt]
  exact Int.bmod_eq_of_le_mul_two (by simpa using lower) (by simpa using upper)

/-- The low half by itself is the integer just when the integer is small. -/
theorem toInt_low_iff {v : Int} (nonneg : 0 ≤ v) : (low w v).toInt = v ↔ v * 2 < 2 ^ w := by
  constructor
  · intro same
    have bound := (low w v).two_mul_toInt_lt
    rw [same] at bound
    omega
  · intro small
    have positive : (0 : Int) < 2 ^ w := Int.pow_pos (by decide)
    exact toInt_ofInt_of_small (by omega) small

theorem toInt_high {v : Int} (nonneg : 0 ≤ v) (upper : v * 2 < 2 ^ w * 2 ^ w) :
    (high w v).toInt = v / 2 ^ w := by
  have positive : (0 : Int) < 2 ^ w := Int.pow_pos (by decide)
  have quotient : 0 ≤ v / 2 ^ w := Int.ediv_nonneg nonneg (by omega)
  refine toInt_ofInt_of_small (by omega) ?_
  have below : v / 2 ^ w * 2 ^ w ≤ v := Int.ediv_mul_le v (by omega)
  have scaled : v / 2 ^ w * 2 * 2 ^ w < 2 ^ w * 2 ^ w := by
    calc v / 2 ^ w * 2 * 2 ^ w = v / 2 ^ w * 2 ^ w * 2 := by ring
      _ ≤ v * 2 := by omega
      _ < 2 ^ w * 2 ^ w := upper
  exact Int.lt_of_mul_lt_mul_right scaled (by omega)

theorem high_eq_zero_iff {v : Int} (nonneg : 0 ≤ v) (upper : v * 2 < 2 ^ w * 2 ^ w) :
    (high w v).toInt = 0 ↔ v < 2 ^ w := by
  have positive : (0 : Int) < 2 ^ w := Int.pow_pos (by decide)
  rw [toInt_high nonneg upper]
  constructor
  · intro none
    have split := Int.mul_ediv_add_emod v (2 ^ w)
    rw [none, Int.mul_zero, Int.zero_add] at split
    rw [← split]
    exact Int.emod_lt_of_pos v positive
  · exact Int.ediv_eq_zero_of_lt nonneg

theorem join {v : Int} (nonneg : 0 ≤ v) (upper : v * 2 < 2 ^ w * 2 ^ w) :
    (high w v).toInt * 2 ^ w + (low w v).toNat = v := by
  rw [toInt_high nonneg upper, toNat_low, Int.mul_comm]
  exact Int.mul_ediv_add_emod v (2 ^ w)

end Shared.Halves

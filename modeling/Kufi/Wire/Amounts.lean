import Kufi.Shared.Halves
import Kufi.Shared.Number
import Kufi.Transactions.Requests
import Mathlib.Data.Rat.Floor

set_option autoImplicit false

/-!
# Amounts on the wire

An amount is an `int64` in protobuf. A service gets it as a number, as a text or
as an object with two signed halves, and each service has a decoder of its own.
-/

namespace Kufi.Wire

open Shared Shared.Text

/-- A JavaScript number. -/
inductive Num where
  | finite (value : ℚ)
  | nan
  | infinite (negative : Bool)
  deriving DecidableEq

/-- An `int64` as an object; `toNumber` is what the method of that name returns, if the object
has one. -/
structure Long where
  low : BitVec 32
  high : BitVec 32
  unsigned : Bool
  toNumber : Option Num

inductive Raw where
  | number (value : Num)
  | text (text : String)
  | long (long : Long)
  -- `null`, `undefined` and objects without halves
  | other

section Decoders

-- `Number` on a text
variable (number : String → Num)

/-- Five of the decoders: a finite number is passed through `finish`, and what cannot be decoded
is `failure`. -/
def decodeLow (finish : ℚ → ℚ) (failure : Num) : Raw → Num
  | .number (.finite value) => .finite (finish value)
  | .text text =>
    if trim text = "" then failure
    else match number text with
    | .finite value => .finite (finish value)
    | _ => failure
  | .long long =>
    if long.high.toInt = 0 then
      -- `low >>> 0` is the low half without its sign
      .finite (if long.unsigned then long.low.toNat else long.low.toInt)
    else failure
  | _ => failure

def floor (value : ℚ) : ℚ := ⌊value⌋

/-- `normalizeAmount` of the transaction service. -/
def transactionNormalizeAmount : Raw → Num := decodeLow number id .nan

/-- `normalizeAmount` of the risk service. -/
def riskNormalizeAmount : Raw → Num := decodeLow number floor .nan

/-- `normalizeAmount` of the chain adapter. -/
def chainNormalizeAmount : Raw → Num := decodeLow number floor .nan

/-- `int64ToNumber` of the gateway's transactions controller. -/
def transactionsInt64ToNumber : Raw → Num := decodeLow number floor (.finite 0)

/-- `int64ToNumber` of the gateway's wallets controller. -/
def walletsInt64ToNumber : Raw → Num := decodeLow number floor (.finite 0)

/-- `parseAmount` of the outside-payment service. -/
def parseAmount : Raw → Num
  | .number value => value
  | .text text => number text
  | .long long =>
    match long.toNumber with
    | some value => value
    | none =>
      .finite (Number.add (Number.round (long.high.toInt * 4294967296)) long.low.toNat : Int)
  | .other => .nan

end Decoders

/-- The object that carries an integer. -/
structure Long.Carries (long : Long) (v : Int) : Prop where
  low : long.low = Halves.low 32 v
  high : long.high = Halves.high 32 v
  signed : long.unsigned = false
  -- the conversion of the library is exact on safe integers
  toNumber : ∀ value, long.toNumber = some value → value = .finite v

/-- All decoders return the integer. -/
structure OneMeaning (number : String → Num) (long : Long) (v : Int) : Prop where
  transaction : transactionNormalizeAmount number (.long long) = .finite v
  risk : riskNormalizeAmount number (.long long) = .finite v
  chain : chainNormalizeAmount number (.long long) = .finite v
  transactions : transactionsInt64ToNumber number (.long long) = .finite v
  wallets : walletsInt64ToNumber number (.long long) = .finite v
  outside : parseAmount number (.long long) = .finite v

section Carried

variable {number : String → Num} {long : Long} {v : Int}

theorem parseAmount_long (carries : long.Carries v) (nonneg : 0 ≤ v) (safe : v < 2 ^ 53) :
    parseAmount number (.long long) = .finite v := by
  cases converted : long.toNumber with
  | some value =>
    simp only [parseAmount, converted]
    exact carries.toNumber value converted
  | none =>
    have join := Halves.join (w := 32) nonneg (by omega)
    have high := Halves.toInt_high (w := 32) nonneg (by omega)
    have product : Number.round ((Halves.high 32 v).toInt * 4294967296) =
        (Halves.high 32 v).toInt * 4294967296 :=
      (Number.round_eq_iff _).mpr (Number.exact_of_small (by omega))
    have sum : Number.add ((Halves.high 32 v).toInt * 4294967296) (Halves.low 32 v).toNat = v := by
      rw [(Number.add_eq_iff _ _).mpr (Number.exact_of_small (by omega))]
      exact join
    simp only [parseAmount, converted]
    rw [carries.low, carries.high, product, sum]

/-- The five decoders of the low half are right on the small integers only. -/
theorem decodeLow_long_iff (carries : long.Carries v) (positive : 1 ≤ v) (safe : v < 2 ^ 53)
    {finish : ℚ → ℚ} {failure : Num} (wrong : failure ≠ .finite v) :
    decodeLow number finish failure (.long long) = .finite v ↔ v < 2 ^ 31 := by
  have low := Halves.toInt_low_iff (w := 32) (v := v) (by omega)
  have high := Halves.high_eq_zero_iff (w := 32) (v := v) (by omega) (by omega)
  simp only [decodeLow, carries.low, carries.high, carries.signed, Bool.false_eq_true, if_false]
  split_ifs with zero
  · simp only [Num.finite.injEq]
    norm_cast
    rw [low]
    omega
  · rw [high] at zero
    constructor
    · exact fun same => absurd same wrong
    · omega

end Carried

theorem amounts_decoded_iff {number : String → Num} {long : Long} {v : Int} (positive : 1 ≤ v)
    (safe : v < 2 ^ 53) (carries : long.Carries v) : OneMeaning number long v ↔ v < 2 ^ 31 := by
  have nan : Num.nan ≠ .finite v := nofun
  have nonzero : Num.finite 0 ≠ .finite v := by
    simp only [ne_eq, Num.finite.injEq]
    norm_cast
    omega
  constructor
  · exact fun meaning => (decodeLow_long_iff carries positive safe nan).mp meaning.transaction
  · intro small
    exact
      { transaction := (decodeLow_long_iff carries positive safe nan).mpr small
        risk := (decodeLow_long_iff carries positive safe nan).mpr small
        chain := (decodeLow_long_iff carries positive safe nan).mpr small
        transactions := (decodeLow_long_iff carries positive safe nonzero).mpr small
        wallets := (decodeLow_long_iff carries positive safe nonzero).mpr small
        outside := parseAmount_long carries (by omega) safe }

-- Three billion, whose low half is negative.
theorem amounts_decoded_apart :
    ¬ ∀ (number : String → Num) (long : Long) (v : Int), 1 ≤ v → v < 2 ^ 53 → long.Carries v →
      OneMeaning number long v := by
  intro decoded
  have carries : Long.Carries ⟨Halves.low 32 3000000000, Halves.high 32 3000000000, false, none⟩
      3000000000 := ⟨rfl, rfl, rfl, nofun⟩
  have meaning := decoded (fun _ => .nan) _ 3000000000 (by decide) (by decide) carries
  have negative : transactionNormalizeAmount (fun _ => .nan)
      (.long ⟨Halves.low 32 3000000000, Halves.high 32 3000000000, false, none⟩) =
        .finite (-1294967296 : Int) := by decide
  have same := negative.symm.trans meaning.transaction
  simp only [Num.finite.injEq] at same
  norm_cast at same

theorem amounts_decoded_million :
    OneMeaning (fun _ => .nan)
      ⟨Halves.low 32 1000000, Halves.high 32 1000000, false, some (.finite (1000000 : Int))⟩
      1000000 :=
  (amounts_decoded_iff (by decide) (by decide)
    ⟨rfl, rfl, rfl, fun _ same => (Option.some.inj same).symm⟩).mpr (by decide)

/-- The transaction service's requests carry an `int64` in this form. -/
theorem transactionNormalizeAmount_int64 (number : String → Num) (long : Long) :
    transactionNormalizeAmount number (.long long) =
      match Transactions.normalizeAmount (.int64 long.low.toInt long.high.toInt long.unsigned) with
      | some amount => .finite amount
      | none => .nan := by
  have unsigned : long.low.toInt % 2 ^ 32 = long.low.toNat := by
    have small := long.low.isLt
    rw [BitVec.toInt_eq_toNat_cond]
    split_ifs <;> omega
  simp only [transactionNormalizeAmount, decodeLow, Transactions.normalizeAmount, unsigned]
  split_ifs <;> simp

end Kufi.Wire

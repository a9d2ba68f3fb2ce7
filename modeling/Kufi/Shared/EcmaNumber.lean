import Kufi.Shared.Double
import Mathlib.Tactic.FieldSimp

set_option autoImplicit false

/-!
# ECMAScript numbers as text

Strings are sequences of UTF-16 code units. A number is written with the fewest
decimal digits that read back as the number; `JSON` reads it back.
-/

namespace Shared.Ecma

abbrev Str := List UInt16

/-- A character of the basic plane. -/
def unit (c : Char) : UInt16 := UInt16.ofNat c.toNat

def Str.of (text : String) : Str := text.toList.map unit

structure Finite where
  value : ℚ
  small : |value| < Double.limit
  held : Double.rounded value = value
  deriving DecidableEq

/-- A number that is not `NaN`. -/
inductive Number where
  | finite (x : Finite)
  | infinity (negative : Bool)
  deriving DecidableEq

namespace Number

def round (x : ℚ) : Number :=
  if small : |Double.rounded x| < Double.limit then
    .finite ⟨Double.rounded x, small, Double.rounded_rounded x⟩
  else .infinity (x < 0)

theorem round_value (x : Finite) : round x.value = .finite x := by
  unfold round
  have small := x.small
  simp only [x.held, small, dite_true]

def ofNat (n : ℕ) : Number := round n

end Number

/-! ## Digits -/

def isDigit (u : UInt16) : Bool := 48 ≤ u.toNat && u.toNat ≤ 57

def digits (n : ℕ) : Str := (Nat.toDigits 10 n).map unit

/-- The number that a sequence of digits stands for. -/
def valueOf (ds : Str) : ℕ := ds.foldl (fun v u => 10 * v + (u.toNat - 48)) 0

theorem foldl_digits (ds : Str) (v : ℕ) :
    ds.foldl (fun v u => 10 * v + (u.toNat - 48)) v = v * 10 ^ ds.length + valueOf ds := by
  induction ds generalizing v with
  | nil => simp [valueOf]
  | cons d ds ih =>
    simp only [valueOf, List.foldl_cons, ih (10 * v + (d.toNat - 48)), ih (10 * 0 + (d.toNat - 48)),
      List.length_cons]
    ring

theorem valueOf_append (first second : Str) :
    valueOf (first ++ second) = valueOf first * 10 ^ second.length + valueOf second := by
  rw [valueOf, List.foldl_append, foldl_digits]
  rfl

theorem valueOf_zeros (n : ℕ) : valueOf (List.replicate n (unit '0')) = 0 := by
  induction n with
  | zero => rfl
  | succ n ih =>
    rw [List.replicate_succ, show unit '0' :: List.replicate n (unit '0') =
      [unit '0'] ++ List.replicate n (unit '0') from rfl, valueOf_append, ih,
      show valueOf [unit '0'] = 0 by decide]
    simp

theorem unit_digit {c : Char} (digit : c.isDigit = true) :
    isDigit (unit c) = true ∧ (unit c).toNat = c.toNat := by
  have bounds : 48 ≤ c.toNat ∧ c.toNat ≤ 57 := by
    simp only [Char.isDigit, Bool.and_eq_true, decide_eq_true_eq, ge_iff_le,
      UInt32.le_iff_toNat_le] at digit
    exact digit
  have same : (unit c).toNat = c.toNat := by
    simp only [unit, UInt16.toNat_ofNat']
    omega
  simp [isDigit, same, bounds]

theorem digits_isDigit (n : ℕ) : ∀ u ∈ digits n, isDigit u = true := by
  intro u listed
  obtain ⟨c, member, rfl⟩ := List.mem_map.mp listed
  exact (unit_digit (Nat.isDigit_of_mem_toDigits (by decide) (by decide) member)).1

theorem digits_ne_nil (n : ℕ) : digits n ≠ [] := by
  simp [digits, Nat.toDigits_ne_nil]

theorem valueOf_map {chars : List Char} (all : ∀ c ∈ chars, c.isDigit = true) (v : ℕ) :
    (chars.map unit).foldl (fun v u => 10 * v + (u.toNat - 48)) v =
      Nat.ofDigitChars 10 chars v := by
  induction chars generalizing v with
  | nil => rfl
  | cons c chars ih =>
    simp only [List.forall_mem_cons] at all
    rw [List.map_cons, List.foldl_cons, ih all.2, (unit_digit all.1).2]
    simp [Nat.ofDigitChars]

@[simp] theorem valueOf_digits (n : ℕ) : valueOf (digits n) = n := by
  have all : ∀ c ∈ Nat.toDigits 10 n, c.isDigit = true :=
    fun _ member => Nat.isDigit_of_mem_toDigits (by decide) (by decide) member
  rw [valueOf, digits, valueOf_map all, Nat.ofDigitChars_ten_toDigits]

theorem digits_small {n : ℕ} (small : n < 10) : digits n = [unit (Nat.digitChar n)] := by
  rw [digits, Nat.toDigits_of_lt_base small]
  rfl

theorem digits_head {n : ℕ} (positive : 0 < n) : (digits n).head? ≠ some (unit '0') := by
  induction n using Nat.strongRecOn with
  | ind n ih =>
    by_cases small : n < 10
    · have table : ∀ d : Fin 10, 0 < d.val →
          [unit (Nat.digitChar d.val)].head? ≠ some (unit '0') := by decide
      rw [digits_small small]
      exact table ⟨n, small⟩ positive
    · have tenth := ih (n / 10) (by omega) (by omega)
      rw [digits, Nat.toDigits_of_base_le (by decide) (by omega), List.map_append,
        List.head?_append_of_ne_nil _ (by simp [Nat.toDigits_ne_nil])]
      exact tenth

/-! ## Literals -/

/-- A decimal literal without its sign. -/
structure Literal where
  whole : Str
  fraction : Str
  exponent : Option ℤ

namespace Literal

def value (literal : Literal) : ℚ :=
  valueOf (literal.whole ++ literal.fraction) *
    10 ^ (literal.exponent.getD 0 - literal.fraction.length)

def exponentText : Option ℤ → Str
  | none => []
  | some e => unit 'e' :: (if e < 0 then unit '-' else unit '+') :: digits e.natAbs

def fractionText (fraction : Str) : Str :=
  if fraction = [] then [] else unit '.' :: fraction

def text (literal : Literal) : Str :=
  literal.whole ++ (fractionText literal.fraction ++ exponentText literal.exponent)

/-- What the grammar of JSON asks for. -/
structure Grammatical (literal : Literal) : Prop where
  some : literal.whole ≠ []
  whole : ∀ u ∈ literal.whole, isDigit u = true
  fraction : ∀ u ∈ literal.fraction, isDigit u = true
  noZero : literal.whole.head? = unit '0' → literal.whole.length = 1

end Literal

/-! ## Reading -/

-- The digits of the fraction, if there is a point.
def readFraction : Str → Option (Str × Str)
  | [] => some ([], [])
  | u :: rest =>
    if u = unit '.' then
      let ds := rest.takeWhile isDigit
      if ds = [] then none else some (ds, rest.dropWhile isDigit)
    else some ([], u :: rest)

def readSign : Str → Bool × Str
  | [] => (false, [])
  | u :: rest =>
    if u = unit '-' then (true, rest) else if u = unit '+' then (false, rest) else (false, u :: rest)

def readExponent : Str → Option (Option ℤ × Str)
  | [] => some (none, [])
  | u :: rest =>
    if u = unit 'e' ∨ u = unit 'E' then
      let (negative, rest) := readSign rest
      let ds := rest.takeWhile isDigit
      if ds = [] then none
      else
        let magnitude : ℤ := valueOf ds
        some (some (if negative then -magnitude else magnitude), rest.dropWhile isDigit)
    else some (none, u :: rest)

def readLiteral (text : Str) : Option (Literal × Str) := do
  let whole := text.takeWhile isDigit
  if whole = [] ∨ (whole.head? = unit '0' ∧ whole.length ≠ 1) then none
  else
    let (fraction, rest) ← readFraction (text.dropWhile isDigit)
    let (exponent, rest) ← readExponent rest
    some (⟨whole, fraction, exponent⟩, rest)

/-- A number of a JSON text. -/
def readNumber (text : Str) : Option (Number × Str) :=
  match text with
  | [] => none
  | u :: rest =>
    if u = unit '-' then
      (readLiteral rest).map fun read => (Number.round (-read.1.value), read.2)
    else (readLiteral text).map fun read => (Number.round read.1.value, read.2)

/-- What may follow a number. -/
def Ends (text : Str) : Prop :=
  ∀ u, text.head? = some u →
    isDigit u = false ∧ u ≠ unit '.' ∧ u ≠ unit 'e' ∧ u ≠ unit 'E'

theorem span_digits {ds rest : Str} (all : ∀ u ∈ ds, isDigit u = true)
    (stops : ∀ u, rest.head? = some u → isDigit u = false) :
    (ds ++ rest).takeWhile isDigit = ds ∧ (ds ++ rest).dropWhile isDigit = rest := by
  rw [List.takeWhile_append_of_pos all, List.dropWhile_append_of_pos all]
  cases rest with
  | nil => simp
  | cons u rest => simp [stops u rfl]

theorem readFraction_text {fraction rest : Str} (all : ∀ u ∈ fraction, isDigit u = true)
    (stops : ∀ u, rest.head? = some u → isDigit u = false ∧ u ≠ unit '.') :
    readFraction (Literal.fractionText fraction ++ rest) = some (fraction, rest) := by
  unfold Literal.fractionText
  split
  next none =>
    subst none
    cases rest with
    | nil => rfl
    | cons u rest => simp [readFraction, (stops u rfl).2]
  next present =>
    obtain ⟨taken, dropped⟩ := span_digits all fun u head => (stops u head).1
    simp [readFraction, taken, dropped, present]

theorem readExponent_text (exponent : Option ℤ) {rest : Str} (ends : Ends rest) :
    readExponent (Literal.exponentText exponent ++ rest) = some (exponent, rest) := by
  cases exponent with
  | none =>
    cases rest with
    | nil => rfl
    | cons u rest =>
      obtain ⟨-, -, lower, upper⟩ := ends u rfl
      simp [Literal.exponentText, readExponent, lower, upper]
  | some e =>
    obtain ⟨taken, dropped⟩ :=
      span_digits (digits_isDigit e.natAbs) fun u head => (ends u head).1
    have sign : readSign ((if e < 0 then unit '-' else unit '+') :: (digits e.natAbs ++ rest)) =
        (decide (e < 0), digits e.natAbs ++ rest) := by
      by_cases negative : e < 0
      · simp [readSign, negative]
      · simp [readSign, negative, show unit '+' ≠ unit '-' by decide]
    simp only [Literal.exponentText, List.cons_append, readExponent, true_or, if_true, sign, taken,
      dropped, digits_ne_nil, if_false, valueOf_digits]
    by_cases negative : e < 0
    · simp only [negative, decide_true, if_true, Option.some.injEq, Prod.mk.injEq, and_true]
      omega
    · simp only [negative, decide_false, Bool.false_eq_true, if_false, Option.some.injEq,
        Prod.mk.injEq, and_true]
      omega

theorem readLiteral_text {literal : Literal} (grammatical : literal.Grammatical) {rest : Str}
    (ends : Ends rest) : readLiteral (literal.text ++ rest) = some (literal, rest) := by
  obtain ⟨whole, fraction, exponent⟩ := literal
  -- what follows the digits of each part is no digit
  have afterFraction : ∀ u, (Literal.exponentText exponent ++ rest).head? = some u →
      isDigit u = false ∧ u ≠ unit '.' := by
    intro u head
    cases exponent with
    | none => exact ⟨(ends u head).1, (ends u head).2.1⟩
    | some e =>
      obtain rfl := Option.some.inj head
      decide
  have afterWhole : ∀ u, (Literal.fractionText fraction ++
      (Literal.exponentText exponent ++ rest)).head? = some u → isDigit u = false := by
    intro u head
    unfold Literal.fractionText at head
    split at head
    next => exact (afterFraction u head).1
    next =>
      obtain rfl := Option.some.inj head
      decide
  obtain ⟨taken, dropped⟩ := span_digits grammatical.whole afterWhole
  have plain : ¬ (whole = [] ∨ (whole.head? = unit '0' ∧ whole.length ≠ 1)) := by
    rintro (empty | ⟨zero, long⟩)
    · exact grammatical.some empty
    · exact long (grammatical.noZero zero)
  simp only [Literal.text, List.append_assoc, readLiteral, taken, dropped]
  rw [if_neg plain, readFraction_text grammatical.fraction afterFraction]
  simp [readExponent_text exponent ends]

/-! ## Writing -/

-- The exponent of the power of ten above the number.
def magnitude (x : ℚ) : ℤ := Int.log 10 |x| + 1

/-- The nearest decimal of so many digits: its digits and the exponent of the last one. -/
def nearestDecimal (x : ℚ) (count : ℕ) : ℕ × ℤ :=
  let exponent := magnitude x - count
  let significand := (Double.nearest (|x| / 10 ^ exponent)).toNat
  -- rounding up can end at the power of ten above
  if significand = 10 ^ count then (10 ^ (count - 1), exponent + 1) else (significand, exponent)

def decimalValue (decimal : ℕ × ℤ) : ℚ := decimal.1 * 10 ^ decimal.2

def withSign (x magnitude : ℚ) : ℚ := if x < 0 then -magnitude else magnitude

theorem withSign_abs (x : ℚ) : withSign x |x| = x := by
  unfold withSign
  split_ifs with negative
  · rw [abs_of_neg negative, neg_neg]
  · exact abs_of_nonneg (not_lt.mp negative)

theorem ten_zpow_pos (e : ℤ) : (0 : ℚ) < 10 ^ e := by positivity

theorem decimalValue_nearestDecimal (x : ℚ) (count : ℕ) :
    decimalValue (nearestDecimal x (count + 1)) =
      (Double.nearest (|x| / 10 ^ (magnitude x - (count + 1 : ℕ)))).toNat *
        10 ^ (magnitude x - (count + 1 : ℕ)) := by
  unfold nearestDecimal
  dsimp only
  split_ifs with power
  · rw [power, decimalValue, zpow_add₀ (by norm_num)]
    push_cast
    ring
  · rfl

namespace Finite

variable (x : Finite)

def ReadsBack (count : ℕ) : Prop :=
  Number.round (withSign x.value (decimalValue (nearestDecimal x.value (count + 1)))) = .finite x

instance (count : ℕ) : Decidable (ReadsBack x count) := inferInstanceAs (Decidable (_ = _))

theorem exists_dyadic : ∃ n e : ℤ, x.value = n * 2 ^ e :=
  ⟨_, _, x.held.symm⟩

/-- A dyadic number has a decimal expansion that ends. -/
theorem exists_readsBack : ∃ count, ReadsBack x count := by
  obtain ⟨n, e, dyadic⟩ := exists_dyadic x
  refine ⟨(magnitude x.value).natAbs + e.natAbs, ?_⟩
  set count := (magnitude x.value).natAbs + e.natAbs with counted
  obtain ⟨a, shifted⟩ : ∃ a : ℕ, (count + 1 : ℕ) - magnitude x.value = a :=
    ⟨((count + 1 : ℕ) - magnitude x.value).toNat, by omega⟩
  obtain ⟨b, raised⟩ : ∃ b : ℕ, e + a = b := ⟨(e + a).toNat, by omega⟩
  have exponent : magnitude x.value - (count + 1 : ℕ) = -(a : ℤ) := by omega
  -- the expansion with so many digits is exact
  have scaled : |x.value| / 10 ^ (-(a : ℤ)) = ((n.natAbs * 2 ^ b * 5 ^ a : ℕ) : ℤ) := by
    have two : (2 : ℚ) ^ e * 2 ^ a = 2 ^ b := by
      rw [← zpow_natCast, ← zpow_natCast, ← zpow_add₀ (by norm_num), raised]
    have ten : (10 : ℚ) ^ a = 2 ^ a * 5 ^ a := by
      rw [← mul_pow]
      norm_num
    rw [dyadic, abs_mul, abs_of_pos (Double.two_zpow_pos e), zpow_neg, div_inv_eq_mul, zpow_natCast,
      ten]
    push_cast
    rw [← two]
    ring
  have exact : decimalValue (nearestDecimal x.value (count + 1)) = |x.value| := by
    rw [decimalValue_nearestDecimal, exponent, scaled, Double.nearest_intCast, Int.toNat_natCast,
      ← Int.cast_natCast (R := ℚ), ← scaled, div_mul_cancel₀ _ (ten_zpow_pos _).ne']
  rw [ReadsBack, exact, withSign_abs]
  exact Number.round_value x

def digitCount : ℕ := Nat.find (exists_readsBack x) + 1

/-- The digits of the number and the exponent of the last one. -/
def decimal : ℕ × ℤ := nearestDecimal x.value x.digitCount

theorem round_decimal :
    Number.round (withSign x.value (decimalValue x.decimal)) = .finite x :=
  Nat.find_spec (exists_readsBack x)

theorem decimal_pos (nonzero : x.value ≠ 0) : 0 < x.decimal.1 := by
  have size : ((10 : ℕ) : ℚ) ^ Int.log 10 |x.value| ≤ |x.value| :=
    Int.zpow_log_le_self (by decide) (abs_pos.mpr nonzero)
  have large : (1 : ℚ) ≤ |x.value| / 10 ^ (magnitude x.value - x.digitCount) := by
    rw [le_div_iff₀ (ten_zpow_pos _), one_mul]
    refine le_trans (zpow_le_zpow_right₀ (by norm_num) ?_) (by exact_mod_cast size)
    unfold magnitude digitCount
    omega
  have floor : 1 ≤ ⌊|x.value| / 10 ^ (magnitude x.value - x.digitCount)⌋ :=
    Int.le_floor.mpr (by exact_mod_cast large)
  have least := Double.floor_le_nearest (|x.value| / 10 ^ (magnitude x.value - x.digitCount))
  unfold decimal nearestDecimal
  dsimp only
  split_ifs
  · exact Nat.pow_pos (by decide)
  · exact Int.lt_toNat.mpr (by omega)

end Finite

/-- Where the decimal point or the exponent goes. -/
def layout (s : ℕ) (p : ℤ) : Literal :=
  let ds := digits s
  let k : ℕ := ds.length
  let n : ℤ := k + p
  if k ≤ n ∧ n ≤ 21 then ⟨ds ++ List.replicate p.toNat (unit '0'), [], none⟩
  else if 0 < n ∧ n ≤ 21 then ⟨ds.take n.toNat, ds.drop n.toNat, none⟩
  else if -6 < n ∧ n ≤ 0 then ⟨[unit '0'], List.replicate (-n).toNat (unit '0') ++ ds, none⟩
  else ⟨ds.take 1, ds.drop 1, some (n - 1)⟩

theorem layout_value (s : ℕ) (p : ℤ) : (layout s p).value = s * 10 ^ p := by
  have length : 0 < (digits s).length := List.length_pos_iff.mpr (digits_ne_nil s)
  have value := valueOf_digits s
  unfold layout
  generalize digits s = ds at *
  dsimp only
  split_ifs with integer point small
  · obtain ⟨n, rfl⟩ := Int.eq_ofNat_of_zero_le (show 0 ≤ p by omega)
    simp [Literal.value, valueOf_append, valueOf_zeros, value]
  · have power : -((ds.drop ((ds.length : ℤ) + p).toNat).length : ℤ) = p := by
      rw [List.length_drop]
      omega
    simp [Literal.value, value, -List.length_drop, power]
  · have power : -((List.replicate (-((ds.length : ℤ) + p)).toNat (unit '0') ++ ds).length : ℤ) =
        p := by
      rw [List.length_append, List.length_replicate]
      omega
    have leading : valueOf ([unit '0'] ++
        (List.replicate (-((ds.length : ℤ) + p)).toNat (unit '0') ++ ds)) = s := by
      rw [valueOf_append, valueOf_append, valueOf_zeros, show valueOf [unit '0'] = 0 by decide, value]
      simp
    rw [Literal.value]
    simp only [leading, Option.getD_none, zero_sub, power]
  · have power : (ds.length : ℤ) + p - 1 - (ds.drop 1).length = p := by
      rw [List.length_drop]
      omega
    rw [Literal.value]
    simp only [List.take_append_drop, value, Option.getD_some, power]

theorem layout_grammatical {s : ℕ} (positive : 0 < s) (p : ℤ) : (layout s p).Grammatical := by
  have some := digits_ne_nil s
  have all := digits_isDigit s
  have head := digits_head positive
  have length : 0 < (digits s).length := List.length_pos_iff.mpr some
  unfold layout
  generalize digits s = ds at *
  have zeros (count : ℕ) : ∀ u ∈ List.replicate count (unit '0'), isDigit u = true := by
    intro u listed
    rw [List.eq_of_mem_replicate listed]
    decide
  have taken (count : ℕ) : ∀ u ∈ ds.take count, isDigit u = true :=
    fun u listed => all u (List.mem_of_mem_take listed)
  have dropped (count : ℕ) : ∀ u ∈ ds.drop count, isDigit u = true :=
    fun u listed => all u (List.mem_of_mem_drop listed)
  dsimp only
  split_ifs with integer point small
  · refine ⟨by simp [some], ?_, by simp, fun zero => ?_⟩
    · intro u listed
      rcases List.mem_append.mp listed with digit | zero
      · exact all u digit
      · exact zeros _ u zero
    · rw [List.head?_append_of_ne_nil _ some] at zero
      exact absurd zero head
  · have positive' : 0 < ((ds.length : ℤ) + p).toNat := by omega
    refine ⟨?_, taken _, dropped _, fun zero => ?_⟩
    · simpa using ⟨by omega, some⟩
    · rw [List.head?_take, if_neg (by omega)] at zero
      exact absurd zero head
  · refine ⟨by simp, zeros 1, ?_, fun _ => rfl⟩
    intro u listed
    rcases List.mem_append.mp listed with zero | digit
    · exact zeros _ u zero
    · exact all u digit
  · refine ⟨by simpa using some, taken _, dropped _, fun zero => ?_⟩
    rw [List.head?_take, if_neg (by decide)] at zero
    exact absurd zero head

namespace Finite

/-- `Number::toString`. -/
def toString (x : Finite) : Str :=
  if x.value = 0 then [unit '0']
  else
    (if x.value < 0 then [unit '-'] else []) ++ (layout x.decimal.1 x.decimal.2).text

theorem readNumber_toString (x : Finite) {rest : Str} (ends : Ends rest) :
    readNumber (x.toString ++ rest) = some (.finite x, rest) := by
  unfold toString
  split_ifs with zero negative
  · have grammatical : (⟨[unit '0'], [], none⟩ : Literal).Grammatical :=
      ⟨by simp, List.forall_mem_singleton.mpr (by decide), by simp, fun _ => rfl⟩
    have read := readLiteral_text grammatical ends
    have plain : unit '0' ≠ unit '-' := by decide
    have value : (⟨[unit '0'], [], none⟩ : Literal).value = x.value := by
      simp [Literal.value, show valueOf [unit '0'] = 0 by decide, zero]
    simp only [Literal.text, Literal.fractionText, Literal.exponentText, if_true, List.append_nil,
      List.cons_append, List.nil_append] at read
    simp only [List.cons_append, List.nil_append, readNumber, plain, if_false, read,
      Option.map_some, value, Number.round_value]
  · have read := readLiteral_text (layout_grammatical (x.decimal_pos zero) x.decimal.2) ends
    have back := x.round_decimal
    rw [withSign, if_pos negative] at back
    simp only [List.cons_append, List.nil_append, readNumber, if_true, read, Option.map_some,
      layout_value]
    exact congrArg (fun number => some (number, rest)) back
  · have grammatical := layout_grammatical (x.decimal_pos zero) x.decimal.2
    have read := readLiteral_text grammatical ends
    have back := x.round_decimal
    rw [withSign, if_neg negative] at back
    obtain ⟨u, whole, first⟩ := List.exists_cons_of_ne_nil grammatical.some
    have digit := grammatical.whole u (by simp [first])
    have plain : u ≠ unit '-' := by
      rintro rfl
      exact absurd digit (by decide)
    rw [List.nil_append]
    have text : (layout x.decimal.1 x.decimal.2).text ++ rest =
        u :: (whole ++ (Literal.fractionText (layout x.decimal.1 x.decimal.2).fraction ++
          Literal.exponentText (layout x.decimal.1 x.decimal.2).exponent) ++ rest) := by
      simp [Literal.text, first]
    rw [text] at read ⊢
    simp only [readNumber, plain, if_false, read, Option.map_some, layout_value]
    exact congrArg (fun number => some (number, rest)) back

end Finite

end Shared.Ecma

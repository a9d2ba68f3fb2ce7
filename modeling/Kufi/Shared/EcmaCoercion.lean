import Kufi.Shared.EcmaJson
import Mathlib.Data.List.DropRight

set_option autoImplicit false

/-!
# ECMAScript conversions

`Number(value)`, `String(value)` inside an array and truth, for the values that
`JSON.parse` makes. `undefined` is a missing value.
-/

namespace Shared.Ecma

namespace Number

def zero : Number := .finite ⟨0, by rw [abs_zero]; unfold Double.limit; positivity, by simp⟩

def isPositive : Number → Bool
  | .finite x => 0 < x.value
  | .infinity negative => !negative

def isFinite : Number → Bool
  | .finite _ => true
  | .infinity _ => false

def toString : Number → Str
  | .finite x => x.toString
  | .infinity negative => (if negative then [unit '-'] else []) ++ Str.of "Infinity"

end Number

/-! ## Strings -/

/-- `WhiteSpace` and `LineTerminator`. -/
def isBlank (u : UInt16) : Bool :=
  u.toNat ∈ [0x09, 0x0A, 0x0B, 0x0C, 0x0D, 0x20, 0xA0, 0x1680, 0x2028, 0x2029, 0x202F, 0x205F,
    0x3000, 0xFEFF] || (0x2000 ≤ u.toNat && u.toNat ≤ 0x200A)

/-- `String.prototype.trim`. -/
def trim (text : Str) : Str := (text.dropWhile isBlank).rdropWhile isBlank

theorem dropWhile_initial {p : UInt16 → Bool} {text kept : Str} (first : kept <+: text)
    (solid : text.dropWhile p = text) : kept.dropWhile p = kept := by
  cases kept with
  | nil => rfl
  | cons u rest =>
    obtain ⟨more, rfl⟩ := first
    rw [List.dropWhile_eq_self_iff] at solid ⊢
    simpa using solid

theorem trim_trim (text : Str) : trim (trim text) = trim text := by
  unfold trim
  rw [dropWhile_initial (List.rdropWhile_prefix _ _) (List.dropWhile_idempotent _ _),
    List.rdropWhile_idempotent]

/-- A literal of this radix after its prefix, if its digits are of the radix. -/
def readRadix (radix : ℕ) (ds : Str) : Option ℚ :=
  match ds.mapM hexDigit? with
  | some values =>
    if ds = [] ∨ ¬ values.all (· < radix) then none
    else some (values.foldl (fun total d => total * radix + d) 0 : ℕ)
  | none => none

-- Unlike in JSON the digits before or after the point may be missing.
def readDecimal (text : Str) : Option ℚ :=
  let whole := text.takeWhile isDigit
  let rest := text.dropWhile isDigit
  let point := rest.head? = some (unit '.')
  let fraction := if point then rest.tail.takeWhile isDigit else []
  let rest := if point then rest.tail.dropWhile isDigit else rest
  if whole = [] ∧ fraction = [] then none
  else
    match readExponent rest with
    | some (exponent, []) => some (⟨whole, fraction, exponent⟩ : Literal).value
    | _ => none

def readSigned (text : Str) : Option Number :=
  let (negative, magnitude) := readSign text
  if magnitude = Str.of "Infinity" then some (.infinity negative)
  else
    (readDecimal magnitude).map fun x => Number.round (if negative then -x else x)

/-- `Number(text)`; `none` is `NaN`. -/
def stringToNumber (text : Str) : Option Number :=
  match trim text with
  | [] => some Number.zero
  | [u] => readSigned [u]
  | u :: letter :: rest =>
    if u = unit '0' ∧ (letter = unit 'x' ∨ letter = unit 'X') then
      (readRadix 16 rest).map Number.round
    else if u = unit '0' ∧ (letter = unit 'o' ∨ letter = unit 'O') then
      (readRadix 8 rest).map Number.round
    else if u = unit '0' ∧ (letter = unit 'b' ∨ letter = unit 'B') then
      (readRadix 2 rest).map Number.round
    else readSigned (u :: letter :: rest)

/-! ## Values -/

def joined (separator : UInt16) : List Str → Str
  | [] => []
  | [text] => text
  | text :: rest => text ++ separator :: joined separator rest

mutual

/-- `String(value)`; `none` when it throws. -/
def toText : Value → Option Str
  | .null => some (Str.of "null")
  | .bool value => some (Str.of (if value then "true" else "false"))
  | .number n => some n.toString
  | .string text => some text
  | .array items => (itemTexts items).map (joined (unit ','))
  -- a member that is no function takes the place of `Object.prototype.toString`
  | .object members =>
    if (Members.get members (Str.of "toString")).isSome then none
    else some (Str.of "[object Object]")

-- A missing item is written as nothing.
def itemTexts : List Value → Option (List Str)
  | [] => some []
  | .null :: rest => (itemTexts rest).map fun texts => [] :: texts
  | item :: rest => do
    let text ← toText item
    let texts ← itemTexts rest
    some (text :: texts)

end

/-- What `Number(value)` ends with. -/
inductive Coerced where
  | throws
  | nan
  | number (n : Number)
  deriving DecidableEq

def Coerced.of : Option Number → Coerced
  | some n => .number n
  | none => .nan

/-- `Number(value)`. -/
def toNumber : Option Value → Coerced
  | none => .nan
  | some .null => .number Number.zero
  | some (.bool value) => .number (if value then Number.ofNat 1 else Number.zero)
  | some (.number n) => .number n
  | some (.string text) => .of (stringToNumber text)
  | some (.array items) =>
    match itemTexts items with
    | some texts => .of (stringToNumber (joined (unit ',') texts))
    | none => .throws
  | some (.object members) =>
    if (Members.get members (Str.of "toString")).isSome then .throws else .nan

def truthy : Option Value → Bool
  | none | some .null | some (.bool false) => false
  | some (.number n) => n ≠ Number.zero
  | some (.string text) => text ≠ []
  | _ => true

/-- `typeof value === 'object'` of a value that is not `null`. -/
def isObject : Option Value → Bool
  | some (.array _) | some (.object _) => true
  | _ => false

/-- A named property of a value; no name that is asked for is inherited. -/
def property (value : Option Value) (name : String) : Option Value :=
  match value with
  | some (.object members) => Members.get members (Str.of name)
  | _ => none

/-- The members that `{...value}` copies. -/
def ownEntries : Value → Members
  | .object members => members
  | .array items => items.zipIdx.map fun item => (digits item.2, item.1)
  | _ => []

end Shared.Ecma

import Mathlib.Algebra.GroupWithZero.Nat
import Mathlib.Data.List.DropRight

set_option autoImplicit false

/-!
# Strings at the service boundary

The string operations of ECMAScript that requests go through, and the text
format of PostgreSQL's `uuid` type.
-/

namespace Shared

namespace Text

/-- ECMAScript `WhiteSpace` and `LineTerminator` code points. -/
def isSpace (c : Char) : Bool :=
  c.toNat ∈ [0x09, 0x0A, 0x0B, 0x0C, 0x0D, 0x20, 0xA0, 0x1680, 0x2028, 0x2029, 0x202F, 0x205F,
    0x3000, 0xFEFF] || (0x2000 ≤ c.toNat && c.toNat ≤ 0x200A)

/-- `String.prototype.trim`. -/
def trim (text : String) : String :=
  String.ofList (((text.toList.dropWhile isSpace).reverse.dropWhile isSpace).reverse)

theorem trim_trim (text : String) : trim (trim text) = trim text := by
  have kept : ((text.toList.dropWhile isSpace).rdropWhile isSpace).dropWhile isSpace =
      (text.toList.dropWhile isSpace).rdropWhile isSpace := by
    rw [List.dropWhile_eq_self_iff]
    intro nonempty
    rw [(List.rdropWhile_prefix isSpace _).getElem nonempty]
    exact List.dropWhile_get_zero_not isSpace text.toList _
  calc trim (trim text)
      = String.ofList ((((text.toList.dropWhile isSpace).rdropWhile isSpace).dropWhile
          isSpace).rdropWhile isSpace) := by
        simp only [trim, String.toList_ofList, List.rdropWhile]
    _ = trim text := by
        rw [kept, List.rdropWhile_idempotent]
        rfl

/-- `String.prototype.length`: UTF-16 code units. -/
def utf16Length (text : String) : Nat :=
  (text.toList.map fun c => if c.toNat < 0x10000 then 1 else 2).sum

-- Half of a surrogate pair has no encoding of its own.
def takeUnits : Nat → List Char → List Char
  | 0, _ | _, [] => []
  | 1, c :: _ => [if c.toNat < 0x10000 then c else '\uFFFD']
  | n + 2, c :: rest =>
    c :: if c.toNat < 0x10000 then takeUnits (n + 1) rest else takeUnits n rest

/-- `text.slice(0, n)`, as it is encoded in UTF-8. -/
def slice (n : Nat) (text : String) : String :=
  String.ofList (takeUnits n text.toList)

/-- The characters a `varchar` counts. -/
def codePoints (text : String) : Nat :=
  text.toList.length

/-- The value of `left || right` on strings. -/
def orElse (left right : String) : String :=
  if left = "" then right else left

/-- The value of `text || null`. -/
def nonEmpty? (text : String) : Option String :=
  if text = "" then none else some text

end Text

/-- A uuid value: the hexadecimal digits in the order they are written. -/
structure Uuid where
  digits : List (Fin 16)
  deriving DecidableEq, Repr

namespace Uuid

def digit? (c : Char) : Option (Fin 16) :=
  let n := c.toNat
  if 48 ≤ n ∧ n ≤ 57 then some (Fin.ofNat 16 (n - 48))
  else if 97 ≤ n ∧ n ≤ 102 then some (Fin.ofNat 16 (n - 87))
  else if 65 ≤ n ∧ n ≤ 70 then some (Fin.ofNat 16 (n - 55))
  else none

/-- A hyphen is skipped after an even number of bytes, except the last. -/
def skipHyphen (byte : Nat) : List Char → List Char
  | '-' :: rest => if byte % 2 = 1 ∧ byte < 15 then rest else '-' :: rest
  | text => text

/-- `uuid_in` from byte `byte` on, with the digits left to read and the text after them. -/
def readBytes : Nat → Nat → List Char → Option (List (Fin 16) × List Char)
  | 0, _, text => some ([], text)
  | count + 1, byte, high :: low :: text => do
    let first ← digit? high
    let second ← digit? low
    let (digits, rest) ← readBytes count (byte + 1) (skipHyphen byte text)
    pure (first :: second :: digits, rest)
  | _ + 1, _, _ => none

/-- `uuid_in`: upper or lower case, optional hyphens and optional braces. -/
def parse (text : String) : Option Uuid :=
  match text.toList with
  | '{' :: inner =>
    match readBytes 16 0 inner with
    | some (digits, ['}']) => some ⟨digits⟩
    | _ => none
  | plain =>
    match readBytes 16 0 plain with
    | some (digits, []) => some ⟨digits⟩
    | _ => none

def hexChar (digit : Fin 16) : Char :=
  "0123456789abcdef".toList.getD digit.val '0'

/-- `uuid_out`: lower case, hyphens after 8, 12, 16 and 20 digits. -/
def format (id : Uuid) : String :=
  let text := id.digits.map hexChar
  String.ofList (text.take 8 ++ '-' :: (text.drop 8).take 4 ++ '-' :: (text.drop 12).take 4 ++
    '-' :: (text.drop 16).take 4 ++ '-' :: text.drop 20)

/-- The spelling in which the database gives the id back. -/
def Canonical (text : String) : Prop :=
  ∃ id, parse text = some id ∧ id.format = text

theorem Canonical.parse_injective {left right : String} (first : Canonical left)
    (second : Canonical right) (same : parse left = parse right) : left = right := by
  obtain ⟨id, parsed, spelled⟩ := first
  obtain ⟨other, otherParsed, otherSpelled⟩ := second
  have equal : id = other := by
    rw [parsed, otherParsed] at same
    exact Option.some.inj same
  rw [← spelled, ← otherSpelled, equal]

example : parse "A0EEBC99-9C0B-4EF8-BB6D-6BB9BD380A11" =
    parse "{a0eebc999c0b4ef8bb6d6bb9bd380a11}" := by decide

end Uuid

end Shared

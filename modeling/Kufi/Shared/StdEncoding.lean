import Mathlib.Data.List.Basic
import Mathlib.Tactic.Linarith

set_option autoImplicit false

/-!
# Base64

The standard encoding with padding. A reader skips line breaks and does not
look at the bits that the last digit has left.
-/

namespace Shared

namespace StdEncoding

abbrev Bytes := List UInt8

def alphabet : List Char :=
  "ABCDEFGHIJKLMNOPQRSTUVWXYZabcdefghijklmnopqrstuvwxyz0123456789+/".toList

def digit (n : Nat) : Char := alphabet.getD n '='

def value (c : Char) : Option Nat := alphabet.idxOf? c

def encode : Bytes → List Char
  | [] => []
  | [x] => [digit (x.toNat / 4), digit (x.toNat % 4 * 16), '=', '=']
  | [x, y] =>
    [digit (x.toNat / 4), digit (x.toNat % 4 * 16 + y.toNat / 16), digit (y.toNat % 16 * 4), '=']
  | x :: y :: z :: rest =>
    digit (x.toNat / 4) :: digit (x.toNat % 4 * 16 + y.toNat / 16) ::
      digit (y.toNat % 16 * 4 + z.toNat / 64) :: digit (z.toNat % 64) :: encode rest

/-- The first byte of four digits, the second and the third. -/
def first (a b : Nat) : UInt8 := UInt8.ofNat (a * 4 + b / 16)
def second (b c : Nat) : UInt8 := UInt8.ofNat (b % 16 * 16 + c / 4)
def third (c d : Nat) : UInt8 := UInt8.ofNat (c % 4 * 64 + d)

def decode : List Char → Option Bytes
  | [] => some []
  | [x, y, '=', '='] => do
    let a ← value x
    let b ← value y
    some [first a b]
  | [x, y, z, '='] => do
    let a ← value x
    let b ← value y
    let c ← value z
    some [first a b, second b c]
  | x :: y :: z :: w :: rest => do
    let a ← value x
    let b ← value y
    let c ← value z
    let d ← value w
    let later ← decode rest
    some (first a b :: second b c :: third c d :: later)
  | _ => none

def encodeToString (bytes : Bytes) : String := String.ofList (encode bytes)

def decodeString (text : String) : Option Bytes :=
  decode (text.toList.filter fun c => c != '\n' && c != '\r')

/-! ## Reading back -/

attribute [local simp] encode decode

/-- The table of digits, evaluated once. -/
theorem alphabet_checked :
    (∀ n : Fin 64, value (digit n) = some n.val ∧ digit n ≠ '=') ∧
      ('=' :: alphabet).all (fun c => c != '\n' && c != '\r') = true := by
  decide +kernel

theorem value_digit {n : Nat} (small : n < 64) : value (digit n) = some n :=
  (alphabet_checked.1 ⟨n, small⟩).1

theorem digit_ne_padding {n : Nat} (small : n < 64) : digit n ≠ '=' :=
  (alphabet_checked.1 ⟨n, small⟩).2

theorem first_digits (x : UInt8) {low : Nat} (small : low < 16) :
    first (x.toNat / 4) (x.toNat % 4 * 16 + low) = x := by
  have whole : x.toNat / 4 * 4 + (x.toNat % 4 * 16 + low) / 16 = x.toNat := by omega
  rw [first, whole, UInt8.ofNat_toNat]

theorem second_digits (high : Nat) (y : UInt8) {low : Nat} (small : low < 4) :
    second (high * 16 + y.toNat / 16) (y.toNat % 16 * 4 + low) = y := by
  have byte := y.toNat_lt
  have whole : (high * 16 + y.toNat / 16) % 16 * 16 + (y.toNat % 16 * 4 + low) / 4 = y.toNat := by
    omega
  rw [second, whole, UInt8.ofNat_toNat]

theorem third_digits (high : Nat) (z : UInt8) :
    third (high * 4 + z.toNat / 64) (z.toNat % 64) = z := by
  have byte := z.toNat_lt
  have whole : (high * 4 + z.toNat / 64) % 4 * 64 + z.toNat % 64 = z.toNat := by omega
  rw [third, whole, UInt8.ofNat_toNat]

theorem decode_three {x y z : Char} (digits : z ≠ '=') :
    decode [x, y, z, '='] = (do
      let a ← value x
      let b ← value y
      let c ← value z
      some [first a b, second b c]) := by
  rw [decode]
  exact digits

theorem decode_four {x y z w : Char} {rest : List Char} (digits : w ≠ '=') :
    decode (x :: y :: z :: w :: rest) = (do
      let a ← value x
      let b ← value y
      let c ← value z
      let d ← value w
      let later ← decode rest
      some (first a b :: second b c :: third c d :: later)) := by
  rw [decode]
  · rintro rfl rfl rfl
    exact digits rfl
  · rintro rfl rfl
    exact digits rfl

theorem decode_encode (bytes : Bytes) : decode (encode bytes) = some bytes := by
  induction bytes using encode.induct with
  | case1 => rfl
  | case2 x =>
    have bound := x.toNat_lt
    have head := first_digits x (show 0 < 16 by omega)
    simp only [encode, decode, value_digit (show x.toNat / 4 < 64 by omega),
      value_digit (show x.toNat % 4 * 16 < 64 by omega), Option.bind_eq_bind, Option.bind_some]
    rw [← Nat.add_zero (x.toNat % 4 * 16), head]
  | case3 x y =>
    have bound := x.toNat_lt
    have bound' := y.toNat_lt
    have head := first_digits x (show y.toNat / 16 < 16 by omega)
    have last := second_digits (x.toNat % 4) y (show 0 < 4 by omega)
    have padded := digit_ne_padding (show y.toNat % 16 * 4 < 64 by omega)
    rw [encode, decode_three padded]
    simp only [value_digit (show x.toNat / 4 < 64 by omega),
      value_digit (show x.toNat % 4 * 16 + y.toNat / 16 < 64 by omega),
      value_digit (show y.toNat % 16 * 4 < 64 by omega), Option.bind_eq_bind, Option.bind_some, head]
    rw [← Nat.add_zero (y.toNat % 16 * 4), last]
  | case4 x y z rest ih =>
    have bound := x.toNat_lt
    have bound' := y.toNat_lt
    have bound'' := z.toNat_lt
    have head := first_digits x (show y.toNat / 16 < 16 by omega)
    have middle := second_digits (x.toNat % 4) y (show z.toNat / 64 < 4 by omega)
    have last := third_digits (y.toNat % 16) z
    rw [encode, decode_four (digit_ne_padding (by omega))]
    simp only [value_digit (show x.toNat / 4 < 64 by omega),
      value_digit (show x.toNat % 4 * 16 + y.toNat / 16 < 64 by omega),
      value_digit (show y.toNat % 16 * 4 + z.toNat / 64 < 64 by omega),
      value_digit (show z.toNat % 64 < 64 by omega), ih, head, middle, last, Option.bind_eq_bind,
      Option.bind_some]

theorem digit_mem (n : Nat) : digit n ∈ '=' :: alphabet := by
  unfold digit
  rw [List.getD_eq_getElem?_getD]
  cases found : alphabet[n]? with
  | none => exact List.mem_cons_self
  | some c => exact List.mem_cons_of_mem _ (List.mem_of_getElem? found)

theorem mem_encode (bytes : Bytes) : ∀ c ∈ encode bytes, c ∈ '=' :: alphabet := by
  have padding : '=' ∈ '=' :: alphabet := List.mem_cons_self
  induction bytes using encode.induct with
  | case1 => simp
  | case2 x => simp [-List.mem_cons, List.forall_mem_cons, digit_mem, padding]
  | case3 x y => simp [-List.mem_cons, List.forall_mem_cons, digit_mem, padding]
  | case4 x y z rest ih =>
    simp only [encode, List.forall_mem_cons, digit_mem, true_and]
    exact ih

theorem encode_ne_nil {bytes : Bytes} (some : bytes ≠ []) : encode bytes ≠ [] := by
  fun_cases encode bytes with
  | case1 => exact absurd rfl some
  | _ => exact List.cons_ne_nil _ _

theorem decodeString_encodeToString (bytes : Bytes) :
    decodeString (encodeToString bytes) = some bytes := by
  have unbroken := List.all_eq_true.mp alphabet_checked.2
  unfold decodeString encodeToString
  rw [String.toList_ofList,
    List.filter_eq_self.mpr fun c member => unbroken c (mem_encode bytes c member)]
  exact decode_encode bytes

end StdEncoding

end Shared

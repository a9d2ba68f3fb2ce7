import Mathlib.Data.Nat.Digits.Lemmas

set_option autoImplicit false

/-!
# DER

The distinguished encoding of ASN.1: an element is a tag, the length of its
content and the content. Nothing tells where an element ends but its length, so
what follows an encoded element can be cancelled.
-/

namespace Shared

namespace Der

abbrev Bytes := List UInt8

/-! ## Numbers -/

/-- The bytes of a number, the most significant one first and not zero. -/
def bigEndian (n : Nat) : Bytes := ((Nat.digits 256 n).map UInt8.ofNat).reverse

def ofBigEndian (bytes : Bytes) : Nat := Nat.ofDigits 256 (bytes.reverse.map UInt8.toNat)

@[simp] theorem ofBigEndian_bigEndian (n : Nat) : ofBigEndian (bigEndian n) = n := by
  have bytes : (Nat.digits 256 n).map (UInt8.toNat ∘ UInt8.ofNat) = Nat.digits 256 n := by
    conv_rhs => rw [← List.map_id (Nat.digits 256 n)]
    refine List.map_congr_left fun digit member => ?_
    have small : digit < 256 := Nat.digits_lt_base (by decide) member
    simp [Nat.mod_eq_of_lt small]
  rw [ofBigEndian, bigEndian, List.reverse_reverse, List.map_map, bytes, Nat.ofDigits_digits]

@[simp] theorem ofBigEndian_zero_cons (bytes : Bytes) :
    ofBigEndian (0 :: bytes) = ofBigEndian bytes := by
  simp [ofBigEndian, Nat.ofDigits_append]

theorem length_bigEndian_le {n k : Nat} (small : n < 256 ^ k) : (bigEndian n).length ≤ k := by
  rw [bigEndian, List.length_reverse, List.length_map]
  exact (Nat.digits_length_le_iff (by decide) n).mpr small

/-! ## Lengths -/

/-- The length fits into the 126 bytes of the long form. -/
def Short (n : Nat) : Prop := n < 256 ^ 126

theorem short_of_lt {n k : Nat} (few : k ≤ 126) (small : n < 256 ^ k) : Short n :=
  small.trans_le (Nat.pow_le_pow_right (by decide) few)

/-- One byte below 128; else the count of the bytes of the number and these. -/
def encodeLength (n : Nat) : Bytes :=
  if n < 128 then [UInt8.ofNat n]
  else UInt8.ofNat (128 + (bigEndian n).length) :: bigEndian n

def readLength : Bytes → Option (Nat × Bytes)
  | [] => none
  | first :: rest =>
    if first.toNat < 128 then some (first.toNat, rest)
    else
      let count := first.toNat - 128
      some (ofBigEndian (rest.take count), rest.drop count)

theorem readLength_encodeLength {n : Nat} (short : Short n) (rest : Bytes) :
    readLength (encodeLength n ++ rest) = some (n, rest) := by
  unfold encodeLength
  split
  next small =>
    have byte : (UInt8.ofNat n).toNat = n := by simp; omega
    simp [readLength, byte, small]
  next =>
    have count := length_bigEndian_le short
    have byte : (UInt8.ofNat (128 + (bigEndian n).length)).toNat = 128 + (bigEndian n).length := by
      simp
      omega
    simp only [List.cons_append, readLength, byte]
    simp

/-! ## Elements -/

def element (tag : UInt8) (content : Bytes) : Bytes :=
  tag :: (encodeLength content.length ++ content)

def readElement : Bytes → Option (UInt8 × Bytes × Bytes)
  | [] => none
  | tag :: bytes =>
    (readLength bytes).map fun (count, rest) => (tag, rest.take count, rest.drop count)

theorem readElement_element {tag : UInt8} {content : Bytes} (short : Short content.length)
    (rest : Bytes) : readElement (element tag content ++ rest) = some (tag, content, rest) := by
  simp [element, readElement, List.append_assoc, readLength_encodeLength short]

theorem element_cancel {tag tag' : UInt8} {content content' rest rest' : Bytes}
    (short : Short content.length) (short' : Short content'.length)
    (same : element tag content ++ rest = element tag' content' ++ rest') :
    tag = tag' ∧ content = content' ∧ rest = rest' := by
  have read : readElement (element tag content ++ rest) = some (tag, content, rest) :=
    readElement_element short rest
  rw [same, readElement_element short' rest'] at read
  simpa [eq_comm] using read

/-- The content of a nonnegative `INTEGER`: a leading zero keeps the sign bit clear. -/
def naturalContent (n : Nat) : Bytes :=
  match bigEndian n with
  | [] => [0]
  | first :: rest => if first.toNat < 128 then first :: rest else 0 :: first :: rest

theorem ofBigEndian_naturalContent (n : Nat) : ofBigEndian (naturalContent n) = n := by
  have whole := ofBigEndian_bigEndian n
  unfold naturalContent
  split
  next none =>
    rw [none] at whole
    rw [← whole]
    rfl
  next some =>
    rw [some] at whole
    split <;> simpa using whole

theorem naturalContent_injective : Function.Injective naturalContent :=
  Function.LeftInverse.injective ofBigEndian_naturalContent

theorem length_naturalContent_le {n k : Nat} (small : n < 256 ^ k) :
    (naturalContent n).length ≤ k + 1 := by
  have count := length_bigEndian_le small
  unfold naturalContent
  split
  next => simp
  next some =>
    rw [some] at count
    split <;> simp at count ⊢ <;> omega

def natural (n : Nat) : Bytes := element 0x02 (naturalContent n)

def octetString (bytes : Bytes) : Bytes := element 0x04 bytes

def sequence (parts : List Bytes) : Bytes := element 0x30 parts.flatten

theorem length_encodeLength_le {n : Nat} (short : Short n) : (encodeLength n).length ≤ 127 := by
  have count := length_bigEndian_le short
  unfold encodeLength
  split
  · simp
  · simp
    omega

theorem length_element_le {tag : UInt8} {content : Bytes} (short : Short content.length) :
    (element tag content).length ≤ content.length + 128 := by
  have count := length_encodeLength_le short
  simp [element]
  omega

example : natural 128 = [0x02, 0x02, 0x00, 0x80] := by decide

end Der

end Shared

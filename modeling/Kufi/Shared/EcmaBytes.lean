import Kufi.Shared.EcmaCoercion
import Kufi.Shared.StdEncoding
import Mathlib.Data.List.TakeWhile

set_option autoImplicit false

/-!
# Strings as bytes

`Buffer.from(text, encoding)` and `buffer.toString(encoding)` for UTF-8 and for
base64url. A reader replaces what is not UTF-8 and skips what is no digit.
-/

namespace Shared.Ecma

abbrev Bytes := StdEncoding.Bytes

def Ascii (text : Str) : Prop := ∀ u ∈ text, u.toNat < 128

/-! ## UTF-8 -/

namespace Utf8

def encodePoint (n : ℕ) : Bytes :=
  if n < 0x80 then [.ofNat n]
  else if n < 0x800 then [.ofNat (0xC0 + n / 64), .ofNat (0x80 + n % 64)]
  else if n < 0x10000 then
    [.ofNat (0xE0 + n / 4096), .ofNat (0x80 + n / 64 % 64), .ofNat (0x80 + n % 64)]
  else
    [.ofNat (0xF0 + n / 262144), .ofNat (0x80 + n / 4096 % 64), .ofNat (0x80 + n / 64 % 64),
      .ofNat (0x80 + n % 64)]

-- Half of a surrogate pair is written as the replacement character.
def encodeUnit (u : UInt16) : Bytes :=
  encodePoint (if isLead u || isTrail u then 0xFFFD else u.toNat)

def encode : Str → Bytes
  | [] => []
  | [u] => encodeUnit u
  | u :: v :: rest =>
    if isLead u && isTrail v then
      encodePoint (0x10000 + (u.toNat - 0xD800) * 0x400 + (v.toNat - 0xDC00)) ++ encode rest
    else encodeUnit u ++ encode (v :: rest)

def unitsOf (n : ℕ) : Str :=
  if n < 0x10000 then [.ofNat n]
  else [.ofNat (0xD800 + (n - 0x10000) / 0x400), .ofNat (0xDC00 + (n - 0x10000) % 0x400)]

/-- A sequence that has begun: the bytes it lacks, the range of the next one and the point so far. -/
structure Pending where
  needed : ℕ
  lower : ℕ
  upper : ℕ
  point : ℕ

def first (b : ℕ) : Str × Option Pending :=
  if b < 0x80 then ([.ofNat b], none)
  else if 0xC2 ≤ b ∧ b ≤ 0xDF then ([], some ⟨1, 0x80, 0xBF, b % 32⟩)
  else if 0xE0 ≤ b ∧ b ≤ 0xEF then
    ([], some ⟨2, if b = 0xE0 then 0xA0 else 0x80, if b = 0xED then 0x9F else 0xBF, b % 16⟩)
  else if 0xF0 ≤ b ∧ b ≤ 0xF4 then
    ([], some ⟨3, if b = 0xF0 then 0x90 else 0x80, if b = 0xF4 then 0x8F else 0xBF, b % 8⟩)
  else ([0xFFFD], none)

-- A byte out of range ends the sequence before it and is read again.
def next (pending : Pending) (b : ℕ) : Str × Option Pending :=
  if pending.lower ≤ b ∧ b ≤ pending.upper then
    let point := pending.point * 64 + b % 64
    if pending.needed ≤ 1 then (unitsOf point, none)
    else ([], some ⟨pending.needed - 1, 0x80, 0xBF, point⟩)
  else (0xFFFD :: (first b).1, (first b).2)

def decodeFrom : Option Pending → Bytes → Str
  | none, [] => []
  | some _, [] => [0xFFFD]
  | none, b :: rest => (first b.toNat).1 ++ decodeFrom (first b.toNat).2 rest
  | some pending, b :: rest =>
    (next pending b.toNat).1 ++ decodeFrom (next pending b.toNat).2 rest

def decode (bytes : Bytes) : Str := decodeFrom none bytes

theorem surrogate_large {u : UInt16} (small : u.toNat < 128) :
    isLead u = false ∧ isTrail u = false := by
  simp [isLead, isTrail]
  omega

theorem encodeUnit_ascii {u : UInt16} (small : u.toNat < 128) :
    encodeUnit u = [UInt8.ofNat u.toNat] := by
  obtain ⟨lead, trail⟩ := surrogate_large small
  simp [encodeUnit, encodePoint, lead, trail, small]

theorem encode_ascii {text : Str} (ascii : Ascii text) :
    encode text = text.map fun u => UInt8.ofNat u.toNat := by
  induction text using encode.induct with
  | case1 => rfl
  | case2 u => simp [encode, encodeUnit_ascii (ascii u (by simp))]
  | case3 u v rest pair ih =>
    have small := surrogate_large (ascii u (by simp))
    simp [small.1] at pair
  | case4 u v rest single ih =>
    rw [encode, if_neg single, encodeUnit_ascii (ascii u (by simp)),
      ih fun w listed => ascii w (by simp_all)]
    rfl

-- Only an ASCII unit has an ASCII byte first.
theorem encodePoint_large {n : ℕ} (large : 128 ≤ n) (bound : n < 0x110000) :
    ∃ b ∈ encodePoint n, 128 ≤ b.toNat := by
  unfold encodePoint
  rw [if_neg (by omega)]
  split_ifs
  all_goals
    refine ⟨_, List.mem_cons_self, ?_⟩
    rw [UInt8.toNat_ofNat']
    omega

theorem encodeUnit_large {u : UInt16} (large : 128 ≤ u.toNat) :
    ∃ b ∈ encodeUnit u, 128 ≤ b.toNat := by
  have bound := u.toNat_lt
  unfold encodeUnit
  split_ifs
  · exact encodePoint_large (by decide) (by decide)
  · exact encodePoint_large large (by omega)

theorem ascii_of_encode {text : Str} (bytes : ∀ b ∈ encode text, b.toNat < 128) : Ascii text := by
  have unit_small {u : UInt16} (small : ∀ b ∈ encodeUnit u, b.toNat < 128) : u.toNat < 128 := by
    by_contra large
    obtain ⟨b, listed, big⟩ := encodeUnit_large (Nat.le_of_not_lt large)
    exact absurd (small b listed) (by omega)
  induction text using encode.induct with
  | case1 => simp [Ascii]
  | case2 u => simpa [Ascii] using unit_small bytes
  | case3 u v rest pair ih =>
    rw [encode, if_pos pair] at bytes
    simp only [isLead, isTrail, Bool.and_eq_true, decide_eq_true_eq] at pair
    obtain ⟨b, listed, big⟩ := encodePoint_large
      (n := 0x10000 + (u.toNat - 0xD800) * 0x400 + (v.toNat - 0xDC00)) (by omega) (by omega)
    exact absurd (bytes b (List.mem_append_left _ listed)) (by omega)
  | case4 u v rest single ih =>
    rw [encode, if_neg single] at bytes
    have head := unit_small fun b listed => bytes b (List.mem_append_left _ listed)
    have tail := ih fun b listed => bytes b (List.mem_append_right _ listed)
    simpa [Ascii, head] using tail

theorem decode_encode {text : Str} (ascii : Ascii text) : decode (encode text) = text := by
  rw [encode_ascii ascii, decode]
  induction text with
  | nil => rfl
  | cons u rest ih =>
    have small := ascii u (by simp)
    have byte : (UInt8.ofNat u.toNat).toNat = u.toNat := by
      rw [UInt8.toNat_ofNat']
      omega
    have tail := ih fun v listed => ascii v (by simp [listed])
    rw [List.map_cons, decodeFrom, byte, first, if_pos small, tail, UInt16.ofNat_toNat]
    rfl

/-- No other text has the bytes of an ASCII text. -/
theorem eq_of_encode_eq {text other : Str} (ascii : Ascii other)
    (same : encode text = encode other) : text = other := by
  have bytes : ∀ b ∈ encode text, b.toNat < 128 := by
    rw [same, encode_ascii ascii]
    intro b listed
    obtain ⟨u, held, rfl⟩ := List.mem_map.mp listed
    have small := ascii u held
    rw [UInt8.toNat_ofNat']
    omega
  rw [← decode_encode (ascii_of_encode bytes), same, decode_encode ascii]

end Utf8

/-! ## Base64url -/

namespace UrlEncoding

def alphabet : Str :=
  Str.of "ABCDEFGHIJKLMNOPQRSTUVWXYZabcdefghijklmnopqrstuvwxyz0123456789-_"

def digit (n : ℕ) : UInt16 := alphabet.getD n 0

-- The digits of the standard alphabet are read as well.
def value? (u : UInt16) : Option ℕ :=
  if u = unit '+' then some 62 else if u = unit '/' then some 63 else alphabet.idxOf? u

def sextets : Bytes → List ℕ
  | [] => []
  | [x] => [x.toNat / 4, x.toNat % 4 * 16]
  | [x, y] => [x.toNat / 4, x.toNat % 4 * 16 + y.toNat / 16, y.toNat % 16 * 4]
  | x :: y :: z :: rest =>
    x.toNat / 4 :: (x.toNat % 4 * 16 + y.toNat / 16) :: (y.toNat % 16 * 4 + z.toNat / 64) ::
      z.toNat % 64 :: sextets rest

def joinSextets : List ℕ → Bytes
  | a :: b :: c :: d :: rest =>
    StdEncoding.first a b :: StdEncoding.second b c :: StdEncoding.third c d :: joinSextets rest
  | [a, b, c] => [StdEncoding.first a b, StdEncoding.second b c]
  | [a, b] => [StdEncoding.first a b]
  | _ => []

def encode (bytes : Bytes) : Str := (sextets bytes).map digit

-- Padding ends the text.
def decode (text : Str) : Bytes :=
  joinSextets ((text.takeWhile (· ≠ unit '=')).filterMap value?)

/-- The table of digits, evaluated once. -/
theorem alphabet_checked :
    ∀ n : Fin 64, value? (digit n) = some n.val ∧ (digit n).toNat < 128 ∧
      digit n ≠ unit '=' ∧ digit n ≠ unit '.' ∧ isBlank (digit n) = false := by
  decide +kernel

theorem sextets_small (bytes : Bytes) : ∀ n ∈ sextets bytes, n < 64 := by
  induction bytes using sextets.induct with
  | case1 => simp [sextets]
  | case2 x =>
    have bound := x.toNat_lt
    simp [sextets]
    omega
  | case3 x y =>
    have bound := x.toNat_lt
    have bound' := y.toNat_lt
    simp [sextets]
    omega
  | case4 x y z rest ih =>
    have bound := x.toNat_lt
    have bound' := y.toNat_lt
    have bound'' := z.toNat_lt
    simp [sextets]
    exact ⟨by omega, by omega, by omega, by omega, ih⟩

theorem joinSextets_sextets (bytes : Bytes) : joinSextets (sextets bytes) = bytes := by
  induction bytes using sextets.induct with
  | case1 => rfl
  | case2 x =>
    have head := StdEncoding.first_digits x (show 0 < 16 by omega)
    rw [Nat.add_zero] at head
    simp [sextets, joinSextets, head]
  | case3 x y =>
    have bound := y.toNat_lt
    have head := StdEncoding.first_digits x (show y.toNat / 16 < 16 by omega)
    have last := StdEncoding.second_digits (x.toNat % 4) y (show 0 < 4 by omega)
    rw [Nat.add_zero] at last
    simp [sextets, joinSextets, head, last]
  | case4 x y z rest ih =>
    have bound := y.toNat_lt
    have bound' := z.toNat_lt
    have head := StdEncoding.first_digits x (show y.toNat / 16 < 16 by omega)
    have middle := StdEncoding.second_digits (x.toNat % 4) y (show z.toNat / 64 < 4 by omega)
    have last := StdEncoding.third_digits (y.toNat % 16) z
    simp [sextets, joinSextets, head, middle, last, ih]

theorem decode_encode (bytes : Bytes) : decode (encode bytes) = bytes := by
  have small := sextets_small bytes
  have unpadded : (encode bytes).takeWhile (· ≠ unit '=') = encode bytes := by
    rw [List.takeWhile_eq_self_iff]
    intro u listed
    obtain ⟨n, held, rfl⟩ := List.mem_map.mp listed
    simpa using (alphabet_checked ⟨n, small n held⟩).2.2.1
  have values : (encode bytes).filterMap value? = sextets bytes := by
    rw [encode, List.filterMap_map]
    refine (List.filterMap_congr fun n held => ?_).trans List.filterMap_some
    exact (alphabet_checked ⟨n, small n held⟩).1
  rw [decode, unpadded, values, joinSextets_sextets]

/-- What every character of an encoded text is like. -/
theorem encode_plain {bytes : Bytes} {u : UInt16} (listed : u ∈ encode bytes) :
    u.toNat < 128 ∧ u ≠ unit '=' ∧ u ≠ unit '.' ∧ isBlank u = false := by
  obtain ⟨n, held, rfl⟩ := List.mem_map.mp listed
  exact (alphabet_checked ⟨n, sextets_small bytes n held⟩).2

end UrlEncoding

/-! ## What `JSON.stringify` writes in ASCII -/

theorem Ascii.append {text other : Str} (first : Ascii text) (second : Ascii other) :
    Ascii (text ++ other) := by
  simpa [Ascii, or_imp, forall_and] using And.intro first second

theorem ascii_digits {ds : Str} (all : ∀ u ∈ ds, isDigit u = true) : Ascii ds := by
  intro u listed
  have digit := all u listed
  simp [isDigit] at digit
  omega

theorem ascii_checked {text : Str} (checked : text.all (·.toNat < 128) = true) : Ascii text := by
  simpa [Ascii] using checked

theorem ascii_escapeUnit {u : UInt16} (small : u.toNat < 128) : Ascii (escapeUnit u) := by
  have table : ∀ n : Fin 128, (escapeUnit (UInt16.ofNat n)).all (·.toNat < 128) = true := by
    decide +kernel
  have held := ascii_checked (table ⟨u.toNat, small⟩)
  rwa [UInt16.ofNat_toNat] at held

theorem ascii_quoted {text : Str} (ascii : Ascii text) : Ascii (quoted text) := by
  have escaped : Ascii (escapeUnits text) := by
    induction text using escapeUnits.induct with
    | case1 => simp [Ascii, escapeUnits]
    | case2 u => exact ascii_escapeUnit (ascii u (by simp))
    | case3 u v rest pair ih =>
      have lead := (Utf8.surrogate_large (ascii u (by simp))).1
      simp [lead] at pair
    | case4 u v rest single ih =>
      rw [escapeUnits, if_neg single]
      exact (ascii_escapeUnit (ascii u (by simp))).append
        (ih fun w listed => ascii w (List.mem_cons_of_mem _ listed))
  have quote : Ascii [unit '"'] := ascii_checked (by decide)
  exact quote.append (escaped.append quote)

theorem ascii_toString (x : Finite) : Ascii x.toString := by
  have sign (u : UInt16) (small : u.toNat < 128) : Ascii [u] := by simpa [Ascii] using small
  unfold Finite.toString
  split_ifs with zero negative
  · exact sign _ (by decide)
  all_goals
    have grammatical := layout_grammatical (x.decimal_pos zero) x.decimal.2
    have whole := ascii_digits grammatical.whole
    have fraction : Ascii (Literal.fractionText (layout x.decimal.1 x.decimal.2).fraction) := by
      unfold Literal.fractionText
      split_ifs
      · simp [Ascii]
      · exact (sign (unit '.') (by decide)).append (ascii_digits grammatical.fraction)
    have exponent : Ascii (Literal.exponentText (layout x.decimal.1 x.decimal.2).exponent) := by
      cases (layout x.decimal.1 x.decimal.2).exponent with
      | none => simp [Ascii, Literal.exponentText]
      | some e =>
        have letters : Ascii [unit 'e', if e < 0 then unit '-' else unit '+'] := by
          split_ifs <;> exact ascii_checked (by decide)
        exact letters.append (ascii_digits (digits_isDigit _))
    have text := whole.append (fraction.append exponent)
  · exact (sign (unit '-') (by decide)).append text
  · exact text

theorem ascii_stringifyMembers {members : Members} {separator : Str} (plain : Ascii separator)
    (all : ∀ member ∈ members, Ascii member.1 ∧ Ascii (stringify member.2)) :
    Ascii (stringifyMembers separator members) := by
  have punctuation (c : Char) (small : (unit c).toNat < 128) : Ascii [unit c] := by
    simpa [Ascii] using small
  induction members generalizing separator with
  | nil => exact punctuation '}' (by decide)
  | cons member rest ih =>
    have head := all member (by simp)
    have tail := ih (punctuation ',' (by decide)) fun other listed => all other (by simp [listed])
    rw [stringifyMembers]
    exact plain.append ((ascii_quoted head.1).append
      ((punctuation ':' (by decide)).append (head.2.append tail)))

theorem ascii_stringify_object {members : Members}
    (all : ∀ member ∈ members, Ascii member.1 ∧ Ascii (stringify member.2)) :
    Ascii (stringify (.object members)) := by
  have brace : Ascii [unit '{'] := ascii_checked (by decide)
  have empty : Ascii [] := by simp [Ascii]
  rw [stringify]
  exact brace.append (ascii_stringifyMembers empty all)

end Shared.Ecma

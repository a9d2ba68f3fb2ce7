import Kufi.Shared.EcmaBytes

set_option autoImplicit false

/-!
# Percent-encoding

`encodeURIComponent` and the queries of `URLSearchParams`. Both write the UTF-8
bytes of a text that are not safe as `%` and two digits, and can be read back.
-/

namespace Shared.Ecma

/-! ## UTF-8 of well-formed text -/

namespace Utf8

/-- Every surrogate is half of a pair. -/
def paired : Str → Bool
  | [] => true
  | [u] => !isLead u && !isTrail u
  | u :: v :: rest =>
    if isLead u && isTrail v then paired rest else !isLead u && !isTrail u && paired (v :: rest)

theorem paired_cons {u : UInt16} {rest : Str} (plain : isLead u = false) (plain' : isTrail u = false) :
    paired (u :: rest) = paired rest := by
  cases rest <;> simp [paired, plain, plain']

theorem toNat_byte {k : ℕ} (small : k < 256) : (UInt8.ofNat k).toNat = k := by
  rw [UInt8.toNat_ofNat']
  omega

theorem decodeFrom_first {k : ℕ} (small : k < 256) {rest : Bytes} {text : Str}
    {pending : Option Pending} (read : first k = (text, pending)) :
    decodeFrom none (.ofNat k :: rest) = text ++ decodeFrom pending rest := by
  rw [decodeFrom, toNat_byte small, read]

theorem decodeFrom_next {begun : Pending} {k : ℕ} (small : k < 256) {rest : Bytes} {text : Str}
    {pending : Option Pending} (read : next begun k = (text, pending)) :
    decodeFrom (some begun) (.ofNat k :: rest) = text ++ decodeFrom pending rest := by
  rw [decodeFrom, toNat_byte small, read]

/-- A further byte in range that is not the last one. -/
theorem next_middle {needed lower upper point low : ℕ} (more : 2 ≤ needed) (small : low < 64)
    (within : lower ≤ 0x80 + low ∧ 0x80 + low ≤ upper) :
    next ⟨needed, lower, upper, point⟩ (0x80 + low) =
      ([], some ⟨needed - 1, 0x80, 0xBF, point * 64 + low⟩) := by
  have rest : (0x80 + low) % 64 = low := by omega
  rw [next, if_pos within, if_neg (by dsimp only; omega), rest]

theorem next_last {lower upper point low : ℕ} (small : low < 64)
    (within : lower ≤ 0x80 + low ∧ 0x80 + low ≤ upper) :
    next ⟨1, lower, upper, point⟩ (0x80 + low) = (unitsOf (point * 64 + low), none) := by
  have rest : (0x80 + low) % 64 = low := by omega
  rw [next, if_pos within, rest]
  rfl

theorem decodeFrom_encodePoint {n : ℕ} (bound : n < 0x110000) (rest : Bytes)
    (scalar : n < 0xD800 ∨ 0xE000 ≤ n) :
    decodeFrom none (encodePoint n ++ rest) = unitsOf n ++ decodeFrom none rest := by
  have low (k : ℕ) : k % 64 < 64 := Nat.mod_lt _ (by decide)
  have range (k : ℕ) : 0x80 ≤ 0x80 + k % 64 ∧ 0x80 + k % 64 ≤ 0xBF := by
    have := low k
    omega
  have small (k : ℕ) : 0x80 + k % 64 < 256 := by
    have := low k
    omega
  unfold encodePoint
  split_ifs with one two three
  · rw [List.singleton_append, decodeFrom_first (by omega) (by rw [first, if_pos one]), unitsOf,
      if_pos (by omega)]
  · have head : first (0xC0 + n / 64) = ([], some ⟨1, 0x80, 0xBF, n / 64⟩) := by
      rw [first, if_neg (by omega), if_pos (by omega), show (0xC0 + n / 64) % 32 = n / 64 by omega]
    rw [List.cons_append, decodeFrom_first (by omega) head, List.singleton_append,
      decodeFrom_next (small n) (next_last (low n) (range n)),
      show n / 64 * 64 + n % 64 = n by omega, List.nil_append]
  · obtain ⟨lower, upper, head, within⟩ : ∃ lower upper,
        first (0xE0 + n / 4096) = ([], some ⟨2, lower, upper, n / 4096⟩) ∧
          lower ≤ 0x80 + n / 64 % 64 ∧ 0x80 + n / 64 % 64 ≤ upper := by
      refine ⟨_, _, by rw [first, if_neg (by omega), if_neg (by omega), if_pos (by omega),
        show (0xE0 + n / 4096) % 16 = n / 4096 by omega], ?_, ?_⟩
      · split_ifs <;> omega
      · split_ifs <;> omega
    rw [List.cons_append, decodeFrom_first (by omega) head, List.cons_append,
      decodeFrom_next (small _) (next_middle (by decide) (low _) within), List.singleton_append,
      decodeFrom_next (small n) (next_last (low n) (range n)),
      show (n / 4096 * 64 + n / 64 % 64) * 64 + n % 64 = n by omega]
    rfl
  · obtain ⟨lower, upper, head, within⟩ : ∃ lower upper,
        first (0xF0 + n / 262144) = ([], some ⟨3, lower, upper, n / 262144⟩) ∧
          lower ≤ 0x80 + n / 4096 % 64 ∧ 0x80 + n / 4096 % 64 ≤ upper := by
      refine ⟨_, _, by rw [first, if_neg (by omega), if_neg (by omega), if_neg (by omega),
        if_pos (by omega), show (0xF0 + n / 262144) % 8 = n / 262144 by omega], ?_, ?_⟩
      · split_ifs <;> omega
      · split_ifs <;> omega
    rw [List.cons_append, decodeFrom_first (by omega) head, List.cons_append,
      decodeFrom_next (small _) (next_middle (by decide) (low _) within), List.cons_append,
      decodeFrom_next (small _) (next_middle (by decide) (low _) (range _)), List.singleton_append,
      decodeFrom_next (small n) (next_last (low n) (range n)),
      show ((n / 262144 * 64 + n / 4096 % 64) * 64 + n / 64 % 64) * 64 + n % 64 = n by omega]
    rfl

theorem decode_encode_paired {text : Str} (wellFormed : paired text = true) :
    decode (encode text) = text := by
  have one {u : UInt16} (rest : Bytes) (plain : isLead u = false) (plain' : isTrail u = false) :
      decodeFrom none (encodeUnit u ++ rest) = u :: decodeFrom none rest := by
    have bound := u.toNat_lt
    simp only [isLead, isTrail, Bool.and_eq_false_iff, decide_eq_false_iff_not] at plain plain'
    rw [encodeUnit, if_neg (by simp [isLead, isTrail]; omega),
      decodeFrom_encodePoint (by omega) rest (by omega), unitsOf, if_pos (by omega),
      UInt16.ofNat_toNat]
    rfl
  unfold decode
  induction text using encode.induct with
  | case1 => rfl
  | case2 u =>
    simp only [paired, Bool.and_eq_true, Bool.not_eq_true'] at wellFormed
    rw [encode, ← List.append_nil (encodeUnit u), one [] wellFormed.1 wellFormed.2]
    rfl
  | case3 u v rest pair ih =>
    rw [paired, if_pos pair] at wellFormed
    simp only [isLead, isTrail, Bool.and_eq_true, decide_eq_true_eq] at pair
    have high : 0xD800 + (0x10000 + (u.toNat - 0xD800) * 0x400 + (v.toNat - 0xDC00) - 0x10000) / 0x400 =
        u.toNat := by omega
    have low : 0xDC00 + (0x10000 + (u.toNat - 0xD800) * 0x400 + (v.toNat - 0xDC00) - 0x10000) % 0x400 =
        v.toNat := by omega
    rw [encode, if_pos (by simp [isLead, isTrail]; omega), decodeFrom_encodePoint (by omega) _ (by omega),
      unitsOf, if_neg (by omega), high, low, UInt16.ofNat_toNat, UInt16.ofNat_toNat, ih wellFormed]
    rfl
  | case4 u v rest single ih =>
    rw [paired, if_neg single] at wellFormed
    simp only [Bool.and_eq_true, Bool.not_eq_true'] at wellFormed
    rw [encode, if_neg single, one _ wellFormed.1.1 wellFormed.1.2, ih wellFormed.2]

theorem encode_injective_paired {first second : Str} (wellFormed : paired first = true)
    (wellFormed' : paired second = true) (same : encode first = encode second) : first = second := by
  rw [← decode_encode_paired wellFormed, same, decode_encode_paired wellFormed']

end Utf8

/-! ## Percent-encoding of bytes -/

namespace Percent

def hexDigit (n : ℕ) : UInt16 := unit (if n < 10 then Nat.digitChar n else Char.ofNat (55 + n))

def hexValue? (u : UInt16) : Option ℕ :=
  if 48 ≤ u.toNat ∧ u.toNat ≤ 57 then some (u.toNat - 48)
  else if 65 ≤ u.toNat ∧ u.toNat ≤ 70 then some (u.toNat - 55)
  else if 97 ≤ u.toNat ∧ u.toNat ≤ 102 then some (u.toNat - 87)
  else none

/-- The bytes that stand for themselves: ASCII, and the sign of an escape is none of them. -/
structure Safe where
  holds : ℕ → Bool
  ascii : ∀ b, holds b = true → b < 128
  percent : holds 37 = false

variable (safe : Safe)

def escapeByte (b : UInt8) : Str :=
  if safe.holds b.toNat then [.ofNat b.toNat]
  else [unit '%', hexDigit (b.toNat / 16), hexDigit (b.toNat % 16)]

def escape (bytes : Bytes) : Str := bytes.flatMap (escapeByte safe)

theorem hexValue_hexDigit {n : ℕ} (small : n < 16) : hexValue? (hexDigit n) = some n := by
  have digits : ∀ n : Fin 16, hexValue? (hexDigit n) = some n.val := by decide
  exact digits ⟨n, small⟩

theorem hexDigit_injective {m n : ℕ} (small : m < 16) (small' : n < 16)
    (same : hexDigit m = hexDigit n) : m = n := by
  have value := congrArg hexValue? same
  rw [hexValue_hexDigit small, hexValue_hexDigit small'] at value
  exact Option.some.inj value

theorem toNat_unit {b : UInt8} : (UInt16.ofNat b.toNat).toNat = b.toNat := by
  have bound := b.toNat_lt
  rw [UInt16.toNat_ofNat']
  omega

theorem plain_ne_percent {b : UInt8} (plain : safe.holds b.toNat = true) :
    UInt16.ofNat b.toNat ≠ unit '%' := by
  intro same
  have value : b.toNat = 37 := by
    rw [← toNat_unit, same]
    rfl
  rw [value, safe.percent] at plain
  cases plain

/-- A byte is told from what comes after it. -/
theorem escapeByte_cancel {b b' : UInt8} {rest rest' : Str}
    (same : escapeByte safe b ++ rest = escapeByte safe b' ++ rest') : b = b' ∧ rest = rest' := by
  have bound := b.toNat_lt
  have bound' := b'.toNat_lt
  unfold escapeByte at same
  split_ifs at same with plain plain' plain'
  · obtain ⟨head, tail⟩ := List.cons.inj same
    have value := congrArg UInt16.toNat head
    rw [toNat_unit, toNat_unit] at value
    exact ⟨UInt8.toNat_inj.mp value, tail⟩
  · exact absurd (List.cons.inj same).1 (plain_ne_percent safe plain)
  · exact absurd (List.cons.inj same).1.symm (plain_ne_percent safe plain')
  · simp only [List.cons_append, List.nil_append, List.cons.injEq, true_and] at same
    obtain ⟨high, low, tail⟩ := same
    have high := hexDigit_injective (by omega) (by omega) high
    have low := hexDigit_injective (by omega) (by omega) low
    exact ⟨UInt8.toNat_inj.mp (by omega), tail⟩

theorem escape_injective : Function.Injective (escape safe) := by
  intro first
  induction first with
  | nil =>
    intro second same
    cases second with
    | nil => rfl
    | cons b rest =>
      rw [escape, escape, List.flatMap_cons, escapeByte] at same
      split_ifs at same <;> cases same
  | cons b rest ih =>
    intro second same
    cases second with
    | nil =>
      rw [escape, escape, List.flatMap_cons, escapeByte] at same
      split_ifs at same <;> cases same
    | cons b' rest' =>
      rw [escape, escape, List.flatMap_cons, List.flatMap_cons] at same
      obtain ⟨rfl, tail⟩ := escapeByte_cancel safe same
      rw [ih tail]

/-- A unit that is neither safe, nor a digit, nor the sign of an escape is nowhere in the text. -/
theorem not_mem_escape {u : UInt16} (unsafe' : safe.holds u.toNat = false) (sign : u ≠ unit '%')
    (digit : hexValue? u = none) (bytes : Bytes) : u ∉ escape safe bytes := by
  intro listed
  obtain ⟨b, _, here⟩ := List.mem_flatMap.mp listed
  have bound := b.toNat_lt
  unfold escapeByte at here
  split_ifs at here with plain
  · obtain rfl := List.mem_singleton.mp here
    rw [toNat_unit, plain] at unsafe'
    cases unsafe'
  · simp only [List.mem_cons, List.not_mem_nil, or_false] at here
    rcases here with rfl | rfl | rfl
    · exact sign rfl
    · rw [hexValue_hexDigit (by omega)] at digit
      cases digit
    · rw [hexValue_hexDigit (by omega)] at digit
      cases digit

theorem ascii_escape (bytes : Bytes) : Ascii (escape safe bytes) := by
  have digits : ∀ n : Fin 16, (hexDigit n).toNat < 128 := by decide
  intro u listed
  obtain ⟨b, _, here⟩ := List.mem_flatMap.mp listed
  have bound := b.toNat_lt
  unfold escapeByte at here
  split_ifs at here with plain
  · obtain rfl := List.mem_singleton.mp here
    rw [toNat_unit]
    exact safe.ascii _ plain
  · simp only [List.mem_cons, List.not_mem_nil, or_false] at here
    rcases here with rfl | rfl | rfl
    · decide
    · exact digits ⟨b.toNat / 16, by omega⟩
    · exact digits ⟨b.toNat % 16, by omega⟩

end Percent

/-! ## Components of an address -/

def alphanumeric (b : ℕ) : Bool :=
  (48 ≤ b && b ≤ 57) || (65 ≤ b && b ≤ 90) || (97 ≤ b && b ≤ 122)

theorem alphanumeric_ascii {b : ℕ} (plain : alphanumeric b = true) : b < 128 := by
  simp only [alphanumeric, Bool.or_eq_true, Bool.and_eq_true, decide_eq_true_eq] at plain
  omega

-- `-_.!~*'()` beside letters and digits
def componentSafe : Percent.Safe where
  holds b := alphanumeric b || [45, 95, 46, 33, 126, 42, 39, 40, 41].contains b
  ascii b plain := by
    rw [Bool.or_eq_true] at plain
    rcases plain with letter | sign
    · exact alphanumeric_ascii letter
    · simp at sign
      omega
  percent := by decide

/-- `encodeURIComponent(text)`; `none` when it throws. -/
def encodeURIComponent (text : Str) : Option Str :=
  if Utf8.paired text then some (Percent.escape componentSafe (Utf8.encode text)) else none

theorem encodeURIComponent_injective {first second encoded : Str}
    (left : encodeURIComponent first = some encoded)
    (right : encodeURIComponent second = some encoded) : first = second := by
  unfold encodeURIComponent at left right
  split_ifs at left right with wellFormed wellFormed'
  have same := Percent.escape_injective componentSafe
    (Option.some.inj (left.trans right.symm))
  exact Utf8.encode_injective_paired wellFormed wellFormed' same

theorem encodeURIComponent_ascii {text encoded : Str} (same : encodeURIComponent text = some encoded) :
    Ascii encoded := by
  unfold encodeURIComponent at same
  split_ifs at same
  rw [← Option.some.inj same]
  exact Percent.ascii_escape componentSafe _

/-- Neither sign of a query is in a component. -/
theorem encodeURIComponent_plain {text encoded : Str} (same : encodeURIComponent text = some encoded) :
    unit '&' ∉ encoded ∧ unit '=' ∉ encoded := by
  unfold encodeURIComponent at same
  split_ifs at same
  rw [← Option.some.inj same]
  exact ⟨Percent.not_mem_escape _ (by decide) (by decide) (by decide) _,
    Percent.not_mem_escape _ (by decide) (by decide) (by decide) _⟩

/-! ## Queries -/

-- `*-._` and the blank beside letters and digits; the blank becomes a plus sign.
def querySafe : Percent.Safe where
  holds b := alphanumeric b || [42, 45, 46, 95, 32].contains b
  ascii b plain := by
    rw [Bool.or_eq_true] at plain
    rcases plain with letter | sign
    · exact alphanumeric_ascii letter
    · simp at sign
      omega
  percent := by decide

def queryComponent (text : Str) : Str :=
  (Percent.escape querySafe (Utf8.encode text)).map fun u => if u = unit ' ' then unit '+' else u

/-- `URLSearchParams.prototype.toString`. -/
def queryText (entries : List (Str × Str)) : Str :=
  joined (unit '&') (entries.map fun entry =>
    queryComponent entry.1 ++ unit '=' :: queryComponent entry.2)

/-! ## Joined texts -/

theorem joined_eq_intercalate (u : UInt16) (parts : List Str) :
    joined u parts = [u].intercalate parts := by
  induction parts with
  | nil => rfl
  | cons part rest ih =>
    cases rest with
    | nil => simp [joined, List.intercalate]
    | cons next rest =>
      rw [joined, ih]
      simp [List.intercalate]
      exact nofun

theorem splitOn_joined {u : UInt16} {parts : List Str} (nonempty : parts ≠ [])
    (plain : ∀ part ∈ parts, u ∉ part) : (joined u parts).splitOn u = parts := by
  rw [joined_eq_intercalate]
  exact List.splitOn_intercalate u plain nonempty

theorem joined_injective {u : UInt16} {first second : List Str}
    (plain : ∀ part ∈ first, u ∉ part) (plain' : ∀ part ∈ second, u ∉ part)
    (nonempty : first ≠ []) (nonempty' : second ≠ []) (same : joined u first = joined u second) :
    first = second := by
  rw [← splitOn_joined nonempty plain, same, splitOn_joined nonempty' plain']

section Pinned

variable {u : UInt16}

theorem joined_cons (part : Str) {rest : List Str} (more : rest ≠ []) :
    joined u (part :: rest) = part ++ u :: joined u rest := by
  cases rest with
  | nil => exact absurd rfl more
  | cons next rest => rfl

theorem joined_concat {parts : List Str} (more : parts ≠ []) (part : Str) :
    joined u (parts ++ [part]) = joined u parts ++ u :: part := by
  induction parts with
  | nil => exact absurd rfl more
  | cons first rest ih =>
    cases rest with
    | nil => rfl
    | cons next rest =>
      rw [List.cons_append, joined_cons first (by simp), ih (by simp), joined_cons first (by simp)]
      simp

theorem cancel_front {first first' rest rest' : Str} (plain : u ∉ first) (plain' : u ∉ first')
    (same : first ++ u :: rest = first' ++ u :: rest') : first = first' ∧ rest = rest' := by
  induction first generalizing first' with
  | nil =>
    cases first' with
    | nil => exact ⟨rfl, (List.cons.inj same).2⟩
    | cons v _ => exact absurd (List.cons.inj same).1 (by simp at plain'; exact plain'.1)
  | cons v first ih =>
    cases first' with
    | nil => exact absurd (List.cons.inj same).1.symm (by simp at plain; exact plain.1)
    | cons w first' =>
      obtain ⟨rfl, tail⟩ := List.cons.inj same
      simp only [List.mem_cons, not_or] at plain plain'
      obtain ⟨rfl, rest⟩ := ih plain.2 plain'.2 tail
      exact ⟨rfl, rest⟩

theorem cancel_back {front front' last last' : Str} (plain : u ∉ last) (plain' : u ∉ last')
    (same : front ++ u :: last = front' ++ u :: last') : front = front' ∧ last = last' := by
  have reversed := congrArg List.reverse same
  simp only [List.reverse_append, List.reverse_cons, List.append_assoc, List.singleton_append]
    at reversed
  obtain ⟨lasts, fronts⟩ := cancel_front (by simpa using plain) (by simpa using plain') reversed
  exact ⟨List.reverse_injective fronts, List.reverse_injective lasts⟩

theorem joined_pins_back {after after' : List Str} {middle middle' : Str}
    (back : after.length = after'.length) (plain : ∀ part ∈ after, u ∉ part)
    (plain' : ∀ part ∈ after', u ∉ part)
    (same : joined u (middle :: after) = joined u (middle' :: after')) :
    middle = middle' ∧ after = after' := by
  induction after using List.reverseRecOn generalizing after' with
  | nil =>
    obtain rfl := List.eq_nil_of_length_eq_zero back.symm
    exact ⟨same, rfl⟩
  | append_singleton after last ih =>
    obtain ⟨front, last', rfl⟩ : ∃ front last, after' = front ++ [last] := by
      rcases List.eq_nil_or_concat after' with rfl | ⟨front, last, rfl⟩
      · simp at back
      · exact ⟨front, last, by simp⟩
    have lengths : after.length = front.length := by simpa using back
    rw [← List.cons_append, ← List.cons_append, joined_concat (by simp), joined_concat (by simp)] at same
    obtain ⟨fronts, rfl⟩ := cancel_back (plain last (by simp)) (plain' last' (by simp)) same
    obtain ⟨rfl, rfl⟩ := ih lengths (fun part listed => plain part (List.mem_append_left _ listed))
      (fun part listed => plain' part (List.mem_append_left _ listed)) fronts
    exact ⟨rfl, rfl⟩

/-- Texts are told apart as long as only one of them, always the same, holds the separator. -/
theorem joined_pins {before before' after after' : List Str} {middle middle' : Str}
    (front : before.length = before'.length) (back : after.length = after'.length)
    (plain : ∀ part ∈ before ++ after, u ∉ part) (plain' : ∀ part ∈ before' ++ after', u ∉ part)
    (same : joined u (before ++ middle :: after) = joined u (before' ++ middle' :: after')) :
    before = before' ∧ middle = middle' ∧ after = after' := by
  induction before generalizing before' with
  | nil =>
    obtain rfl := List.eq_nil_of_length_eq_zero front.symm
    exact ⟨rfl, joined_pins_back back plain plain' same⟩
  | cons first before ih =>
    obtain ⟨first', before', rfl⟩ := List.exists_cons_of_length_eq_add_one front.symm
    rw [List.cons_append, List.cons_append, joined_cons _ (by simp), joined_cons _ (by simp)] at same
    obtain ⟨rfl, tails⟩ := cancel_front (plain first (by simp)) (plain' first' (by simp)) same
    obtain ⟨rfl, rest⟩ := ih (by simpa using front)
      (fun part listed => plain part (List.mem_cons_of_mem _ listed))
      (fun part listed => plain' part (List.mem_cons_of_mem _ listed)) tails
    exact ⟨rfl, rest⟩

end Pinned

end Shared.Ecma

import Mathlib.Data.List.Nodup

set_option autoImplicit false

/-!
# JSON text

The text `encoding/json` of Go 1.21 writes for a value, and that the text
determines the value. Strings are sequences of Unicode scalar values, which is
what valid UTF-8 holds.
-/

namespace Shared

inductive Json where
  | null
  | bool (value : Bool)
  | number (value : Int)
  | string (text : String)
  | array (items : List Json)
  | object (members : List (String × Json))

namespace Json

def quote : Char := Char.ofNat 0x22
def backslash : Char := Char.ofNat 0x5C

/-! ## Strings -/

def unicodeEscape (c : Char) : List Char :=
  [backslash, 'u', Nat.digitChar (c.toNat / 4096 % 16), Nat.digitChar (c.toNat / 256 % 16),
    Nat.digitChar (c.toNat / 16 % 16), Nat.digitChar (c.toNat % 16)]

-- Control characters, the line separators and what HTML would read as markup.
def needsUnicodeEscape (c : Char) : Bool :=
  c.toNat < 0x20 || c = '<' || c = '>' || c = '&' || c.toNat = 0x2028 || c.toNat = 0x2029

def escape (c : Char) : List Char :=
  if c = quote then [backslash, quote]
  else if c = backslash then [backslash, backslash]
  else if c = '\n' then [backslash, 'n']
  else if c = '\r' then [backslash, 'r']
  else if c = '\t' then [backslash, 't']
  else if needsUnicodeEscape c then unicodeEscape c
  else [c]

def encodeChars : List Char → List Char
  | [] => [quote]
  | c :: rest => escape c ++ encodeChars rest

def encodeString (text : String) : List Char :=
  quote :: encodeChars text.toList

theorem digitChar_injective {m n : Nat} (first : m < 16) (second : n < 16)
    (same : Nat.digitChar m = Nat.digitChar n) : m = n := by
  have table : ∀ a b : Fin 16, Nat.digitChar a = Nat.digitChar b → a = b := by decide
  exact congrArg Fin.val (table ⟨m, first⟩ ⟨n, second⟩ same)

theorem toNat_lt_of_needsUnicodeEscape {c : Char} (needed : needsUnicodeEscape c = true) :
    c.toNat < 65536 := by
  simp only [needsUnicodeEscape, Bool.or_eq_true, decide_eq_true_eq] at needed
  rcases needed with ((((small | rfl) | rfl) | rfl) | line) | paragraph
  · omega
  · decide
  · decide
  · decide
  · omega
  · omega

theorem unicodeEscape_cancel {c d : Char} {s t : List Char} (first : needsUnicodeEscape c = true)
    (second : needsUnicodeEscape d = true)
    (same : unicodeEscape c ++ s = unicodeEscape d ++ t) : c = d ∧ s = t := by
  simp only [unicodeEscape, List.cons_append, List.nil_append, List.cons.injEq, true_and] at same
  obtain ⟨high, upper, lower, low, rest⟩ := same
  have bound := toNat_lt_of_needsUnicodeEscape first
  have bound' := toNat_lt_of_needsUnicodeEscape second
  have high := digitChar_injective (by omega) (by omega) high
  have upper := digitChar_injective (by omega) (by omega) upper
  have lower := digitChar_injective (by omega) (by omega) lower
  have low := digitChar_injective (by omega) (by omega) low
  exact ⟨Char.toNat_inj.mp (by omega), rest⟩

-- The letter after the backslash of an escape of two characters.
def shortEscape? (c : Char) : Option Char :=
  if c = quote then some quote
  else if c = backslash then some backslash
  else if c = '\n' then some 'n'
  else if c = '\r' then some 'r'
  else if c = '\t' then some 't'
  else none

theorem shortEscape_injective {c d letter : Char} (first : shortEscape? c = some letter)
    (second : shortEscape? d = some letter) : c = d := by
  unfold shortEscape? at first second
  split_ifs at first second with left right
  all_goals first
    | exact left.trans right.symm
    | (cases first; exact absurd (Option.some.inj second) (by decide))
    | simp_all

theorem shortEscape_ne {c letter : Char} (short : shortEscape? c = some letter) :
    letter ≠ 'u' := by
  unfold shortEscape? at short
  split_ifs at short <;> cases short <;> decide

theorem escape_cases (c : Char) :
    (∃ letter, shortEscape? c = some letter ∧ escape c = [backslash, letter]) ∨
      (needsUnicodeEscape c = true ∧ escape c = unicodeEscape c) ∨
      (c ≠ backslash ∧ c ≠ quote ∧ escape c = [c]) := by
  unfold escape shortEscape?
  split_ifs <;> simp_all

theorem escape_cancel {c d : Char} {s t : List Char} (same : escape c ++ s = escape d ++ t) :
    c = d ∧ s = t := by
  rcases escape_cases c with ⟨letter, short, first⟩ | ⟨needed, first⟩ | ⟨plain, _, first⟩ <;>
    rcases escape_cases d with ⟨letter', short', second⟩ | ⟨needed', second⟩ | ⟨plain', _, second⟩ <;>
    rw [first, second] at same
  · simp only [List.cons_append, List.nil_append, List.cons.injEq, true_and] at same
    obtain ⟨rfl, rest⟩ := same
    exact ⟨shortEscape_injective short short', rest⟩
  · simp only [unicodeEscape, List.cons_append, List.cons.injEq, true_and] at same
    exact absurd same.1 (shortEscape_ne short)
  · exact absurd (List.cons.inj same).1.symm plain'
  · simp only [unicodeEscape, List.cons_append, List.cons.injEq, true_and] at same
    exact absurd same.1.symm (shortEscape_ne short')
  · exact unicodeEscape_cancel needed needed' same
  · exact absurd (List.cons.inj same).1.symm plain'
  · exact absurd (List.cons.inj same).1 plain
  · exact absurd (List.cons.inj same).1 plain
  · exact List.cons.inj same

theorem escape_append_ne (c : Char) (s t : List Char) : escape c ++ s ≠ quote :: t := by
  rcases escape_cases c with ⟨letter, _, text⟩ | ⟨_, text⟩ | ⟨_, plain, text⟩ <;> rw [text] <;>
    intro same
  · exact absurd (List.cons.inj same).1 (by decide)
  · exact absurd (List.cons.inj same).1 (by decide)
  · exact plain (List.cons.inj same).1

theorem encodeChars_cancel {first second s t : List Char}
    (same : encodeChars first ++ s = encodeChars second ++ t) : first = second ∧ s = t := by
  induction first generalizing second with
  | nil =>
    cases second with
    | nil => exact ⟨rfl, List.cons.inj same |>.2⟩
    | cons d second =>
      rw [encodeChars, encodeChars, List.append_assoc] at same
      exact absurd same.symm (escape_append_ne d _ _)
  | cons c first ih =>
    cases second with
    | nil =>
      rw [encodeChars, encodeChars, List.append_assoc] at same
      exact absurd same (escape_append_ne c _ _)
    | cons d second =>
      rw [encodeChars, encodeChars, List.append_assoc, List.append_assoc] at same
      obtain ⟨rfl, later⟩ := escape_cancel same
      obtain ⟨rfl, rest⟩ := ih later
      exact ⟨rfl, rest⟩

theorem encodeString_cancel {first second : String} {s t : List Char}
    (same : encodeString first ++ s = encodeString second ++ t) : first = second ∧ s = t := by
  obtain ⟨chars, rest⟩ := encodeChars_cancel (List.cons.inj same).2
  exact ⟨String.toList_inj.mp chars, rest⟩

/-! ## Numbers -/

def encodeInt : Int → List Char
  | .ofNat n => Nat.toDigits 10 n
  | .negSucc n => '-' :: Nat.toDigits 10 (n + 1)

-- What may follow a number.
def Stops (text : List Char) : Prop :=
  ∀ c, text.head? = some c → c.isDigit = false

theorem takeWhile_digits {digits text : List Char} (all : ∀ c ∈ digits, c.isDigit = true)
    (stops : Stops text) : (digits ++ text).takeWhile Char.isDigit = digits := by
  rw [List.takeWhile_append_of_pos all]
  cases text with
  | nil => simp
  | cons c rest => simp [stops c rfl]

theorem toDigits_cancel {m n : Nat} {s t : List Char} (first : Stops s) (second : Stops t)
    (same : Nat.toDigits 10 m ++ s = Nat.toDigits 10 n ++ t) : m = n ∧ s = t := by
  have digits (k : Nat) : ∀ c ∈ Nat.toDigits 10 k, c.isDigit = true :=
    fun _ member => Nat.isDigit_of_mem_toDigits (by decide) (by decide) member
  have equal : Nat.toDigits 10 m = Nat.toDigits 10 n := by
    rw [← takeWhile_digits (digits m) first, same, takeWhile_digits (digits n) second]
  rw [equal] at same
  have value := congrArg (Nat.ofDigitChars 10 · 0) equal
  simp only [Nat.ofDigitChars_ten_toDigits] at value
  exact ⟨value, List.append_cancel_left same⟩

theorem toDigits_append_ne (n : Nat) (s t : List Char) : Nat.toDigits 10 n ++ s ≠ '-' :: t := by
  intro same
  obtain ⟨digit, rest, digits⟩ := List.exists_cons_of_ne_nil (Nat.toDigits_ne_nil (n := n) (b := 10))
  have isDigit := Nat.isDigit_of_mem_toDigits (b := 10) (n := n) (by decide) (by decide)
    (digits ▸ List.mem_cons_self)
  rw [digits] at same
  rw [(List.cons.inj same).1] at isDigit
  exact absurd isDigit (by decide)

theorem encodeInt_cancel {m n : Int} {s t : List Char} (first : Stops s) (second : Stops t)
    (same : encodeInt m ++ s = encodeInt n ++ t) : m = n ∧ s = t := by
  cases m with
  | ofNat m =>
    cases n with
    | ofNat n =>
      obtain ⟨rfl, rest⟩ := toDigits_cancel first second same
      exact ⟨rfl, rest⟩
    | negSucc n => exact absurd same (toDigits_append_ne m _ _)
  | negSucc m =>
    cases n with
    | ofNat n => exact absurd same.symm (toDigits_append_ne n _ _)
    | negSucc n =>
      obtain ⟨value, rest⟩ := toDigits_cancel first second (List.cons.inj same).2
      obtain rfl : m = n := by omega
      exact ⟨rfl, rest⟩

/-! ## Values -/

mutual

def encode : Json → List Char
  | .null => ['n', 'u', 'l', 'l']
  | .bool true => ['t', 'r', 'u', 'e']
  | .bool false => ['f', 'a', 'l', 's', 'e']
  | .number n => encodeInt n
  | .string text => encodeString text
  | .array items => '[' :: encodeItems [] items
  | .object members => '{' :: encodeMembers [] members

-- The separator stands before every item but the first.
def encodeItems (separator : List Char) : List Json → List Char
  | [] => [']']
  | item :: rest => separator ++ (encode item ++ encodeItems [','] rest)

def encodeMembers (separator : List Char) : List (String × Json) → List Char
  | [] => ['}']
  | (name, value) :: rest =>
    separator ++ (encodeString name ++ ':' :: (encode value ++ encodeMembers [','] rest))

end

/-- What a value is can be told from the first character of its text. -/
inductive Kind where
  | null
  | bool
  | number
  | string
  | array
  | object
  -- no value begins so
  | other
  deriving DecidableEq

def kind : Json → Kind
  | .null => .null
  | .bool _ => .bool
  | .number _ => .number
  | .string _ => .string
  | .array _ => .array
  | .object _ => .object

def kindOf (c : Char) : Kind :=
  if c = 'n' then .null
  else if c = 't' ∨ c = 'f' then .bool
  else if c = '-' ∨ c.isDigit = true then .number
  else if c = quote then .string
  else if c = '[' then .array
  else if c = '{' then .object
  else .other

theorem encodeInt_head (n : Int) : ∃ c rest, encodeInt n = c :: rest ∧ kindOf c = .number := by
  cases n with
  | negSucc n => exact ⟨'-', _, rfl, by decide⟩
  | ofNat n =>
    obtain ⟨c, rest, digits⟩ := List.exists_cons_of_ne_nil (Nat.toDigits_ne_nil (n := n) (b := 10))
    have isDigit := Nat.isDigit_of_mem_toDigits (b := 10) (n := n) (by decide) (by decide)
      (digits ▸ List.mem_cons_self)
    refine ⟨c, rest, digits, ?_⟩
    have letter : c ≠ 'n' ∧ c ≠ 't' ∧ c ≠ 'f' := by
      refine ⟨?_, ?_, ?_⟩ <;> rintro rfl <;> exact absurd isDigit (by decide)
    simp [kindOf, letter, isDigit]

theorem encode_head (json : Json) : ∃ c rest, json.encode = c :: rest ∧ kindOf c = json.kind := by
  cases json with
  | bool value => cases value <;> exact ⟨_, _, rfl, by decide⟩
  | number n => exact encodeInt_head n
  | _ => exact ⟨_, _, rfl, rfl⟩

theorem kind_eq_of_cancel {a b : Json} {s t : List Char} (same : a.encode ++ s = b.encode ++ t) :
    a.kind = b.kind := by
  obtain ⟨c, rest, text, first⟩ := encode_head a
  obtain ⟨d, rest', text', second⟩ := encode_head b
  rw [text, text'] at same
  rw [← first, ← second, (List.cons.inj same).1]

theorem encode_append_ne {a : Json} {c : Char} {s t : List Char} (other : kindOf c = .other) :
    a.encode ++ s ≠ c :: t := by
  intro same
  obtain ⟨d, rest, text, first⟩ := encode_head a
  rw [text] at same
  rw [(List.cons.inj same).1, other] at first
  cases a <;> cases first

theorem stops_cons {c : Char} (other : c.isDigit = false) (text : List Char) : Stops (c :: text) := by
  intro d head
  obtain rfl := Option.some.inj head
  exact other

theorem encodeItems_stops (items : List Json) (text : List Char) :
    Stops (encodeItems [','] items ++ text) := by
  cases items <;> exact stops_cons (by decide) _

theorem encodeMembers_stops (members : List (String × Json)) (text : List Char) :
    Stops (encodeMembers [','] members ++ text) := by
  cases members <;> exact stops_cons (by decide) _

theorem encodeItems_ne {separator : List Char} (allowed : separator = [] ∨ separator = [','])
    (item : Json) (rest : List Json) (s t : List Char) :
    encodeItems separator (item :: rest) ++ s ≠ encodeItems separator [] ++ t := by
  rcases allowed with rfl | rfl
  · rw [encodeItems, encodeItems, List.nil_append, List.append_assoc]
    exact encode_append_ne (by decide)
  · intro same
    exact absurd (List.cons.inj same).1 (by decide)

theorem encodeMembers_ne {separator : List Char} (allowed : separator = [] ∨ separator = [','])
    (member : String × Json) (rest : List (String × Json)) (s t : List Char) :
    encodeMembers separator (member :: rest) ++ s ≠ encodeMembers separator [] ++ t := by
  rcases allowed with rfl | rfl <;>
    exact fun same => absurd (List.cons.inj same).1 (by decide)

mutual

/-- No text of a value begins with the text of another one. -/
theorem encode_cancel : ∀ (a b : Json) {s t : List Char}, Stops s → Stops t →
    a.encode ++ s = b.encode ++ t → a = b ∧ s = t
  | a, .null, s, t, _, _, same => by
    cases a with
    | null =>
      exact ⟨rfl, List.append_cancel_left same⟩
    | _ => cases kind_eq_of_cancel same
  | a, .bool value, s, t, _, _, same => by
    cases a with
    | bool other =>
      cases other <;> cases value
      · exact ⟨rfl, List.append_cancel_left same⟩
      · exact absurd (List.cons.inj same).1 (by decide)
      · exact absurd (List.cons.inj same).1 (by decide)
      · exact ⟨rfl, List.append_cancel_left same⟩
    | _ => cases kind_eq_of_cancel same
  | a, .number n, s, t, first, second, same => by
    cases a with
    | number m =>
      obtain ⟨rfl, rest⟩ := encodeInt_cancel first second same
      exact ⟨rfl, rest⟩
    | _ => cases kind_eq_of_cancel same
  | a, .string text, s, t, _, _, same => by
    cases a with
    | string other =>
      obtain ⟨rfl, rest⟩ := encodeString_cancel same
      exact ⟨rfl, rest⟩
    | _ => cases kind_eq_of_cancel same
  | a, .array items, s, t, first, second, same => by
    cases a with
    | array other =>
      obtain ⟨rfl, rest⟩ := encodeItems_cancel other items (.inl rfl) (List.cons.inj same).2
      exact ⟨rfl, rest⟩
    | _ => cases kind_eq_of_cancel same
  | a, .object members, s, t, first, second, same => by
    cases a with
    | object other =>
      obtain ⟨rfl, rest⟩ := encodeMembers_cancel other members (.inl rfl) (List.cons.inj same).2
      exact ⟨rfl, rest⟩
    | _ => cases kind_eq_of_cancel same
termination_by _ b => sizeOf b

theorem encodeItems_cancel : ∀ (items items' : List Json) {separator s t : List Char},
    separator = [] ∨ separator = [','] →
    encodeItems separator items ++ s = encodeItems separator items' ++ t → items = items' ∧ s = t
  | [], [], separator, s, t, _, same => ⟨rfl, (List.cons.inj same).2⟩
  | [], item :: rest, separator, s, t, allowed, same =>
    absurd same.symm (encodeItems_ne allowed item rest t s)
  | item :: rest, [], separator, s, t, allowed, same =>
    absurd same (encodeItems_ne allowed item rest s t)
  | item :: rest, item' :: rest', separator, s, t, _, same => by
    simp only [encodeItems, List.append_assoc, List.append_cancel_left_eq] at same
    obtain ⟨rfl, later⟩ := encode_cancel item item' (encodeItems_stops rest s)
      (encodeItems_stops rest' t) same
    obtain ⟨rfl, tail⟩ := encodeItems_cancel rest rest' (.inr rfl) later
    exact ⟨rfl, tail⟩
termination_by _ items' => sizeOf items'

theorem encodeMembers_cancel : ∀ (members members' : List (String × Json))
    {separator s t : List Char}, separator = [] ∨ separator = [','] →
    encodeMembers separator members ++ s = encodeMembers separator members' ++ t →
    members = members' ∧ s = t
  | [], [], separator, s, t, _, same => ⟨rfl, (List.cons.inj same).2⟩
  | [], member :: rest, separator, s, t, allowed, same =>
    absurd same.symm (encodeMembers_ne allowed member rest t s)
  | member :: rest, [], separator, s, t, allowed, same =>
    absurd same (encodeMembers_ne allowed member rest s t)
  | (name, value) :: rest, (name', value') :: rest', separator, s, t, _, same => by
    simp only [encodeMembers, List.append_assoc, List.append_cancel_left_eq, List.cons_append]
      at same
    obtain ⟨rfl, colon⟩ := encodeString_cancel same
    obtain ⟨rfl, later⟩ := encode_cancel value value' (encodeMembers_stops rest s)
      (encodeMembers_stops rest' t) (List.cons.inj colon).2
    obtain ⟨rfl, tail⟩ := encodeMembers_cancel rest rest' (.inr rfl) later
    exact ⟨rfl, tail⟩
termination_by _ members' => sizeOf members'

end

theorem encode_injective : Function.Injective encode := by
  intro a b same
  have stops : Stops [] := fun c head => by cases head
  exact (encode_cancel a b stops stops (by rw [same])).1

/-! ## Structures -/

-- A member that is `none` is left out.
def struct (members : List (String × Option Json)) : Json :=
  .object (members.filterMap fun member => member.2.map fun value => (member.1, value))

theorem struct_injective {members members' : List (String × Option Json)}
    (names : members.map Prod.fst = members'.map Prod.fst) (distinct : (members.map Prod.fst).Nodup)
    (same : struct members = struct members') : members = members' := by
  have written := object.inj same
  clear same
  induction members generalizing members' with
  | nil => exact (List.map_eq_nil_iff.mp names.symm).symm
  | cons member members ih =>
    cases members' with
    | nil => cases names
    | cons member' members' =>
      obtain ⟨name, value⟩ := member
      obtain ⟨name', value'⟩ := member'
      obtain ⟨rfl, later⟩ := List.cons.inj names
      have fresh := (List.nodup_cons.mp distinct).1
      have rest := (List.nodup_cons.mp distinct).2
      have absent {others : List (String × Option Json)} {json : Json} {tail : List (String × Json)}
          (unused : name ∉ others.map Prod.fst) :
          others.filterMap (fun other => other.2.map fun value => (other.1, value)) ≠
            (name, json) :: tail := by
        intro head
        have listed : (name, json) ∈ (name, json) :: tail := List.mem_cons_self
        rw [← head, List.mem_filterMap] at listed
        obtain ⟨other, member, written⟩ := listed
        obtain ⟨_, _, pair⟩ := Option.map_eq_some_iff.mp written
        exact unused (List.mem_map.mpr ⟨other, member, (Prod.mk.inj pair).1⟩)
      cases value <;> cases value' <;>
        simp only [List.filterMap_cons, Option.map_none, Option.map_some] at written
      · rw [ih later rest written]
      · exact absurd written (absent fresh)
      · exact absurd written.symm (absent (later ▸ fresh))
      · obtain ⟨pair, tail⟩ := List.cons.inj written
        rw [(Prod.mk.inj pair).2, ih later rest tail]

end Json

/-- A type whose values `json.Marshal` writes, no two of them alike. -/
class Marshal (A : Type) where
  marshal : A → Json
  injective : Function.Injective marshal

/-- A Go slice; `none` is the nil slice, which is written as `null`. -/
abbrev Slice (A : Type) := Option (List A)

namespace Slice

variable {A : Type}

def items (slice : Slice A) : List A :=
  slice.getD []

def append (slice : Slice A) (item : A) : Slice A :=
  some (slice.items ++ [item])

end Slice

namespace Marshal

instance : Marshal String := ⟨.string, fun _ _ => Json.string.inj⟩
instance : Marshal Bool := ⟨.bool, fun _ _ => Json.bool.inj⟩
instance : Marshal Int := ⟨.number, fun _ _ => Json.number.inj⟩
instance : Marshal Nat := ⟨fun n => .number n, fun _ _ same => Int.ofNat.inj (Json.number.inj same)⟩

instance {A : Type} [Marshal A] : Marshal (Slice A) where
  marshal
    | none => .null
    | some items => .array (items.map marshal)
  injective := by
    intro first second same
    cases first <;> cases second <;> first | rfl | cases same | skip
    exact congrArg some ((List.map_injective_iff.mpr injective) (Json.array.inj same))

variable {A : Type} [Marshal A]

def always (value : A) : Option Json :=
  some (marshal value)

/-- The `omitempty` option on a field with the given zero value. -/
def omitEmpty [DecidableEq A] (zero value : A) : Option Json :=
  if value = zero then none else some (marshal value)

/-- The `omitempty` option on a pointer. -/
def omitNil (value : Option A) : Option Json :=
  value.map marshal

@[simp] theorem always_inj {first second : A} : always first = always second ↔ first = second :=
  ⟨fun same => injective (Option.some.inj same), congrArg always⟩

@[simp] theorem omitEmpty_inj [DecidableEq A] {zero first second : A} :
    omitEmpty zero first = omitEmpty zero second ↔ first = second := by
  refine ⟨fun same => ?_, congrArg (omitEmpty zero)⟩
  unfold omitEmpty at same
  split_ifs at same with empty empty' empty'
  · exact empty.trans empty'.symm
  · exact injective (Option.some.inj same)

@[simp] theorem omitNil_inj {first second : Option A} :
    omitNil first = omitNil second ↔ first = second :=
  ⟨fun same => Option.map_injective injective same, congrArg omitNil⟩

end Marshal

end Shared

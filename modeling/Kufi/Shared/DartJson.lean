import Kufi.Shared.EcmaCoercion
import Kufi.Shared.EcmaJson

set_option autoImplicit false

/-!
# `jsonDecode` and `jsonEncode` of Dart

As on the native platforms, where a literal without a fraction and without an
exponent is an `int` if it fits in 64 bits. The text is read in tokens, and the
tokens are read as a value.
-/

namespace Shared.Dart

open Shared.Ecma (Str unit isDigit digits valueOf quoted escapeUnits skip isSpace readUnits
  readLiteral readFraction readExponent readSign readEscape hexDigit? readUnits_quoted)

/-! ## Blanks -/

def isBlank (u : UInt16) : Bool :=
  u.toNat ∈ [0x09, 0x0A, 0x0B, 0x0C, 0x0D, 0x20, 0x85, 0xA0, 0x1680, 0x2028, 0x2029, 0x202F, 0x205F,
    0x3000, 0xFEFF] || (0x2000 ≤ u.toNat && u.toNat ≤ 0x200A)

/-- `String.trim`. -/
def trim (text : Str) : Str := (text.dropWhile isBlank).rdropWhile isBlank

theorem trim_trim (text : Str) : trim (trim text) = trim text := by
  unfold trim
  rw [Ecma.dropWhile_initial (List.rdropWhile_prefix _ _) (List.dropWhile_idempotent _ _),
    List.rdropWhile_idempotent]

theorem blank_range {u : UInt16} (blank : isBlank u = true) : u.toNat ≤ 0x20 ∨ 0x85 ≤ u.toNat := by
  simp only [isBlank, List.mem_cons, List.not_mem_nil, or_false, Bool.or_eq_true, Bool.and_eq_true,
    decide_eq_true_eq] at blank
  omega

theorem blank_ne {u : UInt16} (blank : isBlank u = true) {c : Char}
    (inside : 0x20 < (unit c).toNat ∧ (unit c).toNat < 0x85) : u ≠ unit c := by
  rintro rfl
  have outside := blank_range blank
  omega

theorem blank_not_digit {u : UInt16} (blank : isBlank u = true) : isDigit u = false := by
  have outside := blank_range blank
  simp only [isDigit, Bool.and_eq_false_iff, decide_eq_false_iff_not, not_le]
  omega

theorem blank_not_hex {u : UInt16} (blank : isBlank u = true) : hexDigit? u = none := by
  have outside := blank_range blank
  unfold hexDigit?
  rw [if_neg (by omega), if_neg (by omega), if_neg (by omega)]

theorem space_blank {u : UInt16} (space : isSpace u = true) : isBlank u = true := by
  simp only [isSpace, Bool.or_eq_true, decide_eq_true_eq] at space
  rcases space with ((rfl | rfl) | rfl) | rfl <;> decide

/-! ## Values -/

inductive Number where
  | int (value : ℤ)
  | double (negative : Bool) (magnitude : Ecma.Number)

namespace Number

def fits (value : ℤ) : Bool := -2 ^ 63 ≤ value && value < 2 ^ 63

def ofLiteral (negative : Bool) (literal : Ecma.Literal) : Number :=
  let value : ℤ := if negative then -valueOf literal.whole else valueOf literal.whole
  if literal.fraction = [] ∧ literal.exponent = none ∧ fits value then .int value
  else .double negative (.round literal.value)

def intText (value : ℤ) : Str := (if value < 0 then [unit '-'] else []) ++ digits value.natAbs

-- A whole number of type `double` is written with a fraction.
def doubleText : Ecma.Number → Str
  | .infinity _ => Str.of "Infinity"
  | .finite x =>
    if unit '.' ∈ x.toString ∨ unit 'e' ∈ x.toString then x.toString else x.toString ++ Str.of ".0"

def toString : Number → Str
  | .int value => intText value
  | .double negative magnitude => (if negative then [unit '-'] else []) ++ doubleText magnitude

end Number

inductive Value where
  | null
  | bool (value : Bool)
  | number (n : Number)
  | string (text : Str)
  | list (items : List Value)
  | map (members : List (Str × Value))

abbrev Members := List (Str × Value)

namespace Members

/-- `map[name] = value`: a name keeps its place. -/
def set (members : Members) (name : Str) (value : Value) : Members :=
  if members.any (·.1 == name) then
    members.map fun member => if member.1 = name then (name, value) else member
  else members ++ [(name, value)]

def ofEntries (entries : Members) : Members :=
  entries.foldl (fun members entry => set members entry.1 entry.2) []

/-- `map[name]`. -/
def get (members : Members) (name : Str) : Value := (members.lookup name).getD .null

end Members

mutual

/-- The text of an interpolation. -/
def Value.toString : Value → Str
  | .null => Str.of "null"
  | .bool true => Str.of "true"
  | .bool false => Str.of "false"
  | .number n => n.toString
  | .string text => text
  | .list items => unit '[' :: itemsText [] items
  | .map members => unit '{' :: membersText [] members

-- The separator stands before every item but the first.
def itemsText (separator : Str) : List Value → Str
  | [] => [unit ']']
  | item :: rest => separator ++ (item.toString ++ itemsText (Str.of ", ") rest)

def membersText (separator : Str) : List (Str × Value) → Str
  | [] => [unit '}']
  | (name, value) :: rest =>
    separator ++ (name ++ (Str.of ": " ++ (value.toString ++ membersText (Str.of ", ") rest)))

end

/-- `value ?? text`, in an interpolation. -/
def Value.textOr (text : Str) : Value → Str
  | .null => text
  | value => value.toString

/-! ## Tokens -/

inductive Token where
  | openMap
  | closeMap
  | openList
  | closeList
  | colon
  | comma
  | null
  | bool (value : Bool)
  | number (n : Number)
  | string (text : Str)

def punctuation? (u : UInt16) : Option Token :=
  if u = unit '{' then some .openMap
  else if u = unit '}' then some .closeMap
  else if u = unit '[' then some .openList
  else if u = unit ']' then some .closeList
  else if u = unit ':' then some .colon
  else if u = unit ',' then some .comma
  else none

def readWord (word : Str) (token : Token) (text : Str) : Option (Token × Str) :=
  if word <+: text then some (token, text.drop word.length) else none

-- The token that begins with this unit.
def readToken (u : UInt16) (rest : Str) : Option (Token × Str) :=
  match punctuation? u with
  | some token => some (token, rest)
  | none =>
    if u = unit '"' then
      (readUnits (rest.length + 1) rest).map fun read => (.string read.1, read.2)
    else if u = unit 'n' then readWord Ecma.nullText .null (u :: rest)
    else if u = unit 't' then readWord Ecma.trueText (.bool true) (u :: rest)
    else if u = unit 'f' then readWord Ecma.falseText (.bool false) (u :: rest)
    else if u = unit '-' then
      (readLiteral rest).map fun read => (.number (.ofLiteral true read.1), read.2)
    else (readLiteral (u :: rest)).map fun read => (.number (.ofLiteral false read.1), read.2)

def tokens : ℕ → Str → Option (List Token)
  | 0, _ => none
  | fuel + 1, text =>
    match skip text with
    | [] => some []
    | u :: rest => do
      let (token, rest) ← readToken u rest
      let later ← tokens fuel rest
      some (token :: later)

mutual

def parseValue : ℕ → List Token → Option (Value × List Token)
  | 0, _ => none
  | _ + 1, .null :: rest => some (.null, rest)
  | _ + 1, .bool value :: rest => some (.bool value, rest)
  | _ + 1, .number n :: rest => some (.number n, rest)
  | _ + 1, .string text :: rest => some (.string text, rest)
  | fuel + 1, .openList :: rest =>
    match rest with
    | .closeList :: later => some (.list [], later)
    | _ => (parseItems fuel rest).map fun read => (.list read.1, read.2)
  | fuel + 1, .openMap :: rest =>
    match rest with
    | .closeMap :: later => some (.map [], later)
    | _ => (parseMembers fuel rest).map fun read => (.map (Members.ofEntries read.1), read.2)
  | _ + 1, _ => none

def parseItems : ℕ → List Token → Option (List Value × List Token)
  | 0, _ => none
  | fuel + 1, text => do
    let (item, rest) ← parseValue fuel text
    match rest with
    | .comma :: later => do
      let (items, rest) ← parseItems fuel later
      some (item :: items, rest)
    | .closeList :: later => some ([item], later)
    | _ => none

def parseMembers : ℕ → List Token → Option (Members × List Token)
  | 0, _ => none
  | fuel + 1, .string name :: .colon :: rest => do
    let (value, rest) ← parseValue fuel rest
    match rest with
    | .comma :: later => do
      let (members, rest) ← parseMembers fuel later
      some ((name, value) :: members, rest)
    | .closeMap :: later => some ([(name, value)], later)
    | _ => none
  | _ + 1, _ => none

end

def parse (ts : List Token) : Option Value :=
  match parseValue (ts.length + 1) ts with
  | some (value, []) => some value
  | _ => none

/-- `jsonDecode`; `none` when it throws. -/
def jsonDecode (text : Str) : Option Value := (tokens (text.length + 1) text).bind parse

mutual

/-- `jsonEncode`; `none` when it throws, as an infinite number has no text. -/
def jsonEncode : Value → Option Str
  | .null => some Ecma.nullText
  | .bool true => some Ecma.trueText
  | .bool false => some Ecma.falseText
  | .number (.double _ (.infinity _)) => none
  | .number n => some n.toString
  | .string text => some (quoted text)
  | .list items => (encodeItems [] items).map (unit '[' :: ·)
  | .map members => (encodeMembers [] members).map (unit '{' :: ·)

def encodeItems (separator : Str) : List Value → Option Str
  | [] => some [unit ']']
  | item :: rest => do
    let text ← jsonEncode item
    let later ← encodeItems [unit ','] rest
    some (separator ++ (text ++ later))

def encodeMembers (separator : Str) : List (Str × Value) → Option Str
  | [] => some [unit '}']
  | (name, value) :: rest => do
    let text ← jsonEncode value
    let later ← encodeMembers [unit ','] rest
    some (separator ++ (quoted name ++ unit ':' :: (text ++ later)))

end

/-! ## Lengths

A text is longer than what is left of it, and its length is fuel enough.
-/

theorem readEscape_length {text rest : Str} {u : UInt16} (read : readEscape text = some (u, rest)) :
    rest.length < text.length := by
  cases text with
  | nil => cases read
  | cons letter text =>
    unfold readEscape at read
    dsimp only at read
    split_ifs at read
    · match text with
      | a :: b :: c :: d :: text =>
        simp only [Option.bind_eq_bind, Option.bind_eq_some_iff, Option.some.injEq,
          Prod.mk.injEq] at read
        obtain ⟨_, -, _, -, _, -, _, -, -, rfl⟩ := read
        simp only [List.length_cons]
        omega
      | [] | [_] | [_, _] | [_, _, _] => cases read
    · obtain ⟨_, -, same⟩ := Option.map_eq_some_iff.mp read
      cases same
      exact Nat.lt_succ_self _

theorem readUnits_length {fuel : ℕ} {text units rest : Str}
    (read : readUnits fuel text = some (units, rest)) : rest.length < text.length := by
  induction fuel generalizing text units with
  | zero => cases read
  | succ fuel ih =>
    cases text with
    | nil => cases read
    | cons u text =>
      rw [readUnits] at read
      split_ifs at read
      · cases read
        exact Nat.lt_succ_self _
      · simp only [Option.bind_eq_bind, Option.bind_eq_some_iff, Prod.exists, Option.some.injEq,
          Prod.mk.injEq] at read
        obtain ⟨_, later, escaped, _, _, readTail, -, rfl⟩ := read
        have first := readEscape_length escaped
        have second := ih readTail
        simp only [List.length_cons]
        omega
      · simp only [Option.bind_eq_bind, Option.bind_eq_some_iff, Prod.exists, Option.some.injEq,
          Prod.mk.injEq] at read
        obtain ⟨_, _, readTail, -, rfl⟩ := read
        have second := ih readTail
        simp only [List.length_cons]
        omega

theorem readUnits_enough {fuel enough : ℕ} {text : Str} {read : Str × Str}
    (found : readUnits fuel text = some read) (long : text.length < enough) :
    readUnits enough text = some read := by
  induction fuel generalizing text read enough with
  | zero => cases found
  | succ fuel ih =>
    obtain ⟨enough, rfl⟩ := Nat.exists_eq_succ_of_ne_zero (show enough ≠ 0 by omega)
    cases text with
    | nil => cases found
    | cons u text =>
      simp only [List.length_cons] at long
      rw [readUnits] at found ⊢
      split_ifs at found ⊢
      · exact found
      · simp only [Option.bind_eq_bind, Option.bind_eq_some_iff, Prod.exists] at found ⊢
        obtain ⟨v, later, escaped, tail, rest, readTail, made⟩ := found
        have shorter := readEscape_length escaped
        exact ⟨v, later, escaped, tail, rest, ih readTail (by omega), made⟩
      · simp only [Option.bind_eq_bind, Option.bind_eq_some_iff, Prod.exists] at found ⊢
        obtain ⟨tail, rest, readTail, made⟩ := found
        exact ⟨tail, rest, ih readTail (by omega), made⟩

theorem length_dropWhile_le (p : UInt16 → Bool) (text : Str) :
    (text.dropWhile p).length ≤ text.length :=
  (List.dropWhile_suffix p).length_le

theorem readFraction_length {text : Str} {read : Str × Str}
    (found : readFraction text = some read) : read.2.length ≤ text.length := by
  cases text with
  | nil =>
    cases found
    exact le_rfl
  | cons u text =>
    have shorter := length_dropWhile_le isDigit text
    simp only [readFraction] at found
    split_ifs at found <;> cases found
    · exact Nat.le_succ_of_le shorter
    · exact le_rfl

theorem readSign_length (text : Str) : (readSign text).2.length ≤ text.length := by
  cases text with
  | nil => exact le_rfl
  | cons u text =>
    simp only [readSign]
    split_ifs <;> simp

theorem readExponent_length {text : Str} {read : Option ℤ × Str}
    (found : readExponent text = some read) : read.2.length ≤ text.length := by
  cases text with
  | nil =>
    cases found
    exact le_rfl
  | cons u text =>
    have shorter := length_dropWhile_le isDigit (readSign text).2
    have sign := readSign_length text
    simp only [readExponent] at found
    split_ifs at found <;> cases found <;> simp only [List.length_cons]
    all_goals omega

theorem readLiteral_length {text : Str} {read : Ecma.Literal × Str}
    (found : readLiteral text = some read) : read.2.length < text.length := by
  unfold readLiteral at found
  dsimp only at found
  split_ifs at found with plain
  simp only [Option.bind_eq_bind, Option.bind_eq_some_iff, Prod.exists, Option.some.injEq] at found
  obtain ⟨fraction, middle, first, exponent, rest, second, rfl⟩ := found
  have fractionLength := readFraction_length first
  have exponentLength := readExponent_length second
  have whole : text.takeWhile isDigit ≠ [] := fun empty => plain (.inl empty)
  have some := List.length_pos_iff.mpr whole
  have sum := congrArg List.length (List.takeWhile_append_dropWhile (p := isDigit) (l := text))
  rw [List.length_append] at sum
  dsimp only at *
  omega

theorem readWord_length {word text : Str} {token : Token} {read : Token × Str}
    (found : readWord word token text = some read) (some : word ≠ []) :
    read.2.length < text.length := by
  unfold readWord at found
  split_ifs at found with first
  cases found
  have positive := List.length_pos_iff.mpr some
  have long := first.length_le
  simp only [List.length_drop]
  omega

theorem readToken_length {u : UInt16} {text : Str} {read : Token × Str}
    (found : readToken u text = some read) : read.2.length ≤ text.length := by
  unfold readToken at found
  cases mark : punctuation? u with
  | some token =>
    simp only [mark] at found
    cases found
    exact le_rfl
  | none =>
    simp only [mark] at found
    split_ifs at found
    · obtain ⟨units, readUnits, rfl⟩ := Option.map_eq_some_iff.mp found
      exact (readUnits_length readUnits).le
    · exact Nat.le_of_lt_succ (readWord_length found (by decide))
    · exact Nat.le_of_lt_succ (readWord_length found (by decide))
    · exact Nat.le_of_lt_succ (readWord_length found (by decide))
    · obtain ⟨literal, readLiteral, rfl⟩ := Option.map_eq_some_iff.mp found
      exact (readLiteral_length readLiteral).le
    · obtain ⟨literal, readLiteral, rfl⟩ := Option.map_eq_some_iff.mp found
      exact Nat.le_of_lt_succ (readLiteral_length readLiteral)

theorem tokens_enough {fuel enough : ℕ} {text : Str} {ts : List Token}
    (found : tokens fuel text = some ts) (long : text.length < enough) :
    tokens enough text = some ts := by
  induction fuel generalizing text ts enough with
  | zero => cases found
  | succ fuel ih =>
    obtain ⟨enough, rfl⟩ := Nat.exists_eq_succ_of_ne_zero (show enough ≠ 0 by omega)
    rw [tokens] at found ⊢
    have shorter := length_dropWhile_le isSpace text
    cases rest : skip text with
    | nil => simpa only [rest] using found
    | cons u later =>
      simp only [rest, Option.bind_eq_bind, Option.bind_eq_some_iff, Prod.exists] at found ⊢
      obtain ⟨t, next, first, tail, readTail, made⟩ := found
      have left : next.length ≤ later.length := readToken_length first
      rw [← skip, rest] at shorter
      simp only [List.length_cons] at shorter
      exact ⟨t, next, first, tail, ih readTail (by omega), made⟩

section Fuel

variable {fuel : ℕ}

/-- What is read is shorter than the tokens, and their number is fuel enough to read it. -/
def Enough {α : Type} (parser : ℕ → List Token → Option (α × List Token)) (fuel : ℕ) : Prop :=
  ∀ {ts : List Token} {read : α} {rest : List Token}, parser fuel ts = some (read, rest) →
    rest.length < ts.length ∧
      ∀ enough, ts.length ≤ enough + rest.length → parser enough ts = some (read, rest)

theorem exists_fuel {enough consumed left : ℕ} (long : consumed + 1 ≤ enough + left)
    (shorter : left ≤ consumed) : ∃ n, enough = n + 1 ∧ consumed ≤ n + left :=
  ⟨enough - 1, by omega, by omega⟩

-- Reading goes the same way with any fuel.
theorem read_once {ts : List Token} {value : Value} {rest : List Token}
    (reads : ∀ enough, parseValue (enough + 1) ts = some (value, rest))
    (shorter : rest.length < ts.length) :
    rest.length < ts.length ∧
      ∀ enough, ts.length ≤ enough + rest.length → parseValue enough ts = some (value, rest) := by
  refine ⟨shorter, fun enough long => ?_⟩
  obtain ⟨n, rfl⟩ := Nat.exists_eq_succ_of_ne_zero (show enough ≠ 0 by omega)
  exact reads n

theorem parseValue_openList {later : List Token} (filled : ∀ more, later ≠ .closeList :: more) :
    parseValue (fuel + 1) (.openList :: later) =
      (parseItems fuel later).map fun read => (.list read.1, read.2) := by
  rw [parseValue]
  exact filled

theorem parseValue_openMap {later : List Token} (filled : ∀ more, later ≠ .closeMap :: more) :
    parseValue (fuel + 1) (.openMap :: later) =
      (parseMembers fuel later).map fun read => (.map (Members.ofEntries read.1), read.2) := by
  rw [parseValue]
  exact filled

theorem parseValue_enough (items : Enough parseItems fuel) (members : Enough parseMembers fuel) :
    Enough parseValue (fuel + 1) := by
  intro ts value rest read
  cases ts with
  | nil => cases read
  | cons t later =>
    cases t with
    | closeMap | closeList | colon | comma => cases read
    | null | bool | number | string =>
      cases read
      exact read_once (fun _ => rfl) (Nat.lt_succ_self _)
    | openList =>
      by_cases empty : ∃ more, later = .closeList :: more
      · obtain ⟨more, rfl⟩ := empty
        cases read
        exact read_once (fun _ => rfl) (Nat.lt_add_of_pos_right Nat.two_pos)
      · have filled := not_exists.mp empty
        rw [parseValue_openList filled] at read
        obtain ⟨⟨listed, left⟩, found, same⟩ := Option.map_eq_some_iff.mp read
        cases same
        obtain ⟨shorter, again⟩ := items found
        refine ⟨Nat.lt_succ_of_lt shorter, fun enough long => ?_⟩
        obtain ⟨n, rfl, long'⟩ := exists_fuel long shorter.le
        rw [parseValue_openList filled, again n long']
        rfl
    | openMap =>
      by_cases empty : ∃ more, later = .closeMap :: more
      · obtain ⟨more, rfl⟩ := empty
        cases read
        exact read_once (fun _ => rfl) (Nat.lt_add_of_pos_right Nat.two_pos)
      · have filled := not_exists.mp empty
        rw [parseValue_openMap filled] at read
        obtain ⟨⟨listed, left⟩, found, same⟩ := Option.map_eq_some_iff.mp read
        cases same
        obtain ⟨shorter, again⟩ := members found
        refine ⟨Nat.lt_succ_of_lt shorter, fun enough long => ?_⟩
        obtain ⟨n, rfl, long'⟩ := exists_fuel long shorter.le
        rw [parseValue_openMap filled, again n long']
        rfl

theorem parseItems_enough (values : Enough parseValue fuel) (items : Enough parseItems fuel) :
    Enough parseItems (fuel + 1) := by
  intro ts read rest found
  rw [parseItems] at found
  obtain ⟨⟨item, middle⟩, first, second⟩ := Option.bind_eq_some_iff.mp found
  obtain ⟨shorter, again⟩ := values first
  dsimp only at second
  split at second
  next later =>
    obtain ⟨⟨listed, left⟩, next, same⟩ := Option.bind_eq_some_iff.mp second
    obtain ⟨rfl, rfl⟩ : item :: listed = read ∧ left = rest := by simpa using same
    obtain ⟨shorter', again'⟩ := items next
    simp only [List.length_cons] at shorter again
    refine ⟨by omega, fun enough long => ?_⟩
    obtain ⟨n, rfl⟩ := Nat.exists_eq_succ_of_ne_zero (show enough ≠ 0 by omega)
    rw [parseItems, again n (by omega)]
    simp [again' n (by omega)]
  next later =>
    cases second
    simp only [List.length_cons] at shorter again
    refine ⟨by omega, fun enough long => ?_⟩
    obtain ⟨n, rfl⟩ := Nat.exists_eq_succ_of_ne_zero (show enough ≠ 0 by omega)
    rw [parseItems, again n (by omega)]
    rfl
  next => cases second

theorem parseMembers_enough (values : Enough parseValue fuel) (members : Enough parseMembers fuel) :
    Enough parseMembers (fuel + 1) := by
  intro ts read rest found
  by_cases shape : ∃ name later, ts = .string name :: .colon :: later
  · obtain ⟨name, named, rfl⟩ := shape
    rw [parseMembers] at found
    obtain ⟨⟨value, middle⟩, first, second⟩ := Option.bind_eq_some_iff.mp found
    obtain ⟨shorter, again⟩ := values first
    dsimp only at second
    split at second
    next later =>
      obtain ⟨⟨listed, left⟩, next, same⟩ := Option.bind_eq_some_iff.mp second
      obtain ⟨rfl, rfl⟩ : (name, value) :: listed = read ∧ left = rest := by simpa using same
      obtain ⟨shorter', again'⟩ := members next
      simp only [List.length_cons] at shorter again ⊢
      refine ⟨by omega, fun enough long => ?_⟩
      obtain ⟨n, rfl⟩ := Nat.exists_eq_succ_of_ne_zero (show enough ≠ 0 by omega)
      rw [parseMembers, again n (by omega)]
      simp [again' n (by omega)]
    next later =>
      cases second
      simp only [List.length_cons] at shorter again ⊢
      refine ⟨by omega, fun enough long => ?_⟩
      obtain ⟨n, rfl⟩ := Nat.exists_eq_succ_of_ne_zero (show enough ≠ 0 by omega)
      rw [parseMembers, again n (by omega)]
      rfl
    next => cases second
  · rw [parseMembers] at found
    · cases found
    · exact fun name later same => shape ⟨name, later, same⟩

theorem parsers_enough (fuel : ℕ) :
    Enough parseValue fuel ∧ Enough parseItems fuel ∧ Enough parseMembers fuel := by
  induction fuel with
  | zero => refine ⟨?_, ?_, ?_⟩ <;> (intro ts read rest found; cases found)
  | succ fuel ih =>
    obtain ⟨values, items, members⟩ := ih
    exact ⟨parseValue_enough items members, parseItems_enough values items,
      parseMembers_enough values members⟩

/-- What any fuel reads to the end, the number of the tokens reads. -/
theorem parse_of_parseValue {ts : List Token} {value : Value}
    (read : parseValue fuel ts = some (value, [])) : parse ts = some value := by
  have again := ((parsers_enough fuel).1 read).2 (ts.length + 1) (by simp)
  rw [parse, again]

end Fuel

theorem jsonDecode_of {fuel depth : ℕ} {text : Str} {ts : List Token} {value : Value}
    (lexed : tokens fuel text = some ts) (parsed : parseValue depth ts = some (value, [])) :
    jsonDecode text = some value := by
  rw [jsonDecode, tokens_enough lexed (Nat.lt_succ_self _)]
  exact parse_of_parseValue parsed

end Shared.Dart

import Kufi.Shared.EcmaValue

set_option autoImplicit false

/-!
# `JSON.stringify` and `JSON.parse`

The text of a value and what is read back from it. An infinite number is
written as `null`, and half of a surrogate pair is escaped.
-/

namespace Shared.Ecma

/-! ## Strings -/

def isLead (u : UInt16) : Bool := 0xD800 ≤ u.toNat && u.toNat < 0xDC00
def isTrail (u : UInt16) : Bool := 0xDC00 ≤ u.toNat && u.toNat < 0xE000

-- The letter after the backslash.
def shortEscape? (u : UInt16) : Option UInt16 :=
  if u = unit '"' then some (unit '"')
  else if u = unit '\\' then some (unit '\\')
  else if u = 8 then some (unit 'b')
  else if u = 12 then some (unit 'f')
  else if u = unit '\n' then some (unit 'n')
  else if u = unit '\r' then some (unit 'r')
  else if u = unit '\t' then some (unit 't')
  else none

def unicodeEscape (u : UInt16) : Str :=
  [unit '\\', unit 'u', unit (Nat.digitChar (u.toNat / 4096)),
    unit (Nat.digitChar (u.toNat / 256 % 16)), unit (Nat.digitChar (u.toNat / 16 % 16)),
    unit (Nat.digitChar (u.toNat % 16))]

def escapeUnit (u : UInt16) : Str :=
  match shortEscape? u with
  | some letter => [unit '\\', letter]
  | none => if u.toNat < 0x20 || isLead u || isTrail u then unicodeEscape u else [u]

-- A surrogate pair is written as it is.
def escapeUnits : Str → Str
  | [] => []
  | [u] => escapeUnit u
  | u :: v :: rest =>
    if isLead u && isTrail v then u :: v :: escapeUnits rest
    else escapeUnit u ++ escapeUnits (v :: rest)

def quoted (text : Str) : Str := unit '"' :: (escapeUnits text ++ [unit '"'])

def hexDigit? (u : UInt16) : Option ℕ :=
  if 48 ≤ u.toNat ∧ u.toNat ≤ 57 then some (u.toNat - 48)
  else if 97 ≤ u.toNat ∧ u.toNat ≤ 102 then some (u.toNat - 87)
  else if 65 ≤ u.toNat ∧ u.toNat ≤ 70 then some (u.toNat - 55)
  else none

def longEscape? (letter : UInt16) : Option UInt16 :=
  if letter = unit '"' ∨ letter = unit '\\' ∨ letter = unit '/' then some letter
  else if letter = unit 'b' then some 8
  else if letter = unit 'f' then some 12
  else if letter = unit 'n' then some (unit '\n')
  else if letter = unit 'r' then some (unit '\r')
  else if letter = unit 't' then some (unit '\t')
  else none

/-- The unit of an escape, from what follows the backslash. -/
def readEscape : Str → Option (UInt16 × Str)
  | [] => none
  | letter :: rest =>
    if letter = unit 'u' then
      match rest with
      | a :: b :: c :: d :: rest => do
        let a ← hexDigit? a
        let b ← hexDigit? b
        let c ← hexDigit? c
        let d ← hexDigit? d
        some (UInt16.ofNat (a * 4096 + b * 256 + c * 16 + d), rest)
      | _ => none
    else (longEscape? letter).map fun u => (u, rest)

/-- The units up to the closing quotation mark. -/
def readUnits : ℕ → Str → Option (Str × Str)
  | 0, _ | _, [] => none
  | fuel + 1, u :: rest =>
    if u = unit '"' then some ([], rest)
    else if u = unit '\\' then do
      let (u, rest) ← readEscape rest
      let (units, rest) ← readUnits fuel rest
      some (u :: units, rest)
    else if u.toNat < 0x20 then none
    else do
      let (units, rest) ← readUnits fuel rest
      some (u :: units, rest)

theorem longEscape_short {u letter : UInt16} (short : shortEscape? u = some letter) :
    longEscape? letter = some u ∧ letter ≠ unit 'u' := by
  unfold shortEscape? at short
  split_ifs at short <;> (cases short; subst_vars; decide)

theorem hexDigit_digit {d : ℕ} (small : d < 16) : hexDigit? (unit (Nat.digitChar d)) = some d := by
  have table : ∀ d : Fin 16, hexDigit? (unit (Nat.digitChar d.val)) = some d.val := by decide
  exact table ⟨d, small⟩

theorem readUnits_literal {u : UInt16} (plain : u ≠ unit '"' ∧ u ≠ unit '\\' ∧ 0x20 ≤ u.toNat)
    (fuel : ℕ) (rest : Str) :
    readUnits (fuel + 1) (u :: rest) =
      (readUnits fuel rest).map fun read => (u :: read.1, read.2) := by
  rw [readUnits, if_neg plain.1, if_neg plain.2.1, if_neg (by omega)]
  cases readUnits fuel rest <;> rfl

theorem readUnits_escape (u : UInt16) (fuel : ℕ) (rest : Str) :
    readUnits (fuel + 1) (escapeUnit u ++ rest) =
      (readUnits fuel rest).map fun read => (u :: read.1, read.2) := by
  have escaped (text : Str) (reads : readEscape (text ++ rest) = some (u, rest)) :
      readUnits (fuel + 1) (unit '\\' :: (text ++ rest)) =
        (readUnits fuel rest).map fun read => (u :: read.1, read.2) := by
    rw [readUnits, if_neg (by decide), if_pos rfl, reads]
    change (readUnits fuel rest).bind _ = _
    cases readUnits fuel rest <;> rfl
  unfold escapeUnit
  cases short : shortEscape? u with
  | some letter =>
    obtain ⟨long, other⟩ := longEscape_short short
    exact escaped [letter] (by simp [readEscape, other, long])
  | none =>
    dsimp only
    split_ifs with special
    · have bound := u.toNat_lt
      refine escaped (unicodeEscape u).tail ?_
      simp only [unicodeEscape, List.tail_cons, List.cons_append, List.nil_append, readEscape,
        if_true]
      rw [hexDigit_digit (by omega), hexDigit_digit (by omega), hexDigit_digit (by omega),
        hexDigit_digit (by omega)]
      simp only [Option.bind_eq_bind, Option.bind_some, Option.some.injEq, Prod.mk.injEq, and_true]
      apply UInt16.toNat_inj.mp
      rw [UInt16.toNat_ofNat']
      omega
    · refine readUnits_literal ⟨?_, ?_, ?_⟩ fuel rest
      · rintro rfl
        exact absurd short (by decide)
      · rintro rfl
        exact absurd short (by decide)
      · simp only [Bool.or_eq_true, decide_eq_true_eq, not_or, not_lt] at special
        exact special.1.1

theorem literal_of_surrogate {u : UInt16} (large : 0xD800 ≤ u.toNat) :
    u ≠ unit '"' ∧ u ≠ unit '\\' ∧ 0x20 ≤ u.toNat := by
  refine ⟨?_, ?_, by omega⟩ <;> rintro rfl <;> exact absurd large (by decide)

theorem readUnits_escapeUnits : ∀ (units rest : Str) {fuel : ℕ}, units.length < fuel →
    readUnits fuel (escapeUnits units ++ unit '"' :: rest) = some (units, rest)
  | [], rest, fuel + 1, _ => by simp [escapeUnits, readUnits]
  | [u], rest, fuel + 2, _ => by
    rw [escapeUnits, readUnits_escape]
    simp [readUnits]
  | u :: v :: units, rest, fuel + 2, enough => by
    simp only [List.length_cons] at enough
    unfold escapeUnits
    split_ifs with pair
    · simp only [Bool.and_eq_true, isLead, isTrail, decide_eq_true_eq] at pair
      rw [List.cons_append, List.cons_append, readUnits_literal (literal_of_surrogate pair.1.1),
        readUnits_literal (literal_of_surrogate (by omega)),
        readUnits_escapeUnits units rest (by omega)]
      rfl
    · rw [List.append_assoc, readUnits_escape,
        readUnits_escapeUnits (v :: units) rest (by simp only [List.length_cons]; omega)]
      rfl

theorem length_escapeUnit (u : UInt16) : 1 ≤ (escapeUnit u).length := by
  unfold escapeUnit
  cases shortEscape? u with
  | some => simp
  | none =>
    dsimp only
    split_ifs <;> simp [unicodeEscape]

theorem length_le_escapeUnits : ∀ units : Str, units.length ≤ (escapeUnits units).length
  | [] => by simp [escapeUnits]
  | [u] => by
    have one := length_escapeUnit u
    simpa [escapeUnits] using one
  | u :: v :: units => by
    have one := length_escapeUnit u
    have first := length_le_escapeUnits units
    have second := length_le_escapeUnits (v :: units)
    unfold escapeUnits
    split_ifs
    · simp only [List.length_cons]
      omega
    · simp only [List.length_cons, List.length_append] at second ⊢
      omega

theorem readUnits_quoted (text rest : Str) :
    readUnits ((escapeUnits text ++ unit '"' :: rest).length + 1)
      (escapeUnits text ++ unit '"' :: rest) = some (text, rest) := by
  apply readUnits_escapeUnits
  have bound := length_le_escapeUnits text
  simp only [List.length_append, List.length_cons]
  omega

/-! ## Values -/

def nullText : Str := [unit 'n', unit 'u', unit 'l', unit 'l']
def trueText : Str := [unit 't', unit 'r', unit 'u', unit 'e']
def falseText : Str := [unit 'f', unit 'a', unit 'l', unit 's', unit 'e']

mutual

/-- `JSON.stringify`. -/
def stringify : Value → Str
  | .null => nullText
  | .bool true => trueText
  | .bool false => falseText
  | .number (.finite x) => x.toString
  | .number (.infinity _) => nullText
  | .string text => quoted text
  | .array items => unit '[' :: stringifyItems [] items
  | .object members => unit '{' :: stringifyMembers [] members

-- The separator stands before every item but the first.
def stringifyItems (separator : Str) : List Value → Str
  | [] => [unit ']']
  | item :: rest => separator ++ (stringify item ++ stringifyItems [unit ','] rest)

def stringifyMembers (separator : Str) : List (Str × Value) → Str
  | [] => [unit '}']
  | (name, value) :: rest =>
    separator ++ (quoted name ++ unit ':' :: (stringify value ++ stringifyMembers [unit ','] rest))

end

mutual

/-- What is left of a value in its text: an infinite number is `null`. -/
def finiteValue : Value → Value
  | .number (.infinity _) => .null
  | .array items => .array (finiteItems items)
  | .object members => .object (finiteMembers members)
  | value => value

def finiteItems : List Value → List Value
  | [] => []
  | item :: rest => finiteValue item :: finiteItems rest

def finiteMembers : List (Str × Value) → List (Str × Value)
  | [] => []
  | (name, value) :: rest => (name, finiteValue value) :: finiteMembers rest

end

/-! ## Reading a value -/

def isSpace (u : UInt16) : Bool := u = 0x20 || u = 9 || u = 10 || u = 13

def skip (text : Str) : Str := text.dropWhile isSpace

def readWord (word : Str) (value : Value) (text : Str) : Option (Value × Str) :=
  if word <+: text then some (value, text.drop word.length) else none

mutual

-- The members of an object as the text lists them.
def readValue : ℕ → Str → Option (Value × Str)
  | 0, _ => none
  | fuel + 1, text =>
    match skip text with
    | [] => none
    | u :: rest =>
      if u = unit 'n' then readWord nullText .null (u :: rest)
      else if u = unit 't' then readWord trueText (.bool true) (u :: rest)
      else if u = unit 'f' then readWord falseText (.bool false) (u :: rest)
      else if u = unit '"' then
        (readUnits (rest.length + 1) rest).map fun read => (.string read.1, read.2)
      else if u = unit '[' then
        if (skip rest).head? = some (unit ']') then some (.array [], (skip rest).tail)
        else (readItems fuel rest).map fun read => (.array read.1, read.2)
      else if u = unit '{' then
        if (skip rest).head? = some (unit '}') then some (.object [], (skip rest).tail)
        else (readMembers fuel rest).map fun read => (.object read.1, read.2)
      else (readNumber (u :: rest)).map fun read => (.number read.1, read.2)

def readItems : ℕ → Str → Option (List Value × Str)
  | 0, _ => none
  | fuel + 1, text => do
    let (item, rest) ← readValue fuel text
    match skip rest with
    | [] => none
    | u :: later =>
      if u = unit ',' then do
        let (items, rest) ← readItems fuel later
        some (item :: items, rest)
      else if u = unit ']' then some ([item], later)
      else none

def readMembers : ℕ → Str → Option (List (Str × Value) × Str)
  | 0, _ => none
  | fuel + 1, text =>
    match skip text with
    | [] => none
    | quote :: rest =>
      if quote = unit '"' then do
        let (name, rest) ← readUnits (rest.length + 1) rest
        match skip rest with
        | [] => none
        | colon :: rest =>
          if colon = unit ':' then do
            let (value, rest) ← readValue fuel rest
            match skip rest with
            | [] => none
            | u :: later =>
              if u = unit ',' then do
                let (members, rest) ← readMembers fuel later
                some ((name, value) :: members, rest)
              else if u = unit '}' then some ([(name, value)], later)
              else none
          else none
      else none

end

mutual

/-- The objects that the members of a text make: of one name the last counts. -/
def built : Value → Value
  | .array items => .array (builtItems items)
  | .object members => .object (Members.ofEntries (builtMembers members))
  | value => value

def builtItems : List Value → List Value
  | [] => []
  | item :: rest => built item :: builtItems rest

def builtMembers : List (Str × Value) → List (Str × Value)
  | [] => []
  | (name, value) :: rest => (name, built value) :: builtMembers rest

end

/-- `JSON.parse`; `none` when it throws. -/
def parse (text : Str) : Option Value :=
  match readValue (text.length + 1) text with
  | some (value, rest) => if skip rest = [] then some (built value) else none
  | none => none

/-! ## Reading what was written -/

theorem skip_cons {u : UInt16} {text : Str} (solid : isSpace u = false) :
    skip (u :: text) = u :: text := by
  simp [skip, solid]

theorem readWord_self (word : Str) (value : Value) (rest : Str) :
    readWord word value (word ++ rest) = some (value, rest) := by
  simp [readWord]

theorem ends_cons {u : UInt16}
    (other : isDigit u = false ∧ u ≠ unit '.' ∧ u ≠ unit 'e' ∧ u ≠ unit 'E') (text : Str) :
    Ends (u :: text) := by
  intro v head
  obtain rfl := Option.some.inj head
  exact other

theorem ends_stringifyItems (items : List Value) (rest : Str) :
    Ends (stringifyItems [unit ','] items ++ rest) := by
  cases items <;> exact ends_cons (by decide) _

theorem ends_stringifyMembers (members : Members) (rest : Str) :
    Ends (stringifyMembers [unit ','] members ++ rest) := by
  cases members <;> exact ends_cons (by decide) _

/-- A number begins with its sign or a digit. -/
theorem toString_head (x : Finite) :
    ∃ u rest, x.toString = u :: rest ∧ (u = unit '-' ∨ isDigit u = true) := by
  unfold Finite.toString
  split_ifs with zero negative
  · exact ⟨_, _, rfl, .inr (by decide)⟩
  · exact ⟨_, _, rfl, .inl rfl⟩
  · have grammatical := layout_grammatical (x.decimal_pos zero) x.decimal.2
    obtain ⟨u, whole, first⟩ := List.exists_cons_of_ne_nil grammatical.some
    refine ⟨u, _, by rw [Literal.text, first]; rfl, .inr ?_⟩
    exact grammatical.whole u (by simp [first])

theorem readValue_number {fuel : ℕ} (x : Finite) {rest : Str} (ends : Ends rest) :
    readValue (fuel + 1) (x.toString ++ rest) = some (.number (.finite x), rest) := by
  obtain ⟨u, text, written, head⟩ := toString_head x
  have read := x.readNumber_toString ends
  have other : isSpace u = false ∧ u ≠ unit 'n' ∧ u ≠ unit 't' ∧ u ≠ unit 'f' ∧ u ≠ unit '"' ∧
      u ≠ unit '[' ∧ u ≠ unit '{' := by
    rcases head with rfl | digit
    · decide
    · refine ⟨?_, ?_, ?_, ?_, ?_, ?_, ?_⟩
      · by_contra space
        simp only [isSpace, Bool.not_eq_false, Bool.or_eq_true, decide_eq_true_eq] at space
        rcases space with ((rfl | rfl) | rfl) | rfl <;> exact absurd digit (by decide)
      all_goals
        rintro rfl
        exact absurd digit (by decide)
  obtain ⟨solid, notNull, notTrue, notFalse, notString, notArray, notObject⟩ := other
  rw [written, List.cons_append] at read ⊢
  rw [readValue, skip_cons solid]
  simp only [notNull, notTrue, notFalse, notString, notArray, notObject, if_false, read,
    Option.map_some]

theorem quoted_append (text rest : Str) :
    quoted text ++ rest = unit '"' :: (escapeUnits text ++ unit '"' :: rest) := by
  simp [quoted]

theorem readValue_string {fuel : ℕ} (text rest : Str) :
    readValue (fuel + 1) (quoted text ++ rest) = some (.string text, rest) := by
  have other : unit '"' ≠ unit 'n' ∧ unit '"' ≠ unit 't' ∧ unit '"' ≠ unit 'f' := by decide
  rw [quoted_append, readValue, skip_cons (by decide)]
  simp only [other, if_false, if_true, readUnits_quoted, Option.map_some]

/-- After a member's name and its colon the value is read, then the rest of the members. -/
theorem readMembers_name {fuel : ℕ} (name text : Str) :
    readMembers (fuel + 1) (quoted name ++ unit ':' :: text) =
      (readValue fuel text).bind fun read =>
        match skip read.2 with
        | [] => none
        | u :: later =>
          if u = unit ',' then
            (readMembers fuel later).bind fun others => some ((name, read.1) :: others.1, others.2)
          else if u = unit '}' then some ([(name, read.1)], later)
          else none := by
  rw [quoted_append, readMembers, skip_cons (by decide)]
  dsimp only
  rw [if_pos rfl, readUnits_quoted]
  simp only [Option.bind_eq_bind, Option.bind_some]
  rw [skip_cons (by decide)]
  dsimp only
  rw [if_pos rfl]

theorem stringify_cons (value : Value) :
    ∃ u rest, stringify value = u :: rest ∧ isSpace u = false ∧ u ≠ unit ']' := by
  cases value with
  | null => exact ⟨_, _, rfl, by decide⟩
  | bool value => cases value <;> exact ⟨_, _, rfl, by decide⟩
  | string text => exact ⟨_, _, rfl, by decide⟩
  | array items => exact ⟨_, _, by rw [stringify], by decide⟩
  | object members => exact ⟨_, _, by rw [stringify], by decide⟩
  | number n =>
    cases n with
    | infinity => exact ⟨_, _, rfl, by decide⟩
    | finite x =>
      obtain ⟨u, rest, written, head⟩ := toString_head x
      refine ⟨u, rest, written, ?_, ?_⟩
      · by_contra space
        simp only [isSpace, Bool.not_eq_false, Bool.or_eq_true, decide_eq_true_eq] at space
        rcases head with rfl | digit
        · exact absurd space (by decide)
        · rcases space with ((rfl | rfl) | rfl) | rfl <;> exact absurd digit (by decide)
      · rintro rfl
        rcases head with same | digit
        · exact absurd same (by decide)
        · exact absurd digit (by decide)

theorem exists_succ {n fuel : ℕ} (enough : n + 1 ≤ fuel) : ∃ m, fuel = m + 1 ∧ n ≤ m :=
  ⟨fuel - 1, by omega, by omega⟩

mutual

/-- A value is read back from its text, whatever follows it. -/
theorem readValue_stringify : ∀ (value : Value) (fuel : ℕ) (rest : Str),
    (stringify value).length ≤ fuel → Ends rest →
    readValue fuel (stringify value ++ rest) = some (finiteValue value, rest)
  | .null, fuel, rest, enough, _ => by
    obtain ⟨fuel, rfl, _⟩ := exists_succ enough
    change readValue (fuel + 1) (unit 'n' :: _) = _
    rw [readValue, skip_cons (by decide)]
    exact readWord_self nullText .null rest
  | .bool true, fuel, rest, enough, _ => by
    obtain ⟨fuel, rfl, _⟩ := exists_succ enough
    change readValue (fuel + 1) (unit 't' :: _) = _
    rw [readValue, skip_cons (by decide)]
    exact readWord_self trueText (.bool true) rest
  | .bool false, fuel, rest, enough, _ => by
    obtain ⟨fuel, rfl, _⟩ := exists_succ enough
    change readValue (fuel + 1) (unit 'f' :: _) = _
    rw [readValue, skip_cons (by decide)]
    exact readWord_self falseText (.bool false) rest
  | .number (.infinity _), fuel, rest, enough, _ => by
    obtain ⟨fuel, rfl, _⟩ := exists_succ enough
    change readValue (fuel + 1) (unit 'n' :: _) = _
    rw [readValue, skip_cons (by decide)]
    exact readWord_self nullText .null rest
  | .number (.finite x), fuel, rest, enough, ends => by
    obtain ⟨u, text, written, _⟩ := toString_head x
    have some : 0 + 1 ≤ fuel := by
      rw [stringify, written, List.length_cons] at enough
      omega
    obtain ⟨fuel, rfl, _⟩ := exists_succ some
    exact readValue_number x ends
  | .string text, fuel, rest, enough, _ => by
    rw [stringify, quoted, List.length_cons] at enough
    obtain ⟨fuel, rfl, _⟩ := exists_succ enough
    exact readValue_string text rest
  | .array [], fuel, rest, enough, _ => by
    obtain ⟨fuel, rfl, _⟩ := exists_succ enough
    change readValue (fuel + 1) (unit '[' :: unit ']' :: rest) = _
    rw [readValue, skip_cons (by decide)]
    dsimp only
    rw [skip_cons (by decide)]
    rfl
  | .array (item :: items), fuel, rest, enough, _ => by
    obtain ⟨fuel, rfl, bound⟩ := exists_succ enough
    have read := readItems_stringify item items fuel rest bound
    have opened : ¬ (skip (stringify item ++ (stringifyItems [unit ','] items ++ rest))).head? =
        some (unit ']') := by
      obtain ⟨u, text, written, solid, other⟩ := stringify_cons item
      rw [written, List.cons_append, skip_cons solid]
      exact fun same => other (Option.some.inj same)
    simp only [stringify, stringifyItems, List.nil_append, List.cons_append, List.append_assoc]
    rw [readValue, skip_cons (by decide)]
    dsimp only
    rw [if_neg (by decide), if_neg (by decide), if_neg (by decide), if_neg (by decide), if_pos rfl,
      if_neg opened, read]
    rfl
  | .object [], fuel, rest, enough, _ => by
    obtain ⟨fuel, rfl, _⟩ := exists_succ enough
    change readValue (fuel + 1) (unit '{' :: unit '}' :: rest) = _
    rw [readValue, skip_cons (by decide)]
    dsimp only
    rw [skip_cons (by decide)]
    rfl
  | .object (member :: members), fuel, rest, enough, _ => by
    obtain ⟨fuel, rfl, bound⟩ := exists_succ enough
    have read := readMembers_stringify member members fuel rest bound
    have opened (text : Str) : ¬ (skip (quoted member.1 ++ text)).head? = some (unit '}') := by
      rw [quoted_append, skip_cons (by decide)]
      exact fun same => absurd (Option.some.inj same) (by decide)
    simp only [stringify, stringifyMembers, List.nil_append, List.cons_append, List.append_assoc]
    rw [readValue, skip_cons (by decide)]
    dsimp only
    rw [if_neg (by decide), if_neg (by decide), if_neg (by decide), if_neg (by decide),
      if_neg (by decide), if_pos rfl, if_neg (opened _), read]
    rfl
termination_by value => sizeOf value

theorem readItems_stringify : ∀ (item : Value) (items : List Value) (fuel : ℕ) (rest : Str),
    (stringify item ++ stringifyItems [unit ','] items).length ≤ fuel →
    readItems fuel (stringify item ++ (stringifyItems [unit ','] items ++ rest)) =
      some (finiteItems (item :: items), rest)
  | item, items, fuel, rest, enough => by
    have closed : 1 ≤ (stringifyItems [unit ','] items).length := by
      cases items <;> simp [stringifyItems]
    rw [List.length_append] at enough
    have room : (stringify item).length + 1 ≤ fuel := by omega
    obtain ⟨fuel, rfl, bound⟩ := exists_succ room
    have value := readValue_stringify item fuel (stringifyItems [unit ','] items ++ rest) bound
      (ends_stringifyItems items rest)
    rw [readItems, value]
    simp only [Option.bind_eq_bind, Option.bind_some]
    cases items with
    | nil =>
      rw [stringifyItems, List.singleton_append, skip_cons (by decide)]
      rfl
    | cons next items =>
      have later := readItems_stringify next items fuel rest (by
        simp only [stringifyItems, List.length_append, List.length_cons] at enough ⊢
        omega)
      simp only [stringifyItems, List.cons_append, List.nil_append, List.append_assoc] at later ⊢
      rw [skip_cons (by decide)]
      dsimp only
      rw [if_pos rfl, later]
      rfl
termination_by item items => sizeOf (item :: items)

theorem readMembers_stringify : ∀ (member : Str × Value) (members : List (Str × Value)) (fuel : ℕ)
    (rest : Str),
    (quoted member.1 ++ unit ':' ::
      (stringify member.2 ++ stringifyMembers [unit ','] members)).length ≤ fuel →
    readMembers fuel (quoted member.1 ++ unit ':' ::
      (stringify member.2 ++ (stringifyMembers [unit ','] members ++ rest))) =
      some (finiteMembers (member :: members), rest)
  | (name, value), members, fuel, rest, enough => by
    have closed : 1 ≤ (stringifyMembers [unit ','] members).length := by
      cases members <;> simp [stringifyMembers]
    simp only [List.length_append, List.length_cons] at enough
    have room : (stringify value).length + 1 ≤ fuel := by omega
    obtain ⟨fuel, rfl, bound⟩ := exists_succ room
    have read := readValue_stringify value fuel (stringifyMembers [unit ','] members ++ rest) bound
      (ends_stringifyMembers members rest)
    rw [readMembers_name, read]
    simp only [Option.bind_some]
    cases members with
    | nil =>
      rw [stringifyMembers, List.singleton_append, skip_cons (by decide)]
      rfl
    | cons next members =>
      have later := readMembers_stringify next members fuel rest (by
        simp only [stringifyMembers, List.length_append, List.length_cons] at enough ⊢
        omega)
      simp only [stringifyMembers, List.cons_append, List.nil_append, List.append_assoc] at later ⊢
      rw [skip_cons (by decide)]
      dsimp only
      rw [if_pos rfl, later]
      rfl
termination_by member members => sizeOf (member :: members)

end

/-- A text is read back as what is left of the value in it. -/
theorem parse_stringify (value : Value) :
    parse (stringify value) = some (built (finiteValue value)) := by
  have ends : Ends [] := fun u head => by cases head
  have read := readValue_stringify value ((stringify value).length + 1) [] (Nat.le_succ _) ends
  rw [List.append_nil] at read
  simp [parse, read, skip]

/-! ## What the language keeps -/

theorem finiteItems_eq_map (items : List Value) : finiteItems items = items.map finiteValue := by
  induction items with
  | nil => rfl
  | cons item rest ih => simp [finiteItems, ih]

theorem finiteMembers_eq_map (members : Members) :
    finiteMembers members = members.map fun member => (member.1, finiteValue member.2) := by
  induction members with
  | nil => rfl
  | cons member rest ih => simp [finiteMembers, ih]

theorem builtItems_eq_map (items : List Value) : builtItems items = items.map built := by
  induction items with
  | nil => rfl
  | cons item rest ih => simp [builtItems, ih]

theorem builtMembers_eq_map (members : Members) :
    builtMembers members = members.map fun member => (member.1, built member.2) := by
  induction members with
  | nil => rfl
  | cons member rest ih => simp [builtMembers, ih]

@[simp] theorem names_finiteMembers (members : Members) :
    Members.names (finiteMembers members) = Members.names members := by
  simp [finiteMembers_eq_map, Members.names]

theorem get_finiteMembers (members : Members) (name : Str) :
    Members.get (finiteMembers members) name = (Members.get members name).map finiteValue := by
  induction members with
  | nil => rfl
  | cons member rest ih => by_cases same : name = member.1 <;> simp [finiteMembers, same, ih]

theorem get_builtMembers (members : Members) (name : Str) :
    Members.get (builtMembers members) name = (Members.get members name).map built := by
  induction members with
  | nil => rfl
  | cons member rest ih => by_cases same : name = member.1 <;> simp [builtMembers, same, ih]

theorem get_built_finite (members : Members) (name : Str) :
    Members.get (builtMembers (finiteMembers members)) name =
      (Members.get members name).map fun value => built (finiteValue value) := by
  rw [get_builtMembers, get_finiteMembers, Option.map_map]
  rfl

theorem own_finiteValue {value : Value} (own : Own value) : Own (finiteValue value) := by
  induction value using Value.induction with
  | number n => cases n <;> constructor
  | array items ih =>
    rw [finiteValue, finiteItems_eq_map]
    refine .array fun item listed => ?_
    obtain ⟨item, here, rfl⟩ := List.mem_map.mp listed
    exact ih item here (own.item here)
  | object members ih =>
    rw [finiteValue]
    refine .object ⟨?_, ?_⟩ fun member listed => ?_
    · rw [names_finiteMembers]
      exact own.kept.distinct
    · rw [names_finiteMembers]
      exact own.kept.ordered
    · rw [finiteMembers_eq_map] at listed
      obtain ⟨member, here, rfl⟩ := List.mem_map.mp listed
      exact ih member here (own.member here)
  | _ => exact own

theorem built_own {value : Value} (own : Own value) : built value = value := by
  induction value using Value.induction with
  | array items ih =>
    rw [built, builtItems_eq_map,
      List.map_congr_left fun item listed => ih item listed (own.item listed), List.map_id']
  | object members ih =>
    have same : members.map (fun member => (member.1, built member.2)) = members := by
      conv_rhs => rw [← List.map_id members]
      exact List.map_congr_left fun member listed =>
        Prod.ext rfl (ih member listed (own.member listed))
    rw [built, builtMembers_eq_map, same, Members.ofEntries_eq own.kept]
  | _ => rfl

theorem own_built (value : Value) : Own (built value) := by
  induction value using Value.induction with
  | array items ih =>
    rw [built, builtItems_eq_map]
    refine .array fun item listed => ?_
    obtain ⟨item, here, rfl⟩ := List.mem_map.mp listed
    exact ih item here
  | object members ih =>
    rw [built, builtMembers_eq_map]
    refine .object (Members.kept_ofEntries _) fun member listed => ?_
    obtain ⟨source, listed, same⟩ := List.mem_map.mp (Members.mem_ofEntries listed)
    rw [← same]
    exact ih source listed
  | _ => constructor

theorem own_parse {text : Str} {value : Value} (parsed : parse text = some value) : Own value := by
  unfold parse at parsed
  split at parsed
  next =>
    split_ifs at parsed
    rw [← Option.some.inj parsed]
    exact own_built _
  next => cases parsed

/-- The round trip of a value that the language keeps. -/
theorem parse_stringify_own {value : Value} (own : Own value) :
    parse (stringify value) = some (finiteValue value) := by
  rw [parse_stringify, built_own (own_finiteValue own)]

end Shared.Ecma

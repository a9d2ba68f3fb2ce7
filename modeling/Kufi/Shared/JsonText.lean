import Kufi.Shared.Json

set_option autoImplicit false

/-!
# Reading JSON text

A reader of JSON whose numbers are integers, and writers that differ in white
space and in how they escape. What a writer writes is read back.
-/

namespace Shared.Json

/-! ## Reading -/

def isSpace (c : Char) : Bool :=
  c = ' ' || c = '\t' || c = '\n' || c = '\r'

def skip (text : List Char) : List Char :=
  text.dropWhile isSpace

def hexDigit? (c : Char) : Option Nat :=
  if 48 ≤ c.toNat ∧ c.toNat ≤ 57 then some (c.toNat - 48)
  else if 97 ≤ c.toNat ∧ c.toNat ≤ 102 then some (c.toNat - 87)
  else if 65 ≤ c.toNat ∧ c.toNat ≤ 70 then some (c.toNat - 55)
  else none

def readUnit : List Char → Option (Nat × List Char)
  | a :: b :: c :: d :: rest => do
    let a ← hexDigit? a
    let b ← hexDigit? b
    let c ← hexDigit? c
    let d ← hexDigit? d
    some (a * 4096 + b * 256 + c * 16 + d, rest)
  | _ => none

-- Half of a surrogate pair is read as U+FFFD.
def readSurrogates (high : Nat) (rest : List Char) : Char × List Char :=
  match rest with
  | '\\' :: 'u' :: later =>
    match readUnit later with
    | some (low, after) =>
      if 0xDC00 ≤ low ∧ low < 0xE000 then
        (Char.ofNat (0x10000 + (high - 0xD800) * 1024 + (low - 0xDC00)), after)
      else (Char.ofNat 0xFFFD, rest)
    | none => (Char.ofNat 0xFFFD, rest)
  | _ => (Char.ofNat 0xFFFD, rest)

def longEscape? (letter : Char) : Option Char :=
  if letter = quote ∨ letter = backslash ∨ letter = '/' then some letter
  else if letter = 'b' then some (Char.ofNat 8)
  else if letter = 'f' then some (Char.ofNat 12)
  else if letter = 'n' then some '\n'
  else if letter = 'r' then some '\r'
  else if letter = 't' then some '\t'
  else none

/-- The character of an escape, from what follows the backslash. -/
def readEscape : List Char → Option (Char × List Char)
  | [] => none
  | letter :: rest =>
    if letter = 'u' then do
      let (unit, rest) ← readUnit rest
      if 0xD800 ≤ unit ∧ unit < 0xDC00 then some (readSurrogates unit rest)
      else if 0xDC00 ≤ unit ∧ unit < 0xE000 then some (Char.ofNat 0xFFFD, rest)
      else some (Char.ofNat unit, rest)
    else (longEscape? letter).map fun c => (c, rest)

/-- The characters up to the closing quotation mark. -/
def readChars : Nat → List Char → Option (List Char × List Char)
  | 0, _ | _, [] => none
  | fuel + 1, c :: rest =>
    if c = quote then some ([], rest)
    else if c = backslash then do
      let (c, rest) ← readEscape rest
      let (chars, rest) ← readChars fuel rest
      some (c :: chars, rest)
    else if c.toNat < 0x20 then none
    else do
      let (chars, rest) ← readChars fuel rest
      some (c :: chars, rest)

-- A number with a fraction or an exponent is not read.
def readNat (text : List Char) : Option (Nat × List Char) :=
  let digits := text.takeWhile Char.isDigit
  let rest := text.dropWhile Char.isDigit
  if digits = [] ∨ (digits.head? = some '0' ∧ 1 < digits.length) then none
  else if rest.head?.any fun c => c = '.' || c = 'e' || c = 'E' then none
  else some (Nat.ofDigitChars 10 digits 0, rest)

def readInt : List Char → Option (Int × List Char)
  | [] => none
  | c :: rest =>
    if c = '-' then (readNat rest).map fun read => (-(read.1 : Int), read.2)
    else (readNat (c :: rest)).map fun read => (read.1, read.2)

def readWord (word : List Char) (json : Json) (text : List Char) : Option (Json × List Char) :=
  if word <+: text then some (json, text.drop word.length) else none

mutual

def readValue : Nat → List Char → Option (Json × List Char)
  | 0, _ => none
  | fuel + 1, text =>
    match skip text with
    | [] => none
    | c :: rest =>
      match kindOf c with
      | .null => readWord ['n', 'u', 'l', 'l'] .null (c :: rest)
      | .bool =>
        if c = 't' then readWord ['t', 'r', 'u', 'e'] (.bool true) (c :: rest)
        else readWord ['f', 'a', 'l', 's', 'e'] (.bool false) (c :: rest)
      | .number => (readInt (c :: rest)).map fun read => (.number read.1, read.2)
      | .string =>
        (readChars (rest.length + 1) rest).map fun read => (.string (String.ofList read.1), read.2)
      | .array =>
        if (skip rest).head? = some ']' then some (.array [], (skip rest).tail)
        else (readItems fuel rest).map fun read => (.array read.1, read.2)
      | .object =>
        if (skip rest).head? = some '}' then some (.object [], (skip rest).tail)
        else (readMembers fuel rest).map fun read => (.object read.1, read.2)
      | .other => none

def readItems : Nat → List Char → Option (List Json × List Char)
  | 0, _ => none
  | fuel + 1, text => do
    let (item, rest) ← readValue fuel text
    match skip rest with
    | ',' :: later => do
      let (items, rest) ← readItems fuel later
      some (item :: items, rest)
    | ']' :: later => some ([item], later)
    | _ => none

def readMembers : Nat → List Char → Option (List (String × Json) × List Char)
  | 0, _ => none
  | fuel + 1, text =>
    match skip text with
    | '"' :: rest => do
      let (name, rest) ← readChars (rest.length + 1) rest
      match skip rest with
      | ':' :: rest => do
        let (value, rest) ← readValue fuel rest
        match skip rest with
        | ',' :: later => do
          let (members, rest) ← readMembers fuel later
          some ((String.ofList name, value) :: members, rest)
        | '}' :: later => some ([(String.ofList name, value)], later)
        | _ => none
      | _ => none
    | _ => none

end

def parse (text : List Char) : Option Json :=
  match readValue (text.length + 1) text with
  | some (json, rest) => if skip rest = [] then some json else none
  | none => none

/-! ## Writing -/

/-- How a writer escapes characters and what white space it puts before an item and after a
colon. -/
structure Style where
  escape : Char → List Char
  -- before an item or a closing bracket, by depth
  gap : Nat → List Char
  afterColon : List Char
  escapes : ∀ c, (escape c = [c] ∧ c ≠ quote ∧ c ≠ backslash ∧ 0x20 ≤ c.toNat) ∨
    ∃ text, escape c = backslash :: text ∧ ∀ rest, readEscape (text ++ rest) = some (c, rest)
  gaps : ∀ depth, ∀ c ∈ gap depth, isSpace c = true
  colons : ∀ c ∈ afterColon, isSpace c = true

namespace Style

variable (style : Style)

def writeString (text : String) : List Char :=
  quote :: (text.toList.flatMap style.escape ++ [quote])

mutual

def write (depth : Nat) : Json → List Char
  | .null => ['n', 'u', 'l', 'l']
  | .bool true => ['t', 'r', 'u', 'e']
  | .bool false => ['f', 'a', 'l', 's', 'e']
  | .number n => encodeInt n
  | .string text => style.writeString text
  | .array items => '[' :: writeItems depth [] [']'] items
  | .object members => '{' :: writeMembers depth [] ['}'] members

-- An empty array or object has nothing between its brackets.
def writeItems (depth : Nat) (separator closing : List Char) : List Json → List Char
  | [] => closing
  | item :: rest =>
    separator ++ (style.gap (depth + 1) ++ (write (depth + 1) item ++
      writeItems depth [','] (style.gap depth ++ [']']) rest))

def writeMembers (depth : Nat) (separator closing : List Char) :
    List (String × Json) → List Char
  | [] => closing
  | (name, value) :: rest =>
    separator ++ (style.gap (depth + 1) ++ (style.writeString name ++
      ':' :: (style.afterColon ++ (write (depth + 1) value ++
        writeMembers depth [','] (style.gap depth ++ ['}']) rest))))

end

end Style

/-! ## Reading what was written -/

theorem skip_append {spaces text : List Char} (blank : ∀ c ∈ spaces, isSpace c = true) :
    skip (spaces ++ text) = skip text := by
  unfold skip
  exact List.dropWhile_append_of_pos blank

theorem skip_cons {c : Char} {text : List Char} (solid : isSpace c = false) :
    skip (c :: text) = c :: text := by
  simp [skip, solid]

section

variable {style : Style}

theorem readChars_escape {fuel : Nat} {c : Char} {rest : List Char} :
    readChars (fuel + 1) (style.escape c ++ rest) =
      (readChars fuel rest).map fun read => (c :: read.1, read.2) := by
  rcases style.escapes c with ⟨plain, notQuote, notBackslash, printable⟩ | ⟨text, escaped, reads⟩
  · rw [plain, List.singleton_append, readChars, if_neg notQuote, if_neg notBackslash,
      if_neg (by omega)]
    cases readChars fuel rest <;> rfl
  · rw [escaped, List.cons_append, readChars, if_neg (by decide), if_pos rfl, reads]
    change (readChars fuel rest).bind _ = _
    cases readChars fuel rest <;> rfl

theorem readChars_chars (chars rest : List Char) {fuel : Nat} (enough : chars.length < fuel) :
    readChars fuel (chars.flatMap style.escape ++ quote :: rest) = some (chars, rest) := by
  induction chars generalizing fuel with
  | nil =>
    obtain ⟨fuel, rfl⟩ : ∃ n, fuel = n + 1 := ⟨fuel - 1, by simp at enough; omega⟩
    simp [readChars]
  | cons c chars ih =>
    obtain ⟨fuel, rfl⟩ : ∃ n, fuel = n + 1 := ⟨fuel - 1, by omega⟩
    rw [List.flatMap_cons, List.append_assoc, readChars_escape,
      ih (by simp only [List.length_cons] at enough; omega)]
    rfl

theorem length_le_flatMap_escape (style : Style) (chars : List Char) :
    chars.length ≤ (chars.flatMap style.escape).length := by
  induction chars with
  | nil => simp
  | cons c chars ih =>
    have some : 1 ≤ (style.escape c).length := by
      rcases style.escapes c with ⟨plain, _⟩ | ⟨text, escaped, _⟩
      · simp [plain]
      · simp [escaped]
    simp only [List.length_cons, List.flatMap_cons, List.length_append]
    omega

theorem readChars_writeString (text : String) (rest : List Char) :
    readChars ((text.toList.flatMap style.escape ++ quote :: rest).length + 1)
      (text.toList.flatMap style.escape ++ quote :: rest) = some (text.toList, rest) := by
  apply readChars_chars
  have bound := length_le_flatMap_escape style text.toList
  simp only [List.length_append, List.length_cons]
  omega

end

/-! ### Numbers -/

-- What may follow a number so that it is read whole.
def Ends (text : List Char) : Prop :=
  ∀ c, text.head? = some c → c.isDigit = false ∧ c ≠ '.' ∧ c ≠ 'e' ∧ c ≠ 'E'

theorem toDigits_head {n : Nat} (zero : (Nat.toDigits 10 n).head? = some '0') : n = 0 := by
  induction n using Nat.strongRecOn with
  | ind n ih =>
    by_cases small : n < 10
    next =>
      rw [Nat.toDigits_of_lt_base small] at zero
      exact digitChar_injective (by omega) (by decide) (Option.some.inj zero)
    next =>
      rw [Nat.toDigits_of_base_le (by decide) (by omega)] at zero
      have shorter : (Nat.toDigits 10 (n / 10)).head? = some '0' := by
        rw [List.head?_append_of_ne_nil _ Nat.toDigits_ne_nil] at zero
        exact zero
      have tenth := ih (n / 10) (by omega) shorter
      omega

theorem takeWhile_toDigits {n : Nat} {rest : List Char} (ends : Ends rest) :
    (Nat.toDigits 10 n ++ rest).takeWhile Char.isDigit = Nat.toDigits 10 n ∧
      (Nat.toDigits 10 n ++ rest).dropWhile Char.isDigit = rest := by
  have digits : ∀ c ∈ Nat.toDigits 10 n, c.isDigit = true :=
    fun _ member => Nat.isDigit_of_mem_toDigits (by decide) (by decide) member
  refine ⟨takeWhile_digits digits fun c head => (ends c head).1, ?_⟩
  rw [List.dropWhile_append_of_pos digits]
  cases rest with
  | nil => rfl
  | cons c rest => simp [(ends c rfl).1]

theorem readNat_toDigits (n : Nat) {rest : List Char} (ends : Ends rest) :
    readNat (Nat.toDigits 10 n ++ rest) = some (n, rest) := by
  obtain ⟨digits, after⟩ := takeWhile_toDigits (n := n) ends
  have whole : ¬ (Nat.toDigits 10 n = [] ∨
      ((Nat.toDigits 10 n).head? = some '0' ∧ 1 < (Nat.toDigits 10 n).length)) := by
    rintro (empty | ⟨zero, long⟩)
    · exact Nat.toDigits_ne_nil empty
    · rw [toDigits_head zero] at long
      exact absurd long (by decide)
  have stopped : ¬ (rest.head?.any fun c => c = '.' || c = 'e' || c = 'E') = true := by
    cases rest with
    | nil => decide
    | cons c rest => simp [(ends c rfl).2]
  unfold readNat
  simp only [digits, after]
  rw [if_neg whole, if_neg stopped, Nat.ofDigitChars_ten_toDigits]

theorem readInt_encodeInt (n : Int) {rest : List Char} (ends : Ends rest) :
    readInt (encodeInt n ++ rest) = some (n, rest) := by
  cases n with
  | ofNat n =>
    obtain ⟨c, digits, text⟩ := List.exists_cons_of_ne_nil (Nat.toDigits_ne_nil (n := n) (b := 10))
    have read := readNat_toDigits n ends
    have plain : c ≠ '-' := by
      rintro rfl
      exact absurd (Nat.isDigit_of_mem_toDigits (b := 10) (n := n) (by decide) (by decide)
        (text ▸ List.mem_cons_self)) (by decide)
    rw [encodeInt, text, List.cons_append, readInt, if_neg plain, ← List.cons_append, ← text, read]
    rfl
  | negSucc n =>
    rw [encodeInt, List.cons_append, readInt, if_pos rfl, readNat_toDigits _ ends]
    rfl

/-! ### Values -/

theorem ends_cons {c : Char} (other : c.isDigit = false ∧ c ≠ '.' ∧ c ≠ 'e' ∧ c ≠ 'E')
    (text : List Char) : Ends (c :: text) := by
  intro d head
  obtain rfl := Option.some.inj head
  exact other

theorem ends_of_blank {spaces text : List Char} (blank : ∀ c ∈ spaces, isSpace c = true)
    (ends : Ends text) : Ends (spaces ++ text) := by
  cases spaces with
  | nil => exact ends
  | cons c spaces =>
    have space := blank c List.mem_cons_self
    simp only [isSpace, Bool.or_eq_true, decide_eq_true_eq] at space
    rcases space with ((rfl | rfl) | rfl) | rfl <;> exact ends_cons (by decide) _

theorem solid_of_kindOf {c : Char} (value : kindOf c ≠ .other) :
    isSpace c = false ∧ c ≠ ']' ∧ c ≠ '}' := by
  refine ⟨?_, ?_, ?_⟩
  · by_contra space
    simp only [isSpace, Bool.not_eq_false, Bool.or_eq_true, decide_eq_true_eq] at space
    rcases space with ((rfl | rfl) | rfl) | rfl <;> exact value (by decide)
  · rintro rfl
    exact value (by decide)
  · rintro rfl
    exact value (by decide)

theorem readValue_skip {fuel : Nat} {spaces text : List Char}
    (blank : ∀ c ∈ spaces, isSpace c = true) :
    readValue fuel (spaces ++ text) = readValue fuel text := by
  cases fuel with
  | zero => rfl
  | succ fuel => rw [readValue, readValue, skip_append blank]

theorem readMembers_skip {fuel : Nat} {spaces text : List Char}
    (blank : ∀ c ∈ spaces, isSpace c = true) :
    readMembers fuel (spaces ++ text) = readMembers fuel text := by
  cases fuel with
  | zero => rfl
  | succ fuel => rw [readMembers, readMembers, skip_append blank]

section

variable {style : Style}

theorem write_head (style : Style) (depth : Nat) (json : Json) :
    ∃ c rest, style.write depth json = c :: rest ∧ kindOf c = json.kind := by
  cases json with
  | bool value => cases value <;> exact ⟨_, _, rfl, by decide⟩
  | number n => exact encodeInt_head n
  | _ => exact ⟨_, _, rfl, rfl⟩

theorem kind_ne_other (json : Json) : json.kind ≠ .other := by
  cases json <;> exact nofun

theorem skip_write (style : Style) (depth : Nat) (json : Json) (rest : List Char) :
    ∃ c text, style.write depth json ++ rest = c :: text ∧ skip (c :: text) = c :: text ∧
      kindOf c = json.kind ∧ c ≠ ']' := by
  obtain ⟨c, text, written, kind⟩ := write_head style depth json
  have solid := solid_of_kindOf (kind ▸ kind_ne_other json)
  exact ⟨c, text ++ rest, by rw [written, List.cons_append], skip_cons solid.1, kind, solid.2.1⟩

theorem readWord_self (word : List Char) (json : Json) (rest : List Char) :
    readWord word json (word ++ rest) = some (json, rest) := by
  simp [readWord]

theorem ends_writeItems {depth : Nat} {closing rest : List Char} (items : List Json)
    (ends : Ends (closing ++ rest)) :
    Ends (style.writeItems depth [','] closing items ++ rest) := by
  cases items with
  | nil => exact ends
  | cons => exact ends_cons (by decide) _

theorem ends_writeMembers {depth : Nat} {closing rest : List Char}
    (members : List (String × Json)) (ends : Ends (closing ++ rest)) :
    Ends (style.writeMembers depth [','] closing members ++ rest) := by
  cases members with
  | nil => exact ends
  | cons member =>
    obtain ⟨name, value⟩ := member
    exact ends_cons (by decide) _

theorem ends_closing (depth : Nat) {c : Char}
    (other : c.isDigit = false ∧ c ≠ '.' ∧ c ≠ 'e' ∧ c ≠ 'E') (rest : List Char) :
    Ends ((style.gap depth ++ [c]) ++ rest) := by
  rw [List.append_assoc]
  exact ends_of_blank (style.gaps depth) (ends_cons other rest)

theorem readValue_cons {fuel : Nat} {c : Char} {text : List Char} (solid : isSpace c = false) :
    readValue (fuel + 1) (c :: text) =
      match kindOf c with
      | .null => readWord ['n', 'u', 'l', 'l'] .null (c :: text)
      | .bool =>
        if c = 't' then readWord ['t', 'r', 'u', 'e'] (.bool true) (c :: text)
        else readWord ['f', 'a', 'l', 's', 'e'] (.bool false) (c :: text)
      | .number => (readInt (c :: text)).map fun read => (.number read.1, read.2)
      | .string =>
        (readChars (text.length + 1) text).map fun read => (.string (String.ofList read.1), read.2)
      | .array =>
        if (skip text).head? = some ']' then some (.array [], (skip text).tail)
        else (readItems fuel text).map fun read => (.array read.1, read.2)
      | .object =>
        if (skip text).head? = some '}' then some (.object [], (skip text).tail)
        else (readMembers fuel text).map fun read => (.object read.1, read.2)
      | .other => none := by
  rw [readValue, skip_cons solid]

theorem readValue_number {fuel : Nat} (n : Int) {rest : List Char} (ends : Ends rest) :
    readValue (fuel + 1) (encodeInt n ++ rest) = some (.number n, rest) := by
  obtain ⟨c, digits, text, kind⟩ := encodeInt_head n
  have read := readInt_encodeInt n ends
  rw [text, List.cons_append] at read ⊢
  rw [readValue_cons (solid_of_kindOf (by rw [kind]; exact nofun)).1, kind]
  dsimp only
  rw [read]
  rfl

theorem writeString_append (text : String) (rest : List Char) :
    style.writeString text ++ rest =
      quote :: (text.toList.flatMap style.escape ++ quote :: rest) := by
  simp [Style.writeString]

theorem readValue_string {fuel : Nat} (text : String) (rest : List Char) :
    readValue (fuel + 1) (style.writeString text ++ rest) = some (.string text, rest) := by
  have kind : kindOf quote = .string := by decide
  rw [writeString_append, readValue_cons (by decide), kind]
  dsimp only
  rw [readChars_writeString]
  simp

/-- After a member's name and its colon the value is read, then the rest of the members. -/
theorem readMembers_name {fuel : Nat} (name : String) (text : List Char) :
    readMembers (fuel + 1)
        (quote :: (name.toList.flatMap style.escape ++ quote :: ':' :: text)) =
      (readValue fuel text).bind fun read =>
        match skip read.2 with
        | ',' :: later =>
          (readMembers fuel later).bind fun others => some ((name, read.1) :: others.1, others.2)
        | '}' :: later => some ([(name, read.1)], later)
        | _ => none := by
  rw [readMembers, skip_cons (by decide)]
  change (readChars _ (name.toList.flatMap style.escape ++ quote :: ':' :: text)).bind _ = _
  rw [readChars_writeString]
  simp only [Option.bind_some]
  rw [skip_cons (by decide)]
  change (readValue fuel text).bind _ = _
  simp only [String.ofList_toList]
  rfl

theorem exists_succ {n fuel : Nat} (enough : n + 1 ≤ fuel) : ∃ m, fuel = m + 1 ∧ n ≤ m :=
  ⟨fuel - 1, by omega, by omega⟩

mutual

/-- A value is read back from its text, whatever follows it. -/
theorem readValue_write : ∀ (json : Json) (depth fuel : Nat) (rest : List Char),
    (style.write depth json).length ≤ fuel → Ends rest →
    readValue fuel (style.write depth json ++ rest) = some (json, rest)
  | .null, depth, fuel, rest, enough, ends => by
    obtain ⟨fuel, rfl, _⟩ := exists_succ enough
    have kind : kindOf 'n' = .null := by decide
    change readValue (fuel + 1) ('n' :: _) = _
    rw [readValue_cons (by decide), kind]
    exact readWord_self ['n', 'u', 'l', 'l'] .null rest
  | .bool true, depth, fuel, rest, enough, ends => by
    obtain ⟨fuel, rfl, _⟩ := exists_succ enough
    have kind : kindOf 't' = .bool := by decide
    change readValue (fuel + 1) ('t' :: _) = _
    rw [readValue_cons (by decide), kind]
    exact readWord_self ['t', 'r', 'u', 'e'] (.bool true) rest
  | .bool false, depth, fuel, rest, enough, ends => by
    obtain ⟨fuel, rfl, _⟩ := exists_succ enough
    have kind : kindOf 'f' = .bool := by decide
    change readValue (fuel + 1) ('f' :: _) = _
    rw [readValue_cons (by decide), kind]
    exact readWord_self ['f', 'a', 'l', 's', 'e'] (.bool false) rest
  | .number n, depth, fuel, rest, enough, ends => by
    obtain ⟨c, digits, text, _⟩ := encodeInt_head n
    have some : 0 + 1 ≤ fuel := by
      rw [Style.write, text, List.length_cons] at enough
      omega
    obtain ⟨fuel, rfl, _⟩ := exists_succ some
    exact readValue_number n ends
  | .string text, depth, fuel, rest, enough, ends => by
    rw [Style.write, Style.writeString, List.length_cons] at enough
    obtain ⟨fuel, rfl, _⟩ := exists_succ enough
    exact readValue_string text rest
  | .array [], depth, fuel, rest, enough, ends => by
    obtain ⟨fuel, rfl, _⟩ := exists_succ enough
    have kind : kindOf '[' = .array := by decide
    change readValue (fuel + 1) ('[' :: ']' :: rest) = _
    rw [readValue_cons (by decide), kind]
    dsimp only
    rw [skip_cons (by decide)]
    exact if_pos rfl
  | .array (item :: items), depth, fuel, rest, enough, ends => by
    obtain ⟨fuel, rfl, bound⟩ := exists_succ enough
    have kind : kindOf '[' = .array := by decide
    have opened : ¬ (skip (style.gap (depth + 1) ++ (style.write (depth + 1) item ++
        (style.writeItems depth [','] (style.gap depth ++ [']']) items ++ rest)))).head? =
          some ']' := by
      rw [skip_append (style.gaps _)]
      obtain ⟨c, text, written, stays, _, other⟩ := skip_write style (depth + 1) item
        (style.writeItems depth [','] (style.gap depth ++ [']']) items ++ rest)
      rw [written, stays]
      exact fun same => other (Option.some.inj same)
    have read := readItems_write item items depth fuel rest bound
    simp only [Style.write, Style.writeItems, List.nil_append, List.cons_append,
      List.append_assoc] at opened read ⊢
    rw [readValue_cons (by decide), kind]
    dsimp only
    rw [if_neg opened, read]
    rfl
  | .object [], depth, fuel, rest, enough, ends => by
    obtain ⟨fuel, rfl, _⟩ := exists_succ enough
    have kind : kindOf '{' = .object := by decide
    change readValue (fuel + 1) ('{' :: '}' :: rest) = _
    rw [readValue_cons (by decide), kind]
    dsimp only
    rw [skip_cons (by decide)]
    exact if_pos rfl
  | .object (member :: members), depth, fuel, rest, enough, ends => by
    obtain ⟨fuel, rfl, bound⟩ := exists_succ enough
    have kind : kindOf '{' = .object := by decide
    have opened (text : List Char) :
        ¬ (skip (style.gap (depth + 1) ++ (style.writeString member.1 ++ text))).head? =
          some '}' := by
      rw [skip_append (style.gaps _), Style.writeString, List.cons_append, skip_cons (by decide)]
      exact fun same => absurd (Option.some.inj same) (by decide)
    have read := readMembers_write member members depth fuel rest bound
    simp only [Style.write, Style.writeMembers, List.nil_append, List.cons_append,
      List.append_assoc] at read ⊢
    rw [readValue_cons (by decide), kind]
    dsimp only
    rw [if_neg (opened _), read]
    rfl
termination_by json => sizeOf json

theorem readItems_write : ∀ (item : Json) (items : List Json) (depth fuel : Nat)
    (rest : List Char),
    (style.gap (depth + 1) ++ (style.write (depth + 1) item ++
      style.writeItems depth [','] (style.gap depth ++ [']']) items)).length ≤ fuel →
    readItems fuel (style.gap (depth + 1) ++ (style.write (depth + 1) item ++
      (style.writeItems depth [','] (style.gap depth ++ [']']) items ++ rest))) =
      some (item :: items, rest)
  | item, items, depth, fuel, rest, enough => by
    have closed : 1 ≤ (style.writeItems depth [','] (style.gap depth ++ [']']) items).length := by
      cases items <;> simp [Style.writeItems]
    simp only [List.length_append] at enough
    have room : (style.write (depth + 1) item).length + 1 ≤ fuel := by omega
    obtain ⟨fuel, rfl, bound⟩ := exists_succ room
    have value := readValue_write item (depth + 1) fuel
      (style.writeItems depth [','] (style.gap depth ++ [']']) items ++ rest) bound
      (ends_writeItems items (ends_closing depth (by decide) rest))
    rw [readItems, readValue_skip (style.gaps _), value]
    simp only [Option.bind_eq_bind, Option.bind_some]
    cases items with
    | nil =>
      rw [Style.writeItems, List.append_assoc, skip_append (style.gaps _), List.singleton_append,
        skip_cons (by decide)]
      rfl
    | cons next items =>
      have later := readItems_write next items depth fuel rest (by
        simp only [Style.writeItems, List.length_append, List.length_cons] at enough ⊢
        omega)
      simp only [Style.writeItems, List.cons_append, List.append_assoc] at later ⊢
      rw [skip_cons (by decide)]
      change (readItems fuel (style.gap (depth + 1) ++ _)).bind _ = _
      rw [later]
      rfl
termination_by item items => sizeOf (item :: items)

theorem readMembers_write : ∀ (member : String × Json) (members : List (String × Json))
    (depth fuel : Nat) (rest : List Char),
    (style.gap (depth + 1) ++ (style.writeString member.1 ++ ':' :: (style.afterColon ++
      (style.write (depth + 1) member.2 ++
        style.writeMembers depth [','] (style.gap depth ++ ['}']) members)))).length ≤ fuel →
    readMembers fuel (style.gap (depth + 1) ++ (style.writeString member.1 ++ ':' ::
      (style.afterColon ++ (style.write (depth + 1) member.2 ++
        (style.writeMembers depth [','] (style.gap depth ++ ['}']) members ++ rest))))) =
      some (member :: members, rest)
  | (name, value), members, depth, fuel, rest, enough => by
    have closed :
        1 ≤ (style.writeMembers depth [','] (style.gap depth ++ ['}']) members).length := by
      cases members <;> simp [Style.writeMembers]
    simp only [List.length_append, List.length_cons] at enough
    have room : (style.write (depth + 1) value).length + 1 ≤ fuel := by omega
    obtain ⟨fuel, rfl, bound⟩ := exists_succ room
    have read := readValue_write value (depth + 1) fuel
      (style.writeMembers depth [','] (style.gap depth ++ ['}']) members ++ rest) bound
      (ends_writeMembers members (ends_closing depth (by decide) rest))
    rw [readMembers_skip (style.gaps _), writeString_append, readMembers_name, readValue_skip
      style.colons, read]
    cases members with
    | nil =>
      rw [Style.writeMembers, List.append_assoc]
      simp only [Option.bind_some]
      rw [skip_append (style.gaps _), List.singleton_append, skip_cons (by decide)]
      rfl
    | cons next members =>
      have later := readMembers_write next members depth fuel rest (by
        simp only [Style.writeMembers, List.length_append, List.length_cons] at enough ⊢
        omega)
      simp only [Style.writeMembers, List.cons_append, List.append_assoc] at later ⊢
      simp only [Option.bind_some]
      rw [skip_cons (by decide)]
      change (readMembers fuel (style.gap (depth + 1) ++ _)).bind _ = _
      rw [later]
      rfl
termination_by member members => sizeOf (member :: members)

end

/-- A text is read back as the value that was written. -/
theorem parse_write (style : Style) (json : Json) : parse (style.write 0 json) = some json := by
  have ends : Ends [] := fun c head => by cases head
  have read := readValue_write json 0 ((style.write 0 json).length + 1) [] (Nat.le_succ _) ends
  rw [List.append_nil] at read
  simp [parse, read, skip]

end

/-! ## The writers -/

theorem hexDigit_digitChar {n : Nat} (small : n < 16) : hexDigit? (Nat.digitChar n) = some n := by
  have table : ∀ k : Fin 16, hexDigit? (Nat.digitChar k) = some k.val := by decide
  exact table ⟨n, small⟩

theorem readEscape_unicodeEscape {c : Char} (small : c.toNat < 65536) :
    ∃ text, unicodeEscape c = backslash :: text ∧
      ∀ rest, readEscape (text ++ rest) = some (c, rest) := by
  refine ⟨_, rfl, fun rest => ?_⟩
  have digits : readUnit (Nat.digitChar (c.toNat / 4096 % 16) ::
      Nat.digitChar (c.toNat / 256 % 16) :: Nat.digitChar (c.toNat / 16 % 16) ::
      Nat.digitChar (c.toNat % 16) :: rest) = some (c.toNat, rest) := by
    simp only [readUnit]
    rw [hexDigit_digitChar (by omega), hexDigit_digitChar (by omega),
      hexDigit_digitChar (by omega), hexDigit_digitChar (by omega)]
    simp only [Option.bind_eq_bind, Option.bind_some, Option.some.injEq, Prod.mk.injEq, and_true]
    omega
  have valid : c.toNat < 0xD800 ∨ 0xE000 ≤ c.toNat := by
    have := c.valid
    simp only [UInt32.isValidChar, Nat.isValidChar] at this
    change c.val.toNat < _ ∨ _ ≤ c.val.toNat
    omega
  simp only [List.cons_append, List.nil_append, readEscape, if_true]
  rw [digits]
  simp only [Option.bind_eq_bind, Option.bind_some]
  rw [if_neg (by omega), if_neg (by omega), Char.ofNat_toNat]

theorem readEscape_long {letter c : Char} (long : longEscape? letter = some c) (rest : List Char) :
    readEscape ([letter] ++ rest) = some (c, rest) := by
  have other : letter ≠ 'u' := by
    rintro rfl
    cases long
  simp [readEscape, other, long]

-- A writer uses an escape of two characters, the number of the character, or the character.
theorem escapes_of {escape : Char → List Char}
    (chosen : ∀ c, (∃ letter, longEscape? letter = some c ∧ escape c = [backslash, letter]) ∨
      (c.toNat < 65536 ∧ escape c = unicodeEscape c) ∨
      (escape c = [c] ∧ c ≠ quote ∧ c ≠ backslash ∧ 0x20 ≤ c.toNat)) (c : Char) :
    (escape c = [c] ∧ c ≠ quote ∧ c ≠ backslash ∧ 0x20 ≤ c.toNat) ∨
      ∃ text, escape c = backslash :: text ∧
        ∀ rest, readEscape (text ++ rest) = some (c, rest) := by
  rcases chosen c with ⟨letter, long, text⟩ | ⟨small, text⟩ | plain
  · exact .inr ⟨_, text, readEscape_long long⟩
  · obtain ⟨rest, written, reads⟩ := readEscape_unicodeEscape small
    exact .inr ⟨rest, text.trans written, reads⟩
  · exact .inl plain

theorem longEscape_shortEscape {c letter : Char} (short : shortEscape? c = some letter) :
    longEscape? letter = some c := by
  unfold shortEscape? at short
  split_ifs at short <;> (cases short; subst_vars; decide)

theorem goEscapes (c : Char) :
    (∃ letter, longEscape? letter = some c ∧ escape c = [backslash, letter]) ∨
      (c.toNat < 65536 ∧ escape c = unicodeEscape c) ∨
      (escape c = [c] ∧ c ≠ quote ∧ c ≠ backslash ∧ 0x20 ≤ c.toNat) := by
  rcases escape_cases c with ⟨letter, short, text⟩ | ⟨needed, text⟩ | ⟨notBackslash, notQuote, text⟩
  · exact .inl ⟨letter, longEscape_shortEscape short, text⟩
  · exact .inr (.inl ⟨toNat_lt_of_needsUnicodeEscape needed, text⟩)
  · refine .inr (.inr ⟨text, notQuote, notBackslash, ?_⟩)
    by_contra small
    have needed : needsUnicodeEscape c = true := by
      simp only [needsUnicodeEscape, Bool.or_eq_true, decide_eq_true_eq]
      omega
    have length := congrArg List.length text
    unfold escape at length
    split_ifs at length <;> cases length

/-- `json.Marshal`. -/
def goStyle : Style where
  escape := escape
  gap _ := []
  afterColon := []
  escapes := escapes_of goEscapes
  gaps := by simp
  colons := by simp

theorem flatMap_escape (chars : List Char) :
    chars.flatMap escape ++ [quote] = encodeChars chars := by
  induction chars with
  | nil => rfl
  | cons c chars ih => rw [List.flatMap_cons, List.append_assoc, ih, encodeChars]

theorem goStyle_writeString (text : String) : goStyle.writeString text = encodeString text :=
  congrArg (List.cons quote) (flatMap_escape text.toList)

mutual

theorem goStyle_write : ∀ (json : Json) (depth : Nat), goStyle.write depth json = json.encode
  | .null, _ | .bool true, _ | .bool false, _ | .number _, _ => rfl
  | .string text, _ => goStyle_writeString text
  | .array items, depth => congrArg (List.cons '[') (goStyle_writeItems items depth [])
  | .object members, depth => congrArg (List.cons '{') (goStyle_writeMembers members depth [])
termination_by json => sizeOf json

theorem goStyle_writeItems : ∀ (items : List Json) (depth : Nat) (separator : List Char),
    goStyle.writeItems depth separator [']'] items = encodeItems separator items
  | [], _, _ => rfl
  | item :: items, depth, separator => by
    rw [Style.writeItems, encodeItems, goStyle_write item]
    exact congrArg (fun later => separator ++ (item.encode ++ later))
      (goStyle_writeItems items depth [','])
termination_by items => sizeOf items

theorem goStyle_writeMembers : ∀ (members : List (String × Json)) (depth : Nat)
    (separator : List Char),
    goStyle.writeMembers depth separator ['}'] members = encodeMembers separator members
  | [], _, _ => rfl
  | (name, value) :: members, depth, separator => by
    rw [Style.writeMembers, encodeMembers, goStyle_write value, goStyle_writeString]
    exact congrArg (fun later => separator ++ (encodeString name ++ ':' :: (value.encode ++ later)))
      (goStyle_writeMembers members depth [','])
termination_by members => sizeOf members

end

theorem parse_encode (json : Json) : parse json.encode = some json := by
  rw [← goStyle_write json 0]
  exact parse_write goStyle json

/-- `json.MarshalIndent` with an indent of two spaces. -/
def indentStyle : Style where
  escape := escape
  gap depth := '\n' :: List.replicate (2 * depth) ' '
  afterColon := [' ']
  escapes := escapes_of goEscapes
  gaps depth c member := by
    rcases List.mem_cons.mp member with rfl | space
    · decide
    · rw [List.eq_of_mem_replicate space]
      decide
  colons := by simp [isSpace]

def jsLetter? (c : Char) : Option Char :=
  if c = quote then some quote
  else if c = backslash then some backslash
  else if c = Char.ofNat 8 then some 'b'
  else if c = Char.ofNat 12 then some 'f'
  else if c = '\n' then some 'n'
  else if c = '\r' then some 'r'
  else if c = '\t' then some 't'
  else none

def jsEscape (c : Char) : List Char :=
  match jsLetter? c with
  | some letter => [backslash, letter]
  | none => if c.toNat < 0x20 then unicodeEscape c else [c]

theorem longEscape_jsLetter {c letter : Char} (short : jsLetter? c = some letter) :
    longEscape? letter = some c := by
  unfold jsLetter? at short
  split_ifs at short <;> (cases short; subst_vars; decide)

theorem jsEscapes (c : Char) :
    (∃ letter, longEscape? letter = some c ∧ jsEscape c = [backslash, letter]) ∨
      (c.toNat < 65536 ∧ jsEscape c = unicodeEscape c) ∨
      (jsEscape c = [c] ∧ c ≠ quote ∧ c ≠ backslash ∧ 0x20 ≤ c.toNat) := by
  unfold jsEscape
  cases short : jsLetter? c with
  | some letter => exact .inl ⟨letter, longEscape_jsLetter short, rfl⟩
  | none =>
    have plain : c ≠ quote ∧ c ≠ backslash := by
      constructor <;> rintro rfl <;> exact absurd short (by decide)
    by_cases small : c.toNat < 0x20
    · exact .inr (.inl ⟨by omega, if_pos small⟩)
    · exact .inr (.inr ⟨if_neg small, plain.1, plain.2, by omega⟩)

/-- `JSON.stringify`. -/
def jsStyle : Style where
  escape := jsEscape
  gap _ := []
  afterColon := []
  escapes := escapes_of jsEscapes
  gaps := by simp
  colons := by simp

end Shared.Json

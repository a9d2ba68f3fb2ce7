import Kufi.Shared.DartJson

set_option autoImplicit false

/-!
# Reading a text

A text is read back as it was written, and the blanks around it do not matter.
-/

namespace Shared.Dart

open Shared.Ecma (Str unit isDigit digits valueOf quoted escapeUnits skip isSpace readUnits
  readLiteral readFraction readExponent readSign readEscape hexDigit? readUnits_quoted)

/-! ## Reading what was written -/

section Written

variable (fuel : ℕ) (rest : Str)

theorem tokens_of_readToken {u : UInt16} {text : Str} {t : Token} (solid : isSpace u = false)
    (read : readToken u text = some (t, rest)) :
    tokens (fuel + 1) (u :: text) = (tokens fuel rest).map (t :: ·) := by
  rw [tokens, Ecma.skip_cons solid]
  simp only [read, Option.bind_eq_bind, Option.bind_some]
  cases tokens fuel rest <;> rfl

theorem tokens_punctuation {u : UInt16} {t : Token} (solid : isSpace u = false)
    (mark : punctuation? u = some t) :
    tokens (fuel + 1) (u :: rest) = (tokens fuel rest).map (t :: ·) := by
  apply tokens_of_readToken fuel rest solid
  rw [readToken, mark]

theorem tokens_quoted (text : Str) :
    tokens (fuel + 1) (quoted text ++ rest) = (tokens fuel rest).map (.string text :: ·) := by
  rw [Ecma.quoted_append]
  apply tokens_of_readToken fuel rest (by decide)
  have mark : punctuation? (unit '"') = none := by decide
  rw [readToken, mark]
  dsimp only
  rw [if_pos rfl, readUnits_quoted]
  rfl

theorem digits_grammatical (n : ℕ) : (⟨digits n, [], none⟩ : Ecma.Literal).Grammatical where
  some := Ecma.digits_ne_nil n
  whole := Ecma.digits_isDigit n
  fraction := by simp
  noZero zero := by
    rcases Nat.eq_zero_or_pos n with rfl | positive
    · decide
    · exact absurd zero (Ecma.digits_head positive)

theorem readLiteral_digits (n : ℕ) (ends : Ecma.Ends rest) :
    readLiteral (digits n ++ rest) = some (⟨digits n, [], none⟩, rest) := by
  have read := Ecma.readLiteral_text (digits_grammatical n) ends
  simpa [Ecma.Literal.text, Ecma.Literal.fractionText, Ecma.Literal.exponentText] using read

theorem digit_ne {u v : UInt16} (digit : isDigit u = true) (other : isDigit v = false) : u ≠ v := by
  rintro rfl
  exact absurd digit (by simp [other])

theorem readToken_digit {u : UInt16} (digit : isDigit u = true) (text : Str) :
    readToken u text =
      (readLiteral (u :: text)).map fun read => (.number (.ofLiteral false read.1), read.2) := by
  have other {c : Char} (mark : isDigit (unit c) = false) : u ≠ unit c := digit_ne digit mark
  have mark : punctuation? u = none := by
    unfold punctuation?
    rw [if_neg (other (by decide)), if_neg (other (by decide)), if_neg (other (by decide)),
      if_neg (other (by decide)), if_neg (other (by decide)), if_neg (other (by decide))]
  rw [readToken, mark]
  dsimp only
  rw [if_neg (other (by decide)), if_neg (other (by decide)), if_neg (other (by decide)),
    if_neg (other (by decide)), if_neg (other (by decide))]

theorem digit_not_space {u : UInt16} (digit : isDigit u = true) : isSpace u = false := by
  by_contra space
  rw [Bool.not_eq_false] at space
  exact absurd digit (by simp [blank_not_digit (space_blank space)])

-- An integer is read as the literal of its digits.
theorem tokens_int (n : ℤ) (ends : Ecma.Ends rest) :
    tokens (fuel + 1) (Number.intText n ++ rest) =
      (tokens fuel rest).map (.number (.ofLiteral (n < 0) ⟨digits n.natAbs, [], none⟩) :: ·) := by
  have literal := readLiteral_digits rest n.natAbs ends
  unfold Number.intText
  by_cases negative : n < 0
  · simp only [negative, if_true, List.cons_append, List.nil_append, decide_true]
    apply tokens_of_readToken fuel rest (by decide)
    have mark : punctuation? (unit '-') = none := by decide
    rw [readToken, mark]
    dsimp only
    rw [if_neg (by decide), if_neg (by decide), if_neg (by decide), if_neg (by decide), if_pos rfl,
      literal]
    rfl
  · simp only [negative, if_false, List.nil_append, decide_false]
    obtain ⟨u, later, first⟩ := List.exists_cons_of_ne_nil (Ecma.digits_ne_nil n.natAbs)
    have digit := Ecma.digits_isDigit n.natAbs u (by simp [first])
    rw [first, List.cons_append] at literal ⊢
    apply tokens_of_readToken fuel rest (digit_not_space digit)
    rw [readToken_digit digit, literal]
    rfl

end Written

/-! ## Blanks at the end

No token goes into the blanks that follow its text.
-/

theorem readToken_blank {u : UInt16} (blank : isBlank u = true) (rest : Str) :
    readToken u rest = none := by
  have solid {c : Char} := blank_ne blank (c := c)
  have mark : punctuation? u = none := by
    unfold punctuation?
    rw [if_neg (solid (by decide)), if_neg (solid (by decide)), if_neg (solid (by decide)),
      if_neg (solid (by decide)), if_neg (solid (by decide)), if_neg (solid (by decide))]
  have literal : readLiteral (u :: rest) = none := by
    simp [readLiteral, blank_not_digit blank]
  unfold readToken
  rw [mark]
  dsimp only
  rw [if_neg (solid (by decide)), if_neg (solid (by decide)), if_neg (solid (by decide)),
    if_neg (solid (by decide)), if_neg (solid (by decide)), literal]
  rfl

section Blanks

variable {more : Str} (blank : ∀ u ∈ more, isBlank u = true)

include blank

theorem span_append (text : Str) :
    (text ++ more).takeWhile isDigit = text.takeWhile isDigit ∧
      (text ++ more).dropWhile isDigit = text.dropWhile isDigit ++ more := by
  induction text with
  | nil =>
    cases more with
    | nil => simp
    | cons u more => simp [blank_not_digit (blank u List.mem_cons_self)]
  | cons u text ih =>
    by_cases digit : isDigit u = true
    · simp [digit, ih]
    · simp [digit]

theorem readEscape_append {text rest : Str} {u : UInt16}
    (read : readEscape (text ++ more) = some (u, rest)) :
    ∃ left, readEscape text = some (u, left) ∧ rest = left ++ more := by
  cases text with
  | nil =>
    cases more with
    | nil => cases read
    | cons v more =>
      have solid {c : Char} := blank_ne (blank v List.mem_cons_self) (c := c)
      simp [readEscape, Ecma.longEscape?, solid (c := 'u') (by decide), solid (c := '"') (by decide),
        solid (c := '\\') (by decide), solid (c := '/') (by decide), solid (c := 'b') (by decide),
        solid (c := 'f') (by decide), solid (c := 'n') (by decide), solid (c := 'r') (by decide),
        solid (c := 't') (by decide)] at read
  | cons letter text =>
    rw [List.cons_append] at read
    unfold readEscape at read ⊢
    dsimp only at read ⊢
    by_cases long : letter = unit 'u'
    · rw [if_pos long] at read ⊢
      -- a blank is no digit of the escape
      have none (v : UInt16) (listed : v ∈ more) := blank_not_hex (blank v listed)
      rcases text with _ | ⟨a, _ | ⟨b, _ | ⟨c, _ | ⟨d, text⟩⟩⟩⟩
      case cons.cons.cons.cons =>
        simp only [List.cons_append, Option.bind_eq_bind, Option.bind_eq_some_iff, Option.some.injEq,
          Prod.mk.injEq] at read ⊢
        obtain ⟨a', readA, b', readB, c', readC, d', readD, value, rfl⟩ := read
        exact ⟨text, ⟨a', readA, b', readB, c', readC, d', readD, value, rfl⟩, rfl⟩
      all_goals
        rcases more with _ | ⟨a', _ | ⟨b', _ | ⟨c', _ | ⟨d', more⟩⟩⟩⟩ <;> simp [none] at read
    · rw [if_neg long] at read ⊢
      obtain ⟨v, found, same⟩ := Option.map_eq_some_iff.mp read
      cases same
      exact ⟨text, by rw [found]; rfl, rfl⟩

theorem readUnits_blank (fuel : ℕ) : readUnits fuel more = none := by
  induction fuel generalizing more with
  | zero => cases more <;> rfl
  | succ fuel ih =>
    cases more with
    | nil => rfl
    | cons u more =>
      have solid {c : Char} := blank_ne (blank u List.mem_cons_self) (c := c)
      rw [readUnits, if_neg (solid (by decide)), if_neg (solid (by decide)),
        ih fun v listed => blank v (List.mem_cons_of_mem u listed)]
      split_ifs <;> rfl

theorem readUnits_append {fuel : ℕ} {text units rest : Str}
    (read : readUnits fuel (text ++ more) = some (units, rest)) :
    ∃ left, readUnits fuel text = some (units, left) ∧ rest = left ++ more := by
  induction fuel generalizing text units with
  | zero => cases text ++ more <;> cases read
  | succ fuel ih =>
    cases text with
    | nil => cases (readUnits_blank blank _).symm.trans read
    | cons u text =>
      rw [List.cons_append, readUnits] at read
      rw [readUnits]
      split_ifs at read ⊢ with quote escape low
      · cases read
        exact ⟨text, rfl, rfl⟩
      · simp only [Option.bind_eq_bind, Option.bind_eq_some_iff, Prod.exists, Option.some.injEq,
          Prod.mk.injEq] at read ⊢
        obtain ⟨v, later, escaped, tail, rest', readTail, rfl, rfl⟩ := read
        obtain ⟨left, escaped', rfl⟩ := readEscape_append blank escaped
        obtain ⟨left', readTail', rfl⟩ := ih readTail
        exact ⟨left', ⟨v, left, escaped', tail, left', readTail', rfl, rfl⟩, rfl⟩
      · simp only [Option.bind_eq_bind, Option.bind_eq_some_iff, Prod.exists, Option.some.injEq,
          Prod.mk.injEq] at read ⊢
        obtain ⟨tail, rest', readTail, rfl, rfl⟩ := read
        obtain ⟨left, readTail', rfl⟩ := ih readTail
        exact ⟨left, ⟨tail, left, readTail', rfl, rfl⟩, rfl⟩

theorem readFraction_append (text : Str) :
    readFraction (text ++ more) =
      (readFraction text).map fun read => (read.1, read.2 ++ more) := by
  cases text with
  | nil =>
    cases more with
    | nil => rfl
    | cons u more =>
      have point := blank_ne (blank u List.mem_cons_self) (c := '.') (by decide)
      simp [readFraction, point]
  | cons u text =>
    obtain ⟨taken, dropped⟩ := span_append blank text
    simp only [List.cons_append, readFraction, taken, dropped]
    split_ifs <;> rfl

theorem readSign_append (text : Str) :
    readSign (text ++ more) = ((readSign text).1, (readSign text).2 ++ more) := by
  cases text with
  | nil =>
    cases more with
    | nil => rfl
    | cons u more =>
      have solid {c : Char} := blank_ne (blank u List.mem_cons_self) (c := c)
      simp [readSign, solid (c := '-') (by decide), solid (c := '+') (by decide)]
  | cons u text =>
    simp only [List.cons_append, readSign]
    split_ifs <;> rfl

theorem readExponent_append (text : Str) :
    readExponent (text ++ more) =
      (readExponent text).map fun read => (read.1, read.2 ++ more) := by
  cases text with
  | nil =>
    cases more with
    | nil => rfl
    | cons u more =>
      have solid {c : Char} := blank_ne (blank u List.mem_cons_self) (c := c)
      simp [readExponent, solid (c := 'e') (by decide), solid (c := 'E') (by decide)]
  | cons u text =>
    obtain ⟨taken, dropped⟩ := span_append blank (readSign text).2
    simp only [List.cons_append, readExponent, readSign_append blank text, taken, dropped]
    split_ifs <;> rfl

theorem readLiteral_append (text : Str) :
    readLiteral (text ++ more) =
      (readLiteral text).map fun read => (read.1, read.2 ++ more) := by
  obtain ⟨taken, dropped⟩ := span_append blank text
  simp only [readLiteral, taken, dropped]
  split_ifs
  · rfl
  · rw [readFraction_append blank]
    cases readFraction (text.dropWhile isDigit) with
    | none => rfl
    | some read =>
      simp only [Option.map_some, Option.bind_eq_bind, Option.bind_some,
        readExponent_append blank read.2]
      cases readExponent read.2 <;> rfl

theorem readWord_append {word text rest : Str} {token t : Token}
    (solid : word.any isBlank = false)
    (read : readWord word token (text ++ more) = some (t, rest)) :
    ∃ left, readWord word token text = some (t, left) ∧ rest = left ++ more := by
  unfold readWord at read ⊢
  split_ifs at read with first
  cases read
  have inside : word.length ≤ text.length := by
    -- else the word would end in a blank
    by_contra long
    obtain ⟨tail, rfl⟩ :=
      List.prefix_of_prefix_length_le (List.prefix_append text more) first (by omega)
    cases tail with
    | nil => simp at long
    | cons u tail =>
      have next := (List.prefix_append_right_inj text).mp first
      obtain ⟨later, rfl⟩ := next
      exact List.any_eq_false.mp solid u (by simp) (blank u (by simp))
  refine ⟨text.drop word.length, ?_, List.drop_append_of_le_length inside⟩
  rw [if_pos (List.prefix_of_prefix_length_le first (List.prefix_append text more) inside)]

theorem readToken_append {u : UInt16} {text rest : Str} {t : Token}
    (read : readToken u (text ++ more) = some (t, rest)) :
    ∃ left, readToken u text = some (t, left) ∧ rest = left ++ more := by
  unfold readToken at read ⊢
  cases mark : punctuation? u with
  | some token =>
    simp only [mark, Option.some.injEq, Prod.mk.injEq] at read ⊢
    obtain ⟨rfl, rfl⟩ := read
    exact ⟨text, ⟨rfl, rfl⟩, rfl⟩
  | none =>
    simp only [mark] at read ⊢
    split_ifs at read ⊢
    · obtain ⟨⟨units, rest'⟩, found, same⟩ := Option.map_eq_some_iff.mp read
      cases same
      obtain ⟨left, found', rfl⟩ := readUnits_append blank found
      refine ⟨left, ?_, rfl⟩
      rw [readUnits_enough found' (Nat.lt_succ_self _)]
      rfl
    · exact readWord_append blank (by decide) read
    · exact readWord_append blank (by decide) read
    · exact readWord_append blank (by decide) read
    · rw [readLiteral_append blank, Option.map_map] at read
      obtain ⟨literal, found, same⟩ := Option.map_eq_some_iff.mp read
      cases same
      exact ⟨literal.2, by rw [found]; rfl, rfl⟩
    · rw [← List.cons_append, readLiteral_append blank, Option.map_map] at read
      obtain ⟨literal, found, same⟩ := Option.map_eq_some_iff.mp read
      cases same
      exact ⟨literal.2, by rw [found]; rfl, rfl⟩

theorem tokens_append {fuel : ℕ} {text : Str} {ts : List Token}
    (read : tokens fuel (text ++ more) = some ts) : tokens fuel text = some ts := by
  induction fuel generalizing text ts with
  | zero => cases read
  | succ fuel ih =>
    rw [tokens] at read ⊢
    cases rest : skip text with
    | nil =>
      -- only blanks are left, and no token begins with one
      have same : skip (text ++ more) = skip more := by
        rw [skip, List.dropWhile_append, ← skip, rest]
        rfl
      cases after : skip more with
      | nil => simpa only [same, after] using read
      | cons u later =>
        have listed : u ∈ skip more := by simp [after]
        have none := readToken_blank (blank u ((List.dropWhile_sublist _).subset listed)) later
        simp [same, after, none] at read
    | cons u later =>
      have same : skip (text ++ more) = u :: (later ++ more) := by
        rw [skip, List.dropWhile_append, ← skip, rest]
        rfl
      simp only [same, Option.bind_eq_bind, Option.bind_eq_some_iff, Prod.exists] at read ⊢
      obtain ⟨t, next, first, tail, readTail, made⟩ := read
      obtain ⟨left, first', rfl⟩ := readToken_append blank first
      exact ⟨t, left, first', tail, ih readTail, made⟩

end Blanks

theorem dropWhile_skip (text : Str) : (skip text).dropWhile isBlank = text.dropWhile isBlank := by
  induction text with
  | nil => rfl
  | cons u text ih =>
    by_cases space : isSpace u = true
    · rw [skip, List.dropWhile_cons_of_pos space, List.dropWhile_cons_of_pos (space_blank space)]
      exact ih
    · rw [skip, List.dropWhile_cons_of_neg space]

theorem tokens_dropWhile {fuel : ℕ} {text : Str} {ts : List Token}
    (read : tokens fuel text = some ts) : tokens fuel (text.dropWhile isBlank) = some ts := by
  cases fuel with
  | zero => cases read
  | succ fuel =>
    rw [tokens] at read ⊢
    cases rest : skip text with
    | nil =>
      rw [← dropWhile_skip, rest]
      rw [rest] at read
      exact read
    | cons u later =>
      have solid : isBlank u = false := by
        by_contra blank
        rw [Bool.not_eq_false] at blank
        simp [rest, readToken_blank blank] at read
      have same : skip (text.dropWhile isBlank) = u :: later := by
        rw [← dropWhile_skip, rest, List.dropWhile_cons_of_neg (by simp [solid]), ← rest, skip,
          skip, List.dropWhile_idempotent]
      simpa only [rest, same] using read

/-- The blanks around a text do not matter. -/
theorem jsonDecode_trim {text : Str} {value : Value} (read : jsonDecode text = some value) :
    jsonDecode (trim text) = some value := by
  obtain ⟨ts, found, parsed⟩ := Option.bind_eq_some_iff.mp read
  have left := tokens_dropWhile found
  rw [← List.rdropWhile_append_rtakeWhile (l := text.dropWhile isBlank) (p := isBlank)] at left
  have trimmed := tokens_append (fun u listed => List.mem_rtakeWhile_imp listed) left
  rw [jsonDecode, trim, tokens_enough trimmed (Nat.lt_succ_self _)]
  exact parsed

end Shared.Dart

import Kufi.Shared.DartJsonText

set_option autoImplicit false

/-!
# The transfer QR code

What the receiver's screen writes into a code and what the payer's screen reads
from it. A code is first tried as a plain phone number, with the digits of its
whole text.
-/

namespace Kufi.Frontend

open Shared.Ecma (Str unit isDigit digits quoted)
open Shared.Dart (Members Value Token trim isBlank jsonDecode jsonEncode tokens tokens_punctuation
  tokens_quoted tokens_int parseValue jsonDecode_of)

def transferType : Str := Str.of "ewallet_transfer"

def defaultName : Str := Str.of "Người nhận"

structure TransferQrPayload where
  phone : Str
  displayName : Str
  type : Str := transferType
  version : ℤ := 1
  deriving DecidableEq

namespace TransferQrPayload

def toJson (payload : TransferQrPayload) : Members :=
  [(Str.of "type", .string payload.type), (Str.of "v", .number (.int payload.version)),
    (Str.of "phone", .string payload.phone), (Str.of "name", .string payload.displayName)]

def encode (payload : TransferQrPayload) : Option Str := jsonEncode (.map payload.toJson)

def normalizePhone (raw : Str) : Str :=
  let digitsOnly := raw.filter isDigit
  if (Str.of "84").isPrefixOf digitsOnly ∧ digitsOnly.length = 11 then
    unit '0' :: digitsOnly.drop 2
  else digitsOnly

/-- `^(0\d{9,10}|84\d{8,10})$`. -/
def isReadyPhone (phone : Str) : Bool :=
  phone.all isDigit &&
    ((Str.of "0").isPrefixOf phone && 10 ≤ phone.length && phone.length ≤ 11 ||
      (Str.of "84").isPrefixOf phone && 10 ≤ phone.length && phone.length ≤ 12)

def decode (rawValue : Str) : Option TransferQrPayload :=
  let raw := trim rawValue
  if raw = [] then none
  else
    let plainPhone := normalizePhone raw
    if isReadyPhone plainPhone then some { phone := plainPhone, displayName := defaultName }
    else
      match jsonDecode raw with
      | some (.map parsed) =>
        let type := trim ((Members.get parsed (Str.of "type")).textOr [])
        if type ≠ transferType then none
        else
          let phone := normalizePhone ((Members.get parsed (Str.of "phone")).textOr [])
          if !isReadyPhone phone then none
          else
            let name := trim ((Members.get parsed (Str.of "name")).textOr defaultName)
            some { phone, displayName := if name = [] then defaultName else name }
      | _ => none

/-! ## Ready phones -/

/-- Digits that are a ready phone, as they are or with the country code replaced. -/
def ReadsAsPhone (ds : Str) : Prop :=
  ((Str.of "0").isPrefixOf ds ∧ 10 ≤ ds.length ∧ ds.length ≤ 11) ∨
    ((Str.of "84").isPrefixOf ds ∧ 10 ≤ ds.length ∧ ds.length ≤ 12)

instance (ds : Str) : Decidable (ReadsAsPhone ds) := inferInstanceAs (Decidable (_ ∨ _))

theorem isReadyPhone_iff {ds : Str} (all : ds.all isDigit = true) :
    isReadyPhone ds = true ↔ ReadsAsPhone ds := by
  simp only [isReadyPhone, all, Bool.true_and, Bool.or_eq_true, Bool.and_eq_true,
    decide_eq_true_eq, ReadsAsPhone, and_assoc]

theorem normalizePhone_digits (raw : Str) : ∀ u ∈ normalizePhone raw, isDigit u = true := by
  have all : ∀ u ∈ raw.filter isDigit, isDigit u = true := fun u listed =>
    (List.mem_filter.mp listed).2
  unfold normalizePhone
  dsimp only
  split_ifs
  · intro u listed
    rcases List.mem_cons.mp listed with rfl | later
    · decide
    · exact all u (List.mem_of_mem_drop later)
  · exact all

theorem ready_normalizePhone (raw : Str) :
    isReadyPhone (normalizePhone raw) = true ↔ ReadsAsPhone (raw.filter isDigit) := by
  rw [isReadyPhone_iff (List.all_eq_true.mpr (normalizePhone_digits raw))]
  unfold normalizePhone
  dsimp only
  split_ifs with country
  · obtain ⟨first, length⟩ := country
    refine iff_of_true (.inl ⟨by rfl, ?_⟩) (.inr ⟨first, by omega⟩)
    simp [length]
  · rfl

theorem normalizePhone_normalizePhone (raw : Str) :
    normalizePhone (normalizePhone raw) = normalizePhone raw := by
  have same := List.filter_eq_self.mpr (normalizePhone_digits raw)
  rw [normalizePhone, same]
  -- no normal phone begins with the country code and has eleven digits
  rw [if_neg]
  rintro ⟨first, length⟩
  unfold normalizePhone at first length
  dsimp only at first length
  split_ifs at first length with country
  · exact absurd first (by simp [Str.of, show unit '8' ≠ unit '0' by decide])
  · exact country ⟨first, length⟩

/-! ## What a text names -/

/-- The name on the screen. -/
def shownName (name : Str) : Str := if trim name = [] then defaultName else trim name

section Named

variable (members : Members)

def typeText : Str := (Members.get members (Str.of "type")).textOr []
def phoneText : Str := (Members.get members (Str.of "phone")).textOr []
def nameText : Str := (Members.get members (Str.of "name")).textOr defaultName

/-- The payload that a text of these members names. -/
def named : TransferQrPayload where
  phone := normalizePhone (phoneText members)
  displayName := shownName (nameText members)

structure IsTransfer : Prop where
  type : trim (typeText members) = transferType
  ready : isReadyPhone (normalizePhone (phoneText members)) = true

end Named

theorem filter_trim (text : Str) : (trim text).filter isDigit = text.filter isDigit := by
  have blanks {more : Str} (all : ∀ u ∈ more, isBlank u = true) : more.filter isDigit = [] :=
    List.filter_eq_nil_iff.mpr fun u listed => by simp [Shared.Dart.blank_not_digit (all u listed)]
  have first := congrArg (List.filter isDigit)
    (List.takeWhile_append_dropWhile (p := isBlank) (l := text))
  have last := congrArg (List.filter isDigit)
    (List.rdropWhile_append_rtakeWhile (p := isBlank) (l := text.dropWhile isBlank))
  rw [List.filter_append, blanks fun u listed => List.mem_takeWhile_imp listed,
    List.nil_append] at first
  rw [List.filter_append, blanks fun u listed => List.mem_rtakeWhile_imp listed, List.append_nil]
    at last
  rw [trim, last, first]

theorem normalizePhone_trim (text : Str) : normalizePhone (trim text) = normalizePhone text := by
  unfold normalizePhone
  rw [filter_trim]

theorem decode_of_digits {text : Str} (reads : ReadsAsPhone (text.filter isDigit)) :
    decode text = some { phone := normalizePhone text, displayName := defaultName } := by
  have some : trim text ≠ [] := by
    intro empty
    rw [← filter_trim, empty] at reads
    exact absurd reads (by decide)
  have ready := (ready_normalizePhone text).mpr reads
  rw [decode]
  dsimp only
  rw [if_neg some, normalizePhone_trim, if_pos ready]

theorem decode_of_json {text : Str} {members : Members}
    (other : ¬ ReadsAsPhone (text.filter isDigit)) (read : jsonDecode text = some (.map members))
    (transfer : IsTransfer members) : decode text = some (named members) := by
  have trimmed := Shared.Dart.jsonDecode_trim read
  have some : trim text ≠ [] := by
    intro empty
    rw [empty] at trimmed
    cases trimmed
  have unready : isReadyPhone (normalizePhone text) ≠ true :=
    fun ready => other ((ready_normalizePhone text).mp ready)
  have type := transfer.type
  have ready := transfer.ready
  unfold typeText at type
  unfold phoneText at ready
  rw [decode]
  dsimp only
  rw [if_neg some, normalizePhone_trim, if_neg unready, trimmed]
  dsimp only
  rw [if_neg (not_not.mpr type), ready]
  rfl

/-! ## Reading what was written -/

section Encode

variable (payload : TransferQrPayload)

-- The four members with their marks.
def text : Str :=
  unit '{' :: (quoted (Str.of "type") ++ unit ':' :: (quoted payload.type ++ unit ',' ::
    (quoted (Str.of "v") ++ unit ':' :: (Shared.Dart.Number.intText payload.version ++ unit ',' ::
      (quoted (Str.of "phone") ++ unit ':' :: (quoted payload.phone ++ unit ',' ::
        (quoted (Str.of "name") ++ unit ':' :: (quoted payload.displayName ++ [unit '}']))))))))

theorem encode_eq : payload.encode = some payload.text := by
  simp [encode, toJson, text, Shared.Dart.jsonEncode, Shared.Dart.encodeMembers,
    Shared.Dart.Number.toString]

/-- The members as they are read back. -/
def readBack : Members :=
  [(Str.of "type", .string payload.type),
    (Str.of "v", .number (.ofLiteral (payload.version < 0)
      ⟨digits payload.version.natAbs, [], none⟩)),
    (Str.of "phone", .string payload.phone), (Str.of "name", .string payload.displayName)]

def textTokens : List Token :=
  [.openMap, .string (Str.of "type"), .colon, .string payload.type, .comma,
    .string (Str.of "v"), .colon,
    .number (.ofLiteral (payload.version < 0) ⟨digits payload.version.natAbs, [], none⟩), .comma,
    .string (Str.of "phone"), .colon, .string payload.phone, .comma,
    .string (Str.of "name"), .colon, .string payload.displayName, .closeMap]

theorem tokens_text : tokens 18 payload.text = some payload.textTokens := by
  have mark {fuel : ℕ} {rest : Str} {u : UInt16} {t : Token} (solid : Shared.Ecma.isSpace u = false)
      (mark : Shared.Dart.punctuation? u = some t) :
      tokens (fuel + 1) (u :: rest) = (tokens fuel rest).map (t :: ·) :=
    tokens_punctuation fuel rest solid mark
  have ends {rest : Str} : Shared.Ecma.Ends (unit ',' :: rest) :=
    Shared.Ecma.ends_cons (by decide) rest
  rw [text, mark (by decide) rfl, tokens_quoted, mark (by decide) rfl, tokens_quoted,
    mark (by decide) rfl, tokens_quoted, mark (by decide) rfl, tokens_int _ _ _ ends,
    mark (by decide) rfl, tokens_quoted, mark (by decide) rfl, tokens_quoted,
    mark (by decide) rfl, tokens_quoted, mark (by decide) rfl, tokens_quoted,
    mark (by decide) rfl]
  rfl

theorem jsonDecode_text : jsonDecode payload.text = some (.map payload.readBack) := by
  have parsed : parseValue 6 payload.textTokens = some (.map payload.readBack, []) := rfl
  exact jsonDecode_of payload.tokens_text parsed

theorem filter_text :
    payload.text.filter isDigit =
      (quoted payload.type).filter isDigit ++ (digits payload.version.natAbs ++
        ((quoted payload.phone).filter isDigit ++
          (quoted payload.displayName).filter isDigit)) := by
  have other {u : UInt16} {rest : Str} (mark : isDigit u = false) :
      (u :: rest).filter isDigit = rest.filter isDigit := by simp [mark]
  have all : (digits payload.version.natAbs).filter isDigit = digits payload.version.natAbs :=
    List.filter_eq_self.mpr (Shared.Ecma.digits_isDigit _)
  have sign : (Shared.Dart.Number.intText payload.version).filter isDigit =
      digits payload.version.natAbs := by
    unfold Shared.Dart.Number.intText
    split_ifs
    · rw [List.cons_append, List.nil_append, other (by decide), all]
    · rw [List.nil_append, all]
  have names : (quoted (Str.of "type")).filter isDigit = [] ∧
      (quoted (Str.of "v")).filter isDigit = [] ∧ (quoted (Str.of "phone")).filter isDigit = [] ∧
      (quoted (Str.of "name")).filter isDigit = [] := by decide
  obtain ⟨type, v, phone, name⟩ := names
  simp only [text, List.filter_append, other (show isDigit (unit '{') = false by decide),
    other (show isDigit (unit ':') = false by decide),
    other (show isDigit (unit ',') = false by decide),
    other (show isDigit (unit '}') = false by decide), sign, type, v, phone, name, List.nil_append,
    List.filter_nil, List.append_nil]

end Encode

theorem escapeUnits_digits {ds : Str} (all : ∀ u ∈ ds, isDigit u = true) :
    Shared.Ecma.escapeUnits ds = ds := by
  have escape {u : UInt16} (digit : isDigit u = true) : Shared.Ecma.escapeUnit u = [u] := by
    have other {v : UInt16} (mark : isDigit v = false) : u ≠ v := Shared.Dart.digit_ne digit mark
    have short : Shared.Ecma.shortEscape? u = none := by
      unfold Shared.Ecma.shortEscape?
      rw [if_neg (other (by decide)), if_neg (other (by decide)), if_neg (other (by decide)),
        if_neg (other (by decide)), if_neg (other (by decide)), if_neg (other (by decide)),
        if_neg (other (by decide))]
    simp only [isDigit, Bool.and_eq_true, decide_eq_true_eq] at digit
    rw [Shared.Ecma.escapeUnit, short]
    dsimp only
    rw [if_neg]
    simp only [Shared.Ecma.isLead, Shared.Ecma.isTrail, Bool.or_eq_true, Bool.and_eq_true,
      decide_eq_true_eq]
    omega
  fun_induction Shared.Ecma.escapeUnits ds with
  | case1 => rfl
  | case2 u => exact escape (all u (by simp))
  | case3 u v rest pair ih => rw [ih fun w listed => all w (by simp [listed])]
  | case4 u v rest pair ih =>
    rw [escape (all u (by simp)), ih fun w listed => all w (List.mem_cons_of_mem u listed)]
    rfl

theorem filter_quoted {ds : Str} (all : ∀ u ∈ ds, isDigit u = true) :
    (quoted ds).filter isDigit = ds := by
  have mark : isDigit (unit '"') = false := by decide
  simp [quoted, escapeUnits_digits all, mark, List.filter_eq_self.mpr all]

theorem reads_head {ds : Str} (reads : ReadsAsPhone ds) :
    ∃ u rest, ds = u :: rest ∧ (u = unit '0' ∨ u = unit '8') := by
  rcases reads with ⟨first, -⟩ | ⟨first, -⟩ <;>
    obtain ⟨rest, rfl⟩ := List.isPrefixOf_iff_prefix.mp first
  · exact ⟨unit '0', rest, rfl, .inl rfl⟩
  · exact ⟨unit '8', unit '4' :: rest, rfl, .inr rfl⟩

/-- Digits before a ready phone make another number of it. -/
theorem normalizePhone_ne {raw before phone after : Str} (ready : ReadsAsPhone phone)
    (some : before ≠ []) (digits : raw.filter isDigit = before ++ (phone ++ after)) :
    normalizePhone raw ≠ phone := by
  intro same
  have length := congrArg List.length same
  have positive := List.length_pos_iff.mpr some
  unfold normalizePhone at same length
  rw [digits] at same length
  dsimp only at same length
  split_ifs at same length with country
  · simp only [List.length_cons, List.length_drop, List.length_append] at country length
    obtain ⟨first, size⟩ := country
    obtain ⟨x, rfl⟩ := List.length_eq_one_iff.mp (show before.length = 1 by omega)
    -- the phone would go on after the 8
    obtain ⟨p, later, rfl, head⟩ := reads_head ready
    have four : unit '4' = p := by
      have both : unit '8' = x ∧ unit '4' = p := by
        simpa [Str.of] using List.isPrefixOf_iff_prefix.mp first
      exact both.2
    rcases head with rfl | rfl <;> exact absurd four (by decide)
  · simp only [List.length_append] at length
    omega

/-! ## What a code pays -/

/-- The digits of the text are no phone, or they are the named one and the name is not lost. -/
def Undisturbed (text : Str) (payload : TransferQrPayload) : Prop :=
  ReadsAsPhone (text.filter isDigit) →
    normalizePhone text = payload.phone ∧ payload.displayName = defaultName

/-- A payload that can be paid. -/
structure IsReady (payload : TransferQrPayload) : Prop where
  type : trim payload.type = transferType
  ready : isReadyPhone payload.phone = true
  normal : normalizePhone payload.phone = payload.phone

def shown (payload : TransferQrPayload) : TransferQrPayload where
  phone := payload.phone
  displayName := shownName payload.displayName

instance (members : Members) : Decidable (IsTransfer members) :=
  decidable_of_iff (trim (typeText members) = transferType ∧
    isReadyPhone (normalizePhone (phoneText members)) = true)
    ⟨fun holds => ⟨holds.1, holds.2⟩, fun holds => ⟨holds.type, holds.ready⟩⟩

instance (text : Str) (payload : TransferQrPayload) : Decidable (Undisturbed text payload) :=
  inferInstanceAs (Decidable (_ → _))

theorem decode_eq_named {text : Str} {members : Members}
    (read : jsonDecode text = some (.map members)) (transfer : IsTransfer members) :
    decode text = some (named members) ↔ Undisturbed text (named members) := by
  by_cases reads : ReadsAsPhone (text.filter isDigit)
  · rw [decode_of_digits reads, Option.some_inj]
    constructor
    · intro same _
      exact ⟨congrArg TransferQrPayload.phone same,
        (congrArg TransferQrPayload.displayName same).symm⟩
    · intro undisturbed
      obtain ⟨phone, name⟩ := undisturbed reads
      rw [phone, ← name]
      rfl
  · exact iff_of_true (decode_of_json reads read transfer) fun other => absurd other reads

theorem IsReady.digits {payload : TransferQrPayload} (ready : payload.IsReady) :
    (∀ u ∈ payload.phone, isDigit u = true) ∧ ReadsAsPhone payload.phone := by
  have all : payload.phone.all isDigit = true := by
    have checked := ready.ready
    rw [isReadyPhone, Bool.and_eq_true] at checked
    exact checked.1
  exact ⟨List.all_eq_true.mp all, (isReadyPhone_iff all).mp ready.ready⟩

theorem IsReady.readBack {payload : TransferQrPayload} (ready : payload.IsReady) :
    IsTransfer payload.readBack ∧ named payload.readBack = payload.shown := by
  have same : named payload.readBack =
      { payload.shown with phone := normalizePhone payload.phone } := rfl
  rw [ready.normal] at same
  refine ⟨⟨ready.type, ?_⟩, same⟩
  exact (congrArg isReadyPhone ready.normal).trans ready.ready

theorem decode_text {payload : TransferQrPayload} (ready : payload.IsReady) :
    decode payload.text = some payload.shown ↔
      ¬ ReadsAsPhone (payload.text.filter isDigit) := by
  obtain ⟨transfer, same⟩ := ready.readBack
  rw [← same, decode_eq_named payload.jsonDecode_text transfer, same]
  refine ⟨fun undisturbed reads => ?_, fun other reads => absurd reads other⟩
  obtain ⟨all, phone⟩ := ready.digits
  have split := payload.filter_text
  rw [filter_quoted all, ← List.append_assoc] at split
  refine normalizePhone_ne phone ?_ split (undisturbed reads).1
  simp [Shared.Ecma.digits_ne_nil]

/-- A code pays what it names just when its digits do not disturb it. -/
theorem pays_named_iff (text : Str) (members : Members) (payload : TransferQrPayload) :
    (jsonDecode text = some (.map members) → IsTransfer members →
      (decode text = some (named members) ↔ Undisturbed text (named members))) ∧
    (payload.IsReady → ∃ text, payload.encode = some text ∧
      (decode text = some payload.shown ↔ ¬ ReadsAsPhone (text.filter isDigit))) :=
  ⟨decode_eq_named, fun ready => ⟨payload.text, payload.encode_eq, decode_text ready⟩⟩

-- What is checked of the members of a text.
def readsMembers (text : Str) (check : Members → Bool) : Bool :=
  match jsonDecode text with
  | some (.map members) => check members
  | _ => false

theorem exists_of_readsMembers {text : Str} {check : Members → Bool}
    (checked : readsMembers text check = true) :
    ∃ members, jsonDecode text = some (.map members) ∧ check members = true := by
  unfold readsMembers at checked
  split at checked
  next members read => exact ⟨members, read, checked⟩
  next => cases checked

def an (phone : String) : TransferQrPayload where
  phone := Str.of phone
  displayName := Str.of "An"

def numberFirst : Str :=
  Str.of "\x7b\"phone\":\"0901234567\",\"type\":\"ewallet_transfer\",\"v\":1,\"name\":\"An\"\x7d"

/-- The version is read as the last digit of the phone. -/
theorem version_paid :
    ∃ members, jsonDecode numberFirst = some (.map members) ∧ IsTransfer members ∧
      named members = an "0901234567" ∧
      decode numberFirst = some { phone := Str.of "09012345671", displayName := defaultName } := by
  have checked : readsMembers numberFirst
      (fun members => IsTransfer members ∧ named members = an "0901234567") = true := by
    decide +kernel
  obtain ⟨members, read, holds⟩ := exists_of_readsMembers checked
  obtain ⟨transfer, same⟩ := of_decide_eq_true holds
  exact ⟨members, read, transfer, same, by decide +kernel⟩

theorem pays_named_iff_last :
    decode (an "0901234567").text = some (an "0901234567") ∧
      ∃ text, (an "0901234567").encode = some text ∧ decode text = some (an "0901234567") := by
  have ready : (an "0901234567").IsReady := ⟨by decide, by decide, by decide⟩
  have transfer := ready.readBack.1
  obtain ⟨read, written⟩ := pays_named_iff (an "0901234567").text (an "0901234567").readBack
    (an "0901234567")
  refine ⟨(read (jsonDecode_text _) transfer).mpr (by decide +kernel), ?_⟩
  obtain ⟨text, encoded, back⟩ := written ready
  obtain rfl : (an "0901234567").text = text :=
    Option.some.inj ((encode_eq _).symm.trans encoded)
  exact ⟨_, encoded, back.mpr (by decide +kernel)⟩

/-- Only the versions 0 and 84 go on to a phone with the ten digits after them. -/
theorem reads_version_iff (version : ℕ) {phone name : Str} (ready : ReadsAsPhone phone) :
    ReadsAsPhone (digits version ++ (phone ++ name)) ↔
      (version = 0 ∨ version = 84) ∧ phone.length = 10 ∧ name = [] := by
  have some := List.length_pos_iff.mpr (Shared.Ecma.digits_ne_nil version)
  have long : 10 ≤ phone.length := by
    rcases ready with ⟨-, least, -⟩ | ⟨-, least, -⟩ <;> exact least
  constructor
  · rintro (⟨first, -, most⟩ | ⟨first, -, most⟩) <;>
      rw [List.length_append, List.length_append] at most
    · have zero : version = 0 := by
        by_contra positive
        obtain ⟨u, rest, digits⟩ := List.exists_cons_of_ne_nil (Shared.Ecma.digits_ne_nil version)
        have head := Shared.Ecma.digits_head (Nat.pos_of_ne_zero positive)
        rw [digits, List.cons_append] at first
        have zero : unit '0' = u := by
          simpa [Str.of] using List.isPrefixOf_iff_prefix.mp first
        exact head (by rw [digits, zero]; rfl)
      exact ⟨.inl zero, by omega, List.length_eq_zero_iff.mp (by omega)⟩
    · obtain ⟨p, later, rfl, head⟩ := reads_head ready
      have prefixed := List.isPrefixOf_iff_prefix.mp first
      have size : (digits version).length = 1 ∨ (digits version).length = 2 := by omega
      rcases size with one | two
      · obtain ⟨u, single⟩ := List.length_eq_one_iff.mp one
        have both : unit '8' = u ∧ unit '4' = p := by
          simpa [single, Str.of] using prefixed
        rcases head with rfl | rfl <;> exact absurd both.2 (by decide)
      · obtain ⟨u, v, double⟩ := List.length_eq_two.mp two
        have both : unit '8' = u ∧ unit '4' = v := by
          simpa [double, Str.of] using prefixed
        have value : version = 84 := by
          rw [← Shared.Ecma.valueOf_digits version, double, ← both.1, ← both.2]
          decide
        exact ⟨.inr value, by omega, List.length_eq_zero_iff.mp (by omega)⟩
  · rintro ⟨rfl | rfl, ten, rfl⟩
    · exact .inl ⟨rfl, by simp [ten, Shared.Ecma.digits_small]⟩
    · have eighty : digits 84 = [unit '8', unit '4'] := by decide
      exact .inr ⟨by rw [eighty]; rfl, by simp [ten, eighty]⟩

/-- The codes of the app itself that do not read back. -/
theorem decode_encode_iff {payload : TransferQrPayload} (ready : payload.IsReady)
    (type : payload.type = transferType) :
    payload.encode.bind decode = some payload.shown ↔
      ¬ ((payload.version.natAbs = 0 ∨ payload.version.natAbs = 84) ∧
        payload.phone.length = 10 ∧ (quoted payload.displayName).filter isDigit = []) := by
  obtain ⟨all, phone⟩ := ready.digits
  have plain : (quoted transferType).filter isDigit = [] := by decide
  rw [encode_eq, Option.bind_some, decode_text ready, filter_text, type, plain, filter_quoted all,
    List.nil_append, reads_version_iff _ phone]

theorem decode_encode {payload : TransferQrPayload} (ready : payload.IsReady)
    (type : payload.type = transferType) (version : payload.version = 1) :
    payload.encode.bind decode = some payload.shown := by
  rw [decode_encode_iff ready type, version]
  exact fun ⟨other, _⟩ => absurd other (by decide)

theorem shownName_shownName (name : Str) : shownName (shownName name) = shownName name := by
  unfold shownName
  split_ifs with blank kept kept
  · rfl
  · decide
  · exact absurd (Shared.Dart.trim_trim name ▸ kept) blank
  · exact Shared.Dart.trim_trim name

theorem decode_cases {text : Str} {payload : TransferQrPayload}
    (decoded : decode text = some payload) :
    ∃ phone name, isReadyPhone (normalizePhone phone) = true ∧
      payload = { phone := normalizePhone phone, displayName := shownName name } := by
  unfold decode at decoded
  dsimp only at decoded
  split_ifs at decoded with blank plain
  · cases decoded
    exact ⟨_, defaultName, plain, by rw [show shownName defaultName = defaultName by decide]⟩
  · split at decoded
    next parsed read =>
      split_ifs at decoded with type unready empty <;>
      · cases decoded
        refine ⟨_, nameText parsed, by simpa using unready, ?_⟩
        rw [shownName, nameText]
        simp only [empty, if_true, if_false]
    next => cases decoded

/-- What is decoded can be paid, and the code written of it pays the same. -/
theorem encode_of_decode {text : Str} {payload : TransferQrPayload}
    (decoded : decode text = some payload) :
    payload.IsReady ∧ payload.encode.bind decode = some payload := by
  obtain ⟨phone, name, ready, rfl⟩ := decode_cases decoded
  have can : IsReady { phone := normalizePhone phone, displayName := shownName name } :=
    ⟨show trim transferType = transferType by decide, ready, normalizePhone_normalizePhone phone⟩
  refine ⟨can, (decode_encode can rfl rfl).trans ?_⟩
  rw [shown, shownName_shownName]

end TransferQrPayload

end Kufi.Frontend

import Kufi.Auth.Users
import Kufi.Shared.EcmaBytes
import Kufi.Shared.EcmaCoercion

set_option autoImplicit false

/-!
# QR transfer tokens

A token carries who is to be paid and until when, in base64url, and a signature
of that text. The secret may be the one that access tokens are signed with.
-/

namespace Kufi.Auth

open Shared Shared.Ecma

structure QrEnv where
  -- `ConfigService.get`
  cfg : String → Option Str
  -- HMAC-SHA256 of some bytes with a secret
  hmac : Str → Bytes → Bytes
  -- the uuid of a row as the database writes it
  idText : Nat → String
  canonical : ∀ id, Uuid.Canonical (idText id)

inductive QrError where
  | badRequest (message : String)
  -- the text of an id that is no uuid
  | queryFailed
  -- "Cannot convert object to primitive value"
  | typeError
  deriving DecidableEq

structure IssueQrTokenResponse where
  token : Str
  expiresIn : Option Ecma.Number
  deriving DecidableEq

structure QrRecipient where
  userId : String
  phone : String
  displayName : String
  kycStatus : String
  deriving DecidableEq

structure QrPayload where
  userId : Str
  exp : Ecma.Number
  nonce : Str
  v : Coerced

/-- A string as the database receives it. -/
def wireText (text : Str) : String :=
  String.ofList (text.map fun u =>
    if isLead u || isTrail u then '\uFFFD' else Char.ofNat u.toNat)

namespace Number

/-- `Math.max(low, n)`. -/
def atLeast (low : ℕ) : Ecma.Number → Ecma.Number
  | .finite x => if x.value < low then .ofNat low else .finite x
  | .infinity true => .ofNat low
  | .infinity false => .infinity false

/-- `seconds + n`, where the seconds of a date are held exactly. -/
def after (seconds : ℕ) : Ecma.Number → Ecma.Number
  | .finite x => .round (seconds + x.value)
  | .infinity negative => .infinity negative

end Number

def hexText (bytes : Bytes) : Str :=
  bytes.flatMap fun b => [unit (Nat.digitChar (b.toNat / 16)), unit (Nat.digitChar (b.toNat % 16))]

/-- `value ?? fallback`. -/
def orElseValue (value : Option Value) (fallback : Value) : Value :=
  match value with
  | none | some .null => fallback
  | some value => value

section Service

variable (env : QrEnv)

def qrTokenSecret : Str :=
  let fromEnv := trim ((env.cfg "QR_TRANSFER_TOKEN_SECRET").getD [])
  if fromEnv ≠ [] then fromEnv
  else
    let jwtSecret := trim ((env.cfg "JWT_SECRET").getD [])
    if jwtSecret ≠ [] then jwtSecret else Str.of "qr-transfer-fallback-secret"

def signQrPayload (payloadEncoded : Str) : Str :=
  UrlEncoding.encode (env.hmac (qrTokenSecret env) (Utf8.encode payloadEncoded))

def findQrUser (users : Table User) (userId : Str) : Except QrError (Option User) :=
  match Uuid.parse (wireText userId) with
  | some id => .ok (users.find? fun user => Uuid.parse (env.idText user.id) == some id)
  | none => .error .queryFailed

/-! ## Issuing -/

-- `none` is `NaN`.
def expiresIn : Option Ecma.Number :=
  (match env.cfg "QR_TRANSFER_TOKEN_TTL_SECONDS" with
    | some text => stringToNumber text
    | none => some (.ofNat 120)).map (Number.atLeast 30)

def expiry (now : ℕ) : Option Ecma.Number := (expiresIn env).map (Number.after (now / 1000))

def qrPayload (userId : Str) (now : ℕ) (nonce : Bytes) : Members :=
  [(Str.of "v", .number (.ofNat 1)), (Str.of "userId", .string userId),
    (Str.of "exp", match expiry env now with | some exp => .number exp | none => .null),
    (Str.of "nonce", .string (hexText nonce))]

def payloadEncoded (userId : Str) (now : ℕ) (nonce : Bytes) : Str :=
  UrlEncoding.encode (Utf8.encode (stringify (.object (qrPayload env userId now nonce))))

def tokenOf (payloadEncoded : Str) : Str :=
  payloadEncoded ++ unit '.' :: signQrPayload env payloadEncoded

/-- The user a token is issued for. -/
def qrUser (users : Table User) (userId : Str) : Except QrError User := do
  match ← findQrUser env users userId with
  | none => .error (.badRequest "User not found")
  | some user =>
    if Text.trim (user.phone.getD "") = "" then
      .error (.badRequest "User phone is required for QR transfer")
    else .ok user

def issueQrTransferToken (users : Table User) (userId : Str) (now : ℕ) (nonce : Bytes) :
    Except QrError IssueQrTokenResponse := do
  let user ← qrUser env users userId
  .ok
    { token := tokenOf env (payloadEncoded env (Str.of (env.idText user.id)) now nonce)
      expiresIn := expiresIn env }

/-! ## Resolving -/

def textOf (value : Option Value) : Except QrError Str :=
  match toText (orElseValue value (.string [])) with
  | some text => .ok (trim text)
  | none => .error .typeError

def numberOf (value : Option Value) : Except QrError Coerced :=
  match toNumber (some (orElseValue value (.number Ecma.Number.zero))) with
  | .throws => .error .typeError
  | coerced => .ok coerced

def readQrPayload (now : ℕ) (payload : Value) : Except QrError (Option QrPayload) := do
  match ← numberOf (property (some payload) "exp") with
  | .number (.finite exp) =>
    if exp.value ≤ (now / 1000 : ℕ) then .ok none
    else
      let userId ← textOf (property (some payload) "userId")
      let nonce ← textOf (property (some payload) "nonce")
      let v ← numberOf (property (some payload) "v")
      .ok (some { userId, exp := .finite exp, nonce, v })
  | _ => .ok none

def verifyQrToken (now : ℕ) (token : Str) : Except QrError (Option QrPayload) :=
  match token.splitOn (unit '.') with
  | [payloadEncoded, signature] =>
    -- two buffers of one length that `timingSafeEqual` finds equal
    if Utf8.encode signature ≠ Utf8.encode (signQrPayload env payloadEncoded) then .ok none
    else
      match parse (Utf8.decode (UrlEncoding.decode payloadEncoded)) with
      | none => .ok none
      | some payload => if isObject (some payload) then readQrPayload now payload else .ok none
  | _ => .ok none

def QrRecipient.of (user : User) : QrRecipient where
  userId := env.idText user.id
  phone := user.phone.getD ""
  displayName := (user.displayName.or user.email).getD "Người dùng"
  kycStatus := user.kycStatus

def activeRecipient (users : Table User) (userId : Str) : Except QrError (Option QrRecipient) := do
  match ← findQrUser env users userId with
  | none => .ok none
  | some user =>
    if user.accountStatus ≠ .active then .ok none else .ok (some (QrRecipient.of env user))

/-- `none` is `{ found: false }`. -/
def resolveQrTransferToken (users : Table User) (now : ℕ) (token : Str) :
    Except QrError (Option QrRecipient) := do
  match ← verifyQrToken env now (trim token) with
  | none => .ok none
  | some decoded =>
    if decoded.userId = [] then .ok none else activeRecipient env users decoded.userId

end Service

/-! ## Texts of a token -/

section Texts

variable {env : QrEnv}

theorem trim_padded {before text rest : Str} (blank : ∀ u ∈ before, isBlank u = true)
    (blank' : ∀ u ∈ rest, isBlank u = true) (solid : ∀ u ∈ text, isBlank u = false) :
    trim (before ++ text ++ rest) = text := by
  have first : (text ++ rest).dropWhile isBlank = text ++ rest ∨ text = [] := by
    cases text with
    | nil => exact .inr rfl
    | cons u text => exact .inl (by simp [solid u])
  have last : (text ++ rest).rdropWhile isBlank = text := by
    rw [List.rdropWhile, List.reverse_append, List.dropWhile_append_of_pos (by simpa using blank')]
    have ends : text.reverse.dropWhile isBlank = text.reverse :=
      List.dropWhile_eq_self_iff.mpr fun _ => by simpa using solid _ (List.mem_of_getElem rfl)
    rw [ends, List.reverse_reverse]
  rw [trim, List.append_assoc, List.dropWhile_append_of_pos blank]
  rcases first with kept | rfl
  · rw [kept, last]
  · have none : rest.dropWhile isBlank = [] := by simpa using blank'
    simp [none]

theorem trim_solid {text : Str} (solid : ∀ u ∈ text, isBlank u = false) : trim text = text := by
  simpa using @trim_padded [] text [] (by simp) (by simp) solid

-- The characters of a uuid as the database writes it, checked once.
theorem uuid_checked {c : Char} (listed : c ∈ "-0123456789abcdef".toList) :
    c.toNat < 128 ∧ isBlank (unit c) = false := by
  have table : "-0123456789abcdef".toList.all (fun c => c.toNat < 128 && !isBlank (unit c)) := by
    decide
  simpa using List.all_eq_true.mp table c listed

theorem uuid_plain {text : String} (canonical : Uuid.Canonical text) {c : Char}
    (listed : c ∈ text.toList) : c.toNat < 128 ∧ isBlank (unit c) = false := by
  obtain ⟨id, _, rfl⟩ := canonical
  have digit : ∀ d : Fin 16, Uuid.hexChar d ∈ "-0123456789abcdef".toList := by decide
  refine uuid_checked ?_
  simp only [Uuid.format, String.toList_ofList, List.mem_append, List.mem_cons] at listed
  have digits : ∀ c ∈ id.digits.map Uuid.hexChar, c ∈ "-0123456789abcdef".toList := by
    intro c held
    obtain ⟨d, _, rfl⟩ := List.mem_map.mp held
    exact digit d
  have hyphen : '-' ∈ "-0123456789abcdef".toList := by decide
  rcases listed with (((held | rfl | held) | rfl | held) | rfl | held) | rfl | held
  · exact digits c (List.mem_of_mem_take held)
  · exact hyphen
  · exact digits c (List.mem_of_mem_drop (List.mem_of_mem_take held))
  · exact hyphen
  · exact digits c (List.mem_of_mem_drop (List.mem_of_mem_take held))
  · exact hyphen
  · exact digits c (List.mem_of_mem_drop (List.mem_of_mem_take held))
  · exact hyphen
  · exact digits c (List.mem_of_mem_drop held)

theorem wireText_of {text : String} (small : ∀ c ∈ text.toList, c.toNat < 128) :
    wireText (Str.of text) = text := by
  have chars : (Str.of text).map (fun u =>
      if isLead u || isTrail u then '\uFFFD' else Char.ofNat u.toNat) = text.toList := by
    rw [Str.of, List.map_map]
    refine (List.map_congr_left fun c listed => ?_).trans (List.map_id _)
    have bound := small c listed
    have number : (unit c).toNat = c.toNat := by
      simp [unit]
      omega
    obtain ⟨lead, trail⟩ := Utf8.surrogate_large (number.symm ▸ bound)
    simp [lead, trail, number]
  rw [wireText, chars, String.ofList_toList]

end Texts

/-! ## A token that is read back -/

section RoundTrip

variable {env : QrEnv}

theorem signQrPayload_ascii (text : Str) : Ascii (signQrPayload env text) :=
  fun _ listed => (UrlEncoding.encode_plain listed).1

theorem no_dot (bytes : Bytes) : unit '.' ∉ UrlEncoding.encode bytes :=
  fun listed => (UrlEncoding.encode_plain listed).2.2.1 rfl

/-- What an accepted token consists of. -/
theorem verifyQrToken_eq_some {now : ℕ} {token : Str} {decoded : QrPayload}
    (verified : verifyQrToken env now token = .ok (some decoded)) :
    ∃ payloadEncoded payload, token.splitOn (unit '.') =
        [payloadEncoded, signQrPayload env payloadEncoded] ∧
      parse (Utf8.decode (UrlEncoding.decode payloadEncoded)) = some payload ∧
      readQrPayload now payload = .ok (some decoded) := by
  unfold verifyQrToken at verified
  split at verified
  next payloadEncoded signature parts =>
    by_cases right : Utf8.encode signature = Utf8.encode (signQrPayload env payloadEncoded)
    · rw [if_neg (not_not.mpr right)] at verified
      rw [Utf8.eq_of_encode_eq (signQrPayload_ascii payloadEncoded) right] at parts
      split at verified
      next => cases verified
      next payload read =>
        split_ifs at verified
        · exact ⟨payloadEncoded, payload, parts, read, verified⟩
        · cases verified
    · rw [if_pos right] at verified
      cases verified
  next => cases verified

theorem ascii_null : Ascii (stringify .null) := ascii_checked (by decide)

theorem ascii_number (n : Ecma.Number) : Ascii (stringify (.number n)) := by
  cases n with
  | finite x => exact ascii_toString x
  | infinity negative => exact ascii_null

theorem ascii_hexText (bytes : Bytes) : Ascii (hexText bytes) := by
  have digits : ∀ d : Fin 16, (unit (Nat.digitChar d)).toNat < 128 := by decide
  intro u listed
  obtain ⟨b, _, digit⟩ := List.mem_flatMap.mp listed
  have bound := b.toNat_lt
  simp only [List.mem_cons, List.not_mem_nil, or_false] at digit
  rcases digit with rfl | rfl
  · exact digits ⟨b.toNat / 16, by omega⟩
  · exact digits ⟨b.toNat % 16, by omega⟩

theorem splitOn_tokenOf (userId : Str) (issuedAt : ℕ) (nonce : Bytes) :
    (tokenOf env (payloadEncoded env userId issuedAt nonce)).splitOn (unit '.') =
      [payloadEncoded env userId issuedAt nonce,
        signQrPayload env (payloadEncoded env userId issuedAt nonce)] := by
  have parts : ([unit '.'].intercalate [payloadEncoded env userId issuedAt nonce,
      signQrPayload env (payloadEncoded env userId issuedAt nonce)]).splitOn (unit '.') =
      [payloadEncoded env userId issuedAt nonce,
        signQrPayload env (payloadEncoded env userId issuedAt nonce)] :=
    List.splitOn_intercalate (unit '.') (by simp [payloadEncoded, signQrPayload, no_dot]) (by simp)
  rw [← parts]
  congr 1
  simp [tokenOf, List.intercalate]

/-- The payload of a token as it is read back. -/
def issuedPayload (env : QrEnv) (userId : Str) (issuedAt : ℕ) (nonce : Bytes) : Value :=
  finiteValue (.object (qrPayload env userId issuedAt nonce))

theorem parse_payloadEncoded {userId : Str} (ascii : Ascii userId) (now : ℕ) (nonce : Bytes) :
    parse (Utf8.decode (UrlEncoding.decode (payloadEncoded env userId now nonce))) =
      some (issuedPayload env userId now nonce) := by
  have names : (qrPayload env userId now nonce).names =
      [Str.of "v", Str.of "userId", Str.of "exp", Str.of "nonce"] := rfl
  have kept : (qrPayload env userId now nonce).Kept := by
    apply Members.kept_of_unindexed
    · rw [names]
      decide
    · rw [names]
      decide
  have own : Own (.object (qrPayload env userId now nonce)) := by
    refine .object kept fun member listed => ?_
    simp only [qrPayload, List.mem_cons, List.not_mem_nil, or_false] at listed
    rcases listed with rfl | rfl | rfl | rfl
    · exact .number _
    · exact .string _
    · dsimp only
      split
      · exact .number _
      · exact .null
    · exact .string _
  have text : Ascii (stringify (.object (qrPayload env userId now nonce))) := by
    apply ascii_stringify_object
    have names : ∀ name ∈ ["v", "userId", "exp", "nonce"], Ascii (Str.of name) := by
      simp only [List.forall_mem_cons, List.not_mem_nil, false_imp_iff, implies_true, and_true]
      exact ⟨ascii_checked (by decide), ascii_checked (by decide), ascii_checked (by decide),
        ascii_checked (by decide)⟩
    intro member listed
    simp only [qrPayload, List.mem_cons, List.not_mem_nil, or_false] at listed
    rcases listed with rfl | rfl | rfl | rfl
    · exact ⟨names _ (by simp), ascii_number _⟩
    · exact ⟨names _ (by simp), ascii_quoted ascii⟩
    · refine ⟨names _ (by simp), ?_⟩
      dsimp only
      split
      · exact ascii_number _
      · exact ascii_null
    · exact ⟨names _ (by simp), ascii_quoted (ascii_hexText nonce)⟩
  rw [payloadEncoded, UrlEncoding.decode_encode, Utf8.decode_encode text, parse_stringify_own own,
    issuedPayload]

/-- The expiry as it is read back: what was no finite number has become 0. -/
def expirySeconds (exp : Option Ecma.Number) : ℚ :=
  match exp with
  | some (.finite x) => x.value
  | _ => 0

def Unexpired (exp : Option Ecma.Number) (now : ℕ) : Prop :=
  ((now / 1000 : ℕ) : ℚ) < expirySeconds exp

instance (exp : Option Ecma.Number) (now : ℕ) : Decidable (Unexpired exp now) :=
  inferInstanceAs (Decidable (_ < _))

theorem round_natCast {n : ℕ} (small : n ≤ 2 ^ 53) :
    ∃ x : Finite, Ecma.Number.round (n : ℚ) = .finite x ∧ x.value = n := by
  have held : Double.rounded (n : ℚ) = n := by
    have exact := Double.rounded_intCast (n := n) (by
      rw [Nat.abs_cast]
      exact_mod_cast small)
    rwa [Int.cast_natCast] at exact
  have bound : |(n : ℚ)| < Double.limit := by
    have large : (n : ℚ) ≤ 2 ^ 53 := by exact_mod_cast small
    rw [Nat.abs_cast, Double.limit]
    exact large.trans_lt (pow_lt_pow_right₀ (by norm_num) (by norm_num))
  refine ⟨⟨n, bound, held⟩, ?_, rfl⟩
  rw [Ecma.Number.round, dif_pos (by rwa [held])]
  simp only [held]

/-- Unless the configuration sets a time to live, a token lives for two minutes. -/
theorem unexpired_default (unset : env.cfg "QR_TRANSFER_TOKEN_TTL_SECONDS" = none) {issuedAt : ℕ}
    (small : issuedAt / 1000 + 120 ≤ 2 ^ 53) (now : ℕ) :
    Unexpired (expiry env issuedAt) now ↔ now / 1000 < issuedAt / 1000 + 120 := by
  obtain ⟨x, ofNat, value⟩ := round_natCast (n := 120) (by norm_num)
  obtain ⟨y, sum, value'⟩ := round_natCast small
  have ttl : expiresIn env = some (.finite x) := by
    have long : ¬x.value < (30 : ℕ) := by
      rw [value]
      norm_num
    rw [expiresIn, unset]
    simp only [Ecma.Number.ofNat, ofNat, Option.map_some, Number.atLeast, if_neg long]
  have exp : expiry env issuedAt = some (.finite y) := by
    rw [expiry, ttl, ← sum, Option.map_some, Number.after, value]
    norm_cast
  rw [Unexpired, exp, expirySeconds, value']
  exact_mod_cast Iff.rfl

theorem numberOf_number (n : Ecma.Number) :
    ∃ x : Finite, numberOf (some (finiteValue (.number n))) = .ok (.number (.finite x)) ∧
      x.value = expirySeconds (some n) := by
  cases n with
  | finite x => exact ⟨x, rfl, rfl⟩
  | infinity negative => exact ⟨_, rfl, rfl⟩

theorem textOf_string {text : Str} (solid : ∀ u ∈ text, isBlank u = false) :
    textOf (some (.string text)) = .ok text := by
  simp [textOf, orElseValue, toText, trim_solid solid]

theorem hexText_solid (bytes : Bytes) : ∀ u ∈ hexText bytes, isBlank u = false := by
  have digits : ∀ d : Fin 16, isBlank (unit (Nat.digitChar d)) = false := by decide
  intro u listed
  obtain ⟨b, _, digit⟩ := List.mem_flatMap.mp listed
  have bound := b.toNat_lt
  simp only [List.mem_cons, List.not_mem_nil, or_false] at digit
  rcases digit with rfl | rfl
  · exact digits ⟨b.toNat / 16, by omega⟩
  · exact digits ⟨b.toNat % 16, by omega⟩

section Payload

variable {userId : Str} {issuedAt : ℕ} {nonce : Bytes}

theorem property_issuedPayload {name : String} {value : Value}
    (held : (qrPayload env userId issuedAt nonce).get (Str.of name) = some value) :
    property (some (issuedPayload env userId issuedAt nonce)) name = some (finiteValue value) := by
  simp [issuedPayload, property, finiteValue, get_finiteMembers, held]

theorem numberOf_exp : ∃ x : Finite,
    numberOf (property (some (issuedPayload env userId issuedAt nonce)) "exp") =
      .ok (.number (.finite x)) ∧ x.value = expirySeconds (expiry env issuedAt) := by
  rw [@property_issuedPayload env userId issuedAt nonce "exp" _ rfl]
  cases expiry env issuedAt with
  | none => exact ⟨_, rfl, rfl⟩
  | some n => exact numberOf_number n

/-- The payload of a token is accepted until it expires. -/
theorem readQrPayload_issued (solid : ∀ u ∈ userId, isBlank u = false) (now : ℕ) :
    ∃ payload : QrPayload, payload.userId = userId ∧
      readQrPayload now (issuedPayload env userId issuedAt nonce) =
        .ok (if Unexpired (expiry env issuedAt) now then some payload else none) := by
  obtain ⟨x, exp, value⟩ := @numberOf_exp env userId issuedAt nonce
  obtain ⟨v, version, _⟩ := numberOf_number (.ofNat 1)
  refine ⟨⟨userId, .finite x, hexText nonce, .number (.finite v)⟩, rfl, ?_⟩
  have id : property (some (issuedPayload env userId issuedAt nonce)) "userId" =
      some (.string userId) :=
    @property_issuedPayload env userId issuedAt nonce "userId" (.string userId) rfl
  have text : property (some (issuedPayload env userId issuedAt nonce)) "nonce" =
      some (.string (hexText nonce)) :=
    @property_issuedPayload env userId issuedAt nonce "nonce" (.string _) rfl
  have one : property (some (issuedPayload env userId issuedAt nonce)) "v" =
      some (finiteValue (.number (.ofNat 1))) := property_issuedPayload rfl
  simp only [readQrPayload, exp, id, text, one, version, textOf_string solid,
    textOf_string (hexText_solid nonce), bind, Except.bind, Unexpired, ← value]
  by_cases late : x.value ≤ ((now / 1000 : ℕ) : ℚ)
  · rw [if_pos late, if_neg (not_lt.mpr late)]
  · rw [if_neg late, if_pos (not_le.mp late)]

end Payload

theorem idText_plain (id : Nat) {u : UInt16} (listed : u ∈ Str.of (env.idText id)) :
    u.toNat < 128 ∧ isBlank u = false := by
  obtain ⟨c, held, rfl⟩ := List.mem_map.mp listed
  obtain ⟨small, solid⟩ := uuid_plain (env.canonical id) held
  refine ⟨?_, solid⟩
  simp [unit]
  omega

theorem idText_ne (id : Nat) : Str.of (env.idText id) ≠ [] := by
  obtain ⟨uuid, parsed, _⟩ := env.canonical id
  intro empty
  have none : env.idText id = "" := by simpa [Str.of] using empty
  rw [none] at parsed
  cases parsed

/-- The payload that is signed here names its user until it expires. -/
theorem verifyQrToken_issued (id issuedAt now : ℕ) (nonce : Bytes) :
    ∃ payload : QrPayload, payload.userId = Str.of (env.idText id) ∧
      verifyQrToken env now (tokenOf env (payloadEncoded env (Str.of (env.idText id)) issuedAt nonce)) =
        .ok (if Unexpired (expiry env issuedAt) now then some payload else none) := by
  have ascii : Ascii (Str.of (env.idText id)) := fun u listed => (idText_plain id listed).1
  have solid : ∀ u ∈ Str.of (env.idText id), isBlank u = false :=
    fun u listed => (idText_plain id listed).2
  obtain ⟨payload, names, read⟩ := @readQrPayload_issued env _ issuedAt nonce solid now
  refine ⟨payload, names, ?_⟩
  have parsed := @parse_payloadEncoded env _ ascii issuedAt nonce
  have parts := @splitOn_tokenOf env (Str.of (env.idText id)) issuedAt nonce
  have object : isObject (some (issuedPayload env (Str.of (env.idText id)) issuedAt nonce)) = true :=
    rfl
  simp [verifyQrToken, parts, parsed, object, read]

theorem token_solid (userId : Str) (issuedAt : ℕ) (nonce : Bytes) :
    ∀ u ∈ tokenOf env (payloadEncoded env userId issuedAt nonce), isBlank u = false := by
  intro u listed
  simp only [tokenOf, List.mem_append, List.mem_cons] at listed
  rcases listed with payload | rfl | signature
  · exact (UrlEncoding.encode_plain payload).2.2.2
  · decide
  · exact (UrlEncoding.encode_plain signature).2.2.2

theorem findQrUser_eq_some {users : Table User} {userId : Str} {user : User}
    (found : findQrUser env users userId = .ok (some user)) :
    user ∈ users ∧ Uuid.parse (env.idText user.id) = Uuid.parse (wireText userId) := by
  unfold findQrUser at found
  split at found
  next id parsed =>
    have held := Except.ok.inj found
    exact ⟨Table.mem_of_find? held, by simpa [parsed] using Table.wanted_of_find? held⟩
  next => cases found

theorem issueQrTransferToken_eq_ok {users : Table User} {userId : Str} {issuedAt : ℕ}
    {nonce : Bytes} {response : IssueQrTokenResponse}
    (issued : issueQrTransferToken env users userId issuedAt nonce = .ok response) :
    ∃ user, findQrUser env users userId = .ok (some user) ∧
      response.token = tokenOf env (payloadEncoded env (Str.of (env.idText user.id)) issuedAt nonce) := by
  unfold issueQrTransferToken qrUser at issued
  cases found : findQrUser env users userId with
  | error error => simp [found, bind, Except.bind] at issued
  | ok result =>
    simp only [found, bind, Except.bind] at issued
    cases result with
    | none => cases issued
    | some user =>
      simp only at issued
      split_ifs at issued
      obtain rfl := Except.ok.inj issued
      exact ⟨user, rfl, rfl⟩

theorem resolveQrTransferToken_issued (users : Table User) (id issuedAt now : ℕ) (nonce : Bytes)
    {before rest : Str} (blank : ∀ u ∈ before, isBlank u = true)
    (blank' : ∀ u ∈ rest, isBlank u = true) :
    resolveQrTransferToken env users now (before ++
        tokenOf env (payloadEncoded env (Str.of (env.idText id)) issuedAt nonce) ++ rest) =
      if Unexpired (expiry env issuedAt) now then
        activeRecipient env users (Str.of (env.idText id))
      else .ok none := by
  obtain ⟨payload, names, verified⟩ := @verifyQrToken_issued env id issuedAt now nonce
  rw [resolveQrTransferToken, trim_padded blank blank' (token_solid _ _ _), verified]
  by_cases valid : Unexpired (expiry env issuedAt) now
  · simp [valid, names, idText_ne, bind, Except.bind]
  · simp [valid, bind, Except.bind]

/-- An issued token, with any blanks around it, resolves to its user until it expires. -/
theorem issued_token_resolves {users : Table User} {userId : Str} {issuedAt : ℕ} {nonce : Bytes}
    {response : IssueQrTokenResponse}
    (issued : issueQrTransferToken env users userId issuedAt nonce = .ok response) :
    ∃ user ∈ users, Uuid.parse (env.idText user.id) = Uuid.parse (wireText userId) ∧
      ∀ (later : Table User) (now : ℕ) (before rest : Str), (∀ u ∈ before, isBlank u = true) →
        (∀ u ∈ rest, isBlank u = true) →
        resolveQrTransferToken env later now (before ++ response.token ++ rest) =
          if Unexpired (expiry env issuedAt) now then
            activeRecipient env later (Str.of (env.idText user.id))
          else .ok none := by
  obtain ⟨user, found, token⟩ := issueQrTransferToken_eq_ok issued
  obtain ⟨member, same⟩ := findQrUser_eq_some found
  refine ⟨user, member, same, fun later now before rest blank blank' => ?_⟩
  rw [token]
  exact resolveQrTransferToken_issued later user.id issuedAt now nonce blank blank'

end RoundTrip

end Kufi.Auth

import Kufi.Auth.Entities
import Kufi.Shared.Procedure
import Mathlib.Data.List.Sort

set_option autoImplicit false

/-!
# One-time codes and step-up tokens

A one-time code is kept as its hash. `otp/issue` hands out codes for transfers;
`step-up/token` mails codes and exchanges one for a token, which `step-up/verify`
looks up. Each find, save and delete is one operation on the tables.
-/

namespace Kufi.Auth

open Shared

structure OtpEnv where
  otpTtlSeconds : Int
  stepUpEmailOtpTtlSeconds : Int
  stepUpTokenTtlSeconds : Int
  toLowerCase : String → String
  -- HMAC-SHA256 with the secret, in hexadecimal
  hmac : String → String

/-- No row is ever overwritten in `tokens`. -/
structure AuthTables where
  otps : List AuthOtp
  nextOtp : Nat
  tokens : Table AuthStepUpToken

/-! ## Operations -/

inductive AuthOp where
  | now
  -- the email of the user, if there is such a user
  | findUser (userId : String)
  -- `Math.floor(100000 + Math.random() * 900000)`
  | randomCode
  -- `randomBytes(24)` as text
  | randomToken
  | sendEmail (email otpCode : String) (expiresIn : Int)
  | deleteOtps (userId : String) (purpose : OtpPurpose) (deviceId : Option String)
  | insertOtp (row : AuthOtp)
  | findOtp (userId : String) (purpose : OtpPurpose) (deviceId : Option String) (now : Time)
  | saveOtp (row : AuthOtp)
  | insertToken (row : AuthStepUpToken)
  | findToken (token : String)
  | deleteToken (id : Nat)
  | deleteExpiredOtps (now : Time)
  | deleteUsedOtps (now : Time)
  | deleteExpiredTokens (now : Time)

/-- A write that is refused answers `false`. -/
abbrev AuthOp.Reply : AuthOp → Type
  | .now => Time
  | .findUser _ => Option (Option String)
  | .randomCode | .randomToken => String
  | .findOtp _ _ _ _ => Option AuthOtp
  | .findToken _ => Option AuthStepUpToken
  | _ => Bool

abbrev AuthHandler := Procedure AuthOp AuthOp.Reply

abbrev askAuth (op : AuthOp) : AuthHandler op.Reply := Procedure.ask op

-- The codes are written as numerals.
instance (priority := high) neZero_codes : @NeZero Nat Zero.ofOfNat0 900000 := ⟨by decide⟩

inductive AuthChoice where
  | nothing
  | fails
  | time (now : Time)
  | user (email : Option (Option String))
  | code (n : Fin 900000)
  | text (text : String)
  deriving DecidableEq

namespace AuthOtp

/-- The `where` clause by which a code is found. -/
def Usable (userId : String) (purpose : OtpPurpose) (deviceId : Option String) (now : Time)
    (row : AuthOtp) : Prop :=
  row.userId = userId ∧ row.purpose = purpose ∧ row.deviceId = deviceId ∧ row.usedAt = none ∧
    now < row.expiresAt

instance (userId : String) (purpose : OtpPurpose) (deviceId : Option String) (now : Time) :
    DecidablePred (Usable userId purpose deviceId now) := fun _ =>
  inferInstanceAs (Decidable (_ ∧ _))

/-- `save` of a row that was loaded: a row that is gone is inserted again. -/
def save (rows : List AuthOtp) (row : AuthOtp) : List AuthOtp :=
  if rows.any (·.id = row.id) then rows.map fun old => if old.id = row.id then row else old
  else rows ++ [row]

theorem mem_save {rows : List AuthOtp} {row other : AuthOtp} (member : other ∈ save rows row) :
    other = row ∨ other ∈ rows ∧ other.id ≠ row.id := by
  unfold save at member
  split at member
  · obtain ⟨old, held, rfl⟩ := List.mem_map.mp member
    split_ifs with own
    · exact .inl rfl
    · exact .inr ⟨held, own⟩
  next absent =>
    rcases List.mem_append.mp member with held | own
    · refine .inr ⟨held, fun same => absent ?_⟩
      simpa using ⟨other, held, same⟩
    · exact .inl (List.mem_singleton.mp own)

end AuthOtp

def findOtp (rows : List AuthOtp) (userId : String) (purpose : OtpPurpose)
    (deviceId : Option String) (now : Time) : Option AuthOtp :=
  ((rows.filter fun row => row.Usable userId purpose deviceId now).insertionSort
    fun first second => second.createdAt ≤ first.createdAt).head?

theorem findOtp_usable {rows : List AuthOtp} {userId : String} {purpose : OtpPurpose}
    {deviceId : Option String} {now : Time} {row : AuthOtp}
    (found : findOtp rows userId purpose deviceId now = some row) :
    row.Usable userId purpose deviceId now := by
  have member := List.mem_of_mem_head? found
  rw [List.mem_insertionSort, List.mem_filter] at member
  simpa using member.2

def performAuth : Performer AuthOp AuthOp.Reply AuthChoice AuthTables
  | .now, .time now, s => some (now, s)
  | .findUser _, .user email, s => some (email, s)
  | .randomCode, .code n, s => some (toString (100000 + n.val), s)
  | .randomToken, .text text, s => some (text, s)
  | .sendEmail _ _ _, .nothing, s => some (true, s)
  | .deleteOtps userId purpose deviceId, .nothing, s =>
    some (true, { s with otps := s.otps.filter fun row =>
      ¬(row.userId = userId ∧ row.purpose = purpose ∧ row.deviceId = deviceId) })
  | .insertOtp row, .time now, s =>
    some (true,
      { s with
        otps := s.otps ++ [{ row with id := s.nextOtp, createdAt := now }]
        nextOtp := s.nextOtp + 1 })
  | .findOtp userId purpose deviceId now, .nothing, s =>
    some (findOtp s.otps userId purpose deviceId now, s)
  | .saveOtp row, .nothing, s => some (true, { s with otps := AuthOtp.save s.otps row })
  | .insertToken row, .nothing, s =>
    match s.tokens.insert? row with
    | some (_, tokens) => some (true, { s with tokens := tokens })
    | none => some (false, s)
  | .findToken token, .nothing, s => some (s.tokens.byKey token, s)
  | .deleteToken id, .nothing, s =>
    some (true, { s with tokens := s.tokens.keepRows fun row => row.id ≠ id })
  | .deleteExpiredOtps now, .nothing, s =>
    some (true, { s with otps := s.otps.filter fun row => ¬row.expiresAt < now })
  | .deleteUsedOtps now, .nothing, s =>
    some (true, { s with otps := s.otps.filter fun row => ¬∃ usedAt ∈ row.usedAt, usedAt < now })
  | .deleteExpiredTokens now, .nothing, s =>
    some (true, { s with tokens := s.tokens.keepRows fun row => ¬row.expiresAt < now })
  | .sendEmail _ _ _, .fails, s | .deleteOtps _ _ _, .fails, s | .insertOtp _, .fails, s
  | .saveOtp _, .fails, s | .insertToken _, .fails, s | .deleteToken _, .fails, s
  | .deleteExpiredOtps _, .fails, s | .deleteUsedOtps _, .fails, s
  | .deleteExpiredTokens _, .fails, s => some (false, s)
  | _, _, _ => none

end Kufi.Auth

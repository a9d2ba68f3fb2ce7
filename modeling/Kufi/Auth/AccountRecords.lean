import Kufi.Auth.Users
import Kufi.Shared.StdEncoding

set_option autoImplicit false

/-!
# PINs and identity checks

`setPin` and `submitKyc` write the users table beside the two writers of
profiles. Each of the four finds a row and saves it whole later, so that it may
write over what another one has saved in between.
-/

namespace Kufi.Auth

open Shared
open StdEncoding (Bytes)

/-! ## Hexadecimal text -/

def hexPair (b : UInt8) : List Char := [Nat.digitChar (b.toNat / 16), Nat.digitChar (b.toNat % 16)]

/-- `buffer.toString('hex')`. -/
def toHex (bytes : Bytes) : String := String.ofList (bytes.flatMap hexPair)

def hexDigit (c : Char) : Option Nat :=
  if '0' ≤ c ∧ c ≤ '9' then some (c.toNat - '0'.toNat)
  else if 'a' ≤ c ∧ c ≤ 'f' then some (c.toNat - 'a'.toNat + 10)
  else if 'A' ≤ c ∧ c ≤ 'F' then some (c.toNat - 'A'.toNat + 10)
  else none

/-- `Buffer.from(text, 'hex')`: it ends at the first pair that is no byte. -/
def ofHex : List Char → Bytes
  | high :: low :: rest =>
    match hexDigit high, hexDigit low with
    | some high, some low => .ofNat (16 * high + low) :: ofHex rest
    | _, _ => []
  | _ => []

theorem hexDigit_digitChar {d : Nat} (small : d < 16) : hexDigit (Nat.digitChar d) = some d := by
  have digits : ∀ d : Fin 16, hexDigit (Nat.digitChar d) = some d.val := by decide
  exact digits ⟨d, small⟩

theorem ofHex_toHex (bytes : Bytes) : ofHex (toHex bytes).toList = bytes := by
  simp only [toHex, String.toList_ofList]
  induction bytes with
  | nil => rfl
  | cons b rest ih =>
    have bound := b.toNat_lt
    have whole : 16 * (b.toNat / 16) + b.toNat % 16 = b.toNat := Nat.div_add_mod _ _
    have high : b.toNat / 16 < 16 := by omega
    have low : b.toNat % 16 < 16 := by omega
    simp [hexPair, ofHex, hexDigit_digitChar high, hexDigit_digitChar low, whole, ih]

theorem colon_not_mem_toHex (bytes : Bytes) : ':' ∉ (toHex bytes).toList := by
  have digits : ∀ d : Fin 16, ':' ≠ Nat.digitChar d := by decide
  simp only [toHex, String.toList_ofList, List.mem_flatMap, not_exists, not_and]
  intro b _
  have bound := b.toNat_lt
  have high := digits ⟨b.toNat / 16, by omega⟩
  have low := digits ⟨b.toNat % 16, by omega⟩
  simp [hexPair, high, low]

/-! ## Hashes of PINs -/

structure AccountEnv where
  users : UsersEnv
  -- the key of 64 bytes for a password and a salt
  scrypt : String → String → Bytes
  -- `new Date(text)`, where that is a date
  parseDate : String → Option Time

section Pins

variable (env : AccountEnv)

def isPin (pin : String) : Bool :=
  pin.toList.length = 6 ∧ pin.toList.all Char.isDigit

def hashPin (pin : String) (salt : Bytes) : String :=
  toHex salt ++ ":" ++ toHex (env.scrypt pin (toHex salt))

def verifyPinHash (pin hash : String) : Bool :=
  match hash.toList.splitOn ':' with
  | [salt, key] => ofHex key == env.scrypt pin (String.ofList salt)
  | _ => false

theorem splitOn_hashPin (pin : String) (salt : Bytes) :
    (hashPin env pin salt).toList.splitOn ':' =
      [(toHex salt).toList, (toHex (env.scrypt pin (toHex salt))).toList] := by
  have parts : ([':'].intercalate [(toHex salt).toList,
      (toHex (env.scrypt pin (toHex salt))).toList]).splitOn ':' =
      [(toHex salt).toList, (toHex (env.scrypt pin (toHex salt))).toList] :=
    List.splitOn_intercalate ':' (by simp [colon_not_mem_toHex]) (by simp)
  rw [← parts]
  congr 1
  simp [hashPin, List.intercalate]

theorem verifyPinHash_hashPin (pin pin' : String) (salt : Bytes) :
    verifyPinHash env pin (hashPin env pin' salt) = true ↔
      env.scrypt pin' (toHex salt) = env.scrypt pin (toHex salt) := by
  simp [verifyPinHash, splitOn_hashPin, ofHex_toHex]

end Pins

/-! ## Identity checks -/

inductive KycStatus where
  | unverified
  | pendingReview
  | verified
  | rejected
  deriving DecidableEq

def KycStatus.text : KycStatus → String
  | .unverified => "unverified"
  | .pendingReview => "pending_review"
  | .verified => "verified"
  | .rejected => "rejected"

inductive KycRiskLevel where
  | low
  | medium
  | high
  deriving DecidableEq

structure KycProfile where
  id : Nat
  userId : Nat
  fullName : String
  nationalId : String
  dateOfBirth : Time
  idIssueDate : Option Time
  idIssuePlace : Option String
  residentialAddress : String
  status : KycStatus
  riskLevel : KycRiskLevel
  rejectionReason : Option String
  submittedAt : Option Time
  reviewedAt : Option Time
  updatedAt : Time
  deriving DecidableEq

instance : Row KycProfile Nat where
  id := KycProfile.id
  withId profile n := { profile with id := n }
  key profile := some profile.userId
  id_withId _ _ := rfl
  key_withId _ _ := rfl

structure SubmitKycDto where
  fullName : String
  nationalId : String
  dateOfBirth : String
  idIssueDate : Option String
  idIssuePlace : Option String
  residentialAddress : String

/-! ## Operations -/

structure Accounts where
  users : Table User
  profiles : Table KycProfile

inductive AccountOp where
  | users (op : UsersOp)
  | findProfile (userId : Nat)
  | insertProfile (profile : KycProfile)
  | saveProfile (profile : KycProfile)

abbrev AccountOp.Reply : AccountOp → Type
  | .users op => op.Reply
  | .findProfile _ | .insertProfile _ | .saveProfile _ => Option KycProfile

abbrev AccountHandler := Procedure AccountOp AccountOp.Reply

abbrev askAccounts (op : AccountOp) : AccountHandler op.Reply := Procedure.ask op

def onUsers {A : Type} (handler : UsersHandler A) : AccountHandler A :=
  handler.lift AccountOp.users fun _ reply => reply

inductive AccountChoice where
  | users (choice : UsersChoice)
  | nothing
  | fails
  | updatedAt (now : Time)

-- The other unique column.
def NationalIdFree (others : List KycProfile) (profile : KycProfile) : Prop :=
  ∀ other ∈ others, other.nationalId ≠ profile.nationalId

instance (others : List KycProfile) (profile : KycProfile) :
    Decidable (NationalIdFree others profile) :=
  inferInstanceAs (Decidable (∀ other ∈ others, _))

def performAccount (env : AccountEnv) :
    Performer AccountOp AccountOp.Reply AccountChoice Accounts
  | .users op, .users choice, s =>
    (performUsers env.users op choice s.users).map fun (reply, users) => (reply, { s with users })
  | .findProfile userId, .nothing, s => some (s.profiles.byKey userId, s)
  | .insertProfile profile, .updatedAt now, s =>
    if NationalIdFree s.profiles.rows profile then
      match s.profiles.insert? { profile with updatedAt := now } with
      | some (saved, profiles) => some (some saved, { s with profiles })
      | none => some (none, s)
    else some (none, s)
  | .saveProfile profile, .updatedAt now, s =>
    if NationalIdFree (s.profiles.rows.filter (·.id ≠ profile.id)) profile then
      match s.profiles.update? { profile with updatedAt := now } with
      | some profiles => some (some { profile with updatedAt := now }, { s with profiles })
      | none => some (none, s)
    else some (none, s)
  | .insertProfile _, .fails, s | .saveProfile _, .fails, s => some (none, s)
  | _, _, _ => none

/-! ## The handlers -/

inductive AccountError where
  | users (error : UsersError)
  -- "User not found", before the service is asked
  | noSuchUser
  -- "PIN must be exactly 6 digits"
  | invalidPin
  -- "dateOfBirth is invalid"
  | invalidDateOfBirth
  -- "idIssueDate is invalid"
  | invalidIdIssueDate
  | queryFailed
  deriving DecidableEq

inductive AccountReply where
  | user (user : User)
  | pinSet
  | valid (valid : Bool)
  | submitted (profile : KycProfile)
  deriving DecidableEq

abbrev AccountAnswer := Except AccountError AccountReply

section Handlers

variable (env : AccountEnv)

def savePin (user : User) : AccountHandler AccountAnswer := do
  match ← askAccounts (.users (.saveUser user)) with
  | none => pure (.error .queryFailed)
  | some _ => pure (.ok .pinSet)

/-- `setPin` of the service. -/
def servicePin (userId : Nat) (pin : String) (salt : Bytes) : AccountHandler AccountAnswer := do
  match ← askAccounts (.users (.findById userId)) with
  | none => pure (.error (.users .userNotFound))
  | some user =>
    if !isPin pin then pure (.error .invalidPin)
    else savePin { user with hashedPin := some (hashPin env pin salt) }

def setPin (userId : Nat) (pin : String) (salt : Bytes) : AccountHandler AccountAnswer := do
  match ← askAccounts (.users (.findById userId)) with
  | none => pure (.error .noSuchUser)
  | some _ => servicePin env userId pin salt

def verifyPin (userId : Nat) (pin : String) : AccountHandler AccountAnswer := do
  match ← askAccounts (.users (.findById userId)) with
  | none => pure (.ok (.valid false))
  | some user =>
    match user.hashedPin with
    | none | some "" => pure (.ok (.valid false))
    | some hash => pure (.ok (.valid (verifyPinHash env pin hash)))

/-- The dates of a form that names one where it must. -/
def readDates (dto : SubmitKycDto) : Except AccountError (Time × Option Time) :=
  match env.parseDate dto.dateOfBirth with
  | none => .error .invalidDateOfBirth
  | some dateOfBirth =>
    match dto.idIssueDate with
    | none | some "" => .ok (dateOfBirth, none)
    | some text =>
      match env.parseDate text with
      | none => .error .invalidIdIssueDate
      | some idIssueDate => .ok (dateOfBirth, some idIssueDate)

def newProfile (userId : Nat) : KycProfile where
  id := 0
  userId := userId
  fullName := ""
  nationalId := ""
  dateOfBirth := 0
  idIssueDate := none
  idIssuePlace := none
  residentialAddress := ""
  status := .unverified
  riskLevel := .low
  rejectionReason := none
  submittedAt := none
  reviewedAt := none
  updatedAt := 0

def filled (profile : KycProfile) (dto : SubmitKycDto) (dates : Time × Option Time) (now : Time) :
    KycProfile :=
  { profile with
    fullName := Text.trim dto.fullName
    nationalId := Text.trim dto.nationalId
    dateOfBirth := dates.1
    idIssueDate := dates.2
    idIssuePlace := (dto.idIssuePlace.map Text.trim).filter (· ≠ "")
    residentialAddress := Text.trim dto.residentialAddress
    status := .pendingReview
    riskLevel := .low
    submittedAt := some now
    rejectionReason := none }

/-- The user as it was found before the profile was saved is saved after it. -/
def submitted (user : User) (saved : Option KycProfile) : AccountHandler AccountAnswer :=
  match saved with
  | none => pure (.error .queryFailed)
  | some profile => do
    match ← askAccounts (.users (.saveUser { user with kycStatus := KycStatus.pendingReview.text })) with
    | none => pure (.error .queryFailed)
    | some _ => pure (.ok (.submitted profile))

def submitKyc (userId : Nat) (dto : SubmitKycDto) (now : Time) : AccountHandler AccountAnswer := do
  match ← askAccounts (.users (.findById userId)) with
  | none => pure (.error .noSuchUser)
  | some user =>
    match readDates env dto with
    | .error error => pure (.error error)
    | .ok dates =>
      match ← askAccounts (.findProfile userId) with
      | some existing => do
        let saved ← askAccounts (.saveProfile (filled existing dto dates now))
        submitted user saved
      | none => do
        let saved ← askAccounts (.insertProfile (filled (newProfile userId) dto dates now))
        submitted user saved

def profileAnswer (result : Except UsersError User) : AccountAnswer :=
  match result with
  | .ok user => .ok (.user user)
  | .error error => .error (.users error)

end Handlers

inductive AccountCall where
  | users (call : UsersCall)
  -- 16 random bytes are the salt
  | setPin (userId : Nat) (pin : String) (salt : Bytes)
  | verifyPin (userId : Nat) (pin : String)
  | submitKyc (userId : Nat) (dto : SubmitKycDto) (now : Time)

def AccountCall.handler (env : AccountEnv) : AccountCall → AccountHandler AccountAnswer
  | .users call => do
    let result ← onUsers (call.handler env.users)
    pure (profileAnswer result)
  | .setPin userId pin salt => Auth.setPin env userId pin salt
  | .verifyPin userId pin => Auth.verifyPin env userId pin
  | .submitKyc userId dto now => Auth.submitKyc env userId dto now

end Kufi.Auth

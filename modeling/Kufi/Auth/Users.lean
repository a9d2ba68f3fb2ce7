import Kufi.Auth.Entities
import Kufi.Auth.PhoneNumbers
import Kufi.Shared.Procedure
import Mathlib.Data.List.Infix
import Mathlib.Data.List.Sort

set_option autoImplicit false

/-!
# The users service

`upsertFromFirebase` and `updateProfile` write the users table, and
`resolveRecipientByPhone` finds whom a transfer goes to. Each find and each save
is one operation on the table.
-/

namespace Kufi.Auth

open Shared

-- The phone column is unique as a string.
instance : Row User String where
  id := User.id
  withId user n := { user with id := n }
  key user := user.phone
  id_withId _ _ := rfl
  key_withId _ _ := rfl

structure UsersEnv where
  toLowerCase : String → String
  -- `LOWER` of PostgreSQL
  lower : String → String

section Mock

variable (env : UsersEnv) (user : User)

def startsWith (text start : String) : Bool := start.toList.isPrefixOf text.toList
def endsWith (text ending : String) : Bool := ending.toList.isSuffixOf text.toList
def includes (text part : String) : Bool := part.toList <:+: text.toList

def isMockUser : Bool :=
  let email := env.toLowerCase (Text.trim (user.email.getD ""))
  let firebaseUid := env.toLowerCase (Text.trim user.firebaseUid)
  let displayName := env.toLowerCase (Text.trim (user.displayName.getD ""))
  endsWith email "@mock.local" ||
    (startsWith firebaseUid "mock-" || startsWith firebaseUid "smoke-user") ||
    (displayName == "mock user" && includes email "mock")

/-- The `CASE` by which the candidates for a phone are ordered. -/
def mockOrder : Nat :=
  if endsWith (env.lower (user.email.getD "")) "@mock.local" ||
      startsWith (env.lower user.firebaseUid) "mock-" ||
      startsWith (env.lower user.firebaseUid) "smoke-user" ||
      env.lower (user.displayName.getD "") == "mock user" then 1
  else 0

-- Of two candidates of one kind the one created later comes first.
def Precedes (first second : User) : Prop :=
  mockOrder env first < mockOrder env second ∨
    mockOrder env first = mockOrder env second ∧ second.createdAt ≤ first.createdAt

instance : DecidableRel (Precedes env) := fun _ _ =>
  inferInstanceAs (Decidable (_ ∨ _))

end Mock

/-- `WHERE phone IN (..) ORDER BY ..`. -/
def candidates (env : UsersEnv) (users : Table User) (phones : List String) : List User :=
  (users.rows.filter fun user => user.phone.any (· ∈ phones)).insertionSort (Precedes env)

/-! ## Operations -/

inductive UsersOp where
  | findByFirebaseUid (firebaseUid : String)
  | findById (id : Nat)
  | findCandidates (phones : List String)
  | insertUser (user : User)
  | saveUser (user : User)

abbrev UsersOp.Reply : UsersOp → Type
  | .findByFirebaseUid _ | .findById _ | .insertUser _ | .saveUser _ => Option User
  | .findCandidates _ => List User

abbrev UsersHandler := Procedure UsersOp UsersOp.Reply

abbrev askUsers (op : UsersOp) : UsersHandler op.Reply := Procedure.ask op

inductive UsersChoice where
  | nothing
  | fails
  | createdAt (now : Time)

/-- The other unique columns. -/
def OthersDiffer (others : List User) (user : User) : Prop :=
  ∀ other ∈ others, other.firebaseUid ≠ user.firebaseUid ∧
    (user.email = none ∨ other.email ≠ user.email)

instance (others : List User) (user : User) : Decidable (OthersDiffer others user) :=
  inferInstanceAs (Decidable (∀ other ∈ others, _))

def performUsers (env : UsersEnv) : Performer UsersOp UsersOp.Reply UsersChoice (Table User)
  | .findByFirebaseUid firebaseUid, .nothing, users =>
    some (users.find? (·.firebaseUid == firebaseUid), users)
  | .findById id, .nothing, users => some (users.get? id, users)
  | .findCandidates phones, .nothing, users => some (candidates env users phones, users)
  | .insertUser user, .createdAt now, users =>
    if OthersDiffer users.rows user then
      match users.insert? { user with createdAt := now } with
      | some (saved, after) => some (some saved, after)
      | none => some (none, users)
    else some (none, users)
  | .saveUser user, .nothing, users =>
    if OthersDiffer (users.rows.filter (·.id ≠ user.id)) user then
      match users.update? user with
      | some after => some (some user, after)
      | none => some (none, users)
    else some (none, users)
  | .insertUser _, .fails, users | .saveUser _, .fails, users => some (none, users)
  | _, _, _ => none

/-- An operation leaves the table as it is, adds a row or overwrites one. -/
theorem performUsers_effect {env : UsersEnv} {op : UsersOp} {choice : UsersChoice}
    {users after : Table User} {reply : op.Reply}
    (performed : performUsers env op choice users = some (reply, after)) :
    after = users ∨
      (∃ user now saved, op = .insertUser user ∧
        users.insert? { user with createdAt := now } = some (saved, after)) ∨
      ∃ user, op = .saveUser user ∧ users.update? user = some after := by
  cases op with
  | findByFirebaseUid firebaseUid =>
    cases choice <;> simp_all [performUsers]
  | findById id =>
    cases choice <;> simp_all [performUsers]
  | findCandidates phones =>
    cases choice <;> simp_all [performUsers]
  | insertUser user =>
    cases choice with
    | nothing => cases performed
    | fails =>
      cases performed
      exact .inl rfl
    | createdAt now =>
      dsimp only [performUsers] at performed
      split at performed
      · split at performed
        next saved inserted same =>
          cases performed
          exact .inr (.inl ⟨user, now, saved, rfl, same⟩)
        next =>
          cases performed
          exact .inl rfl
      · cases performed
        exact .inl rfl
  | saveUser user =>
    cases choice with
    | nothing =>
      dsimp only [performUsers] at performed
      split at performed
      · split at performed
        next updated same =>
          cases performed
          exact .inr (.inr ⟨user, rfl, same⟩)
        next =>
          cases performed
          exact .inl rfl
      · cases performed
        exact .inl rfl
    | fails =>
      cases performed
      exact .inl rfl
    | createdAt now => cases performed

/-! ## The service -/

inductive UsersError where
  -- "User not found"
  | userNotFound
  -- "Invalid phone format"
  | invalidPhone
  -- "Phone number already in use"
  | phoneInUse
  -- an error of the database, a violated constraint among them
  | queryFailed
  deriving DecidableEq

structure FirebaseUserPayload where
  firebaseUid : String
  email : Option String
  phone : Option String
  displayName : Option String

structure Recipient where
  userId : Nat
  phone : String
  displayName : String
  accountStatus : AccountStatus
  kycStatus : String
  deriving DecidableEq

section Service

variable (env : UsersEnv)

def saved (user : Option User) : Except UsersError User :=
  match user with
  | some user => .ok user
  | none => .error .queryFailed

def findByPhone (identifier : String) : UsersHandler (Option User) :=
  let normalized := normalizePhone identifier
  if normalized = "" then pure none
  else do
    let candidates ← askUsers (.findCandidates (phoneVariants normalized))
    pure (candidates.find? fun candidate => !isMockUser env candidate)

def upsertFromFirebase (payload : FirebaseUserPayload) : UsersHandler (Except UsersError User) := do
  let existing ← askUsers (.findByFirebaseUid payload.firebaseUid)
  let email := payload.email.map fun email => env.toLowerCase (Text.trim email)
  let phone := payload.phone.map Text.trim
  match existing with
  | some existing =>
    let user ← askUsers (.saveUser
      { existing with
        email := email.or existing.email
        phone := phone.or existing.phone
        displayName := payload.displayName.or existing.displayName })
    pure (saved user)
  | none =>
    let user ← askUsers (.insertUser
      { id := 0
        firebaseUid := payload.firebaseUid
        accountStatus := .active
        email := email
        phone := phone
        displayName := payload.displayName
        kycStatus := "pending"
        hashedPin := none
        createdAt := 0 })
    pure (saved user)

def withDisplayName (user : User) (displayName : Option String) : User :=
  let nextDisplayName := Text.trim (displayName.getD "")
  if nextDisplayName = "" then user else { user with displayName := some nextDisplayName }

/-- The profile that comes back is a part of the saved row. -/
def updateProfile (userId : Nat) (displayName phone : Option String) :
    UsersHandler (Except UsersError User) := do
  let user ← askUsers (.findById userId)
  match user with
  | none => pure (.error .userNotFound)
  | some user =>
    let user := withDisplayName user displayName
    let nextPhone := Text.trim (phone.getD "")
    if nextPhone = "" then do
      let user ← askUsers (.saveUser user)
      pure (saved user)
    else
      let normalized := normalizePhoneForStore nextPhone
      if normalized = "" || !readyPhone normalized then pure (.error .invalidPhone)
      else do
        let existing ← findByPhone env normalized
        if existing.any fun existing => existing.id ≠ user.id then pure (.error .phoneInUse)
        else do
          let user ← askUsers (.saveUser { user with phone := some normalized })
          pure (saved user)

def resolveRecipientByPhone (phoneRaw : String) (requesterUserId : Option Nat) :
    UsersHandler (Option Recipient) := do
  let user ← findByPhone env phoneRaw
  match user with
  | none => pure none
  | some user =>
    if isMockUser env user then pure none
    else if requesterUserId = some user.id then pure none
    else if user.accountStatus ≠ .active then pure none
    else pure (some
      { userId := user.id
        phone := user.phone.getD ""
        displayName := (user.displayName.or user.email).getD "Người dùng"
        accountStatus := user.accountStatus
        kycStatus := user.kycStatus })

end Service

inductive UsersCall where
  | upsertFromFirebase (payload : FirebaseUserPayload)
  | updateProfile (userId : Nat) (displayName phone : Option String)

def UsersCall.handler (env : UsersEnv) : UsersCall → UsersHandler (Except UsersError User)
  | .upsertFromFirebase payload => Auth.upsertFromFirebase env payload
  | .updateProfile userId displayName phone => Auth.updateProfile env userId displayName phone

/-! ## Whose phone it is -/

/-- What `findByPhone` finds in a table. -/
def phoneOwner (env : UsersEnv) (users : Table User) (identifier : String) : Option User :=
  if normalizePhone identifier = "" then none
  else (candidates env users (phoneVariants (normalizePhone identifier))).find? fun candidate =>
    !isMockUser env candidate

theorem mem_candidates {env : UsersEnv} {users : Table User} {phones : List String} {user : User} :
    user ∈ candidates env users phones ↔ user ∈ users ∧ ∃ phone ∈ user.phone, phone ∈ phones := by
  simp only [candidates, List.mem_insertionSort, List.mem_filter, Option.any_eq_true,
    decide_eq_true_eq]
  rfl

theorem findByPhone_run {A : Type} (env : UsersEnv) (users : Table User) {identifier : String}
    (normal : normalizePhone identifier ≠ "") (rest : Option User → UsersHandler A) (value : A)
    (ends : rest (phoneOwner env users identifier) = .done value) :
    (findByPhone env identifier >>= rest).run (performUsers env) [.nothing] users =
      some (value, users) := by
  unfold phoneOwner at ends
  rw [if_neg normal] at ends
  simp only [findByPhone, normal, if_false, Procedure.ask_bind, Procedure.perform_bind,
    Procedure.pure_eq, Procedure.done_bind, Procedure.run, Machine.alone, Procedure.machine,
    performUsers, Option.map_some, Option.bind_some, ends]

end Kufi.Auth

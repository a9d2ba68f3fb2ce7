import Kufi.Auth.Users

set_option autoImplicit false

/-!
# One phone number, one recipient

The two writers of the users table run here interleaved. `updateProfile` asks
whose a phone is before it saves it; `upsertFromFirebase` does not.
-/

namespace Kufi.Auth

open Shared

/-- What `updateProfile` has asked for, and the answer. -/
structure PhoneCheck where
  phones : List String
  candidates : List User

structure UsersProcess where
  check : Option PhoneCheck
  code : UsersHandler (Except UsersError User)

def advanceCheck (check : Option PhoneCheck) : (op : UsersOp) → op.Reply → Option PhoneCheck
  | .findCandidates phones, candidates => some ⟨phones, candidates⟩
  | _, _ => check

def usersWriters (env : UsersEnv) : Machine (Table User) UsersProcess UsersChoice where
  step users
    | ⟨check, .perform op next⟩, choice =>
      (performUsers env op choice users).map fun result =>
        (result.2, ⟨advanceCheck check op result.1, next result.1⟩)
    | _, _ => none

def UsersCall.process (env : UsersEnv) (call : UsersCall) : UsersProcess := ⟨none, call.handler env⟩

section Property

variable (env : UsersEnv) (users : Table User)

/-- No two users have phones that denote the same number, mock users aside. -/
def OneUserEach : Prop :=
  ∀ first ∈ users, ∀ second ∈ users, isMockUser env first = false → isMockUser env second = false →
    ∀ phone ∈ first.phone, ∀ phone' ∈ second.phone, ∀ number,
      subscriber phone = some number → subscriber phone' = some number → first = second

/-- Whoever asks for a number in any spelling finds its active user. -/
def AlwaysFound : Prop :=
  ∀ raw number requester, subscriber raw = some number → ∀ user ∈ users,
    isMockUser env user = false → user.accountStatus = .active → requester ≠ some user.id →
    (∃ phone ∈ user.phone, subscriber phone = some number) →
    ∃ recipient : Recipient, recipient.userId = user.id ∧
      (resolveRecipientByPhone env raw requester).run (performUsers env) [.nothing] users =
        some (some recipient, users)

structure OneRecipient : Prop where
  unique : OneUserEach env users
  found : AlwaysFound env users

end Property

/-- The phone is plain and nobody else is found for it. -/
def PhoneFree (env : UsersEnv) (users : Table User) (user : User) (owner : Option Nat) : Prop :=
  ∀ phone ∈ user.phone, (subscriber phone).isSome = true →
    Plain phone ∧ ∀ other, phoneOwner env users phone = some other → some other.id = owner

/-- The answer to `updateProfile`'s question still holds, and the number is long enough. -/
def StillFree (env : UsersEnv) (users : Table User) (user : User) (check : PhoneCheck) : Prop :=
  candidates env users check.phones = check.candidates ∧
    ∀ phone ∈ user.phone, ∀ number, subscriber phone = some number → 9 ≤ number.length

variable {I : Type}

/-- A user that is saved is a mock user or has a phone that is free. -/
def Vetted (env : UsersEnv) (world : World I (Table User) UsersProcess) (i : I)
    (_ : UsersChoice) : Prop :=
  match world.procs i with
  | ⟨_, .perform (.insertUser user) _⟩ =>
    isMockUser env user = true ∨ PhoneFree env world.shared user none
  | ⟨none, .perform (.saveUser user) _⟩ =>
    isMockUser env user = true ∨ PhoneFree env world.shared user (some user.id)
  | ⟨some check, .perform (.saveUser user) _⟩ =>
    isMockUser env user = true ∨ StillFree env world.shared user check
  | _ => True

/-! ## Tables in which phones are in order -/

structure InOrder (env : UsersEnv) (users : Table User) : Prop where
  plain : ∀ user ∈ users, isMockUser env user = false → ∀ phone ∈ user.phone,
    (subscriber phone).isSome = true → Plain phone
  unique : OneUserEach env users

section Tables

variable {env : UsersEnv} {users after : Table User}

/-- `findByPhone` finds the user whose phone denotes the number. -/
theorem InOrder.phoneOwner_eq (inOrder : InOrder env users) {user : User} {raw phone : String}
    {number : List Char} (spelled : subscriber raw = some number) (stored : user ∈ users)
    (real : isMockUser env user = false) (has : phone ∈ user.phone)
    (denotes : subscriber phone = some number) : phoneOwner env users raw = some user := by
  have normal := normalizePhone_mem spelled
  obtain ⟨plain, long⟩ := (inOrder.plain user stored real phone has (by simp [denotes])).mem denotes
  have nonempty : normalizePhone raw ≠ "" := by
    intro empty
    rw [empty] at normal
    simp [spellings] at normal
  have candidate : user ∈ candidates env users (phoneVariants (normalizePhone raw)) :=
    mem_candidates.mpr ⟨stored, phone, has, phoneVariants_complete normal long plain⟩
  unfold phoneOwner
  rw [if_neg nonempty]
  cases found : (candidates env users (phoneVariants (normalizePhone raw))).find?
      fun candidate => !isMockUser env candidate with
  | none =>
    have mock := List.find?_eq_none.mp found user candidate
    simp [real] at mock
  | some other =>
    obtain ⟨held, phone', has', variant⟩ := mem_candidates.mp (List.mem_of_find?_eq_some found)
    have real' : isMockUser env other = false := by simpa using List.find?_some found
    have same : subscriber phone' = some number :=
      subscriber_of_mem (digits_of_subscriber spelled) (phoneVariants_subset normal phone' variant)
    rw [inOrder.unique other held user stored real' real phone' has' phone has number same denotes]

theorem InOrder.oneRecipient (inOrder : InOrder env users) : OneRecipient env users where
  unique := inOrder.unique
  found := by
    intro raw number requester spelled user stored real active other ⟨phone, has, denotes⟩
    have owner := inOrder.phoneOwner_eq spelled stored real has denotes
    have nonempty : normalizePhone raw ≠ "" := by
      intro empty
      simp [phoneOwner, empty] at owner
    refine ⟨
      { userId := user.id
        phone := user.phone.getD ""
        displayName := (user.displayName.or user.email).getD "Người dùng"
        accountStatus := user.accountStatus
        kycStatus := user.kycStatus }, rfl, findByPhone_run env users nonempty _ _ ?_⟩
    simp [owner, real, other, active]

/-- One row is written; the others stay. -/
theorem InOrder.write (inOrder : InOrder env users) {user : User}
    (rows : ∀ row ∈ after, row = user ∨ row ∈ users ∧ row.id ≠ user.id)
    (free : isMockUser env user = true ∨ PhoneFree env users user (some user.id)) :
    InOrder env after := by
  have written (real : isMockUser env user = false) : PhoneFree env users user (some user.id) := by
    rcases free with mock | free
    · rw [real] at mock
      cases mock
    · exact free
  -- nobody else has the number of the row that is written
  have apart (other : User) (held : other ∈ users) (different : other.id ≠ user.id)
      (real : isMockUser env other = false) (own : isMockUser env user = false)
      (phone : String) (has : phone ∈ other.phone) (phone' : String) (has' : phone' ∈ user.phone)
      (number : List Char) (first : subscriber phone = some number)
      (second : subscriber phone' = some number) : False := by
    obtain ⟨_, alone⟩ := written own phone' has' (by simp [second])
    have owner := inOrder.phoneOwner_eq second held real has first
    exact different (Option.some.inj (alone other owner))
  constructor
  · intro row held real phone has denotes
    rcases rows row held with rfl | ⟨old, _⟩
    · exact (written real phone has denotes).1
    · exact inOrder.plain row old real phone has denotes
  · intro first held second held' real real' phone has phone' has' number same same'
    rcases rows first held with rfl | ⟨old, different⟩
    · rcases rows second held' with rfl | ⟨old', different'⟩
      · rfl
      · exact (apart second old' different' real' real phone' has' phone has number same' same).elim
    · rcases rows second held' with rfl | ⟨old', different'⟩
      · exact (apart first old different real real' phone has phone' has' number same same').elim
      · exact inOrder.unique first old second old' real real' phone has phone' has' number same same'

theorem InOrder.insert (inOrder : InOrder env users) {user saved : User} {now : Time}
    (inserted : users.insert? { user with createdAt := now } = some (saved, after))
    (free : isMockUser env user = true ∨ PhoneFree env users user none) : InOrder env after := by
  obtain ⟨rfl, _⟩ := Table.insert?_spec inserted
  have rows (row : User) (held : row ∈ after) :
      row = Row.withId { user with createdAt := now } users.next ∨
        row ∈ users ∧ row.id ≠ users.next := by
    rcases (Table.mem_insert? inserted).mp held with old | rfl
    · exact .inr ⟨old, Nat.ne_of_lt (users.fresh row old)⟩
    · exact .inl rfl
  refine inOrder.write rows (free.imp id fun free phone has denotes => ?_)
  obtain ⟨plain, alone⟩ := free phone has denotes
  exact ⟨plain, fun other owner => nomatch alone other owner⟩

theorem InOrder.update (inOrder : InOrder env users) {user : User}
    (updated : users.update? user = some after)
    (free : isMockUser env user = true ∨ PhoneFree env users user (some user.id)) :
    InOrder env after := by
  refine inOrder.write (fun row held => ?_) free
  rcases (Table.mem_update? updated).mp held with old | ⟨rfl, _⟩
  · exact .inr old
  · exact .inl rfl

end Tables

/-! ## What a handler does with phones -/

def foundFor (env : UsersEnv) (check : PhoneCheck) : Option User :=
  check.candidates.find? fun candidate => !isMockUser env candidate

/-- Whoever asks for a phone saves it only for the user who was found, if any. -/
def PhonePermitted (env : UsersEnv) (check : Option PhoneCheck) : UsersOp → Prop
  | .insertUser _ => check = none
  | .saveUser user => ∀ asked ∈ check, ∃ phone, user.phone = some phone ∧ readyPhone phone = true ∧
      asked.phones = phoneVariants (normalizePhone phone) ∧
      ∀ other, foundFor env asked = some other → other.id = user.id
  | _ => True

def CheckBecomes (check : Option PhoneCheck) (op : UsersOp) (reply : op.Reply)
    (after : Option PhoneCheck) : Prop :=
  after = advanceCheck check op reply

abbrev TracksPhone {A : Type} (env : UsersEnv) (check : Option PhoneCheck)
    (post : Option PhoneCheck → A → Prop) (procedure : UsersHandler A) : Prop :=
  procedure.Tracks (PhonePermitted env) CheckBecomes post check

section Handlers

-- What a text is after trimming is nowhere computed here.
attribute [local irreducible] Text.trim

variable (env : UsersEnv)

theorem findByPhone_tracks (identifier : String) :
    TracksPhone env none (fun check found => ∀ asked ∈ check,
      asked.phones = phoneVariants (normalizePhone identifier) ∧ found = foundFor env asked)
      (findByPhone env identifier) := by
  unfold findByPhone
  dsimp only
  generalize normalizePhone identifier = normalized
  split
  · exact nofun
  · refine .ask trivial fun candidates check moved => ?_
    obtain rfl : check = _ := moved
    intro asked same
    obtain rfl := Option.some.inj same
    exact ⟨rfl, rfl⟩

theorem upsertFromFirebase_tracks (payload : FirebaseUserPayload) :
    TracksPhone env none (fun _ _ => True) (upsertFromFirebase env payload) := by
  refine .ask trivial fun existing check moved => ?_
  obtain rfl : check = _ := moved
  cases existing with
  | some existing => exact .ask nofun fun _ _ _ => trivial
  | none => exact .ask rfl fun _ _ _ => trivial

theorem updateProfile_tracks (userId : Nat) (displayName phone : Option String) :
    TracksPhone env none (fun _ _ => True) (updateProfile env userId displayName phone) := by
  refine .ask trivial fun user check moved => ?_
  obtain rfl : check = _ := moved
  cases user with
  | none => trivial
  | some user =>
    dsimp only
    generalize withDisplayName user displayName = user
    generalize normalizePhoneForStore (Text.trim (phone.getD "")) = normalized
    have found := findByPhone_tracks env normalized
    generalize findByPhone env normalized = find at found ⊢
    split
    · exact .ask nofun fun _ _ _ => trivial
    · split
      · trivial
      next ready =>
        refine .bind found fun existing check asked => ?_
        split
        · trivial
        next free =>
          refine .ask (fun own known => ?_) fun _ _ _ => trivial
          obtain ⟨phones, found⟩ := asked own known
          have ready : ¬normalized = "" ∧ readyPhone normalized = true := by simpa using ready
          refine ⟨normalized, rfl, ready.2, phones, ?_⟩
          intro other same
          simpa [found, same] using free

theorem UsersCall.tracks (call : UsersCall) :
    TracksPhone env none (fun _ _ => True) (call.handler env) := by
  cases call with
  | upsertFromFirebase payload => exact upsertFromFirebase_tracks env payload
  | updateProfile userId displayName phone =>
    exact updateProfile_tracks env userId displayName phone

variable {env}

/-- An answer that still holds is a phone that is free. -/
theorem StillFree.phoneFree {users : Table User} {user : User} {check : PhoneCheck}
    (still : StillFree env users user check) (permitted : PhonePermitted env (some check) (.saveUser user)) :
    PhoneFree env users user (some user.id) := by
  obtain ⟨phone, own, ready, phones, found⟩ := permitted check rfl
  obtain ⟨same, long⟩ := still
  obtain ⟨number, digits, spelled⟩ := readyPhone_spelling ready
  intro phone' has _
  obtain rfl : phone = phone' := Option.some.inj (own.symm.trans has)
  refine ⟨⟨number, digits, long phone has number (subscriber_of_mem digits spelled), spelled⟩, ?_⟩
  intro other owner
  unfold phoneOwner at owner
  split at owner
  · cases owner
  · rw [← phones, same] at owner
    rw [found other owner]

end Handlers

/-! ## Runs -/

def UsersProcess.Tracks (env : UsersEnv) (process : UsersProcess) : Prop :=
  TracksPhone env process.check (fun _ _ => True) process.code

/-- What one operation of a call leaves in order. -/
theorem InOrder.step {env : UsersEnv} {world : World I (Table User) UsersProcess} {i : I}
    {choice : UsersChoice} {users : Table User} {process : UsersProcess}
    (inOrder : InOrder env world.shared) (tracks : (world.procs i).Tracks env)
    (vetted : Vetted env world i choice)
    (stepped : (usersWriters env).step world.shared (world.procs i) choice = some (users, process)) :
    InOrder env users ∧ process.Tracks env := by
  unfold Vetted at vetted
  generalize world.procs i = own at tracks vetted stepped
  obtain ⟨check, code⟩ := own
  cases code with
  | done _ => cases stepped
  | perform op next =>
    obtain ⟨⟨reply, after⟩, performed, same⟩ := Option.map_eq_some_iff.mp stepped
    obtain ⟨rfl, rfl⟩ := Prod.mk.inj same
    obtain ⟨permitted, later⟩ := tracks
    refine ⟨?_, later reply _ rfl⟩
    rcases performUsers_effect performed with rfl | ⟨user, now, saved, rfl, inserted⟩ | ⟨user, rfl, updated⟩
    · exact inOrder
    · exact inOrder.insert inserted vetted
    · refine inOrder.update updated ?_
      cases check with
      | none => exact vetted
      | some asked => exact vetted.imp id fun still => still.phoneFree permitted

theorem one_phone_one_recipient [DecidableEq I] {env : UsersEnv} (calls : I → UsersCall)
    {start world : World I (Table User) UsersProcess} (unused : start.shared.rows = [])
    (called : ∀ i, start.procs i = (calls i).process env)
    (reached : (usersWriters env).Reaches (Vetted env) start world) :
    OneRecipient env world.shared := by
  have nobody (user : User) : user ∉ start.shared := by
    rw [Table.mem_def, unused]
    exact List.not_mem_nil
  have initial : InOrder env start.shared :=
    { plain := fun user held => (nobody user held).elim
      unique := fun first held => (nobody first held).elim }
  have tracked (i : I) : (start.procs i).Tracks env := by
    rw [called i]
    exact UsersCall.tracks env (calls i)
  obtain ⟨inOrder, _⟩ := reached.assertions (InOrder env) (fun _ _ process => process.Tracks env)
    ⟨initial, tracked⟩ fun world i choice users process inOrder tracks vetted stepped => by
      obtain ⟨after, own⟩ := inOrder.step (tracks i) vetted stepped
      exact ⟨after, own, fun j _ => tracks j⟩
  exact inOrder.oneRecipient

/-! ## Sample runs -/

def asIs : UsersEnv where
  toLowerCase := id
  lower := id

def register (firebaseUid phone : String) : UsersCall :=
  .upsertFromFirebase ⟨firebaseUid, none, some phone, none⟩

def registered (id : Nat) (firebaseUid phone : String) (createdAt : Time) : User where
  id := id
  firebaseUid := firebaseUid
  accountStatus := .active
  email := none
  phone := some phone
  displayName := none
  kycStatus := "pending"
  hashedPin := none
  createdAt := createdAt

def noUsers (calls : List UsersCall) : World (Fin calls.length) (Table User) UsersProcess where
  shared := .empty
  procs i := calls[i].process asIs

theorem one_phone_two_recipients :
    (¬ ∀ world, (usersWriters asIs).Reaches (fun _ _ _ => True)
      (noUsers [register "an" "+84912345678", register "binh" "0912345678"]) world →
      OneUserEach asIs world.shared) ∧
    ¬ ∀ world, (usersWriters asIs).Reaches (fun _ _ _ => True)
      (noUsers [register "an" "+84 912 345 678", register "binh" "0987654321"]) world →
      AlwaysFound asIs world.shared := by
  constructor
  · intro unique
    have ends : ((usersWriters asIs).run
        (noUsers [register "an" "+84912345678", register "binh" "0912345678"])
        [(0, .nothing), (0, .createdAt 1), (1, .nothing), (1, .createdAt 2)]).map
        (fun world => world.shared.rows) =
        some [registered 0 "an" "+84912345678" 1, registered 1 "binh" "0912345678" 2] := by
      decide +kernel
    obtain ⟨world, ran, rows⟩ := Option.map_eq_some_iff.mp ends
    have same := unique world (.run .refl ran) (registered 0 "an" "+84912345678" 1)
      (by rw [Table.mem_def, rows]; simp) (registered 1 "binh" "0912345678" 2)
      (by rw [Table.mem_def, rows]; simp) (by decide +kernel) (by decide +kernel) _ rfl _ rfl
      "912345678".toList (by decide +kernel) (by decide +kernel)
    cases congrArg User.id same
  · intro found
    have ends : ((usersWriters asIs).run
        (noUsers [register "an" "+84 912 345 678", register "binh" "0987654321"])
        [(0, .nothing), (0, .createdAt 1)]).map
        (fun world => (world.shared.rows,
          ((resolveRecipientByPhone asIs "0912345678" none).run (performUsers asIs) [.nothing]
            world.shared).map Prod.fst)) =
        some ([registered 0 "an" "+84 912 345 678" 1], some none) := by decide +kernel
    obtain ⟨world, ran, result⟩ := Option.map_eq_some_iff.mp ends
    obtain ⟨rows, nobody⟩ := Prod.mk.inj result
    obtain ⟨recipient, _, resolved⟩ := found world (.run .refl ran) "0912345678"
      "912345678".toList none (by decide +kernel) (registered 0 "an" "+84 912 345 678" 1)
      (by rw [Table.mem_def, rows]; simp) (by decide +kernel) rfl nofun
      ⟨_, rfl, by decide +kernel⟩
    rw [resolved] at nobody
    cases nobody

instance : DecidablePred Plain := fun phone =>
  decidable_of_iff (∃ number ∈ subscriber phone, 9 ≤ number.length ∧ phone ∈ spellings number) <| by
    constructor
    · rintro ⟨number, spelled, long, member⟩
      exact ⟨number, digits_of_subscriber spelled, long, member⟩
    · rintro ⟨number, digits, long, member⟩
      exact ⟨number, subscriber_of_mem digits member, long, member⟩

instance (env : UsersEnv) (users : Table User) (user : User) (owner : Option Nat) :
    Decidable (PhoneFree env users user owner) :=
  inferInstanceAs (Decidable (∀ phone ∈ user.phone, (subscriber phone).isSome = true →
    Plain phone ∧ ∀ other ∈ phoneOwner env users phone, some other.id = owner))

instance (env : UsersEnv) (users : Table User) (user : User) (check : PhoneCheck) :
    Decidable (StillFree env users user check) :=
  inferInstanceAs (Decidable (_ ∧ ∀ phone ∈ user.phone, ∀ number ∈ subscriber phone,
    9 ≤ number.length))

instance (env : UsersEnv) (world : World I (Table User) UsersProcess) (i : I)
    (choice : UsersChoice) : Decidable (Vetted env world i choice) := by
  unfold Vetted
  split <;> infer_instance

-- A user registers with one spelling and changes it to another.
theorem one_phone_one_recipient_renamed :
    ∃ world, (usersWriters asIs).run
        (noUsers [register "an" "0912345678", .updateProfile 0 none (some "+84 912 345 678")])
        [(0, .nothing), (0, .createdAt 1), (1, .nothing), (1, .nothing), (1, .nothing)] =
          some world ∧
      world.shared.rows = [registered 0 "an" "+84912345678" 1] ∧ OneRecipient asIs world.shared := by
  have reached : ((usersWriters asIs).checkedRun (Vetted asIs)
      (noUsers [register "an" "0912345678", .updateProfile 0 none (some "+84 912 345 678")])
      [(0, .nothing), (0, .createdAt 1), (1, .nothing), (1, .nothing), (1, .nothing)]).map
      (fun world => world.shared.rows) = some [registered 0 "an" "+84912345678" 1] := by
    decide +kernel
  obtain ⟨world, ran, rows⟩ := Option.map_eq_some_iff.mp reached
  have runs := Machine.Runs.checked .nil ran
  exact ⟨world, runs.run, rows, one_phone_one_recipient _ rfl (fun _ => rfl) runs.reaches⟩

end Kufi.Auth

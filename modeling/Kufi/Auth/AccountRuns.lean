import Kufi.Auth.AccountRecords

set_option autoImplicit false

/-!
# What the account rows stand for

In every interleaving of the writers a PIN that verifies was set for the same
user, and a user under review has handed in a profile, whatever is written over
in between.
-/

namespace Kufi.Auth

open Shared
open StdEncoding (Bytes)

variable {I : Type}

abbrev AccountWorld (I : Type) := World I Accounts (AccountHandler AccountAnswer)

section Sources

variable (env : AccountEnv) (calls : I → AccountCall) (before : Accounts)

/-- The hash was there before, or a request that has ended well has set the PIN. -/
def PinSource (world : AccountWorld I) (userId : Nat) (hash : String) : Prop :=
  (∃ user ∈ before.users, user.id = userId ∧ user.hashedPin = some hash) ∨
    ∃ i pin salt, calls i = .setPin userId pin salt ∧ isPin pin = true ∧
      hash = hashPin env pin salt ∧ world.procs i = .done (.ok .pinSet)

def UnderReview (s : Accounts) (userId : Nat) : Prop :=
  (∃ user ∈ before.users, user.id = userId ∧ user.kycStatus = KycStatus.pendingReview.text) ∨
    ∃ profile ∈ s.profiles, profile.userId = userId ∧ profile.status = .pendingReview

structure Sound (world : AccountWorld I) (user : User) : Prop where
  pin : ∀ hash ∈ user.hashedPin, PinSource env calls before world user.id hash
  kyc : user.kycStatus = KycStatus.pendingReview.text → UnderReview before world.shared user.id

end Sources

/-! ## What handlers do -/

/-- A handler knows the rows it has loaded and the users whose profiles it has saved. -/
structure Seen where
  users : List User
  profiles : List KycProfile
  reviewed : List Nat

def Seen.nothing : Seen := ⟨[], [], []⟩

def Seen.saved (seen : Seen) (profile : KycProfile) (saved : Option KycProfile) : Seen :=
  if saved.isSome then { seen with reviewed := profile.userId :: seen.reviewed } else seen

def SeenPermits (seen : Seen) : AccountOp → Prop
  | .users (.insertUser user) => user.hashedPin = none ∧ user.kycStatus = "pending"
  | .users (.saveUser user) => ∃ old ∈ seen.users, old.id = user.id ∧
      old.hashedPin = user.hashedPin ∧
      (old.kycStatus = user.kycStatus ∨
        user.kycStatus = KycStatus.pendingReview.text ∧ user.id ∈ seen.reviewed)
  | .insertProfile profile => profile.status = .pendingReview
  | .saveProfile profile => profile.status = .pendingReview ∧
      ∃ old ∈ seen.profiles, old.id = profile.id ∧ old.userId = profile.userId
  | _ => True

def SeenBecomes (seen : Seen) : (op : AccountOp) → op.Reply → Seen → Prop
  | .users (.findByFirebaseUid _), found, after =>
    after = { seen with users := Option.toList found ++ seen.users }
  | .users (.findById id), found, after => (∀ user ∈ found, user.id = id) ∧
      after = { seen with users := Option.toList found ++ seen.users }
  | .findProfile userId, found, after => (∀ profile ∈ found, profile.userId = userId) ∧
      after = { seen with profiles := Option.toList found ++ seen.profiles }
  | .insertProfile profile, saved, after | .saveProfile profile, saved, after =>
    after = seen.saved profile saved
  | _, _, after => after = seen

/-- A PIN that verifies is checked against a row that was loaded. -/
def Verified (env : AccountEnv) (call : AccountCall) (seen : Seen) (answer : AccountAnswer) :
    Prop :=
  ∀ userId pin, call = .verifyPin userId pin → answer = .ok (.valid true) →
    ∃ user ∈ seen.users, user.id = userId ∧ ∃ hash ∈ user.hashedPin,
      verifyPinHash env pin hash = true

abbrev TracksSeen {A : Type} (seen : Seen) (post : Seen → A → Prop)
    (handler : AccountHandler A) : Prop :=
  handler.Tracks SeenPermits SeenBecomes post seen

abbrev TracksUsers {A : Type} (seen : Seen) (handler : UsersHandler A) : Prop :=
  handler.Tracks (fun seen op => SeenPermits seen (.users op))
    (fun seen op => SeenBecomes seen (.users op)) (fun _ _ => True) seen

section Handlers

attribute [local irreducible] Text.trim

variable (env : AccountEnv)

theorem upsertFromFirebase_seen (payload : FirebaseUserPayload) :
    TracksUsers .nothing (upsertFromFirebase env.users payload) := by
  refine .ask trivial fun existing seen moved => ?_
  obtain rfl : seen = _ := moved
  cases existing with
  | some existing =>
    exact .ask ⟨existing, by simp, rfl, rfl, .inl rfl⟩ fun _ _ _ => trivial
  | none => exact .ask ⟨rfl, rfl⟩ fun _ _ _ => trivial

theorem findByPhone_seen (identifier : String) (seen : Seen) :
    (findByPhone env.users identifier).Tracks (fun seen op => SeenPermits seen (.users op))
      (fun seen op => SeenBecomes seen (.users op)) (fun after _ => after = seen) seen := by
  unfold findByPhone
  dsimp only
  split
  · rfl
  · exact .ask trivial fun candidates after same => same

theorem updateProfile_seen (userId : Nat) (displayName phone : Option String) :
    TracksUsers .nothing (updateProfile env.users userId displayName phone) := by
  refine .ask trivial fun user seen moved => ?_
  obtain ⟨_, rfl⟩ := moved
  cases user with
  | none => trivial
  | some user =>
    dsimp only
    have kept : (withDisplayName user displayName).id = user.id ∧
        (withDisplayName user displayName).hashedPin = user.hashedPin ∧
        (withDisplayName user displayName).kycStatus = user.kycStatus := by
      simp only [withDisplayName]
      split <;> exact ⟨rfl, rfl, rfl⟩
    generalize withDisplayName user displayName = named at kept
    obtain ⟨id, pin, status⟩ := kept
    split
    · exact .ask ⟨user, by simp, id.symm, pin.symm, .inl status.symm⟩ fun _ _ _ => trivial
    · split
      · trivial
      · refine .bind (findByPhone_seen env _ _) fun existing after same => ?_
        obtain rfl : after = _ := same
        split
        · trivial
        · exact .ask ⟨user, by simp, id.symm, pin.symm, .inl status.symm⟩ fun _ _ _ => trivial

theorem users_seen (call : UsersCall) :
    TracksSeen .nothing (fun seen answer => Verified env (.users call) seen answer)
      (AccountCall.handler env (.users call)) := by
  have tracks : TracksUsers .nothing (call.handler env.users) := by
    cases call with
    | upsertFromFirebase payload => exact upsertFromFirebase_seen env payload
    | updateProfile userId displayName phone =>
      exact updateProfile_seen env userId displayName phone
  refine .bind (tracks.lift (fun _ _ permitted => permitted) fun _ _ _ _ moved => moved) ?_
  exact fun _ _ _ _ _ different => nomatch different

theorem verifyPin_seen (userId : Nat) (pin : String) :
    TracksSeen .nothing (fun seen answer => Verified env (.verifyPin userId pin) seen answer)
      (verifyPin env userId pin) := by
  refine .ask trivial fun found seen moved => ?_
  obtain ⟨known, rfl⟩ := moved
  cases found with
  | none => exact fun _ _ _ different => nomatch different
  | some user =>
    dsimp only
    split
    · exact fun _ _ _ different => nomatch different
    · exact fun _ _ _ different => nomatch different
    next hash _ stored =>
      intro _ _ same valid
      cases same
      have verifies : verifyPinHash env pin hash = true := by simpa using valid
      exact ⟨user, by simp, known user rfl, hash, stored, verifies⟩

theorem submitKyc_seen (userId : Nat) (dto : SubmitKycDto) (now : Time) :
    TracksSeen .nothing (fun seen answer => Verified env (.submitKyc userId dto now) seen answer)
      (submitKyc env userId dto now) := by
  refine .ask trivial fun found seen moved => ?_
  obtain ⟨known, rfl⟩ := moved
  cases found with
  | none => exact fun _ _ different => nomatch different
  | some user =>
    have mine : user.id = userId := known user rfl
    -- what follows once the profile is saved, or is not
    have ends (seen : Seen) (profile : KycProfile) (saved : Option KycProfile)
        (loaded : user ∈ seen.users) (own : profile.userId = userId) :
        TracksSeen (seen.saved profile saved)
          (fun seen answer => Verified env (.submitKyc userId dto now) seen answer)
          (submitted user saved) := by
      cases saved with
      | none => exact fun _ _ different => nomatch different
      | some _ =>
        refine .ask ⟨user, loaded, rfl, rfl, .inr ⟨rfl, ?_⟩⟩ fun reply _ _ => ?_
        · simp [Seen.saved, mine, own]
        · cases reply <;> exact fun _ _ different => nomatch different
    dsimp only
    cases readDates env dto with
    | error error => exact fun _ _ different => nomatch different
    | ok dates =>
      refine .ask trivial fun found seen moved => ?_
      obtain ⟨owned, rfl⟩ := moved
      cases found with
      | some existing =>
        have own : existing.userId = userId := owned existing rfl
        refine .ask ⟨rfl, existing, by simp, rfl, rfl⟩ fun saved seen moved => ?_
        obtain rfl : seen = _ := moved
        exact ends _ _ saved (by simp) own
      | none =>
        refine .ask rfl fun saved seen moved => ?_
        obtain rfl : seen = _ := moved
        exact ends _ _ saved (by simp) rfl

end Handlers

/-! ## One operation -/

inductive AccountEffect (env : AccountEnv) (s : Accounts) : (op : AccountOp) → op.Reply → Accounts → Prop
  | users {op : UsersOp} {choice : UsersChoice} {reply : op.Reply} {users : Table User}
    (performed : performUsers env.users op choice s.users = some (reply, users)) :
    AccountEffect env s (.users op) reply { s with users }
  | found (userId : Nat) : AccountEffect env s (.findProfile userId) (s.profiles.byKey userId) s
  | notInserted (profile : KycProfile) : AccountEffect env s (.insertProfile profile) none s
  | notSaved (profile : KycProfile) : AccountEffect env s (.saveProfile profile) none s
  | inserted {profile saved : KycProfile} {now : Time} {profiles : Table KycProfile}
    (inserted : s.profiles.insert? { profile with updatedAt := now } = some (saved, profiles)) :
    AccountEffect env s (.insertProfile profile) (some saved) { s with profiles }
  | saved {profile : KycProfile} {now : Time} {profiles : Table KycProfile}
    (updated : s.profiles.update? { profile with updatedAt := now } = some profiles) :
    AccountEffect env s (.saveProfile profile) (some { profile with updatedAt := now })
      { s with profiles }

section Operation

variable {env : AccountEnv} {s after : Accounts} {op : AccountOp} {reply : op.Reply}

theorem performAccount_effect {choice : AccountChoice}
    (performed : performAccount env op choice s = some (reply, after)) :
    AccountEffect env s op reply after := by
  cases op with
  | users op =>
    cases choice with
    | users choice =>
      obtain ⟨⟨_, users⟩, moved, same⟩ := Option.map_eq_some_iff.mp performed
      cases same
      exact .users moved
    | _ => cases performed
  | findProfile userId =>
    cases choice <;> cases performed
    exact .found userId
  | insertProfile profile =>
    cases choice with
    | updatedAt now =>
      simp only [performAccount] at performed
      split at performed
      · split at performed
        next inserted =>
          cases performed
          exact .inserted inserted
        next =>
          cases performed
          exact .notInserted profile
      · cases performed
        exact .notInserted profile
    | fails =>
      cases performed
      exact .notInserted profile
    | _ => cases performed
  | saveProfile profile =>
    cases choice with
    | updatedAt now =>
      simp only [performAccount] at performed
      split at performed
      · split at performed
        next updated =>
          cases performed
          exact .saved updated
        next =>
          cases performed
          exact .notSaved profile
      · cases performed
        exact .notSaved profile
    | fails =>
      cases performed
      exact .notSaved profile
    | _ => cases performed

theorem AccountEffect.stored (effect : AccountEffect env s op reply after) :
    ∀ user ∈ after.users, user ∈ s.users ∨
      (∃ given, op = .users (.insertUser given) ∧ user.hashedPin = given.hashedPin ∧
        user.kycStatus = given.kycStatus) ∨
      op = .users (.saveUser user) := by
  intro user stored
  cases effect with
  | users performed =>
    rcases performUsers_effect performed with
      rfl | ⟨given, now, saved, rfl, inserted⟩ | ⟨given, rfl, updated⟩
    · exact .inl stored
    · obtain ⟨rfl, _⟩ := Table.insert?_spec inserted
      rcases (Table.mem_insert? inserted).mp stored with old | rfl
      · exact .inl old
      · exact .inr (.inl ⟨given, rfl, rfl, rfl⟩)
    · rcases (Table.mem_update? updated).mp stored with ⟨old, _⟩ | ⟨rfl, _⟩
      · exact .inl old
      · exact .inr (.inr rfl)
  | _ => exact .inl stored

/-- A profile stays, and stays under review. -/
theorem AccountEffect.profiles {seen : Seen} (effect : AccountEffect env s op reply after)
    (permitted : SeenPermits seen op) {profile : KycProfile} (held : profile ∈ s.profiles)
    (found : ∀ old ∈ seen.profiles, ∃ row ∈ s.profiles, row.id = old.id ∧ row.userId = old.userId) :
    ∃ kept ∈ after.profiles, kept.id = profile.id ∧ kept.userId = profile.userId ∧
      (profile.status = .pendingReview → kept.status = .pendingReview) := by
  cases effect with
  | @inserted given saved now profiles inserted =>
    exact ⟨profile, (Table.mem_insert? inserted).mpr (.inl held), rfl, rfl, id⟩
  | @saved given now profiles updated =>
    by_cases own : profile.id = given.id
    · obtain ⟨review, old, mine, sameId, sameUser⟩ := permitted
      obtain ⟨row, stored, rowId, rowUser⟩ := found old mine
      have same : row = profile := Table.eq_of_id stored held (by
        calc row.id = old.id := rowId
          _ = profile.id := sameId.trans own.symm)
      subst same
      exact ⟨_, (Table.mem_update? updated).mpr (.inr ⟨rfl, row, stored, own⟩), own.symm,
        sameUser.symm.trans rowUser.symm, fun _ => review⟩
    · exact ⟨profile, (Table.mem_update? updated).mpr (.inl ⟨held, own⟩), rfl, rfl, id⟩
  | _ => exact ⟨profile, held, rfl, rfl, id⟩

end Operation

/-! ## Runs -/

section Runs

variable (env : AccountEnv) (calls : I → AccountCall) (before : Accounts)

/-- Where a request to set a PIN can be. -/
inductive Setting (sound : User → Prop) (userId : Nat) (pin : String) (salt : Bytes) :
    AccountHandler AccountAnswer → Prop
  | begun : Setting sound userId pin salt (setPin env userId pin salt)
  | known : Setting sound userId pin salt (servicePin env userId pin salt)
  | saving {user : User} (own : sound user) (mine : user.id = userId) (six : isPin pin = true) :
    Setting sound userId pin salt (savePin { user with hashedPin := some (hashPin env pin salt) })
  | ended (answer : AccountAnswer) : Setting sound userId pin salt (.done answer)

structure KnownTo (world : AccountWorld I) (seen : Seen) : Prop where
  users : ∀ user ∈ seen.users, Sound env calls before world user
  profiles : ∀ old ∈ seen.profiles,
    ∃ row ∈ world.shared.profiles, row.id = old.id ∧ row.userId = old.userId
  reviewed : ∀ userId ∈ seen.reviewed, UnderReview before world.shared userId

def Point (world : AccountWorld I) (i : I) (code : AccountHandler AccountAnswer) : Prop :=
  (∃ userId pin salt, calls i = .setPin userId pin salt ∧
    Setting env (Sound env calls before world) userId pin salt code) ∨
  ∃ seen, KnownTo env calls before world seen ∧
    TracksSeen seen (fun seen answer => Verified env (calls i) seen answer) code

structure AccountsKept (world : AccountWorld I) : Prop where
  rows : ∀ user ∈ world.shared.users, Sound env calls before world user
  points : ∀ i, Point env calls before world i (world.procs i)

/-- What is under review or has ended stays so. -/
structure Grows (world after : AccountWorld I) : Prop where
  profiles : ∀ profile ∈ world.shared.profiles, ∃ kept ∈ after.shared.profiles,
    kept.id = profile.id ∧ kept.userId = profile.userId ∧
      (profile.status = .pendingReview → kept.status = .pendingReview)
  ended : ∀ i answer, world.procs i = .done answer → after.procs i = .done answer

variable {env calls before} {world after : AccountWorld I}

section Growth

variable (grows : Grows world after)
include grows

theorem Grows.underReview {userId : Nat} (review : UnderReview before world.shared userId) :
    UnderReview before after.shared userId := by
  rcases review with initial | ⟨profile, held, mine, pending⟩
  · exact .inl initial
  · obtain ⟨kept, stored, _, same, still⟩ := grows.profiles profile held
    exact .inr ⟨kept, stored, same.trans mine, still pending⟩

theorem Grows.sound {user : User} (sound : Sound env calls before world user) :
    Sound env calls before after user where
  pin hash stored := (sound.pin hash stored).imp_right
    fun ⟨i, pin, salt, asked, six, same, ended⟩ =>
      ⟨i, pin, salt, asked, six, same, grows.ended i _ ended⟩
  kyc pending := grows.underReview (sound.kyc pending)

theorem Grows.knownTo {seen : Seen} (known : KnownTo env calls before world seen) :
    KnownTo env calls before after seen where
  users user mine := grows.sound (known.users user mine)
  profiles old mine := by
    obtain ⟨row, held, sameId, sameUser⟩ := known.profiles old mine
    obtain ⟨kept, stored, keptId, keptUser, _⟩ := grows.profiles row held
    exact ⟨kept, stored, keptId.trans sameId, keptUser.trans sameUser⟩
  reviewed userId mine := grows.underReview (known.reviewed userId mine)

theorem Grows.point {i : I} {code : AccountHandler AccountAnswer}
    (point : Point env calls before world i code) : Point env calls before after i code := by
  rcases point with ⟨userId, pin, salt, asked, setting⟩ | ⟨seen, known, tracks⟩
  · refine .inl ⟨userId, pin, salt, asked, ?_⟩
    cases setting with
    | begun => exact .begun
    | known => exact .known
    | saving own mine six => exact .saving (grows.sound own) mine six
    | ended answer => exact .ended answer
  · exact .inr ⟨seen, grows.knownTo known, tracks⟩

end Growth

section Step

variable {op : AccountOp} {reply : op.Reply}

/-- The reply to a permitted operation is what the handler then knows. -/
theorem AccountEffect.told {seen : Seen}
    (effect : AccountEffect env world.shared op reply after.shared)
    (permitted : SeenPermits seen op) (grows : Grows world after)
    (rows : ∀ user ∈ world.shared.users, Sound env calls before world user)
    (known : KnownTo env calls before world seen) :
    ∃ later, SeenBecomes seen op reply later ∧ KnownTo env calls before after later := by
  have later := grows.knownTo known
  have loads (found : Option User) (stored : ∀ user ∈ found, user ∈ world.shared.users) :
      KnownTo env calls before after { seen with users := found.toList ++ seen.users } := by
    refine ⟨fun user mine => ?_, later.profiles, later.reviewed⟩
    rcases List.mem_append.mp mine with new | old
    · exact grows.sound (rows user (stored user (by simpa using new)))
    · exact later.users user old
  have reviews (profile saved : KycProfile) (stored : ∃ row ∈ after.shared.profiles,
      row.userId = profile.userId ∧ row.status = .pendingReview) :
      KnownTo env calls before after (seen.saved profile (some saved)) := by
    refine ⟨later.users, later.profiles, fun userId mine => ?_⟩
    rcases List.mem_cons.mp mine with rfl | old
    · exact .inr stored
    · exact later.reviewed userId old
  generalize after.shared = s at effect reviews
  cases effect with
  | @users op choice reply users performed =>
    cases op with
    | findByFirebaseUid firebaseUid =>
      cases choice <;> cases performed
      exact ⟨_, rfl, loads _ fun user found => Table.mem_of_find? found⟩
    | findById id =>
      cases choice <;> cases performed
      exact ⟨_, ⟨fun user found => Table.id_of_get? found, rfl⟩,
        loads _ fun user found => Table.mem_of_get? found⟩
    | _ => exact ⟨seen, rfl, later⟩
  | found userId =>
    refine ⟨_, ⟨fun profile found => ?_, rfl⟩, later.users, fun old mine => ?_, later.reviewed⟩
    · exact Option.some.inj (Table.byKey_eq_some.mp found).2
    · rcases List.mem_append.mp mine with new | mine
      · have found : world.shared.profiles.byKey userId = some old := by simpa using new
        obtain ⟨kept, stored, sameId, sameUser, _⟩ :=
          grows.profiles old (Table.byKey_eq_some.mp found).1
        exact ⟨kept, stored, sameId, sameUser⟩
      · exact later.profiles old mine
  | notInserted profile => exact ⟨seen, rfl, later⟩
  | notSaved profile => exact ⟨seen, rfl, later⟩
  | @inserted profile saved now profiles inserted =>
    obtain ⟨rfl, _⟩ := Table.insert?_spec inserted
    exact ⟨_, rfl, reviews _ _
      ⟨_, (Table.mem_insert? inserted).mpr (.inr rfl), rfl, permitted⟩⟩
  | @saved profile now profiles updated =>
    obtain ⟨review, old, mine, sameId, _⟩ := permitted
    obtain ⟨row, stored, rowId, _⟩ := known.profiles old mine
    exact ⟨_, rfl, reviews _ _
      ⟨_, (Table.mem_update? updated).mpr (.inr ⟨rfl, row, stored, rowId.trans sameId⟩), rfl,
        review⟩⟩

theorem Grows.of_step [DecidableEq I] {i : I} {s : Accounts} {code : AccountHandler AccountAnswer}
    {next : op.Reply → AccountHandler AccountAnswer} (runs : world.procs i = .perform op next)
    (profiles : ∀ profile ∈ world.shared.profiles, ∃ kept ∈ s.profiles,
      kept.id = profile.id ∧ kept.userId = profile.userId ∧
        (profile.status = .pendingReview → kept.status = .pendingReview)) :
    Grows world ⟨s, Function.update world.procs i code⟩ where
  profiles := profiles
  ended j answer ended := by
    have other : j ≠ i := by
      rintro rfl
      simp [runs] at ended
    simpa [Function.update_of_ne other] using ended

/-- A saved row is sound when it is a loaded one, maybe with the status of a saved profile. -/
theorem KnownTo.saved {seen : Seen} (known : KnownTo env calls before world seen) {user : User}
    (permitted : SeenPermits seen (.users (.saveUser user))) :
    Sound env calls before world user := by
  obtain ⟨old, mine, sameId, samePin, status⟩ := permitted
  have sound := known.users old mine
  refine ⟨fun hash stored => ?_, fun pending => ?_⟩
  · rw [← sameId]
    exact sound.pin hash (samePin.trans stored)
  · rcases status with same | ⟨_, reviewed⟩
    · rw [← sameId]
      exact sound.kyc (same.trans pending)
    · exact known.reviewed _ reviewed

theorem sound_inserted {user given : User}
    (permitted : given.hashedPin = none ∧ given.kycStatus = "pending")
    (pin : user.hashedPin = given.hashedPin) (status : user.kycStatus = given.kycStatus) :
    Sound env calls before world user := by
  refine ⟨fun hash stored => ?_, fun pending => ?_⟩
  · rw [pin, permitted.1] at stored
    cases stored
  · rw [status, permitted.2] at pending
    exact absurd pending (by decide)

variable [DecidableEq I]

omit [DecidableEq I] in
theorem AccountEffect.foundById {s : Accounts} {id : Nat} {found : Option User}
    (effect : AccountEffect env world.shared (.users (.findById id)) found s) :
    s = world.shared ∧ ∀ user ∈ found, user ∈ world.shared.users ∧ user.id = id := by
  cases effect with
  | @users _ choice _ _ performed =>
    cases choice <;> cases performed
    exact ⟨rfl, fun user found => ⟨Table.mem_of_get? found, Table.id_of_get? found⟩⟩

omit [DecidableEq I] in
theorem AccountEffect.notSavedUser {s : Accounts} {user : User}
    (effect : AccountEffect env world.shared (.users (.saveUser user)) none s) :
    s = world.shared := by
  cases effect with
  | @users _ choice _ _ performed =>
    cases choice with
    | nothing =>
      simp only [performUsers] at performed
      split at performed
      · split at performed <;> cases performed
        rfl
      · cases performed
        rfl
    | fails =>
      cases performed
      rfl
    | createdAt now => cases performed

/-- Before its last step a request that sets a PIN has written nothing. -/
theorem AccountsKept.setPin (kept : AccountsKept env calls before world) {i : I} {userId : Nat}
    {pin : String} {salt : Bytes} (asked : calls i = .setPin userId pin salt)
    {code : AccountHandler AccountAnswer} (runs : world.procs i = code)
    (setting : Setting env (Sound env calls before world) userId pin salt code)
    {next : op.Reply → AccountHandler AccountAnswer} (asks : code = .perform op next)
    {s : Accounts} (effect : AccountEffect env world.shared op reply s) :
    AccountsKept env calls before ⟨s, Function.update world.procs i (next reply)⟩ := by
  have unchanged {code : AccountHandler AccountAnswer} (same : s.profiles = world.shared.profiles) :
      Grows world ⟨s, Function.update world.procs i code⟩ :=
    .of_step (runs.trans asks) fun profile held => ⟨profile, same ▸ held, rfl, rfl, id⟩
  have whole (rows : ∀ user ∈ s.users, Sound env calls before
        ⟨s, Function.update world.procs i (next reply)⟩ user)
      (grows : Grows world ⟨s, Function.update world.procs i (next reply)⟩)
      (setting : Setting env (Sound env calls before
        ⟨s, Function.update world.procs i (next reply)⟩) userId pin salt (next reply)) :
      AccountsKept env calls before ⟨s, Function.update world.procs i (next reply)⟩ := by
    refine ⟨rows, fun j => ?_⟩
    by_cases own : j = i
    · subst own
      have point : Point env calls before ⟨s, Function.update world.procs j (next reply)⟩ j
          (next reply) := .inl ⟨userId, pin, salt, asked, setting⟩
      simpa using point
    · simpa [Function.update_of_ne own] using grows.point (kept.points j)
  cases setting with
  | begun =>
    cases asks
    obtain ⟨rfl, _⟩ := effect.foundById
    refine whole (fun user stored => (unchanged rfl).sound (kept.rows user stored)) (unchanged rfl) ?_
    cases reply with
    | none => exact .ended _
    | some user => exact .known
  | known =>
    cases asks
    obtain ⟨rfl, found⟩ := effect.foundById
    refine whole (fun user stored => (unchanged rfl).sound (kept.rows user stored)) (unchanged rfl) ?_
    cases reply with
    | none => exact .ended _
    | some user =>
      obtain ⟨stored, mine⟩ := found user rfl
      dsimp only
      split
      · exact .ended _
      next six =>
        exact .saving ((unchanged rfl).sound (kept.rows user stored)) mine (by simpa using six)
  | @saving user own mine six =>
    cases asks
    cases reply with
    | none =>
      obtain rfl := effect.notSavedUser
      exact whole (fun user stored => (unchanged rfl).sound (kept.rows user stored))
        (unchanged rfl) (.ended _)
    | some saved =>
      have profiles : s.profiles = world.shared.profiles := by
        cases effect
        rfl
      refine whole (fun row stored => ?_) (unchanged profiles) (.ended _)
      rcases effect.stored row stored with old | ⟨_, different, _⟩ | same
      · exact (unchanged profiles).sound (kept.rows row old)
      · cases different
      · cases same
        refine ⟨fun hash same => .inr ⟨i, pin, salt, mine ▸ asked, six, ?_, ?_⟩,
          ((unchanged profiles).sound own).kyc⟩
        · exact (Option.some.inj same).symm
        · exact Function.update_self ..
  | ended answer => cases asks

theorem AccountsKept.step (kept : AccountsKept env calls before world) {i : I}
    {choice : AccountChoice}
    (fired : (Procedure.machine (performAccount env)).fire world i choice = some after) :
    AccountsKept env calls before after := by
  obtain ⟨s, code, stepped, rfl⟩ := Machine.fire_eq_some.mp fired
  obtain ⟨op, next, reply, runs, performed, rfl⟩ := Procedure.step_eq_some.mp stepped
  have effect := performAccount_effect performed
  rcases kept.points i with ⟨userId, pin, salt, asked, setting⟩ | ⟨seen, known, tracks⟩
  · exact kept.setPin asked rfl setting runs effect
  · rw [runs] at tracks
    obtain ⟨permitted, later⟩ := tracks
    have grows : Grows world ⟨s, Function.update world.procs i (next reply)⟩ :=
      .of_step runs fun profile held => effect.profiles permitted held known.profiles
    obtain ⟨seen', becomes, known'⟩ : ∃ later, SeenBecomes seen op reply later ∧
        KnownTo env calls before ⟨s, Function.update world.procs i (next reply)⟩ later :=
      AccountEffect.told effect permitted grows kept.rows known
    refine ⟨fun user stored => ?_, fun j => ?_⟩
    · rcases effect.stored user stored with old | ⟨given, rfl, pin, status⟩ | rfl
      · exact grows.sound (kept.rows user old)
      · exact sound_inserted permitted pin status
      · exact grows.sound (known.saved permitted)
    · by_cases own : j = i
      · subst own
        have point : Point env calls before ⟨s, Function.update world.procs j (next reply)⟩ j
            (next reply) := .inr ⟨seen', known', later reply seen' becomes⟩
        simpa using point
      · simpa [Function.update_of_ne own] using grows.point (kept.points j)

/-- What holds of the accounts holds after any number of steps of any requests. -/
theorem accountsKept_of_reaches {start : AccountWorld I}
    (called : ∀ i, start.procs i = (calls i).handler env)
    (reached : (Procedure.machine (performAccount env)).Reaches (fun _ _ _ => True) start world) :
    AccountsKept env calls start.shared world := by
  refine reached.invariant (AccountsKept env calls start.shared) ⟨fun user stored => ?_, fun i => ?_⟩
    fun world i choice after kept _ fired => kept.step fired
  · exact ⟨fun hash same => .inl ⟨user, stored, rfl, same⟩, fun pending =>
      .inl ⟨user, stored, rfl, pending⟩⟩
  · have nothing : KnownTo env calls start.shared start .nothing := by
      constructor <;> simp [Seen.nothing]
    rw [called i]
    unfold Point
    cases calls i with
    | users call => exact .inr ⟨.nothing, nothing, users_seen env call⟩
    | setPin userId pin salt => exact .inl ⟨userId, pin, salt, rfl, .begun⟩
    | verifyPin userId pin => exact .inr ⟨.nothing, nothing, verifyPin_seen env userId pin⟩
    | submitKyc userId dto now => exact .inr ⟨.nothing, nothing, submitKyc_seen env userId dto now⟩

/-- No two PINs have one key under a salt. -/
def Distinguishes (env : AccountEnv) : Prop :=
  ∀ salt pin pin', isPin pin = true → isPin pin' = true →
    env.scrypt pin salt = env.scrypt pin' salt → pin = pin'

theorem verified_pin_was_set {start : AccountWorld I} (distinguishes : Distinguishes env)
    (called : ∀ i, start.procs i = (calls i).handler env)
    (reached : (Procedure.machine (performAccount env)).Reaches (fun _ _ _ => True) start world)
    {i : I} {userId : Nat} {pin : String} (asked : calls i = .verifyPin userId pin)
    (six : isPin pin = true) (valid : world.procs i = .done (.ok (.valid true))) :
    (∃ user ∈ start.shared.users, user.id = userId ∧ ∃ hash ∈ user.hashedPin,
      verifyPinHash env pin hash = true) ∨
    ∃ j salt, calls j = .setPin userId pin salt ∧ world.procs j = .done (.ok .pinSet) := by
  have kept := accountsKept_of_reaches called reached
  rcases kept.points i with ⟨_, _, _, different, _⟩ | ⟨seen, known, tracks⟩
  · cases asked.symm.trans different
  · rw [valid] at tracks
    obtain ⟨user, mine, rfl, hash, stored, verifies⟩ := tracks userId pin asked rfl
    rcases (known.users user mine).pin hash stored with
      ⟨old, held, same, initial⟩ | ⟨j, pin', salt, asked', six', rfl, ended⟩
    · exact .inl ⟨old, held, same, hash, initial, verifies⟩
    · have key := (verifyPinHash_hashPin env pin pin' salt).mp verifies
      obtain rfl := distinguishes (toHex salt) pin' pin six' six key
      exact .inr ⟨j, salt, asked', ended⟩

theorem review_follows_profile {start : AccountWorld I}
    (called : ∀ i, start.procs i = (calls i).handler env)
    (reached : (Procedure.machine (performAccount env)).Reaches (fun _ _ _ => True) start world)
    {user : User} (stored : user ∈ world.shared.users)
    (pending : user.kycStatus = KycStatus.pendingReview.text) :
    UnderReview start.shared world.shared user.id :=
  ((accountsKept_of_reaches called reached).rows user stored).kyc pending

end Step

end Runs

/-! ## A sample run -/

def sampleSalt : Bytes := [0, 1, 2, 3, 4, 5, 6, 7, 8, 9, 10, 11, 12, 13, 14, 15]

-- The key of this PIN under this salt; no other key begins as it does.
def sampleScrypt (password salt : String) : Bytes :=
  if password = "135790" ∧ salt = "000102030405060708090a0b0c0d0e0f" then
    [212, 196, 108, 52, 253, 122, 245, 132, 244, 38, 48, 116, 85, 1, 31, 194, 117, 143, 88, 133, 136,
      91, 42, 204, 66, 200, 86, 94, 108, 179, 68, 32, 98, 40, 30, 14, 65, 242, 131, 16, 150, 127, 234,
      105, 216, 28, 42, 122, 24, 132, 191, 83, 16, 51, 25, 94, 254, 218, 254, 76, 208, 132, 193, 40]
  else 0 :: password.toUTF8.data.toList

def sampleAccounts : AccountEnv where
  users := ⟨id, id⟩
  scrypt := sampleScrypt
  parseDate text := if text = "1999-12-31" then some 946598400000 else none

theorem sampleAccounts_distinguishes : Distinguishes sampleAccounts := by
  intro salt pin pin' _ _ same
  simp only [sampleAccounts, sampleScrypt] at same
  split at same <;> split at same
  next first second => exact first.1.trans second.1.symm
  next => simp at same
  next => simp at same
  next =>
    have bytes := (List.cons.inj same).2
    exact String.toByteArray_inj.mp (ByteArray.ext (Array.toList_inj.mp bytes))

def identityCard : SubmitKycDto where
  fullName := " Nguyen An "
  nationalId := "001099012345"
  dateOfBirth := "1999-12-31"
  idIssueDate := none
  idIssuePlace := some " "
  residentialAddress := "Ha Noi"

def sampleCalls (i : Nat) : AccountCall :=
  match i with
  | 0 => .users (.upsertFromFirebase ⟨"an", none, some "0912345678", none⟩)
  | 1 => .setPin 0 "135790" sampleSalt
  | 2 => .verifyPin 0 "135790"
  | _ => .submitKyc 0 identityCard 7

def noAccounts : AccountWorld Nat where
  shared := ⟨.empty, .empty⟩
  procs i := (sampleCalls i).handler sampleAccounts

theorem noAccounts_called (i : Nat) :
    noAccounts.procs i = (sampleCalls i).handler sampleAccounts := rfl

def pinAndReview : List (Nat × AccountChoice) :=
  [(0, .users .nothing), (0, .users (.createdAt 1)),
    (1, .users .nothing), (1, .users .nothing), (1, .users .nothing),
    (3, .users .nothing), (3, .nothing), (3, .updatedAt 8), (3, .users .nothing),
    (2, .users .nothing)]

def answerOf : AccountHandler AccountAnswer → Option AccountAnswer
  | .done answer => some answer
  | .perform _ _ => none

theorem answerOf_eq_some {code : AccountHandler AccountAnswer} {answer : AccountAnswer}
    (ended : answerOf code = some answer) : code = .done answer := by
  cases code <;> cases ended
  rfl

/-- The run ends with a valid answer and the row of its user under review. -/
theorem pinAndReview_ends :
    ((Procedure.machine (performAccount sampleAccounts)).run noAccounts pinAndReview).map
      (fun world => (answerOf (world.procs 2),
        world.shared.users.rows.map fun user => (user.id, user.kycStatus))) =
      some (some (.ok (.valid true)), [(0, "pending_review")]) := by
  decide +kernel

theorem verified_pin_was_set_an :
    ∃ world, (Procedure.machine (performAccount sampleAccounts)).run noAccounts pinAndReview =
        some world ∧
      ((∃ user ∈ noAccounts.shared.users, user.id = 0 ∧ ∃ hash ∈ user.hashedPin,
        verifyPinHash sampleAccounts "135790" hash = true) ∨
      ∃ j salt, sampleCalls j = .setPin 0 "135790" salt ∧ world.procs j = .done (.ok .pinSet)) := by
  obtain ⟨world, ran, ends⟩ := Option.map_eq_some_iff.mp pinAndReview_ends
  have ended := answerOf_eq_some (Prod.mk.inj ends).1
  have asked : sampleCalls 2 = .verifyPin 0 "135790" := rfl
  exact ⟨world, ran, verified_pin_was_set sampleAccounts_distinguishes noAccounts_called
    (Machine.Reaches.refl.run ran) asked (by decide) ended⟩

theorem review_follows_profile_an :
    ∃ world, (Procedure.machine (performAccount sampleAccounts)).run noAccounts pinAndReview =
        some world ∧ UnderReview noAccounts.shared world.shared 0 := by
  obtain ⟨world, ran, ends⟩ := Option.map_eq_some_iff.mp pinAndReview_ends
  have rows := (Prod.mk.inj ends).2
  obtain ⟨user, stored, same⟩ := List.mem_map.mp (rows ▸ List.mem_singleton_self (0, "pending_review"))
  obtain ⟨mine, pending⟩ := Prod.mk.inj same
  have reviewed : UnderReview noAccounts.shared world.shared user.id :=
    review_follows_profile noAccounts_called (Machine.Reaches.refl.run ran) stored pending
  rw [mine] at reviewed
  exact ⟨world, ran, reviewed⟩

end Kufi.Auth

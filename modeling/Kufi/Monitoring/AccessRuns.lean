import Kufi.Monitoring.AdminAccess
import Kufi.Shared.Servers

set_option autoImplicit false

/-!
# Who administers

What holds over any number of requests to the monitoring backend, operation by
operation: where the authority of an account comes from, and what becomes of an
account that is deactivated.
-/

namespace Kufi.Monitoring

open Shared

/-- The authority was there before, or a handler has given it. -/
def Authorised (before : AdminState) (granted : List (Authority × AuthenticatedUser))
    (authority : Authority) : Prop :=
  (∃ row ∈ before.users, row.authority = authority) ∨ ∃ actor, (authority, actor) ∈ granted

/-- The user of an active account with such an authority. -/
def Holder (before : AdminState) (granted : List (Authority × AuthenticatedUser))
    (user : AuthenticatedUser) : Prop :=
  ∃ row : AdminUserRow, row.isActive = true ∧ Authorised before granted row.authority ∧
    user = toAuthenticatedUser (AdminUser.load before.roles row)

structure AccessKept (before s : AdminState) : Prop where
  roles : s.roles = before.roles
  rows : ∀ row ∈ s.users, Authorised before s.granted row.authority
  -- whoever gives an authority has one from before or from an earlier gift
  granted : ∀ prior grant later, s.granted = prior ++ grant :: later →
    Holder before prior grant.2 ∧ Permission.adminUsersManage ∈ grant.2.permissions
  entered : ∀ entry ∈ s.entered, (entry.1.isPublic = true ∧ entry.2 = none) ∨
    ∃ user, entry.2 = some user ∧ Holder before s.granted user ∧
      ∀ permission ∈ entry.1.requiredPermissions, permission ∈ user.permissions

/-- No barred account is made active or gets a token. -/
structure BarredKept (barred : Nat → Prop) (before s : AdminState) : Prop where
  known : ∀ id, barred id → id < s.users.next
  rows : ∀ row ∈ before.users, barred row.id → row.isActive = false
  granted : ∀ grant ∈ s.granted, barred grant.1.userId → grant.1.isActive = false
  tokens : ∀ token ∈ s.tokens, barred token.2 → token ∈ before.tokens

/-- The user of an active account among these. -/
def UserOf (loaded : List AdminUser) (user : AuthenticatedUser) : Prop :=
  ∃ account ∈ loaded, account.isActive = true ∧ user = toAuthenticatedUser account

-- A handler knows the accounts it has loaded.
def accessRules (barred : Nat → Prop) (before : AdminState) :
    Discipline AdminOp AdminOp.Reply AdminState (List AdminUser) where
  inv s := AccessKept before s ∧ BarredKept barred before s
  holds s loaded := ∀ account ∈ loaded, ∃ row, account = AdminUser.load before.roles row ∧
    Authorised before s.granted row.authority
  permitted loaded
    | .enter route user => (route.isPublic = true ∧ user = none) ∨
      ∃ actor, user = some actor ∧ UserOf loaded actor ∧
        ∀ permission ∈ route.requiredPermissions, permission ∈ actor.permissions
    | .insertUser actor _ => UserOf loaded actor ∧ Permission.adminUsersManage ∈ actor.permissions
    | .saveUser none user => ∃ account ∈ loaded, account.store.authority = user.store.authority
    | .saveUser (some actor) user =>
      (UserOf loaded actor ∧ Permission.adminUsersManage ∈ actor.permissions) ∧
        (barred user.id → user.isActive = true →
          ∃ account ∈ loaded, account.id = user.id ∧ account.isActive = true)
    | .issueAccessToken user => ∃ account ∈ loaded, account.id = user.id ∧ account.isActive = true
    | _ => True
  becomes loaded
    | .findUserById id, found, after =>
      (∀ account ∈ found, account.id = id) ∧ after = found.toList ++ loaded
    | .findUserByEmail _, found, after => after = found.toList ++ loaded
    | .saveUser _ user, saved, after => (∀ kept ∈ saved, kept = user) ∧ after = loaded
    | _, _, after => after = loaded

/-! ## One operation -/

@[simp] theorem store_load (roles : List AdminRoleRow) (row : AdminUserRow) :
    (AdminUser.load roles row).store = row := by
  simp [AdminUser.load, AdminUser.store, write_read]

theorem UserOf.mono {loaded more : List AdminUser} {user : AuthenticatedUser}
    (known : UserOf loaded user) (included : ∀ account ∈ loaded, account ∈ more) :
    UserOf more user := by
  obtain ⟨account, mine, active, same⟩ := known
  exact ⟨account, included account mine, active, same⟩

section Growth

variable {barred : Nat → Prop} {before s : AdminState}
  {granted more : List (Authority × AuthenticatedUser)}

theorem Authorised.mono {authority : Authority} (authorised : Authorised before granted authority)
    (grown : ∀ grant ∈ granted, grant ∈ more) : Authorised before more authority := by
  rcases authorised with initial | ⟨actor, held⟩
  · exact .inl initial
  · exact .inr ⟨actor, grown _ held⟩

theorem Holder.mono {user : AuthenticatedUser} (holder : Holder before granted user)
    (grown : ∀ grant ∈ granted, grant ∈ more) : Holder before more user := by
  obtain ⟨row, active, authorised, same⟩ := holder
  exact ⟨row, active, authorised.mono grown, same⟩

theorem UserOf.holder {loaded : List AdminUser} {user : AuthenticatedUser}
    (known : UserOf loaded user) (holds : (accessRules barred before).holds s loaded) :
    Holder before s.granted user := by
  obtain ⟨account, mine, active, rfl⟩ := known
  obtain ⟨row, rfl, authorised⟩ := holds account mine
  exact ⟨row, active, authorised, rfl⟩

theorem mem_grant (s : AdminState) (actor : Option AuthenticatedUser) (row : AdminUserRow) :
    ∀ grant ∈ s.granted, grant ∈ s.grant actor row := by
  simp +contextual [AdminState.grant]

theorem BarredKept.inactive (outside : BarredKept barred before s) {authority : Authority}
    (authorised : Authorised before s.granted authority) (isBarred : barred authority.userId) :
    authority.isActive = false := by
  rcases authorised with ⟨row, held, rfl⟩ | ⟨actor, held⟩
  · exact outside.rows row held isBarred
  · exact outside.granted _ held isBarred

theorem BarredKept.loaded (outside : BarredKept barred before s) {loaded : List AdminUser}
    (holds : (accessRules barred before).holds s loaded) {account : AdminUser}
    (mine : account ∈ loaded) (isBarred : barred account.id) : account.isActive = false := by
  obtain ⟨row, rfl, authorised⟩ := holds account mine
  exact outside.inactive authorised isBarred

/-- A row is written, by the user of the request or with an authority that it had. -/
theorem AccessKept.write {users : Table AdminUserRow} (kept : AccessKept before s)
    {actor : Option AuthenticatedUser} {row : AdminUserRow}
    (rows : ∀ other ∈ users, other ∈ s.users ∨ other = row)
    (manager : ∀ user ∈ actor,
      Holder before s.granted user ∧ Permission.adminUsersManage ∈ user.permissions)
    (known : actor = none → Authorised before s.granted row.authority) :
    AccessKept before { s with users, granted := s.grant actor row } where
  roles := kept.roles
  rows other held := by
    rcases rows other held with old | rfl
    · exact (kept.rows other old).mono (mem_grant s actor row)
    · cases actor with
      | none => exact (known rfl).mono (mem_grant s none other)
      | some user => exact .inr ⟨user, by simp [AdminState.grant]⟩
  granted prior grant later split := by
    cases actor with
    | none => exact kept.granted prior grant later (by simpa [AdminState.grant] using split)
    | some user =>
      -- the last gift is the new one
      simp only [AdminState.grant, Option.map_some, Option.toList_some] at split
      rcases List.eq_nil_or_concat later with rfl | ⟨front, last, rfl⟩
      · obtain ⟨rfl, same⟩ := List.append_inj' split rfl
        cases same
        exact manager user rfl
      · rw [List.concat_eq_append, ← List.cons_append, ← List.append_assoc] at split
        exact kept.granted prior grant front (List.append_inj' split rfl).1
  entered entry held := (kept.entered entry held).imp_right fun ⟨user, same, holder, all⟩ =>
    ⟨user, same, holder.mono (mem_grant s actor row), all⟩

theorem BarredKept.write {users : Table AdminUserRow} (kept : BarredKept barred before s)
    {actor : Option AuthenticatedUser} {row : AdminUserRow} (next : s.users.next ≤ users.next)
    (inactive : barred row.id → row.isActive = false) :
    BarredKept barred before { s with users, granted := s.grant actor row } where
  known id isBarred := (kept.known id isBarred).trans_le next
  rows := kept.rows
  granted grant held := by
    rcases List.mem_append.mp held with old | new
    · exact kept.granted grant old
    · simp only [Option.mem_toList, Option.map_eq_some_iff] at new
      obtain ⟨user, -, rfl⟩ := new
      exact inactive
  tokens := kept.tokens

end Growth

section Rules

variable (barred : Nat → Prop) (before : AdminState)

theorem accessRules_kept : (accessRules barred before).Kept performAdmin := by
  intro s loaded op choice reply after ⟨access, outside⟩ holds permitted performed
  have learns : ∀ found : Option AdminUserRow, (∀ row ∈ found, row ∈ s.users) →
      (accessRules barred before).holds s
        ((found.map (AdminUser.load s.roles)).toList ++ loaded) := by
    intro found stored account mine
    simp only [List.mem_append, Option.mem_toList, Option.map_eq_some_iff] at mine
    rcases mine with ⟨row, same, rfl⟩ | mine
    · exact ⟨row, by rw [access.roles], access.rows row (stored row same)⟩
    · exact holds account mine
  cases performAdmin_moves performed with
  | byId id =>
    refine ⟨⟨access, outside⟩, fun other held => held, _, ⟨fun account found => ?_, rfl⟩,
      learns _ fun row found => Table.mem_of_get? found⟩
    obtain ⟨row, same, rfl⟩ := Option.map_eq_some_iff.mp found
    exact Table.id_of_get? same
  | byEmail email =>
    exact ⟨⟨access, outside⟩, fun other held => held, _, rfl,
      learns _ fun row found => (Table.byKey_eq_some.mp found).1⟩
  | issued user token =>
    refine ⟨⟨⟨access.roles, access.rows, access.granted, access.entered⟩, outside.known,
      outside.rows, outside.granted, fun held mine isBarred => ?_⟩, fun other held => held, _, rfl,
      holds⟩
    rcases List.mem_append.mp mine with old | new
    · exact outside.tokens held old isBarred
    · simp only [List.mem_singleton] at new
      subst new
      obtain ⟨account, known, same, active⟩ := permitted
      simp [outside.loaded holds known (same ▸ isBarred)] at active
  | entered route user =>
    refine ⟨⟨⟨access.roles, access.rows, access.granted, fun entry held => ?_⟩, outside.known,
      outside.rows, outside.granted, outside.tokens⟩, fun other held => held, _, rfl, holds⟩
    rcases List.mem_append.mp held with old | new
    · exact access.entered entry old
    · simp only [List.mem_singleton] at new
      subst new
      rcases permitted with isPublic | ⟨actor, same, known, all⟩
      · exact .inl isPublic
      · have holder : Holder before s.granted actor := known.holder holds
        exact .inr ⟨actor, same, holder, all⟩
  | @inserted actor user saved users stored =>
    obtain ⟨fresh, rows, next, _⟩ := Table.insert?_spec stored
    refine ⟨⟨access.write (fun row held => ?_) (fun user same => ?_) nofun,
      outside.write (by omega) fun isBarred => ?_⟩, fun other held account mine => ?_, _, rfl,
      fun account mine => ?_⟩
    · simpa [Table.mem_def, rows] using held
    · cases same
      exact permitted.imp_left (·.holder holds)
    · have id : saved.id = s.users.next := by rw [fresh]; rfl
      have := outside.known _ isBarred
      omega
    · exact (held account mine).imp fun row => And.imp_right (·.mono (mem_grant s _ saved))
    · exact (holds account mine).imp fun row => And.imp_right (·.mono (mem_grant s _ saved))
  | @saved actor user users stored =>
    have next : s.users.next ≤ users.next := (Table.update?_spec stored).2.1.ge
    refine ⟨⟨access.write (fun row held => ?_) (fun manager same => ?_) fun same => ?_,
      outside.write next fun isBarred => ?_⟩, fun other held account mine => ?_, _,
      ⟨by simp, rfl⟩, fun account mine => ?_⟩
    · exact ((Table.mem_update? stored).mp held).imp And.left And.left
    · cases same
      exact permitted.1.imp_left (·.holder holds)
    · subst same
      obtain ⟨account, mine, authority⟩ := permitted
      obtain ⟨row, rfl, authorised⟩ := holds account mine
      rwa [← authority, store_load]
    · cases actor with
      | none =>
        obtain ⟨account, mine, authority⟩ := permitted
        obtain ⟨row, rfl, authorised⟩ := holds account mine
        rw [store_load] at authority
        exact outside.inactive (authority ▸ authorised) isBarred
      | some actor =>
        refine Bool.eq_false_iff.mpr fun activated => ?_
        obtain ⟨account, mine, id, active⟩ := permitted.2 isBarred activated
        simp [outside.loaded holds mine (id ▸ isBarred)] at active
    · exact (held account mine).imp fun row => And.imp_right (·.mono (mem_grant s _ user.store))
    · exact (holds account mine).imp fun row => And.imp_right (·.mono (mem_grant s _ user.store))
  | unsaved actor user =>
    exact ⟨⟨access, outside⟩, fun other held => held, _, ⟨by simp, rfl⟩, holds⟩
  | _ => exact ⟨⟨access, outside⟩, fun other held => held, _, rfl, holds⟩

/-! ## What a handler does -/

abbrev TracksAccess {A : Type} (loaded : List AdminUser) (post : List AdminUser → A → Prop)
    (handler : AdminHandler A) : Prop :=
  handler.Tracks (accessRules barred before).permitted (accessRules barred before).becomes post
    loaded

variable {barred before} {loaded : List AdminUser}

theorem jwtAuthGuard_tracks (request : Request) :
    TracksAccess barred before loaded
      (fun after result => ∀ user, result = .ok user →
        request.route.isPublic = true ∧ user = none ∨
          ∃ actor, user = some actor ∧ UserOf after actor)
      (jwtAuthGuard request) := by
  unfold jwtAuthGuard
  split_ifs with isPublic
  · intro user same
    cases same
    exact .inl ⟨isPublic, rfl⟩
  · split
    · exact nofun
    · exact nofun
    · split
      · split_ifs
        · exact nofun
        · refine .ask trivial fun subject after moved => ?_
          cases subject with
          | none => exact nofun
          | some subject =>
            refine .ask trivial fun found after moved => ?_
            cases found with
            | none => exact nofun
            | some account =>
              obtain ⟨-, rfl⟩ := moved
              dsimp only
              split_ifs with active
              · intro user same
                cases same
                exact .inr ⟨_, rfl, account, by simp, active, rfl⟩
              · exact nofun
      · exact nofun

theorem permissionsGuard_ok {route : Route} {user : Option AuthenticatedUser}
    (passed : permissionsGuard route user = .ok ()) :
    route.requiredPermissions = [] ∨ ∃ actor, user = some actor ∧
      ∀ permission ∈ route.requiredPermissions, permission ∈ actor.permissions := by
  unfold permissionsGuard at passed
  split_ifs at passed with unneeded
  · exact .inl unneeded
  · cases user with
    | none => cases passed
    | some actor =>
      simp only at passed
      split_ifs at passed with all
      exact .inr ⟨actor, rfl, by simpa using all⟩

theorem login_tracks (env : AdminEnv) (dto : LoginDto) :
    TracksAccess barred before loaded (fun _ _ => True) (login env dto) := by
  refine .ask trivial fun found after moved => ?_
  cases found with
  | none => trivial
  | some account =>
    obtain rfl := moved
    dsimp only
    split_ifs with inactive wrong
    · trivial
    · trivial
    · refine .ask trivial fun now after moved => ?_
      obtain rfl := moved
      refine .ask ⟨account, by simp, rfl⟩ fun saved after moved => ?_
      cases saved with
      | none => trivial
      | some saved =>
        obtain ⟨same, rfl⟩ := moved
        obtain rfl := same saved rfl
        refine .ask ⟨account, by simp, rfl, by simpa using inactive⟩ fun token after _ => ?_
        cases token <;> trivial

theorem createUser_tracks (env : AdminEnv) (dto : CreateAdminUserDto) {actor : AuthenticatedUser}
    (known : UserOf loaded actor) (manager : Permission.adminUsersManage ∈ actor.permissions) :
    TracksAccess barred before loaded (fun _ _ => True) (createUser env dto actor) := by
  refine .ask trivial fun found after moved => ?_
  obtain rfl := moved
  cases found with
  | some account => trivial
  | none =>
    refine .ask trivial fun role after moved => ?_
    obtain rfl := moved
    cases role with
    | none => trivial
    | some role =>
      refine .ask trivial fun passwordHash after moved => ?_
      obtain rfl := moved
      refine .ask ⟨known, manager⟩ fun saved after _ => ?_
      cases saved <;> trivial

theorem withEmail_tracks (env : AdminEnv) (dto : UpdateAdminUserDto) (user : AdminUser) :
    TracksAccess barred before loaded
      (fun after result => (∀ account ∈ loaded, account ∈ after) ∧
        ∀ changed, result = .ok changed → changed.id = user.id ∧ changed.isActive = user.isActive)
      (withEmail env dto user) := by
  unfold withEmail
  split
  · exact ⟨fun account mine => mine, fun changed same => by cases same; exact ⟨rfl, rfl⟩⟩
  · split_ifs with unchanged
    · exact ⟨fun account mine => mine, fun changed same => by cases same; exact ⟨rfl, rfl⟩⟩
    · refine .ask trivial fun found after moved => ?_
      obtain rfl := moved
      have grows : ∀ account ∈ loaded, account ∈ found.toList ++ loaded := by simp +contextual
      cases found with
      | some other => exact ⟨grows, nofun⟩
      | none => exact ⟨grows, fun changed same => by cases same; exact ⟨rfl, rfl⟩⟩

theorem withRole_tracks (dto : UpdateAdminUserDto) (user : AdminUser) :
    TracksAccess barred before loaded
      (fun after result => after = loaded ∧
        ∀ changed, result = .ok changed → changed.id = user.id ∧ changed.isActive = user.isActive)
      (withRole dto user) := by
  unfold withRole
  split
  · exact ⟨rfl, fun changed same => by cases same; exact ⟨rfl, rfl⟩⟩
  · split_ifs with unchanged
    · exact ⟨rfl, fun changed same => by cases same; exact ⟨rfl, rfl⟩⟩
    · refine .ask trivial fun role after moved => ?_
      obtain rfl := moved
      cases role with
      | none => exact ⟨rfl, nofun⟩
      | some role => exact ⟨rfl, fun changed same => by cases same; exact ⟨rfl, rfl⟩⟩

theorem withPassword_tracks (dto : UpdateAdminUserDto) (user : AdminUser) :
    TracksAccess barred before loaded
      (fun after changed => after = loaded ∧ changed.id = user.id ∧
        changed.isActive = user.isActive)
      (withPassword dto user) := by
  unfold withPassword
  split
  · exact ⟨rfl, rfl, rfl⟩
  · refine .ask trivial fun passwordHash after moved => ?_
    exact ⟨moved, rfl, rfl⟩

theorem updateUser_tracks (env : AdminEnv) {actor : AuthenticatedUser} {id : Nat}
    {dto : UpdateAdminUserDto} (known : UserOf loaded actor)
    (manager : Permission.adminUsersManage ∈ actor.permissions)
    (stays : barred id → dto.isActive ≠ some true) :
    TracksAccess barred before loaded (fun _ _ => True) (updateUser env actor id dto) := by
  refine .ask trivial fun found after moved => ?_
  cases found with
  | none => trivial
  | some account =>
    obtain ⟨own, rfl⟩ := moved
    refine .bind (withEmail_tracks env dto account) fun result after ⟨grows, email⟩ => ?_
    cases result with
    | error error => trivial
    | ok user =>
      have stored : account ∈ after := grows account (by simp)
      have known : UserOf after actor := known.mono fun other mine => grows other (by simp [mine])
      refine .bind (withRole_tracks dto user) fun result after ⟨same, role⟩ => ?_
      subst same
      cases result with
      | error error => trivial
      | ok changed =>
        refine .bind (withPassword_tracks dto (withProfile dto changed)) fun last after written => ?_
        obtain ⟨same, lastId, lastActive⟩ := written
        subst same
        obtain ⟨userId, userActive⟩ := email user rfl
        obtain ⟨changedId, changedActive⟩ := role changed rfl
        have sameId : last.id = account.id := lastId.trans (changedId.trans userId)
        have active : last.isActive = dto.isActive.getD account.isActive := by
          rw [lastActive, ← userActive, ← changedActive]
          rfl
        refine .ask ⟨⟨known, manager⟩, fun isBarred activated => ?_⟩ fun saved after _ => ?_
        · refine ⟨account, stored, sameId.symm, ?_⟩
          have unasked := stays (own account rfl ▸ sameId ▸ isBarred)
          cases asked : dto.isActive with
          | none => simpa [asked, activated] using active.symm
          | some value =>
            have on : value = true := by simpa [asked, activated] using active.symm
            exact absurd (asked.trans (congrArg some on)) unasked
        · cases saved <;> trivial

/-- The request does not ask for a barred account to be activated. -/
def Request.KeepsOut (barred : Nat → Prop) (request : Request) : Prop :=
  match request.route with
  | .updateUser id dto => barred id → dto.isActive ≠ some true
  | _ => True

instance (barred : Nat → Prop) [DecidablePred barred] :
    DecidablePred (Request.KeepsOut barred) := fun request => by
  unfold Request.KeepsOut
  split <;> infer_instance

theorem serve_tracks (env : AdminEnv) {request : Request} (keepsOut : request.KeepsOut barred)
    {user : Option AuthenticatedUser}
    (allowed : request.route.isPublic = true ∧ user = none ∨
      ∃ actor, user = some actor ∧ UserOf loaded actor ∧
        ∀ permission ∈ request.route.requiredPermissions, permission ∈ actor.permissions) :
    TracksAccess barred before loaded (fun _ _ => True) (serve env request.route user) := by
  unfold serve
  split
  next dto _ => exact login_tracks env dto
  next dto actor route =>
    rw [route] at allowed
    rcases allowed with ⟨-, ⟨⟩⟩ | ⟨_, ⟨⟩, known, all⟩
    exact createUser_tracks env dto known (all _ (by simp [Route.requiredPermissions]))
  next id dto actor route =>
    rw [route] at allowed
    rcases allowed with ⟨-, ⟨⟩⟩ | ⟨_, ⟨⟩, known, all⟩
    exact updateUser_tracks env known (all _ (by simp [Route.requiredPermissions]))
      (by simpa [Request.KeepsOut, route] using keepsOut)
  next => trivial

theorem handle_follows (env : AdminEnv) {request : Request} (keepsOut : request.KeepsOut barred) :
    (accessRules barred before).Follows (handle env request) loaded := by
  refine .bind (jwtAuthGuard_tracks request) fun result after guarded => ?_
  cases result with
  | error error => trivial
  | ok user =>
    dsimp only
    split
    · trivial
    next passed =>
      have allowed : request.route.isPublic = true ∧ user = none ∨
          ∃ actor, user = some actor ∧ UserOf after actor ∧
            ∀ permission ∈ request.route.requiredPermissions, permission ∈ actor.permissions := by
        refine (guarded user rfl).imp_right fun ⟨actor, same, known⟩ => ⟨actor, same, known, ?_⟩
        rcases permissionsGuard_ok passed with none | ⟨other, equal, all⟩
        · simp [none]
        · cases same.symm.trans equal
          exact all
      refine .ask allowed fun _ after moved => ?_
      obtain rfl := moved
      exact serve_tracks env keepsOut allowed

end Rules

/-! ## Whole runs -/

abbrev Backend (I : Type) := World I AdminState (Server AdminOp AdminOp.Reply
  (Except AdminError Response))

variable {I : Type}

/-- Nothing is recorded yet and no request is being served. -/
structure Starts (world : Backend I) : Prop where
  entered : world.shared.entered = []
  granted : world.shared.granted = []
  idle : ∀ i, world.procs i = .idle

theorem Starts.accessKept {world : Backend I} (starts : Starts world) :
    AccessKept world.shared world.shared where
  roles := rfl
  rows row held := .inl ⟨row, held, rfl⟩
  granted := by simp [starts.granted]
  entered := by simp [starts.entered]

variable [DecidableEq I]

def plainAdmin : AdminEnv where
  toLowerCase := id
  compare password hash := password = hash

def adminRow (email : String) (isActive : Bool) (roleId : Nat) : AdminUserRow where
  id := 0
  email := email
  displayName := email
  title := ""
  passwordHash := "secret"
  locale := "vi"
  isActive := isActive
  extraPermissions := ""
  roleId := roleId
  lastLoginAt := none

/-- The owner, whose token is `owner`, and an observer who has been deactivated, with the token
`observer`. -/
def twoAdmins : Backend (Fin 2) where
  shared :=
    { users := ((Table.empty.insert? (adminRow "owner" true 1)).bind fun (_, users) =>
        (users.insert? (adminRow "observer" false 2)).map Prod.snd).getD .empty
      roles := [⟨1, "super_admin", "Super Admin", writeSimpleArray Permission.all⟩,
        ⟨2, "mobile_observer", "Mobile Observer", writeSimpleArray [Permission.mobileView]⟩]
      tokens := [("owner", 0), ("observer", 1)]
      entered := []
      granted := [] }
  procs _ := .idle

abbrev adminSteps (i : Fin 2) (choices : List AdminChoice) :
    List (Fin 2 × ServerMove Request AdminChoice) :=
  choices.map fun choice => (i, .next choice)

/-- An account that is inactive while nothing is served stays so until someone activates it: its
tokens open nothing, and it gets no other. -/
theorem deactivated_stays_out (env : AdminEnv) {start world : Backend I} (starts : Starts start)
    {row : AdminUserRow} (stored : row ∈ start.shared.users) (inactive : row.isActive = false)
    (reached : (servers (handle env) performAdmin).Reaches
      (Asked fun request => request.KeepsOut (· = row.id)) start world) :
    (∀ after ∈ world.shared.users, after.id = row.id → after.isActive = false) ∧
      (∀ route user, (route, some user) ∈ world.shared.entered → user.id ≠ row.id) ∧
        ∀ token, (token, row.id) ∈ world.shared.tokens → (token, row.id) ∈ start.shared.tokens := by
  have barred : BarredKept (· = row.id) start.shared start.shared :=
    { known := fun id same => same ▸ start.shared.users.fresh row stored
      rows := fun other held same => Table.eq_of_id held stored same ▸ inactive
      granted := by simp [starts.granted]
      tokens := fun token held _ => held }
  obtain ⟨access, outside⟩ := (accessRules_kept _ start.shared).invariant []
    (by simp [accessRules]) (fun request keepsOut => handle_follows env keepsOut)
    ⟨starts.accessKept, barred⟩ starts.idle reached
  refine ⟨fun after held same => outside.inactive (access.rows after held) same,
    fun route user held same => ?_, fun token held => outside.tokens _ held rfl⟩
  rcases access.entered _ held with ⟨-, ⟨⟩⟩ | ⟨_, ⟨⟩, ⟨holder, active, authorised, rfl⟩, -⟩
  have inactive := outside.inactive authorised same
  exact absurd (inactive.symm.trans active) nofun

/-- The observer shows an old token and tries to log in. -/
theorem deactivated_stays_out_observer :
    ∃ world, (servers (handle plainAdmin) performAdmin).checkedRun
        (Asked (Request.KeepsOut (· = 1))) twoAdmins
        ((0, .start ⟨some "Bearer observer", .mobileOverview⟩) ::
          adminSteps 0 [.nothing, .nothing] ++
          (1, .start ⟨none, .login ⟨"observer", "secret"⟩⟩) ::
            adminSteps 1 [.nothing, .nothing]) = some world ∧
      ∀ route user, (route, some user) ∈ world.shared.entered → user.id ≠ 1 := by
  have reached : ((servers (handle plainAdmin) performAdmin).checkedRun
      (Asked (Request.KeepsOut (· = 1))) twoAdmins
        ((0, .start ⟨some "Bearer observer", .mobileOverview⟩) ::
          adminSteps 0 [.nothing, .nothing] ++
          (1, .start ⟨none, .login ⟨"observer", "secret"⟩⟩) ::
            adminSteps 1 [.nothing, .nothing])).isSome := by
    decide +kernel
  obtain ⟨world, ran⟩ := Option.isSome_iff_exists.mp reached
  have stored : { adminRow "observer" false 2 with id := 1 } ∈ twoAdmins.shared.users := by
    rw [Table.mem_def]
    decide +kernel
  exact ⟨world, ran, (deactivated_stays_out plainAdmin ⟨rfl, rfl, fun _ => rfl⟩ stored rfl
    (Machine.Runs.checked .nil ran).reaches).2.1⟩

end Kufi.Monitoring

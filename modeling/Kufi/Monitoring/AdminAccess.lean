import Kufi.Shared.Procedure
import Kufi.Shared.Table
import Kufi.Shared.Text
import Kufi.Shared.Time

set_option autoImplicit false

/-!
# Admin accounts of the monitoring backend

Every request passes the two guards before its handler. A guard reads the
account again for each request; lists of permissions are kept in one column,
with commas between them.
-/

namespace Kufi.Monitoring

open Shared

/-! ## Tables -/

-- The columns of a row; `simple-array` columns as they are stored.
structure AdminUserRow where
  id : Nat
  email : String
  displayName : String
  title : String
  passwordHash : String
  locale : String
  isActive : Bool
  extraPermissions : String
  roleId : Nat
  lastLoginAt : Option Time
  deriving DecidableEq

instance : Row AdminUserRow String where
  id := AdminUserRow.id
  withId row n := { row with id := n }
  key row := some row.email
  id_withId _ _ := rfl
  key_withId _ _ := rfl

structure AdminRoleRow where
  id : Nat
  code : String
  name : String
  permissions : String
  deriving DecidableEq

/-- `DateUtils.stringToSimpleArray`. -/
def readSimpleArray (text : String) : List String :=
  if text.toList = [] then [] else (text.toList.splitOn ',').map String.ofList

/-- `DateUtils.simpleArrayToString`. -/
def writeSimpleArray (items : List String) : String :=
  String.ofList ([','].intercalate (items.map String.toList))

/-! ## Entities -/

structure AdminRole where
  id : Nat
  code : String
  name : String
  permissions : List String
  deriving DecidableEq

structure AdminUser where
  id : Nat
  email : String
  displayName : String
  title : String
  passwordHash : String
  locale : String
  isActive : Bool
  extraPermissions : List String
  roleId : Nat
  -- the eager relation
  role : Option AdminRole
  lastLoginAt : Option Time
  deriving DecidableEq

def AdminRole.load (row : AdminRoleRow) : AdminRole where
  id := row.id
  code := row.code
  name := row.name
  permissions := readSimpleArray row.permissions

def AdminUser.load (roles : List AdminRoleRow) (row : AdminUserRow) : AdminUser where
  id := row.id
  email := row.email
  displayName := row.displayName
  title := row.title
  passwordHash := row.passwordHash
  locale := row.locale
  isActive := row.isActive
  extraPermissions := readSimpleArray row.extraPermissions
  roleId := row.roleId
  role := (roles.find? (·.id = row.roleId)).map AdminRole.load
  lastLoginAt := row.lastLoginAt

def AdminUser.store (user : AdminUser) : AdminUserRow where
  id := user.id
  email := user.email
  displayName := user.displayName
  title := user.title
  passwordHash := user.passwordHash
  locale := user.locale
  isActive := user.isActive
  extraPermissions := writeSimpleArray user.extraPermissions
  roleId := user.roleId
  lastLoginAt := user.lastLoginAt

structure AuthenticatedUser where
  id : Nat
  email : String
  displayName : String
  title : String
  locale : String
  roleCode : String
  permissions : List String
  deriving DecidableEq

def toAuthenticatedUser (user : AdminUser) : AuthenticatedUser where
  id := user.id
  email := user.email
  displayName := user.displayName
  title := user.title
  locale := user.locale
  roleCode := (user.role.map AdminRole.code).getD "unknown"
  permissions := (((user.role.map AdminRole.permissions).getD [] ++ user.extraPermissions).eraseDups).filter
    (· ≠ "")

/-! ## Requests -/

namespace Permission

def dashboardView : String := "dashboard:view"
def metricsView : String := "metrics:view"
def chainView : String := "chain:view"
def logsView : String := "logs:view"
def auditView : String := "audit:view"
def adminUsersManage : String := "admin-users:manage"
def mobileView : String := "mobile:view"

def all : List String :=
  [dashboardView, metricsView, chainView, logsView, auditView, adminUsersManage, mobileView]

end Permission

structure LoginDto where
  email : String
  password : String

structure CreateAdminUserDto where
  email : String
  password : String
  displayName : String
  title : String
  roleId : Nat
  locale : Option String
  isActive : Option Bool
  extraPermissions : Option (List String)

structure UpdateAdminUserDto where
  email : Option String
  password : Option String
  displayName : Option String
  title : Option String
  roleId : Option Nat
  locale : Option String
  isActive : Option Bool
  extraPermissions : Option (List String)

inductive Route where
  | healthz
  | login (dto : LoginDto)
  | me
  | listUsers
  | listRoles
  | listPermissions
  | createUser (dto : CreateAdminUserDto)
  | updateUser (id : Nat) (dto : UpdateAdminUserDto)
  | auditLogs
  | logSources
  | logTail
  | monitoringOverview
  | timeseries
  | trends
  | services
  | chain
  | alerts
  | aml
  | amlAccountTransactions
  | amlScan
  | mobileOverview
  | mobileAlerts
  | mobileChain

/-- `@Public()`. -/
def Route.isPublic : Route → Bool
  | .healthz | .login _ => true
  | _ => false

/-- `@Permissions(..)`. -/
def Route.requiredPermissions : Route → List String
  | .healthz | .login _ | .me => []
  | .listUsers | .listRoles | .listPermissions | .createUser _ | .updateUser _ _ =>
    [Permission.adminUsersManage]
  | .auditLogs => [Permission.auditView]
  | .logSources | .logTail => [Permission.logsView]
  | .monitoringOverview | .alerts => [Permission.dashboardView]
  | .timeseries | .trends | .services | .aml | .amlAccountTransactions | .amlScan =>
    [Permission.metricsView]
  | .chain => [Permission.chainView]
  | .mobileOverview | .mobileAlerts | .mobileChain => [Permission.mobileView]

structure Request where
  authorization : Option String
  route : Route

structure AdminError where
  status : Nat
  message : String
  deriving DecidableEq

def unauthorized (message : String) : AdminError := ⟨401, message⟩
def forbidden (message : String) : AdminError := ⟨403, message⟩
def notFound (message : String) : AdminError := ⟨404, message⟩
def conflict (message : String) : AdminError := ⟨409, message⟩
def internal : AdminError := ⟨500, "Internal server error"⟩

inductive Response where
  | token (accessToken : String) (user : AuthenticatedUser)
  | created (createdBy : String) (user : AdminUser)
  | updated (user : AdminUser)
  -- what a handler reads that writes no account
  | served (user : Option AuthenticatedUser)

structure AdminEnv where
  toLowerCase : String → String
  -- `bcrypt.compare`
  compare : String → String → Bool

/-! ## Operations -/

inductive AdminOp where
  | verifyAccessToken (token : String)
  | findUserById (id : Nat)
  | findUserByEmail (email : String)
  | findRole (id : Nat)
  | now
  -- `bcrypt.hash`
  | hashPassword (password : String)
  | issueAccessToken (user : AdminUser)
  -- the guards let the request through to its handler
  | enter (route : Route) (user : Option AuthenticatedUser)
  | insertUser (actor : AuthenticatedUser) (user : AdminUser)
  -- `none` where the login saves
  | saveUser (actor : Option AuthenticatedUser) (user : AdminUser)

abbrev AdminOp.Reply : AdminOp → Type
  | .verifyAccessToken _ => Option Nat
  | .findUserById _ | .findUserByEmail _ => Option AdminUser
  | .findRole _ => Option AdminRole
  | .now => Time
  | .hashPassword _ => String
  | .issueAccessToken _ => Option String
  | .enter _ _ => Unit
  | .insertUser _ _ | .saveUser _ _ => Option AdminUser

abbrev AdminHandler := Procedure AdminOp AdminOp.Reply

abbrev askAdmin (op : AdminOp) : AdminHandler op.Reply := Procedure.ask op

inductive AdminChoice where
  | nothing
  | fails
  | time (now : Time)
  | text (text : String)

/-- What decides what an account may do. -/
structure Authority where
  userId : Nat
  email : String
  passwordHash : String
  isActive : Bool
  extraPermissions : String
  roleId : Nat
  deriving DecidableEq

def AdminUserRow.authority (row : AdminUserRow) : Authority where
  userId := row.id
  email := row.email
  passwordHash := row.passwordHash
  isActive := row.isActive
  extraPermissions := row.extraPermissions
  roleId := row.roleId

structure AdminState where
  users : Table AdminUserRow
  roles : List AdminRoleRow
  -- access tokens and their subjects
  tokens : List (String × Nat)
  -- the requests that guards have let through and the authorities that handlers have written,
  -- with the user of the request; records only
  entered : List (Route × Option AuthenticatedUser)
  granted : List (Authority × AuthenticatedUser)

def AdminState.grant (s : AdminState) (actor : Option AuthenticatedUser) (row : AdminUserRow) :
    List (Authority × AuthenticatedUser) :=
  s.granted ++ (actor.map fun actor => (row.authority, actor)).toList

def performAdmin : Performer AdminOp AdminOp.Reply AdminChoice AdminState
  | .verifyAccessToken token, .nothing, s => some (s.tokens.lookup token, s)
  | .verifyAccessToken _, .fails, s => some (none, s)
  | .findUserById id, .nothing, s =>
    some ((s.users.get? id).map (AdminUser.load s.roles), s)
  | .findUserByEmail email, .nothing, s =>
    some ((s.users.byKey email).map (AdminUser.load s.roles), s)
  | .findRole id, .nothing, s => some ((s.roles.find? (·.id = id)).map AdminRole.load, s)
  | .now, .time now, s => some (now, s)
  | .hashPassword _, .text hash, s => some (hash, s)
  -- one text is a token of one subject only
  | .issueAccessToken user, .text token, s =>
    if s.tokens.lookup token = none ∨ s.tokens.lookup token = some user.id then
      some (some token, { s with tokens := s.tokens ++ [(token, user.id)] })
    else none
  | .issueAccessToken _, .fails, s => some (none, s)
  | .enter route user, .nothing, s => some ((), { s with entered := s.entered ++ [(route, user)] })
  | .insertUser actor user, .nothing, s =>
    match s.users.insert? user.store with
    | some (saved, users) =>
      some (some { user with id := saved.id },
        { s with users, granted := s.grant (some actor) saved })
    | none => some (none, s)
  | .saveUser actor user, .nothing, s =>
    match s.users.update? user.store with
    | some users => some (some user, { s with users, granted := s.grant actor user.store })
    | none => some (none, s)
  | .insertUser _ _, .fails, s | .saveUser _ _, .fails, s => some (none, s)
  | _, _, _ => none

/-- What an operation does, by the reply it has given. -/
inductive AdminMoves (s : AdminState) : (op : AdminOp) → op.Reply → AdminState → Prop
  | verified (token : String) (subject : Option Nat) :
    AdminMoves s (.verifyAccessToken token) subject s
  | byId (id : Nat) :
    AdminMoves s (.findUserById id) ((s.users.get? id).map (AdminUser.load s.roles)) s
  | byEmail (email : String) :
    AdminMoves s (.findUserByEmail email) ((s.users.byKey email).map (AdminUser.load s.roles)) s
  | role (id : Nat) (found : Option AdminRole) : AdminMoves s (.findRole id) found s
  | time (now : Time) : AdminMoves s .now now s
  | hashed (password hash : String) : AdminMoves s (.hashPassword password) hash s
  | issued (user : AdminUser) (token : String) :
    AdminMoves s (.issueAccessToken user) (some token)
      { s with tokens := s.tokens ++ [(token, user.id)] }
  | unissued (user : AdminUser) : AdminMoves s (.issueAccessToken user) none s
  | entered (route : Route) (user : Option AuthenticatedUser) :
    AdminMoves s (.enter route user) () { s with entered := s.entered ++ [(route, user)] }
  | inserted (actor : AuthenticatedUser) {user : AdminUser} {saved : AdminUserRow}
      {users : Table AdminUserRow} (stored : s.users.insert? user.store = some (saved, users)) :
    AdminMoves s (.insertUser actor user) (some { user with id := saved.id })
      { s with users, granted := s.grant (some actor) saved }
  | uninserted (actor : AuthenticatedUser) (user : AdminUser) :
    AdminMoves s (.insertUser actor user) none s
  | saved (actor : Option AuthenticatedUser) {user : AdminUser} {users : Table AdminUserRow}
      (stored : s.users.update? user.store = some users) :
    AdminMoves s (.saveUser actor user) (some user)
      { s with users, granted := s.grant actor user.store }
  | unsaved (actor : Option AuthenticatedUser) (user : AdminUser) :
    AdminMoves s (.saveUser actor user) none s

theorem performAdmin_moves {s after : AdminState} {op : AdminOp} {choice : AdminChoice}
    {reply : op.Reply} (performed : performAdmin op choice s = some (reply, after)) :
    AdminMoves s op reply after := by
  cases op with
  | issueAccessToken user =>
    cases choice with
    | text token =>
      simp only [performAdmin] at performed
      split_ifs at performed
      cases performed
      exact .issued user token
    | fails =>
      cases performed
      exact .unissued user
    | _ => cases performed
  | insertUser actor user =>
    cases choice with
    | nothing =>
      simp only [performAdmin] at performed
      split at performed
      next saved users stored =>
        cases performed
        exact .inserted actor stored
      next =>
        cases performed
        exact .uninserted actor user
    | fails =>
      cases performed
      exact .uninserted actor user
    | _ => cases performed
  | saveUser actor user =>
    cases choice with
    | nothing =>
      simp only [performAdmin] at performed
      split at performed
      next users stored =>
        cases performed
        exact .saved actor stored
      next =>
        cases performed
        exact .unsaved actor user
    | fails =>
      cases performed
      exact .unsaved actor user
    | _ => cases performed
  | _ => cases choice <;> cases performed <;> constructor

/-! ## Guards -/

/-- `JwtAuthGuard` with `validateAccessToken`; a public route has no user. -/
def jwtAuthGuard (request : Request) :
    AdminHandler (Except AdminError (Option AuthenticatedUser)) :=
  if request.route.isPublic then pure (.ok none)
  else
    match request.authorization with
    | none => pure (.error (unauthorized "Missing Authorization header"))
    | some "" => pure (.error (unauthorized "Missing Authorization header"))
    | some header =>
      match (header.toList.splitOn ' ').map String.ofList with
      | scheme :: token :: _ =>
        if scheme ≠ "Bearer" ∨ token = "" then
          pure (.error (unauthorized "Malformed Authorization header"))
        else do
          match ← askAdmin (.verifyAccessToken token) with
          | none => pure (.error (unauthorized "Invalid access token"))
          | some subject =>
            match ← askAdmin (.findUserById subject) with
            | none => pure (.error (unauthorized "Account is inactive"))
            | some user =>
              if user.isActive then pure (.ok (some (toAuthenticatedUser user)))
              else pure (.error (unauthorized "Account is inactive"))
      | _ => pure (.error (unauthorized "Malformed Authorization header"))

def permissionsGuard (route : Route) (user : Option AuthenticatedUser) : Except AdminError Unit :=
  if route.requiredPermissions = [] then .ok ()
  else
    match user with
    | none => .error (forbidden "User is not authenticated")
    | some user =>
      if route.requiredPermissions.all (· ∈ user.permissions) then .ok ()
      else .error (forbidden "Insufficient permissions")

/-! ## Handlers -/

section Handlers

variable (env : AdminEnv)

def normalizedEmail (email : String) : String := env.toLowerCase (Text.trim email)

def login (dto : LoginDto) : AdminHandler (Except AdminError Response) := do
  match ← askAdmin (.findUserByEmail (normalizedEmail env dto.email)) with
  | none => pure (.error (unauthorized "Invalid credentials"))
  | some user =>
    if !user.isActive then pure (.error (unauthorized "Invalid credentials"))
    else if !env.compare dto.password user.passwordHash then
      pure (.error (unauthorized "Invalid credentials"))
    else do
      let now ← askAdmin .now
      let user := { user with lastLoginAt := some now }
      match ← askAdmin (.saveUser none user) with
      | none => pure (.error internal)
      | some user =>
        match ← askAdmin (.issueAccessToken user) with
        | none => pure (.error internal)
        | some accessToken => pure (.ok (.token accessToken (toAuthenticatedUser user)))

def createUser (dto : CreateAdminUserDto) (actor : AuthenticatedUser) :
    AdminHandler (Except AdminError Response) := do
  let email := normalizedEmail env dto.email
  match ← askAdmin (.findUserByEmail email) with
  | some _ => pure (.error (conflict "Email already exists"))
  | none =>
    match ← askAdmin (.findRole dto.roleId) with
    | none => pure (.error (notFound "Role not found"))
    | some role => do
      let passwordHash ← askAdmin (.hashPassword dto.password)
      match ← askAdmin (.insertUser actor
        { id := 0
          email := email
          displayName := Text.trim dto.displayName
          title := Text.trim dto.title
          passwordHash := passwordHash
          locale := Text.orElse (Text.trim (dto.locale.getD "")) "vi"
          isActive := dto.isActive.getD true
          extraPermissions := dto.extraPermissions.getD []
          roleId := role.id
          role := some role
          lastLoginAt := none }) with
      | none => pure (.error internal)
      | some saved => pure (.ok (.created actor.email saved))

-- An empty text counts as missing.
def given (text : Option String) : Option String := text.filter (· ≠ "")

def withEmail (dto : UpdateAdminUserDto) (user : AdminUser) :
    AdminHandler (Except AdminError AdminUser) :=
  match given dto.email with
  | none => pure (.ok user)
  | some email =>
    if normalizedEmail env email = user.email then pure (.ok user)
    else do
      match ← askAdmin (.findUserByEmail (normalizedEmail env email)) with
      | some _ => pure (.error (conflict "Email already exists"))
      | none => pure (.ok { user with email := normalizedEmail env email })

def withRole (dto : UpdateAdminUserDto) (user : AdminUser) :
    AdminHandler (Except AdminError AdminUser) :=
  match dto.roleId with
  | none => pure (.ok user)
  | some roleId =>
    if roleId = user.roleId then pure (.ok user)
    else do
      match ← askAdmin (.findRole roleId) with
      | none => pure (.error (notFound "Role not found"))
      | some role => pure (.ok { user with roleId := role.id, role := some role })

def withProfile (dto : UpdateAdminUserDto) (user : AdminUser) : AdminUser :=
  { user with
    displayName := ((given dto.displayName).map Text.trim).getD user.displayName
    title := ((given dto.title).map Text.trim).getD user.title
    locale := ((given dto.locale).map Text.trim).getD user.locale
    extraPermissions := dto.extraPermissions.getD user.extraPermissions
    isActive := dto.isActive.getD user.isActive }

def withPassword (dto : UpdateAdminUserDto) (user : AdminUser) : AdminHandler AdminUser :=
  match given dto.password with
  | none => pure user
  | some password => do
    let passwordHash ← askAdmin (.hashPassword password)
    pure { user with passwordHash }

def updateUser (actor : AuthenticatedUser) (id : Nat) (dto : UpdateAdminUserDto) :
    AdminHandler (Except AdminError Response) := do
  match ← askAdmin (.findUserById id) with
  | none => pure (.error (notFound "Admin user not found"))
  | some user =>
    match ← withEmail env dto user with
    | .error error => pure (.error error)
    | .ok user =>
      match ← withRole dto user with
      | .error error => pure (.error error)
      | .ok user => do
        let user ← withPassword dto (withProfile dto user)
        match ← askAdmin (.saveUser (some actor) user) with
        | none => pure (.error internal)
        | some saved => pure (.ok (.updated saved))

def serve (route : Route) (user : Option AuthenticatedUser) :
    AdminHandler (Except AdminError Response) :=
  match route, user with
  | .login dto, _ => login env dto
  | .createUser dto, some actor => createUser env dto actor
  | .updateUser id dto, some actor => updateUser env actor id dto
  | _, user => pure (.ok (.served user))

def handle (request : Request) : AdminHandler (Except AdminError Response) := do
  match ← jwtAuthGuard request with
  | .error error => pure (.error error)
  | .ok user =>
    match permissionsGuard request.route user with
    | .error error => pure (.error error)
    | .ok () => do
      askAdmin (.enter request.route user)
      serve env request.route user

end Handlers

/-! ## Columns that hold lists -/

/-- A stored list is written back as it was. -/
theorem write_read (text : String) : writeSimpleArray (readSimpleArray text) = text := by
  unfold writeSimpleArray readSimpleArray
  split_ifs with empty
  · rw [String.toList_eq_nil_iff] at empty
    simp [empty]
  · have back : ((text.toList.splitOn ',').map String.ofList).map String.toList =
        text.toList.splitOn ',' := by simp [Function.comp_def]
    rw [back, List.intercalate_splitOn, String.ofList_toList]

end Kufi.Monitoring

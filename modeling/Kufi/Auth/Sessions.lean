import Kufi.Auth.Entities
import Kufi.Shared.Procedure

set_option autoImplicit false

/-!
# Refresh tokens and sessions

A refresh token is kept as its hash in the row of its session. Each find, save
and update is one operation on the table; the user table, Firebase and the token
generators answer as they like.
-/

namespace Kufi.Auth

open Shared

structure SessionContext where
  userAgent : Option String
  ipAddress : Option String
  deriving DecidableEq

structure AuthConfig where
  accessTtlSeconds : Int
  refreshTtlSeconds : Int
  -- SHA-256 in hexadecimal
  hashToken : String → String

inductive AuthError where
  -- `UnauthorizedException`
  | unauthorized (message : String)
  -- an error of the database or of the token generator
  | failed
  deriving DecidableEq

structure AuthUser where
  id : Nat
  firebaseUid : String
  email : Option String
  phone : Option String
  displayName : Option String
  kycStatus : String
  hasPin : Bool
  deriving DecidableEq

def AuthUser.of (user : User) : AuthUser where
  id := user.id
  firebaseUid := user.firebaseUid
  email := user.email
  phone := user.phone
  displayName := user.displayName
  kycStatus := user.kycStatus
  hasPin := user.hasPin

structure AuthResult where
  accessToken : String
  expiresIn : Int
  refreshToken : String
  refreshExpiresIn : Int
  user : AuthUser
  deriving DecidableEq

inductive SessionOp where
  | now
  | findSession (refreshTokenHash : String)
  | saveSession (session : Session)
  | insertSession (session : Session)
  | revokeSessions (userId : Nat) (revokedAt lastUsedAt : Time)
  | findUser (userId : Nat)
  -- whether the user is disabled; an unknown user is an error
  | getFirebaseUser (firebaseUid : String)
  -- an access token for the user and a random refresh token
  | generateTokens (user : User)
  -- the subject of a valid access token
  | verifyAccessToken (accessToken : String)

abbrev SessionOp.Reply : SessionOp → Type
  | .now => Time
  | .findSession _ => Option Session
  | .saveSession _ | .insertSession _ | .revokeSessions _ _ _ => Bool
  | .findUser _ => Option User
  | .getFirebaseUser _ => Option Bool
  | .generateTokens _ => Option (String × String)
  | .verifyAccessToken _ => Option Nat

abbrev SessionHandler := Procedure SessionOp SessionOp.Reply

abbrev askSession (op : SessionOp) : SessionHandler op.Reply := Procedure.ask op

section Handlers

variable (config : AuthConfig)

def newSession (user : User) (refreshToken : String) (now : Time) (context : SessionContext) :
    Session where
  id := 0
  userId := user.id
  refreshTokenHash := config.hashToken refreshToken
  refreshTokenExpiresAt := now + config.refreshTtlSeconds * 1000
  revokedAt := none
  lastUsedAt := none
  userAgent := context.userAgent
  ipAddress := context.ipAddress

def issueTokens (user : User) (context : SessionContext) :
    SessionHandler (Except AuthError AuthResult) := do
  let tokens ← askSession (.generateTokens user)
  match tokens with
  | none => pure (.error .failed)
  | some (accessToken, refreshToken) =>
    let now ← askSession .now
    let saved ← askSession (.insertSession (newSession config user refreshToken now context))
    if saved then
      pure (.ok
        { accessToken := accessToken
          expiresIn := config.accessTtlSeconds
          refreshToken := refreshToken
          refreshExpiresIn := config.refreshTtlSeconds
          user := .of user })
    else pure (.error .failed)

/-- What follows once the session is revoked. -/
def reissue (session : Session) (context : SessionContext) :
    SessionHandler (Except AuthError AuthResult) := do
  let user ← askSession (.findUser session.userId)
  match user with
  | none => pure (.error (.unauthorized "User not found"))
  | some user =>
    if user.accountStatus ≠ .active then pure (.error (.unauthorized "User is not active"))
    else
      let disabled ← askSession (.getFirebaseUser user.firebaseUid)
      if disabled = some false then issueTokens config user context
      else pure (.error (.unauthorized "User is disabled or invalid"))

def refreshAccessToken (refreshToken : String) (context : SessionContext) :
    SessionHandler (Except AuthError AuthResult) := do
  let session ← askSession (.findSession (config.hashToken refreshToken))
  match session with
  | none => pure (.error (.unauthorized "Invalid or expired refresh token"))
  | some session =>
    if session.revokedAt.isSome then
      pure (.error (.unauthorized "Invalid or expired refresh token"))
    else
      let now ← askSession .now
      if session.refreshTokenExpiresAt ≤ now then
        pure (.error (.unauthorized "Invalid or expired refresh token"))
      else
        let revokedAt ← askSession .now
        let lastUsedAt ← askSession .now
        let session := { session with revokedAt := some revokedAt, lastUsedAt := some lastUsedAt }
        let saved ← askSession (.saveSession session)
        if saved then reissue config session context else pure (.error .failed)

def revokeAllSessionsByAccessToken (accessToken : String) :
    SessionHandler (Except AuthError Unit) := do
  let sub ← askSession (.verifyAccessToken accessToken)
  match sub with
  | none => pure (.error (.unauthorized "Invalid access token"))
  | some userId =>
    let revokedAt ← askSession .now
    let lastUsedAt ← askSession .now
    let updated ← askSession (.revokeSessions userId revokedAt lastUsedAt)
    if updated then pure (.ok ()) else pure (.error .failed)

end Handlers

inductive SessionCall where
  | refreshAccessToken (refreshToken : String) (context : SessionContext)
  | revokeAllSessionsByAccessToken (accessToken : String)

inductive SessionResult where
  | tokens (result : AuthResult)
  | revoked
  | error (error : AuthError)

def SessionCall.handler (config : AuthConfig) : SessionCall → SessionHandler SessionResult
  | .refreshAccessToken refreshToken context => do
    let result ← Auth.refreshAccessToken config refreshToken context
    match result with
    | .ok result => pure (.tokens result)
    | .error err => pure (.error err)
  | .revokeAllSessionsByAccessToken accessToken => do
    let result ← Auth.revokeAllSessionsByAccessToken accessToken
    match result with
    | .ok () => pure .revoked
    | .error err => pure (.error err)

/-! ## The operations -/

inductive SessionChoice where
  | nothing
  | fails
  | time (now : Time)
  | user (found : Option User)
  | firebase (disabled : Option Bool)
  | tokens (tokens : Option (String × String))
  | subject (userId : Option Nat)
  deriving DecidableEq

/-- `UPDATE .. SET revokedAt, lastUsedAt WHERE userId AND revokedAt IS NULL`. -/
def Session.revokedWith (userId : Nat) (revokedAt lastUsedAt : Time) (session : Session) : Session :=
  if session.userId = userId ∧ session.revokedAt = none then
    { session with revokedAt := some revokedAt, lastUsedAt := some lastUsedAt }
  else session

def revokeSessions (sessions : Table Session) (userId : Nat) (revokedAt lastUsedAt : Time) :
    Table Session :=
  sessions.mapRows (.revokedWith userId revokedAt lastUsedAt)
    (by intro row; unfold Session.revokedWith; split <;> rfl)
    (by intro row; unfold Session.revokedWith; split <;> rfl)

def performSession : Performer SessionOp SessionOp.Reply SessionChoice (Table Session)
  | .now, .time now, sessions => some (now, sessions)
  | .findSession hash, .nothing, sessions => some (sessions.byKey hash, sessions)
  | .saveSession session, .nothing, sessions =>
    match sessions.update? session with
    | some after => some (true, after)
    | none => some (false, sessions)
  | .insertSession session, .nothing, sessions =>
    match sessions.insert? session with
    | some (_, after) => some (true, after)
    | none => some (false, sessions)
  | .revokeSessions userId revokedAt lastUsedAt, .nothing, sessions =>
    some (true, revokeSessions sessions userId revokedAt lastUsedAt)
  | .saveSession _, .fails, sessions | .insertSession _, .fails, sessions
  | .revokeSessions _ _ _, .fails, sessions => some (false, sessions)
  | .findUser userId, .user found, sessions =>
    if ∀ user ∈ found, user.id = userId then some (found, sessions) else none
  | .getFirebaseUser _, .firebase disabled, sessions => some (disabled, sessions)
  | .generateTokens _, .tokens tokens, sessions => some (tokens, sessions)
  | .verifyAccessToken _, .subject userId, sessions => some (userId, sessions)
  | _, _, _ => none

end Kufi.Auth

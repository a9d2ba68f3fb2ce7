import Kufi.Auth.OneTimeCodes
import Kufi.Shared.Text

set_option autoImplicit false

/-!
# Issuing and verifying

The endpoints of the auth service that hand out codes and tokens, and the job
that deletes old rows.
-/

namespace Kufi.Auth

open Shared Shared.Text

inductive OtpError where
  -- `BadRequestException`
  | badRequest (message : String)
  -- an error of the database or of the notification service
  | failed
  deriving DecidableEq

structure IssueOtpDto where
  userId : String
  deviceId : Option String

structure IssueOtpResponse where
  otpCode : String
  expiresIn : Int
  deliveryMode : String
  deriving DecidableEq

structure IssueStepUpTokenDto where
  userId : String
  deviceId : Option String
  method : Option String
  otpCode : Option String

inductive StepUpResponse where
  | challenge (method deliveryMode : String) (expiresIn : Int)
  | token (stepUpToken method : String) (expiresIn : Int)
  deriving DecidableEq

structure VerifyStepUpTokenDto where
  userId : String
  stepUpToken : String
  deviceId : Option String

section Handlers

variable (env : OtpEnv)

def hashOtpCode (userId deviceId : String) (purpose : OtpPurpose) (otpCode : String) : String :=
  env.hmac (":".intercalate [trim userId, trim deviceId, purpose.text, trim otpCode])

/-- Whether the code is stored; `false` stands for an error. -/
def storeOtpCode (userId deviceId : String) (purpose : OtpPurpose) (otpCode : String)
    (expiresInSeconds : Int) : AuthHandler Bool := do
  let normalizedDeviceId := trim deviceId
  let deleted ← askAuth (.deleteOtps userId purpose (nonEmpty? normalizedDeviceId))
  if deleted then do
    let now ← askAuth .now
    askAuth (.insertOtp
      { id := 0
        userId := userId
        purpose := purpose
        otpHash := hashOtpCode env userId normalizedDeviceId purpose otpCode
        attemptCount := 0
        expiresAt := now + expiresInSeconds * 1000
        usedAt := none
        deviceId := nonEmpty? normalizedDeviceId
        createdAt := 0 })
  else pure false

/-- Whether the code is valid; `none` stands for an error. -/
def consumeOtpCode (userId deviceId : String) (purpose : OtpPurpose) (otpCode : String) :
    AuthHandler (Option Bool) := do
  let normalizedDeviceId := trim deviceId
  let now ← askAuth .now
  let row ← askAuth (.findOtp userId purpose (nonEmpty? normalizedDeviceId) now)
  match row with
  | none => pure (some false)
  | some row =>
    let expectedHash := hashOtpCode env userId normalizedDeviceId purpose otpCode
    if row.otpHash = expectedHash then do
      let usedAt ← askAuth .now
      let saved ← askAuth (.saveOtp { row with usedAt := some usedAt })
      pure (if saved then some true else none)
    else do
      let saved ← askAuth (.saveOtp { row with attemptCount := max 0 row.attemptCount + 1 })
      pure (if saved then some false else none)

def issueOtp (dto : IssueOtpDto) : AuthHandler (Except OtpError IssueOtpResponse) := do
  let user ← askAuth (.findUser dto.userId)
  match user with
  | none => pure (.error (.badRequest "User not found"))
  | some _ =>
    let expiresIn := max 60 env.otpTtlSeconds
    let otpCode ← askAuth .randomCode
    let stored ← storeOtpCode env dto.userId (trim (dto.deviceId.getD "")) .transfer otpCode expiresIn
    if stored then
      pure (.ok { otpCode := otpCode, expiresIn := expiresIn, deliveryMode := "smart_otp" })
    else pure (.error .failed)

/-- The code is stored before it is mailed. -/
def challenge (userId deviceKey email : String) : AuthHandler (Except OtpError StepUpResponse) := do
  let otpExpiresIn := max 60 env.stepUpEmailOtpTtlSeconds
  let otpCode ← askAuth .randomCode
  let stored ← storeOtpCode env userId deviceKey .stepUpEmail otpCode otpExpiresIn
  if stored then do
    let sent ← askAuth (.sendEmail email otpCode otpExpiresIn)
    if sent then pure (.ok (.challenge "otp_email" "email" otpExpiresIn))
    else pure (.error .failed)
  else pure (.error .failed)

def issueToken (dto : IssueStepUpTokenDto) (method : String) :
    AuthHandler (Except OtpError StepUpResponse) := do
  let stepUpToken ← askAuth .randomToken
  let expiresIn := max 60 env.stepUpTokenTtlSeconds
  let now ← askAuth .now
  let saved ← askAuth (.insertToken
    { id := 0
      token := stepUpToken
      userId := dto.userId
      deviceId := nonEmpty? (trim (dto.deviceId.getD ""))
      method := some method
      expiresAt := now + expiresIn * 1000 })
  if saved then pure (.ok (.token stepUpToken method expiresIn)) else pure (.error .failed)

def issueStepUpToken (dto : IssueStepUpTokenDto) : AuthHandler (Except OtpError StepUpResponse) := do
  let user ← askAuth (.findUser dto.userId)
  match user with
  | none => pure (.error (.badRequest "User not found"))
  | some userEmail =>
    let method := orElse (trim (dto.method.getD "")) "face"
    if env.toLowerCase method = "otp_email" then
      let email := env.toLowerCase (trim (userEmail.getD ""))
      if email = "" then pure (.error (.badRequest "User email is required for step-up OTP"))
      else
        let deviceKey := trim (dto.deviceId.getD "")
        let providedOtpCode := trim (dto.otpCode.getD "")
        if providedOtpCode = "" then challenge env dto.userId deviceKey email
        else do
          let validOtp ← consumeOtpCode env dto.userId deviceKey .stepUpEmail providedOtpCode
          match validOtp with
          | none => pure (.error .failed)
          | some false => pure (.error (.badRequest "Invalid or expired OTP for step-up"))
          | some true => issueToken env dto method
    else issueToken env dto method

/-- `none` stands for an error. -/
def verifyStepUpToken (dto : VerifyStepUpTokenDto) : AuthHandler (Option Bool) := do
  let row ← askAuth (.findToken (trim dto.stepUpToken))
  match row with
  | none => pure (some false)
  | some row =>
    let now ← askAuth .now
    if row.expiresAt ≤ now then do
      let deleted ← askAuth (.deleteToken row.id)
      pure (if deleted then some false else none)
    else if row.userId ≠ dto.userId then pure (some false)
    else
      let requestedDeviceId := trim (dto.deviceId.getD "")
      let savedDeviceId := trim (row.deviceId.getD "")
      pure (some !(savedDeviceId ≠ "" && requestedDeviceId ≠ "" && savedDeviceId ≠ requestedDeviceId))

/-- The sessions, which have tables of their own, are left out. -/
def cleanupExpiredAndRevokedSessions : AuthHandler Unit := do
  let now ← askAuth .now
  let expiredOtp ← askAuth (.deleteExpiredOtps now)
  if expiredOtp then do
    let usedOtp ← askAuth (.deleteUsedOtps now)
    if usedOtp then do
      let _ ← askAuth (.deleteExpiredTokens now)
      pure ()
    else pure ()
  else pure ()

end Handlers

end Kufi.Auth

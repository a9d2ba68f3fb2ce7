import Kufi.Shared.Table
import Kufi.Shared.Text
import Kufi.Shared.Time

set_option autoImplicit false

/-!
# The tables of the auth service

Times are in milliseconds. Columns that only record when a row was written are
left out where nothing reads them.
-/

namespace Kufi.Auth

open Shared

inductive AccountStatus where
  | active
  | blocked
  | locked
  deriving DecidableEq

structure User where
  id : Nat
  firebaseUid : String
  accountStatus : AccountStatus
  email : Option String
  phone : Option String
  displayName : Option String
  kycStatus : String
  hashedPin : Option String
  createdAt : Time
  deriving DecidableEq

def User.hasPin (user : User) : Bool := Text.trim (user.hashedPin.getD "") ≠ ""

structure Session where
  id : Nat
  userId : Nat
  refreshTokenHash : String
  refreshTokenExpiresAt : Time
  revokedAt : Option Time
  lastUsedAt : Option Time
  userAgent : Option String
  ipAddress : Option String
  deriving DecidableEq

instance : Row Session String where
  id := Session.id
  withId session n := { session with id := n }
  key session := some session.refreshTokenHash
  id_withId _ _ := rfl
  key_withId _ _ := rfl

inductive OtpPurpose where
  | transfer
  | stepUpEmail
  deriving DecidableEq

def OtpPurpose.text : OtpPurpose → String
  | .transfer => "TRANSFER"
  | .stepUpEmail => "STEP_UP_EMAIL"

/-- The user is the text that the request carries. -/
structure AuthOtp where
  id : Nat
  userId : String
  purpose : OtpPurpose
  otpHash : String
  attemptCount : Int
  expiresAt : Time
  usedAt : Option Time
  deviceId : Option String
  createdAt : Time
  deriving DecidableEq

structure AuthStepUpToken where
  id : Nat
  token : String
  userId : String
  deviceId : Option String
  method : Option String
  expiresAt : Time
  deriving DecidableEq

instance : Row AuthStepUpToken String where
  id := AuthStepUpToken.id
  withId row n := { row with id := n }
  key row := some row.token
  id_withId _ _ := rfl
  key_withId _ _ := rfl

end Kufi.Auth

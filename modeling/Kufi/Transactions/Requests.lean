import Kufi.Transactions.Entities

set_option autoImplicit false

/-!
# Requests and their validation

A validated request carries what validation established, so the operations
behind it never check again.
-/

namespace Kufi.Transactions

open Shared Shared.Text

inductive ServiceError where
  -- `BadRequestException`
  | badRequest (message : String)
  -- any error the database raises: a refused column value, an unparsable uuid, a unique violation
  | queryFailed
  deriving DecidableEq

-- What the service is configured with and what the JavaScript runtime supplies.
structure Env where
  toUpperCase : String → String
  localeCompare : String → String → Int
  chainAsyncLeaseMs : Int
  chainAsyncInitialBackoffMs : Int
  chainAsyncMaxBackoffMs : Int
  chainAsyncMaxRetries : Nat
  chainExternalSourceUserId : String
  chainExternalSinkUserId : String

-- An `amount` as it arrives: `some n` is a number (or a non-blank numeric text) with the integer
-- value `n`, `none` one that is no integer; gRPC delivers an int64 as two signed halves.
inductive RawAmount where
  | number (integer : Option Int)
  | string (parsed : Option Int)
  | int64 (low high : Int) (unsigned : Bool)
  deriving DecidableEq

structure CreateTransferRequest where
  idempotencyKey : String
  requestingUserId : String
  fromUserId : String
  toUserId : String
  amount : RawAmount
  currency : String
  memo : String
  otpCode : String
  isExternal : Bool
  externalPartner : String
  externalAccountNo : String
  deriving DecidableEq

structure CreateTopupIntentRequest where
  idempotencyKey : String
  userId : String
  fundingSourceId : String
  amount : RawAmount
  currency : String
  memo : String
  deriving DecidableEq

structure CreateWithdrawalRequest extends CreateTopupIntentRequest where
  simulateFailure : Bool
  deriving DecidableEq

structure TransferRequest where
  idempotencyKey : String
  requestingUserId : String
  fromUserId : String
  toUserId : String
  amount : Int
  currency : String
  memo : String
  isExternal : Bool
  externalPartner : Option String
  externalAccountNo : Option String
  requester : requestingUserId = fromUserId
  receiverGiven : toUserId ≠ ""
  distinct : isExternal = false → fromUserId ≠ toUserId
  positive : 0 < amount

structure FundingRequest where
  idempotencyKey : String
  userId : String
  fundingSourceId : String
  amount : Int
  currency : String
  memo : String
  positive : 0 < amount

structure WithdrawalRequest extends FundingRequest where
  simulateFailure : Bool

-- `none` stands for every number that is not an integer, `NaN` included.
def normalizeAmount : RawAmount → Option Int
  | .number integer => integer
  | .string parsed => parsed
  | .int64 low high unsigned =>
    if high = 0 then some (if unsigned then low % 2 ^ 32 else low) else none

def normalizeCurrency (env : Env) (currencyRaw : String) : Except ServiceError String :=
  let currency := env.toUpperCase (trim (orElse currencyRaw "VND"))
  if currency = "" then .error (.badRequest "currency is required")
  else if 16 < utf16Length currency then .error (.badRequest "currency is invalid")
  else .ok currency

def validateCreateTransfer (env : Env) (request : CreateTransferRequest) :
    Except ServiceError TransferRequest :=
  let idempotencyKey := trim request.idempotencyKey
  let requestingUserId := trim request.requestingUserId
  let fromUserId := trim request.fromUserId
  let toUserId := trim request.toUserId
  let externalPartner := trim request.externalPartner
  let externalAccountNo := trim request.externalAccountNo
  if idempotencyKey = "" then .error (.badRequest "idempotencyKey is required")
  else if 128 < utf16Length idempotencyKey then .error (.badRequest "idempotencyKey too long")
  else if missing : requestingUserId = "" ∨ fromUserId = "" ∨ toUserId = "" then
    .error (.badRequest "requestingUserId, fromUserId, toUserId required")
  else if requester : requestingUserId ≠ fromUserId then
    .error (.badRequest "requestingUserId must match fromUserId")
  else if same : fromUserId = toUserId ∧ request.isExternal = false then
    .error (.badRequest "fromUserId and toUserId must be different")
  else match normalizeAmount request.amount with
  | none => .error (.badRequest "amount must be positive integer")
  | some amount =>
    if positive : amount ≤ 0 then .error (.badRequest "amount must be positive integer")
    else match normalizeCurrency env request.currency with
    | .error error => .error error
    | .ok currency =>
      if trim request.otpCode = "" then .error (.badRequest "otpCode required")
      else if request.isExternal ∧ (externalPartner = "" ∨ externalAccountNo = "") then
        .error (.badRequest "external transfer requires externalPartner and externalAccountNo")
      else .ok
        { idempotencyKey, requestingUserId, fromUserId, toUserId, amount, currency
          memo := trim request.memo
          isExternal := request.isExternal
          externalPartner := nonEmpty? externalPartner
          externalAccountNo := nonEmpty? externalAccountNo
          requester := not_not.mp requester
          receiverGiven := fun empty => missing (.inr (.inr empty))
          distinct := fun internal equal => same ⟨equal, internal⟩
          positive := not_le.mp positive }

theorem validateCreateTransfer_users {env : Env} {request : CreateTransferRequest}
    {req : TransferRequest} (valid : validateCreateTransfer env request = .ok req) :
    req.fromUserId = trim request.fromUserId ∧ req.toUserId = trim request.toUserId := by
  unfold validateCreateTransfer at valid
  cases amount : normalizeAmount request.amount with
  | none =>
    simp only [amount] at valid
    split_ifs at valid
  | some amount =>
    cases currency : normalizeCurrency env request.currency with
    | error error =>
      simp only [amount, currency] at valid
      split_ifs at valid
    | ok currency =>
      simp only [amount, currency] at valid
      split_ifs at valid
      obtain rfl := Except.ok.inj valid
      exact ⟨rfl, rfl⟩

def validateCreateTopupIntent (env : Env) (request : CreateTopupIntentRequest) :
    Except ServiceError FundingRequest :=
  let idempotencyKey := trim request.idempotencyKey
  let userId := trim request.userId
  let fundingSourceId := trim request.fundingSourceId
  if idempotencyKey = "" then .error (.badRequest "idempotencyKey is required")
  else if 128 < utf16Length idempotencyKey then .error (.badRequest "idempotencyKey too long")
  else if userId = "" then .error (.badRequest "userId is required")
  else if fundingSourceId = "" then .error (.badRequest "fundingSourceId is required")
  else match normalizeAmount request.amount with
  | none => .error (.badRequest "amount must be positive integer")
  | some amount =>
    if positive : amount ≤ 0 then .error (.badRequest "amount must be positive integer")
    else match normalizeCurrency env request.currency with
    | .error error => .error error
    | .ok currency => .ok
        { idempotencyKey, userId, fundingSourceId, amount, currency
          memo := trim request.memo
          positive := not_le.mp positive }

def validateCreateWithdrawalRequest (env : Env) (request : CreateWithdrawalRequest) :
    Except ServiceError WithdrawalRequest :=
  (validateCreateTopupIntent env request.toCreateTopupIntentRequest).map fun normalized =>
    { normalized with simulateFailure := request.simulateFailure }

end Kufi.Transactions

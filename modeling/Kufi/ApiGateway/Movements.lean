import Kufi.Auth.StepUp
import Kufi.Wire.Amounts

set_option autoImplicit false

/-!
# Transfers, top-ups and withdrawals at the gateway

The three endpoints ask for a risk assessment, demand a step-up where it says so
and pass the movement on to the transaction service. The auth service runs
behind them; a request to it or its answer may be lost.
-/

namespace Kufi.ApiGateway

open Shared Shared.Text Kufi.Auth Kufi.Wire Kufi.Transactions

structure GatewayEnv where
  auth : OtpEnv
  -- what an amount is once it has gone through protobuf
  wire : ℚ → RawAmount

/-- The headers of a request, with the user that its access token is of. -/
structure Headers where
  userId : String
  deviceId : Option String
  faceVerified : Option String
  stepUpToken : Option String

structure CreateTransferDto where
  toUserId : Option String
  recipient : Option String
  amount : ℚ
  currency : String
  memo : Option String
  otpCode : String
  idempotencyKey : Option String
  isExternal : Option Bool
  externalPartner : Option String
  externalAccountNo : Option String

structure CreateTopupDto where
  fundingSourceId : String
  amount : ℚ
  currency : String
  memo : Option String
  idempotencyKey : Option String

structure CreateWithdrawalDto extends CreateTopupDto where
  simulateFailure : Option Bool

structure RiskRequest where
  requestingUserId : String
  fromUserId : String
  toUserId : String
  amount : ℚ
  currency : String
  deviceId : String
  isExternal : Bool
  externalPartner : String
  externalAccountNo : String

structure RiskResponse where
  requiresStepUp : Bool
  reasons : List String
  verdict : String
  probability : Wire.Num
  threshold : Wire.Num
  modelVersion : String
  deriving DecidableEq

structure Risk where
  requiresStepUp : Bool
  reasons : List String
  verdict : String
  probability : ℚ
  threshold : ℚ
  modelVersion : String
  deriving DecidableEq

structure FundingSourceItem where
  fundingSourceId : String
  provider : String
  deriving DecidableEq

inductive Movement where
  | transfer (request : CreateTransferRequest)
  | topup (request : CreateTopupIntentRequest)
  | withdrawal (request : CreateWithdrawalRequest)

def Movement.userId : Movement → String
  | .transfer request => request.fromUserId
  | .topup request => request.userId
  | .withdrawal request => request.userId

/-- The balances in the answer of the transaction service; its other fields are passed on. -/
structure MovementAnswer where
  senderBalance : Raw
  receiverBalance : Raw

structure MovementResponse where
  senderBalance : Wire.Num
  receiverBalance : Wire.Num
  -- set for transfers only
  toUserId : Option String
  risk : Risk

inductive GatewayError where
  | badRequest (message : String)
  -- a `ForbiddenException`; probability and threshold come with the first of them only
  | forbidden (message : String) (reasons : List String) (verdict : String) (scores : Option (ℚ × ℚ))
  -- an error of the transaction service
  | service

/-! ## Operations -/

inductive GatewayOp where
  | auth (op : AuthOp)
  -- whether a request reaches the auth service, and its answer the gateway
  | connect
  | respond
  | assessTransferRisk (request : RiskRequest)
  | listFundingSources (userId : String)
  | randomUuid
  | submit (movement : Movement)

/-- `none` stands for an error. -/
abbrev GatewayOp.Reply : GatewayOp → Type
  | .auth op => op.Reply
  | .connect | .respond => Bool
  | .assessTransferRisk _ => Option RiskResponse
  | .listFundingSources _ => Option (List FundingSourceItem)
  | .randomUuid => String
  | .submit _ => Option MovementAnswer

abbrev GatewayHandler := Procedure GatewayOp GatewayOp.Reply

abbrev askGateway (op : GatewayOp) : GatewayHandler op.Reply := Procedure.ask op

abbrev atAuth {A : Type} (handler : AuthHandler A) : GatewayHandler A :=
  handler.lift GatewayOp.auth fun _ => id

inductive GatewayChoice where
  | auth (choice : AuthChoice)
  | reached (reached : Bool)
  | risk (response : Option RiskResponse)
  | sources (items : Option (List FundingSourceItem))
  | uuid (text : String)
  | answer (answer : Option MovementAnswer)

def performGateway : Performer GatewayOp GatewayOp.Reply GatewayChoice AuthTables
  | .auth op, .auth choice, s => performAuth op choice s
  | .connect, .reached reached, s | .respond, .reached reached, s => some (reached, s)
  | .assessTransferRisk _, .risk response, s => some (response, s)
  | .listFundingSources _, .sources items, s => some (items, s)
  | .randomUuid, .uuid text, s => some (text, s)
  | .submit _, .answer answer, s => some (answer, s)
  | _, _, _ => none

/-! ## Handlers -/

def toFiniteNumber : Wire.Num → ℚ
  | .finite value => value
  | _ => 0

def assessTransferRisk (request : RiskRequest) : GatewayHandler (Option Risk) := do
  let result ← askGateway (.assessTransferRisk request)
  pure (result.map fun result =>
    { requiresStepUp := result.requiresStepUp
      reasons := result.reasons.filter (· ≠ "")
      verdict := trim result.verdict
      probability := toFiniteNumber result.probability
      threshold := toFiniteNumber result.threshold
      modelVersion := trim result.modelVersion })

def verifyStepUpToken (userId deviceId stepUpToken : String) : GatewayHandler Bool := do
  let connected ← askGateway .connect
  if connected then do
    let valid ← atAuth (Auth.verifyStepUpToken
      { userId := userId, stepUpToken := stepUpToken, deviceId := some deviceId })
    let responded ← askGateway .respond
    pure (responded && valid == some true)
  else pure false

/-- Whether the movement may go on. `createTransfer` has the same lines in its own body. -/
def requireStepUpIfNeeded (headers : Headers) (deviceId : String) (risk : Risk) :
    GatewayHandler (Except GatewayError Unit) :=
  if risk.requiresStepUp && headers.faceVerified ≠ some "true" then
    let stepUpToken := trim (headers.stepUpToken.getD "")
    if stepUpToken = "" then
      pure (.error (.forbidden "Step-up verification required" risk.reasons risk.verdict
        (some (risk.probability, risk.threshold))))
    else do
      let validStepUp ← verifyStepUpToken headers.userId deviceId stepUpToken
      if validStepUp then pure (.ok ())
      else pure (.error (.forbidden "Invalid or expired step-up token" risk.reasons risk.verdict none))
  else pure (.ok ())

variable (number : String → Wire.Num)

def answered (answer : Option MovementAnswer) (toUserId : Option String) (risk : Risk) :
    Except GatewayError MovementResponse :=
  match answer with
  | none => .error .service
  | some answer => .ok
      { senderBalance := transactionsInt64ToNumber number answer.senderBalance
        receiverBalance := transactionsInt64ToNumber number answer.receiverBalance
        toUserId := toUserId
        risk := risk }

/-- `idempotencyKey?.trim() || randomUUID()`. -/
def keyOrUuid (idempotencyKey : Option String) : GatewayHandler String :=
  let key := trim (idempotencyKey.getD "")
  if key = "" then askGateway .randomUuid else pure key

/-- What follows the risk assessment: the step-up and the call of the transaction service. -/
def stepUpAndSubmit (headers : Headers) (deviceId : String) (risk : Risk) (toUserId : Option String)
    (idempotencyKey : Option String) (movement : String → Movement) :
    GatewayHandler (Except GatewayError MovementResponse) := do
  let allowed ← requireStepUpIfNeeded headers deviceId risk
  match allowed with
  | .error err => pure (.error err)
  | .ok () =>
    let key ← keyOrUuid idempotencyKey
    let answer ← askGateway (.submit (movement key))
    pure (answered number answer toUserId risk)

def createTransfer (env : GatewayEnv) (headers : Headers) (dto : CreateTransferDto) :
    GatewayHandler (Except GatewayError MovementResponse) := do
  let deviceId := trim (headers.deviceId.getD "")
  let toUserId := orElse (trim (dto.toUserId.getD "")) (trim (dto.recipient.getD ""))
  if toUserId = "" || dto.amount = 0 || dto.currency = "" || dto.otpCode = "" then
    pure (.error (.badRequest "Missing required transfer fields"))
  else do
    let risk ← assessTransferRisk
      { requestingUserId := headers.userId
        fromUserId := headers.userId
        toUserId := toUserId
        amount := dto.amount
        currency := dto.currency
        deviceId := deviceId
        isExternal := dto.isExternal.getD false
        externalPartner := dto.externalPartner.getD ""
        externalAccountNo := dto.externalAccountNo.getD "" }
    match risk with
    | none => pure (.error .service)
    | some risk =>
      stepUpAndSubmit number headers deviceId risk (some toUserId) dto.idempotencyKey fun key =>
        .transfer
          { idempotencyKey := key
            requestingUserId := headers.userId
            fromUserId := headers.userId
            toUserId := toUserId
            amount := env.wire dto.amount
            currency := dto.currency
            memo := dto.memo.getD ""
            otpCode := dto.otpCode
            isExternal := dto.isExternal.getD false
            externalPartner := dto.externalPartner.getD ""
            externalAccountNo := dto.externalAccountNo.getD "" }

/-- The provider of the funding source. -/
def resolveFundingSourceRiskTarget (userId fundingSourceId : String) :
    GatewayHandler (Except GatewayError String) := do
  let result ← askGateway (.listFundingSources userId)
  match result with
  | none => pure (.error .service)
  | some items =>
    match items.find? fun item => trim item.fundingSourceId == fundingSourceId with
    | none => pure (.error (.badRequest "Funding source not found"))
    | some source => pure (.ok (trim source.provider))

/-- What `createTopupIntent` and `createWithdrawalRequest` share: the checks of the body and the
assessment, in which the id of the funding source stands for the receiver. -/
def moveFunds (headers : Headers) (dto : CreateTopupDto) (movement : String → Movement) :
    GatewayHandler (Except GatewayError MovementResponse) := do
  if trim dto.fundingSourceId = "" || trim dto.currency = "" then
    pure (.error (.badRequest "fundingSourceId and currency are required"))
  else if dto.amount ≤ 0 then pure (.error (.badRequest "amount must be a positive number"))
  else do
    let fundingSourceId := trim dto.fundingSourceId
    let deviceId := trim (headers.deviceId.getD "")
    let provider ← resolveFundingSourceRiskTarget headers.userId fundingSourceId
    match provider with
    | .error err => pure (.error err)
    | .ok provider =>
      let risk ← assessTransferRisk
        { requestingUserId := headers.userId
          fromUserId := headers.userId
          toUserId := fundingSourceId
          amount := dto.amount
          currency := trim dto.currency
          deviceId := deviceId
          isExternal := true
          externalPartner := provider
          externalAccountNo := fundingSourceId }
      match risk with
      | none => pure (.error .service)
      | some risk => stepUpAndSubmit number headers deviceId risk none dto.idempotencyKey movement

def topupRequest (env : GatewayEnv) (headers : Headers) (dto : CreateTopupDto) (key : String) :
    CreateTopupIntentRequest where
  idempotencyKey := key
  userId := headers.userId
  fundingSourceId := trim dto.fundingSourceId
  amount := env.wire dto.amount
  currency := trim dto.currency
  memo := trim (dto.memo.getD "")

def createTopupIntent (env : GatewayEnv) (headers : Headers) (dto : CreateTopupDto) :
    GatewayHandler (Except GatewayError MovementResponse) :=
  moveFunds number headers dto fun key => .topup (topupRequest env headers dto key)

def createWithdrawalRequest (env : GatewayEnv) (headers : Headers) (dto : CreateWithdrawalDto) :
    GatewayHandler (Except GatewayError MovementResponse) :=
  moveFunds number headers dto.toCreateTopupDto fun key =>
    .withdrawal
      { topupRequest env headers dto.toCreateTopupDto key with
        simulateFailure := dto.simulateFailure.getD false }

end Kufi.ApiGateway

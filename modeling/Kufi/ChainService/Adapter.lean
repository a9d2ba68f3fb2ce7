import Kufi.Gateway.Requests
import Kufi.Shared.Number
import Kufi.Shared.Text

set_option autoImplicit false

/-!
# The chain adapter

`anchorTransfer` sends one payload to the gateway up to three times and reads
the reply that arrives.
-/

namespace Kufi.ChainService

open Shared Text Gateway

inductive ChainStatus where
  | anchored
  | pending
  | failed
  deriving DecidableEq

structure AnchorTransferResult where
  chainStatus : ChainStatus
  txID : String
  blockNumber : Nat
  commitmentHash : String
  -- the receipt in `receiptJson`
  receipt : Option ReceiptDTO
  deriving DecidableEq

inductive GrpcStatus where
  | invalidArgument
  | notFound
  | alreadyExists
  | resourceExhausted
  | internal
  | unavailable
  deriving DecidableEq

structure AdapterConfig where
  observers : Nat
  requireTransparencyQuorum : Bool

/-! ## Reading a reply -/

def asString (value : String) : Option String :=
  if trim value = "" then none else some value

def upper (text : String) : String := String.ofList (text.toList.map Char.toUpper)

def buildPendingResult (txID : String) (body : Option ReceiptDTO) : AnchorTransferResult where
  chainStatus := .pending
  txID := txID
  blockNumber := match body with
    | some receipt => Number.roundNat receipt.blockNumber
    | none => 0
  commitmentHash := match body with
    | some receipt => (asString receipt.commitmentHash).getD ""
    | none => ""
  receipt := body

def isValidationSuccess (receipt : ReceiptDTO) : Bool :=
  receipt.validationCode = 0 || upper ((asString receipt.validationCodeName).getD "") = "VALID"

def isValidationFailure (receipt : ReceiptDTO) : Bool :=
  let name := upper ((asString receipt.validationCodeName).getD "")
  0 < receipt.validationCode || (name ≠ "" && name ≠ "VALID" && name ≠ "NOT_VALIDATED")

-- An endorsement list that is `null` is no array.
def hasVerifiableBundle (txID : String) (receipt : ReceiptDTO) : Bool :=
  txID ≠ "" && (asString receipt.commitmentHash).isSome &&
    (0 < Number.roundNat receipt.blockNumber || (asString receipt.blockHash).isSome) &&
    (asString receipt.receiptHash).isSome &&
    ((asString receipt.policyID).isSome && receipt.endorsements.isSome) &&
    (asString receipt.schemaVersion).isSome

def buildResultFromReceipt (receipt : ReceiptDTO) (envelopeTxID fallbackTxID : String) :
    AnchorTransferResult :=
  let txID := ((asString receipt.txID).or (asString envelopeTxID)).getD fallbackTxID
  let result (chainStatus : ChainStatus) : AnchorTransferResult :=
    { chainStatus
      txID
      blockNumber := Number.roundNat receipt.blockNumber
      commitmentHash := (asString receipt.commitmentHash).getD ""
      receipt := some receipt }
  if isValidationSuccess receipt && hasVerifiableBundle txID receipt then result .anchored
  else if isValidationFailure receipt then result .failed
  else buildPendingResult txID (some receipt)

-- The body of a reply of success.
def parseAnchorTransferResponse (envelopeTxID : String) (receipt : ReceiptDTO) :
    Except String AnchorTransferResult :=
  let txID := ((asString envelopeTxID).or (asString receipt.txID)).getD ""
  let parsed := buildResultFromReceipt receipt envelopeTxID txID
  if parsed.chainStatus ≠ .pending then .ok parsed
  else if txID ≠ "" then .ok (buildPendingResult txID none)
  else .error "missing tx_id in gateway response"

-- `confirmed` observers have confirmed the receipt.
def enrichWithObserverConfirmations (config : AdapterConfig) (confirmed : Nat)
    (result : AnchorTransferResult) : AnchorTransferResult :=
  if result.receipt = none ∨ config.observers = 0 ∨ result.txID = "" then result
  else
    let requiredQuorum := (1 + config.observers) / 2 + 1
    if result.chainStatus = .anchored ∧ config.requireTransparencyQuorum = true ∧
        1 + confirmed < requiredQuorum then
      { result with chainStatus := .pending }
    else result

/-! ## Errors -/

-- The status of the response, if there is one.
def isTransientError (status : Option Nat) : Bool :=
  match status with
  | none => true
  | some status => status ∈ [408, 429, 502, 503, 504]

def toGrpcException (status : Option Nat) : GrpcStatus :=
  match status with
  | none => .unavailable
  | some status =>
    if status = 400 then .invalidArgument
    else if status = 404 then .notFound
    else if status = 409 then .alreadyExists
    else if status = 429 then .resourceExhausted
    else if status = 502 ∨ status = 503 ∨ status = 504 then .unavailable
    else .internal

/-! ## `anchorTransfer` -/

def maxRetries : Nat := 2

inductive AnchorTransfer where
  | posting (attempt : Nat)
  | waiting (attempt : Nat)
  -- with the reply that ended it, if one has arrived
  | finished (attempt : Nat) (reply : Option Reply)
      (result : Except GrpcStatus AnchorTransferResult)

namespace AnchorTransfer

def failed (attempt : Nat) (reply : Option Reply) (status : Option Nat) : AnchorTransfer :=
  if isTransientError status = true ∧ attempt < maxRetries then .posting (attempt + 1)
  else .finished attempt reply (.error (toGrpcException status))

-- An error that `parseAnchorTransferResponse` throws is none of axios.
def received (config : AdapterConfig) (confirmed attempt : Nat) (reply : Reply) : AnchorTransfer :=
  match reply with
  | .success txID receipt _ =>
    match parseAnchorTransferResponse txID receipt with
    | .ok parsed =>
      .finished attempt reply (.ok (enrichWithObserverConfirmations config confirmed parsed))
    | .error _ => .finished attempt reply (.error .internal)
  | .failure status _ _ => failed attempt reply (some status)

end AnchorTransfer

end Kufi.ChainService

import Kufi.ChainService.Adapter
import Kufi.Shared.EcmaCoercion

set_option autoImplicit false

/-!
# Any response of the gateway

The adapter reads whatever JSON a gateway sends. A body is the value that the
HTTP client makes of it, and a body that is missing has none. What is only
logged is left out.
-/

namespace Kufi.ChainService.Response

open Shared Ecma

structure AnchorTransferResult where
  chainStatus : ChainStatus
  txId : Str
  -- `none` is `NaN`
  blockNumber : Option Number
  commitmentHash : Str
  receiptJson : Str

/-- What a parser throws: the message. -/
abbrev Thrown := Except Str

-- What the conversion of an object with a `toString` of its own throws.
def typeError : Str := Str.of "Cannot convert object to primitive value"

def number (value : Option Value) : Thrown (Option Number) :=
  match toNumber value with
  | .number n => .ok (some n)
  | .nan => .ok none
  | .throws => .error typeError

def asString : Option Value → Option Str
  | some (.string text) => if trim text = [] then none else some text
  | _ => none

/-- The member as a string that is not blank. -/
def stringMember (value : Option Value) (name : String) : Option Str :=
  asString (property value name)

-- `value?.name ?? 0`
def memberOrZero (value : Option Value) (name : String) : Option Value :=
  match property value name with
  | none | some .null => some (.number Number.zero)
  | some value => some value

section

variable (toUpperCase : Str → Str)

def markers (body : Option Value) : List Str :=
  let error := property body "error"
  [stringMember body "status", stringMember body "state", stringMember body "chain_status",
    stringMember body "chainStatus", stringMember error "code",
    stringMember error "message"].filterMap fun marker => marker.map toUpperCase

def isPendingPayload (body : Option Value) : Bool :=
  (markers toUpperCase body).any fun value =>
    ["PENDING", "PROCESSING", "SUBMITTED", "IN_PROGRESS", "NOT_FOUND"].any fun word =>
      decide (Str.of word <:+: value)

def extractReceiptPayload (body : Option Value) : Option Value :=
  if isObject body then
    if isObject (property body "receipt") then property body "receipt"
    else
      let maybeDirectReceipt :=
        (((stringMember body "tx_id").or (stringMember body "receipt_hash")).or
          (stringMember body "commitment_hash")).or (stringMember body "schema_version")
      if maybeDirectReceipt.isSome then body else none
  else none

/-! ## The verdict on a receipt -/

def validationCodeName (receipt : Option Value) : Str :=
  toUpperCase ((stringMember receipt "validation_code_name").getD [])

def isValidationSuccess (code : Option Number) (name : Str) : Bool :=
  code = some Number.zero || name = Str.of "VALID"

def isValidationFailure (code : Option Number) (name : Str) : Bool :=
  code.any (fun n => n.isFinite && n.isPositive) ||
    (name ≠ [] && name ≠ Str.of "VALID" && name ≠ Str.of "NOT_VALIDATED")

def hasBlockProof (blockNumber : Option Number) (receipt : Option Value) : Bool :=
  blockNumber.any Number.isPositive || (stringMember receipt "block_hash").isSome

def hasPolicyInfo (receipt : Option Value) : Bool :=
  (stringMember receipt "policy_id").isSome &&
    match property receipt "endorsements" with
    | some (.array _) => true
    | _ => false

def receiptTxId (receipt envelope : Option Value) (fallbackTxId : Str) : Str :=
  ((stringMember receipt "tx_id").or (stringMember envelope "tx_id")).getD fallbackTxId

def hasVerifiableBundle (txId : Str) (blockNumber : Option Number) (receipt : Option Value) : Bool :=
  txId ≠ [] && (stringMember receipt "commitment_hash").isSome &&
    hasBlockProof blockNumber receipt && (stringMember receipt "receipt_hash").isSome &&
    hasPolicyInfo receipt && (stringMember receipt "schema_version").isSome

def entriesOf (value : Option Value) : Members :=
  (value.map ownEntries).getD []

def flat (receipt envelope : Option Value) : Members :=
  if truthy (property envelope "receipt") then
    Members.spread (Members.spread [] (entriesOf envelope)) (entriesOf receipt)
  else Members.spread [] (entriesOf receipt)

-- `JSON.stringify(body)` if the body has a member.
def bodyText (body : Option Value) : Str :=
  match body with
  | some value => if entriesOf body = [] then [] else stringify value
  | none => []

def buildPendingResult (txId : Str) (body : Option Value) : Thrown AnchorTransferResult := do
  let blockNumber ← number (memberOrZero body "block_number")
  .ok
    { chainStatus := .pending
      txId
      blockNumber
      commitmentHash := (stringMember body "commitment_hash").getD []
      receiptJson := bodyText body }

def buildResultFromReceipt (receipt envelope : Option Value) (fallbackTxId : Str) :
    Thrown AnchorTransferResult := do
  let txId := receiptTxId receipt envelope fallbackTxId
  let blockNumber ← number (memberOrZero receipt "block_number")
  let validationCode ← number (property receipt "validation_code")
  let name := validationCodeName toUpperCase receipt
  let flat := flat receipt envelope
  let result (chainStatus : ChainStatus) : AnchorTransferResult :=
    { chainStatus
      txId
      blockNumber
      commitmentHash := (stringMember receipt "commitment_hash").getD []
      receiptJson := bodyText (some (.object flat)) }
  if isValidationSuccess validationCode name && hasVerifiableBundle txId blockNumber receipt then
    .ok (result .anchored)
  else if isValidationFailure validationCode name then .ok (result .failed)
  else buildPendingResult txId (some (.object flat))

/-! ## The two parsers -/

def unsuccessful (body : Option Value) : Bool :=
  match property body "success" with
  | some (.bool false) => !isPendingPayload toUpperCase body
  | _ => false

def errorMessage (body : Option Value) : Str :=
  let error := property body "error"
  ((stringMember error "message").or (stringMember error "details")).getD
    (Str.of "gateway returned unsuccessful result")

def namedTxId (body receipt : Option Value) : Str :=
  (((stringMember body "tx_id").or (stringMember body "txId")).or
    (stringMember receipt "tx_id")).getD []

def pendingOrMissing (body receipt : Option Value) : Thrown AnchorTransferResult :=
  let txId := namedTxId body receipt
  if isPendingPayload toUpperCase body || txId ≠ [] then buildPendingResult txId none
  else .error (Str.of "missing tx_id in gateway response")

def parseAnchorTransferResponse (body : Option Value) : Thrown AnchorTransferResult :=
  if !truthy body then .error (Str.of "empty gateway response")
  else if unsuccessful toUpperCase body then .error (errorMessage body)
  else
    match extractReceiptPayload body with
    | some receipt => do
      let parsed ← buildResultFromReceipt toUpperCase receipt body (namedTxId body receipt)
      if parsed.chainStatus ≠ .pending then .ok parsed
      else pendingOrMissing toUpperCase body receipt
    | none => pendingOrMissing toUpperCase body none

def parseReceiptLookupResponse (body : Option Value) (txId : Str) : Thrown AnchorTransferResult :=
  if !truthy body then buildPendingResult txId none
  else if unsuccessful toUpperCase body then
    if stringMember (property body "error") "code" = some (Str.of "NOT_FOUND") then
      buildPendingResult txId none
    else .error (errorMessage body)
  else
    match extractReceiptPayload body with
    | none => buildPendingResult txId none
    | some receipt => do
      let parsed ← buildResultFromReceipt toUpperCase receipt body txId
      if parsed.chainStatus ≠ .pending then .ok parsed
      else buildPendingResult (if parsed.txId = [] then txId else parsed.txId) receipt

end

end Kufi.ChainService.Response

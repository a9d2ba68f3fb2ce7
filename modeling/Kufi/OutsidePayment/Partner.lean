import Kufi.Shared.JsValue
import Kufi.Shared.Text
import Mathlib.Data.List.SplitBy
import Mathlib.Data.List.Infix

set_option autoImplicit false

/-!
# What a partner's reply means

Each partner has a mapping: the paths where its replies carry a status and the
tokens that stand for an outcome. Environment variables may replace any part.
-/

namespace Kufi.OutsidePayment

open Shared Shared.Text

inductive ExternalTransferStatus where
  | submitted
  | settled
  | failed
  deriving DecidableEq

def ExternalTransferStatus.text : ExternalTransferStatus → String
  | .submitted => "SUBMITTED"
  | .settled => "SETTLED"
  | .failed => "FAILED"

inductive ExternalTransferType where
  | withdrawal
  | topup
  deriving DecidableEq

structure FieldMapping where
  initiateStatusPaths : List String
  initiateReferencePaths : List String
  initiateMessagePaths : List String
  checkStatusPaths : List String
  checkMessagePaths : List String
  failedTokens : List String
  successTokens : List String
  pendingTokens : List String
  deriving DecidableEq

/-- The part of the configuration that replies are read with. -/
structure PartnerConfig where
  partnerCode : String
  mapping : FieldMapping
  deriving DecidableEq

structure PartnerEnv where
  toUpperCase : String → String
  toLowerCase : String → String
  -- `ConfigService.get`
  cfg : String → Option String
  mockSettleDelayMs : Int

/-! ## Text -/

def includes (text part : String) : Bool := part.toList <:+: text.toList

/-- `text.split(separator).map(trim).filter(Boolean)`. -/
def splitTrimmed (separator : Char) (text : String) : List String :=
  ((text.toList.splitOn separator).map fun part => trim (String.ofList part)).filter (· ≠ "")

/-! ## Configuration -/

section Configuration

variable (env : PartnerEnv)

def normalizeKnownPartnerCode (partnerCodeRaw : String) : String :=
  let raw := env.toUpperCase (trim partnerCodeRaw)
  if raw = "" then "BANK_DEFAULT"
  else if raw ∈ ["MOMO", "MOMO_WALLET"] then "MOMO"
  else if raw ∈ ["VNPAY", "VN_PAY", "VNP"] then "VNPAY"
  else if raw ∈ ["ZALOPAY", "ZALO_PAY", "ZLP"] then "ZALOPAY"
  else if raw ∈ ["TECHCOMBANK", "TECHCOM", "TCB"] then "TECHCOMBANK"
  else if raw ∈ ["VIETCOMBANK", "VIETCOM", "VCB"] then "VIETCOMBANK"
  else raw

def statusPaths : List String :=
  ["status", "state", "transactionStatus", "resultStatus", "resultCode", "code", "data.status",
    "data.state", "data.transactionStatus", "data.resultStatus", "data.resultCode", "data.code"]

def messagePaths : List String :=
  ["partnerMessage", "message", "msg", "description", "errorDesc", "errorMessage",
    "data.partnerMessage", "data.message", "data.msg", "data.description", "data.errorDesc",
    "data.errorMessage"]

def baseMapping : FieldMapping where
  initiateStatusPaths := statusPaths
  initiateReferencePaths :=
    ["partnerRef", "reference", "ref", "transId", "transactionId", "orderId", "requestId",
      "data.partnerRef", "data.reference", "data.ref", "data.transId", "data.transactionId",
      "data.orderId"]
  initiateMessagePaths := messagePaths
  checkStatusPaths := statusPaths
  checkMessagePaths := messagePaths
  failedTokens :=
    ["FAIL", "FAILED", "ERROR", "REJECT", "CANCEL", "DENY", "DECLINED", "400", "401", "403",
      "404", "429", "500"]
  successTokens := ["SUCCESS", "SUCCEEDED", "SETTLED", "COMPLETED", "DONE"]
  pendingTokens := ["PENDING", "PROCESSING", "SUBMITTED", "QUEUED", "ACCEPTED"]

-- The base mapping with paths and tokens of one partner after its own.
def extendMapping (initiateStatus check reference success pending : List String) : FieldMapping :=
  { baseMapping with
    initiateStatusPaths := baseMapping.initiateStatusPaths ++ initiateStatus
    checkStatusPaths := baseMapping.checkStatusPaths ++ check
    initiateReferencePaths := baseMapping.initiateReferencePaths ++ reference
    successTokens := baseMapping.successTokens ++ success
    pendingTokens := baseMapping.pendingTokens ++ pending }

def defaultFieldMappingFor (partnerCode : String) : FieldMapping :=
  if partnerCode = "MOMO" then
    extendMapping ["resultCode", "data.resultCode", "transStatus", "data.transStatus"]
      ["resultCode", "data.resultCode", "transStatus", "data.transStatus"]
      ["transId", "data.transId", "orderId", "data.orderId"] ["0", "00"] ["1"]
  else if partnerCode = "TECHCOMBANK" ∨ partnerCode = "VIETCOMBANK" then
    extendMapping
      ["responseCode", "data.responseCode", "transactionState", "data.transactionState"]
      ["responseCode", "data.responseCode", "transactionState", "data.transactionState"] []
      ["0", "00", "200", "APPROVED"] ["102", "202"]
  else if partnerCode = "VNPAY" then
    extendMapping
      ["vnp_ResponseCode", "vnp_TransactionStatus", "data.vnp_ResponseCode",
        "data.vnp_TransactionStatus"]
      ["vnp_ResponseCode", "vnp_TransactionStatus", "data.vnp_ResponseCode",
        "data.vnp_TransactionStatus"]
      ["vnp_TransactionNo", "vnp_TxnRef", "data.vnp_TransactionNo", "data.vnp_TxnRef"]
      ["00"] ["09"]
  else if partnerCode = "ZALOPAY" then
    extendMapping ["return_code", "sub_return_code", "data.return_code", "data.sub_return_code"]
      ["return_code", "is_processing", "data.return_code", "data.is_processing"]
      ["zp_trans_token", "zp_trans_id", "app_trans_id", "data.zp_trans_token",
        "data.zp_trans_id"] ["1"] ["2"]
  else baseMapping

def parseStringList (raw : String) (fallback : List String) : List String :=
  let text := trim raw
  if text = "" then fallback
  else
    let values := splitTrimmed ',' text
    if values = [] then fallback else values

def parseTokenList (raw : String) (fallback : List String) : List String :=
  (parseStringList raw fallback).map env.toUpperCase

def partnerPrefixByCode (partnerCode : String) : Option String :=
  if partnerCode ∈ ["MOMO", "VNPAY", "ZALOPAY", "TECHCOMBANK", "VIETCOMBANK"] then
    some partnerCode
  else none

def setting (name : String) : String := (env.cfg name).getD ""

/-- `resolvePartnerRuntimeConfig`; without a result the partner is a mock. -/
def resolvePartnerRuntimeConfig (partnerCode : String) : Option PartnerConfig :=
  match partnerPrefixByCode partnerCode with
  | none => none
  | some code =>
    let enabled := env.toLowerCase ((env.cfg (code ++ "_ENABLED")).getD "true") = "true"
    let baseUrl := trim (setting env (code ++ "_API_BASE_URL"))
    let initiatePath := trim (orElse (setting env (code ++ "_INITIATE_PATH")) "/transfers")
    if ¬enabled ∨ baseUrl = "" ∨ initiatePath = "" then none
    else
      let mapping := defaultFieldMappingFor partnerCode
      let paths (name : String) (fallback : List String) : List String :=
        parseStringList (setting env (code ++ name)) fallback
      let tokens (name : String) (fallback : List String) : List String :=
        parseTokenList env (setting env (code ++ name)) fallback
      some
        { partnerCode
          mapping :=
            { initiateStatusPaths := paths "_INITIATE_STATUS_PATHS" mapping.initiateStatusPaths
              initiateReferencePaths :=
                paths "_INITIATE_REFERENCE_PATHS" mapping.initiateReferencePaths
              initiateMessagePaths := paths "_INITIATE_MESSAGE_PATHS" mapping.initiateMessagePaths
              checkStatusPaths := paths "_CHECK_STATUS_PATHS" mapping.checkStatusPaths
              checkMessagePaths := paths "_CHECK_MESSAGE_PATHS" mapping.checkMessagePaths
              failedTokens := tokens "_FAILED_TOKENS" mapping.failedTokens
              successTokens := tokens "_SUCCESS_TOKENS" mapping.successTokens
              pendingTokens := tokens "_PENDING_TOKENS" mapping.pendingTokens } }

end Configuration

/-! ## Replies -/

/-- The trimmed body of a reply, by what `JSON.parse` makes of it. -/
inductive Body where
  | empty
  | json (parsed : JsValue)
  | other (trimmed : String)

def safeParseJson : Body → JsValue
  | .empty => .object []
  | .json parsed => if parsed.isPlainObject then parsed else .object [("value", parsed)]
  | .other trimmed => .object [("raw", .string trimmed)]

inductive PartnerReply where
  -- no response: the call was refused, was aborted or threw
  | unreachable (message : String)
  | response (httpStatus : Nat) (body : Body)

/-- `response.ok`. -/
def httpOk (httpStatus : Nat) : Bool := 200 ≤ httpStatus && httpStatus < 300

def readSegments : JsValue → List String → JsValue
  | cursor, [] => cursor
  | cursor, segment :: rest =>
    if cursor.isPlainObject then readSegments (cursor.property segment) rest else .undefined

def readPath (payload : JsValue) (path : String) : JsValue :=
  let segments := splitTrimmed '.' path
  if segments = [] then .undefined else readSegments payload segments

mutual

def findByKeyDeep (key : String) : JsValue → JsValue
  | .object members =>
    match members.lookup key with
    | some value => value
    | none => findInMembers key members
  | _ => .undefined

-- The values in turn; `null` counts as nothing found.
def findInMembers (key : String) : List (String × JsValue) → JsValue
  | [] => .undefined
  | (_, value) :: rest =>
    let found := findByKeyDeep key value
    if found.isMissing then findInMembers key rest else found

end

/-- The first trimmed text that is not empty; `none` when a conversion throws. -/
def firstText : List JsValue → Option String
  | [] => some ""
  | value :: rest =>
    if value.isMissing then firstText rest
    else match value.toText with
      | none => none
      | some text => if trim text = "" then firstText rest else some (trim text)

/-- `pickString`, and `extractString`. -/
def pickString (payload : JsValue) (paths : List String) : Option String :=
  firstText (paths.map (readPath payload) ++
    (paths.filter fun path => !path.toList.contains '.').map fun path =>
      findByKeyDeep path payload)

section Status

variable (env : PartnerEnv)

def normalizedToken (token : String) : String := env.toUpperCase (trim token)

def matchesAnyToken (value : String) (tokens : List String) : Bool :=
  tokens.any fun token =>
    normalizedToken env token ≠ "" &&
      (value == normalizedToken env token || includes value (normalizedToken env token))

inductive Mode where
  | initiate
  | check
  deriving DecidableEq

def classify (raw : String) (mode : Mode) (isHttpOk : Bool) (mapping : FieldMapping) :
    ExternalTransferStatus :=
  let fallback : ExternalTransferStatus := if isHttpOk then .submitted else .failed
  if raw = "" then fallback
  else if matchesAnyToken env raw mapping.failedTokens then .failed
  else if matchesAnyToken env raw mapping.successTokens then
    if mode = .initiate then .submitted else .settled
  else if matchesAnyToken env raw mapping.pendingTokens then .submitted
  else fallback

def extractStatus (payload : JsValue) (mode : Mode) (isHttpOk : Bool) (paths : List String)
    (mapping : FieldMapping) : Option ExternalTransferStatus :=
  (pickString payload paths).map fun picked =>
    classify env (env.toUpperCase picked) mode isHttpOk mapping

/-- `checkViaPartner`; `none` where nothing is known. -/
def checkViaPartner (config : PartnerConfig) : PartnerReply →
    Option (ExternalTransferStatus × String)
  | .unreachable _ => none
  | .response httpStatus body => do
    let payload := safeParseJson body
    let extractedStatus ← extractStatus env payload .check (httpOk httpStatus)
      config.mapping.checkStatusPaths config.mapping
    let extractedMessage ← pickString payload config.mapping.checkMessagePaths
    if httpOk httpStatus = false ∧ 500 ≤ httpStatus then none
    else some (extractedStatus, orElse extractedMessage
      ("Partner " ++ config.partnerCode ++ " status: " ++ extractedStatus.text))

def parseTransferType (raw : String) : ExternalTransferType :=
  if env.toUpperCase (trim raw) = "TOPUP" then .topup else .withdrawal

structure Submission where
  status : ExternalTransferStatus
  partnerRef : String
  partnerMessage : String

/-- What the calls of `initiateViaPartner` answer. -/
structure PartnerAnswer where
  reply : PartnerReply
  -- `Date.now()` and `randomUUID()`
  now : Int
  uuid : String

def typeErrorMessage : String := "Cannot convert object to primitive value"

def initiateViaPartner (config : PartnerConfig) (transferType : String) (answer : PartnerAnswer) :
    Submission :=
  let code := config.partnerCode ++ "-" ++ toString answer.now
  let thrown (message : String) : Submission :=
    { status := .failed
      partnerRef := code ++ "-ERROR"
      partnerMessage := orElse message "Partner service unavailable" }
  match answer.reply with
  | .unreachable message => thrown message
  | .response httpStatus body =>
    let payload := safeParseJson body
    let mapping := config.mapping
    match extractStatus env payload .initiate (httpOk httpStatus) mapping.initiateStatusPaths mapping,
        pickString payload mapping.initiateReferencePaths,
        pickString payload mapping.initiateMessagePaths with
    | some extractedStatus, some extractedRef, some extractedMessage =>
      if extractedStatus = .failed ∨ (httpOk httpStatus = false ∧ 400 ≤ httpStatus) then
        { status := .failed
          partnerRef := orElse extractedRef (code ++ "-FAILED")
          partnerMessage := orElse extractedMessage
            ("Partner " ++ config.partnerCode ++ " rejected transfer") }
      else
        let kind := if parseTransferType env transferType = .topup then "topup" else "withdrawal"
        { status := extractedStatus
          partnerRef := orElse extractedRef (code ++ "-" ++ answer.uuid)
          partnerMessage := orElse extractedMessage
            ("Partner " ++ config.partnerCode ++ " accepted " ++ kind ++ " request") }
    | _, _, _ => thrown typeErrorMessage

end Status

end Kufi.OutsidePayment

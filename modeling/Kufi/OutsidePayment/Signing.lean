import Kufi.Shared.EcmaSimilar
import Kufi.Shared.PercentEncoding

set_option autoImplicit false

/-!
# Requests to a partner

What `callPartnerApi` sends and over which text it is signed. Each partner has
its own way of signing, and environment variables may replace it.
-/

namespace Kufi.OutsidePayment

open Shared Shared.Ecma

inductive RequestStyle where
  | momo
  | bank
  | vnpay
  | zalopay
  | generic
  deriving DecidableEq

inductive SignatureMode where
  | legacyHeaderSha256
  | headerCanonical
  | vnpayQuerySha512
  | zalopayMacSha256
  | payloadFieldsHmac
  deriving DecidableEq

inductive SignatureAlgorithm where
  | sha256
  | sha512
  deriving DecidableEq

inductive Method where
  | get
  | post
  deriving DecidableEq

def Method.text : Method → Str
  | .get => Str.of "GET"
  | .post => Str.of "POST"

/-- The part of the configuration that requests are made with. -/
structure RequestConfig where
  partnerCode : Str
  baseUrl : Str
  initiatePath : Str
  statusPath : Str
  statusMethod : Method
  requestStyle : RequestStyle
  apiKey : Str
  apiSecret : Str
  clientId : Str
  merchantId : Str
  bearerToken : Str
  apiKeyHeader : Str
  clientIdHeader : Str
  merchantIdHeader : Str
  signatureHeader : Str
  signatureMode : SignatureMode
  signatureAlgorithm : SignatureAlgorithm
  signaturePayloadField : Str
  signatureFields : List Str
  signatureJoiner : Str
  extraHeaders : Members
  initiateStaticFields : Members
  checkStaticFields : Members

structure SigningEnv where
  cfg : String → Option Str
  toUpperCase : Str → Str
  toLowerCase : Str → Str
  collation : Collation
  -- the code of a text under a key
  hmac : SignatureAlgorithm → Bytes → Bytes → Bytes

/-- `value === undefined || value === null` of a member. -/
def isNull : Value → Bool
  | .null => true
  | _ => false

/-- `left || right` on strings. -/
def orText (left right : Str) : Str := if left = [] then right else left

/-! ## Configuration -/

section Configuration

variable (env : SigningEnv)

def defaultRequestStyleFor (partnerCode : String) : RequestStyle :=
  if partnerCode = "MOMO" then .momo
  else if partnerCode = "VNPAY" then .vnpay
  else if partnerCode = "ZALOPAY" then .zalopay
  else if partnerCode = "TECHCOMBANK" ∨ partnerCode = "VIETCOMBANK" then .bank
  else .generic

def resolveRequestStyle (raw : Str) (fallback : RequestStyle) : RequestStyle :=
  let normalized := env.toUpperCase (trim raw)
  if normalized = Str.of "MOMO" then .momo
  else if normalized = Str.of "BANK" then .bank
  else if normalized = Str.of "VNPAY" then .vnpay
  else if normalized = Str.of "ZALOPAY" then .zalopay
  else if normalized = Str.of "GENERIC" then .generic
  else fallback

def defaultSignatureModeFor (partnerCode : String) : SignatureMode :=
  if partnerCode = "VNPAY" then .vnpayQuerySha512
  else if partnerCode = "ZALOPAY" then .zalopayMacSha256
  else .legacyHeaderSha256

def resolveSignatureMode (raw : Str) (fallback : SignatureMode) : SignatureMode :=
  let normalized := env.toUpperCase (trim raw)
  if normalized = Str.of "LEGACY_HEADER_SHA256" then .legacyHeaderSha256
  else if normalized = Str.of "HEADER_CANONICAL" then .headerCanonical
  else if normalized = Str.of "VNPAY_QUERY_SHA512" then .vnpayQuerySha512
  else if normalized = Str.of "ZALOPAY_MAC_SHA256" then .zalopayMacSha256
  else if normalized = Str.of "PAYLOAD_FIELDS_HMAC" then .payloadFieldsHmac
  else fallback

def defaultSignatureAlgorithmFor (signatureMode : SignatureMode) : SignatureAlgorithm :=
  if signatureMode = .vnpayQuerySha512 then .sha512 else .sha256

def resolveSignatureAlgorithm (raw : Str) (fallback : SignatureAlgorithm) : SignatureAlgorithm :=
  let normalized := env.toLowerCase (trim raw)
  if normalized = Str.of "sha256" then .sha256
  else if normalized = Str.of "sha512" then .sha512
  else fallback

def defaultSignaturePayloadFieldFor (partnerCode : String) : Str :=
  if partnerCode = "VNPAY" then Str.of "vnp_SecureHash"
  else if partnerCode = "ZALOPAY" then Str.of "mac"
  else Str.of "signature"

def defaultSignatureFieldsFor (partnerCode : String) : List Str :=
  if partnerCode = "ZALOPAY" then
    [Str.of "app_id", Str.of "app_trans_id", Str.of "app_user", Str.of "amount", Str.of "app_time",
      Str.of "embed_data", Str.of "item"]
  else []

def defaultSignatureJoinerFor (partnerCode : String) : Str :=
  if partnerCode = "ZALOPAY" then [unit '|'] else [unit '.']

def parseHeaderPairs (raw : Str) : Members :=
  ((trim raw).splitOn (unit ';')).foldl (fun headers item =>
    let pair := trim item
    let key := trim (pair.takeWhile (· ≠ unit '='))
    let value := trim ((pair.dropWhile (· ≠ unit '=')).drop 1)
    if pair = [] ∨ unit '=' ∉ pair ∨ key = [] ∨ value = [] then headers
    else headers.set key (.string value)) []

def parseJsonObject (raw : Str) : Members :=
  match parse (trim raw) with
  | some (.object members) => members
  | _ => []

def stringList (raw : Str) (fallback : List Str) : List Str :=
  let values := (((trim raw).splitOn (unit ',')).map trim).filter (· ≠ [])
  if values = [] then fallback else values

/-- The rest of `resolvePartnerRuntimeConfig`, for a partner with this prefix. -/
def requestConfig (partnerCode : String) : RequestConfig :=
  let setting (name : String) : Str := (env.cfg (partnerCode ++ name)).getD []
  let trimmed (name : String) (fallback : Str) : Str := trim (orText (setting name) fallback)
  let signatureMode :=
    resolveSignatureMode env (setting "_SIGNATURE_MODE") (defaultSignatureModeFor partnerCode)
  { partnerCode := Str.of partnerCode
    baseUrl := trimmed "_API_BASE_URL" []
    initiatePath := trimmed "_INITIATE_PATH" (Str.of "/transfers")
    statusPath := trimmed "_STATUS_PATH" (Str.of "/transfers/status")
    statusMethod :=
      if env.toUpperCase (trimmed "_STATUS_METHOD" (Str.of "POST")) = Str.of "GET" then .get
      else .post
    requestStyle :=
      resolveRequestStyle env (setting "_REQUEST_STYLE") (defaultRequestStyleFor partnerCode)
    apiKey := trimmed "_API_KEY" []
    apiSecret := trimmed "_API_SECRET" []
    clientId := trimmed "_CLIENT_ID" []
    merchantId := trimmed "_MERCHANT_ID" []
    bearerToken := trimmed "_BEARER_TOKEN" []
    apiKeyHeader := trimmed "_API_KEY_HEADER" (Str.of "X-API-Key")
    clientIdHeader := trimmed "_CLIENT_ID_HEADER" (Str.of "X-Client-Id")
    merchantIdHeader := trimmed "_MERCHANT_ID_HEADER" (Str.of "X-Merchant-Id")
    signatureHeader := trimmed "_SIGNATURE_HEADER" (Str.of "X-Signature")
    signatureMode
    signatureAlgorithm := resolveSignatureAlgorithm env (setting "_SIGNATURE_ALGORITHM")
      (defaultSignatureAlgorithmFor signatureMode)
    signaturePayloadField :=
      trimmed "_SIGNATURE_PAYLOAD_FIELD" (defaultSignaturePayloadFieldFor partnerCode)
    signatureFields :=
      stringList (setting "_SIGNATURE_FIELDS") (defaultSignatureFieldsFor partnerCode)
    signatureJoiner := trimmed "_SIGNATURE_JOINER" (defaultSignatureJoinerFor partnerCode)
    extraHeaders := parseHeaderPairs (setting "_EXTRA_HEADERS")
    initiateStaticFields := parseJsonObject (setting "_INITIATE_STATIC_FIELDS_JSON")
    checkStaticFields := parseJsonObject (setting "_CHECK_STATIC_FIELDS_JSON") }

end Configuration

/-! ## Payloads -/

/-- What `initiateTransfer` hands on. -/
structure TransferData where
  transactionId : Str
  partnerCode : Str
  accountNo : Str
  amount : Number
  currency : Str
  note : Str
  transferType : Str

structure CheckedTransfer where
  transactionId : Str
  partnerRef : Str

/-- What the clock and `randomUUID()` give. -/
structure Tokens where
  requestId : Str
  requestTime : Str
  -- `Date.now()`
  appTime : Nat
  timestamp : Nat
  nonce : Str

section Payloads

variable (env : SigningEnv) (config : RequestConfig)

def textField (name : String) (value : Str) : Str × Value := (Str.of name, .string value)

def currencyOf (data : TransferData) : Str := env.toUpperCase (orText data.currency (Str.of "VND"))

def transferTypeOf (data : TransferData) : Str :=
  if env.toUpperCase (trim data.transferType) = Str.of "TOPUP" then Str.of "TOPUP"
  else Str.of "WITHDRAWAL"

def transferNote (data : TransferData) : Str :=
  orText data.note (Str.of "Transfer " ++ data.transactionId)

def hundredfold : Number → Number
  | .finite x => .round (x.value * 100)
  | .infinity negative => .infinity negative

/-- `left || right` on values. -/
def orValue (left : Option Value) (right : Value) : Value :=
  match left with
  | some value => if truthy left then value else right
  | none => right

def normalizeJsonField (value : Option Value) (fallback : Str) : Str :=
  match value with
  | none | some .null => fallback
  | some (.string text) => orText (trim text) fallback
  | some value => stringify value

-- `String(..).trim() || undefined` of the first field that is set
def appIdOf (fields : List (Option Value)) : Option (Option Str) := do
  let found := fields.foldr orValue (.string (orText config.clientId config.merchantId))
  let text ← toText found
  some (if trim text = [] then none else some (trim text))

/-- `{ app_id: appId, ...rest, ...fields }`: a missing id keeps its place for the field. -/
def withAppId (appId : Option Str) (rest fields : Members) : Members :=
  let members := Members.spread
    ((Str.of "app_id", match appId with | some id => .string id | none => .null) :: rest) fields
  if appId = none ∧ fields.get (Str.of "app_id") = none then members.delete (Str.of "app_id")
  else members

def appTimeOf (now : Number) : Option Number :=
  match toNumber (some (orValue (config.initiateStaticFields.get (Str.of "app_time")) (.number now))) with
  | .throws => none
  | .nan => some now
  | .number n => some (if n.isFinite then n else now)

def zalopayFields (data : TransferData) (user : Str) (appTime : Number) : Members :=
  [textField "app_trans_id" data.transactionId,
    textField "app_user" (orText (trim user) (Str.of "kufi-user")),
    (Str.of "app_time", .number appTime),
    (Str.of "amount", .number data.amount),
    textField "item" (normalizeJsonField (config.initiateStaticFields.get (Str.of "item"))
      (Str.of "[]")),
    textField "embed_data" (normalizeJsonField
      (config.initiateStaticFields.get (Str.of "embed_data")) (Str.of "\x7b\x7d")),
    textField "currency" (currencyOf env data),
    textField "description" (transferNote data),
    textField "transferType" (transferTypeOf env data)]

def zalopayInitiate (data : TransferData) (tokens : Tokens) : Option Members := do
  let fixed := config.initiateStaticFields
  let appId ← appIdOf config [fixed.get (Str.of "app_id")]
  let user ← toText (orValue (fixed.get (Str.of "app_user")) (.string data.accountNo))
  let appTime ← appTimeOf config (.ofNat tokens.appTime)
  some (withAppId appId (zalopayFields env config data user appTime) fixed)

/-- `none` when it throws. -/
def buildInitiatePayload (data : TransferData) (tokens : Tokens) : Option Members :=
  match config.requestStyle with
  | .momo => some (Members.spread
      [textField "requestId" tokens.requestId, textField "orderId" data.transactionId,
        textField "partnerCode" (orText config.clientId (orText config.merchantId data.partnerCode)),
        (Str.of "amount", .number data.amount), textField "orderInfo" (transferNote data),
        textField "extraData" [], textField "lang" (Str.of "vi"), textField "accountNo" data.accountNo,
        textField "currency" (currencyOf env data), textField "transferType" (transferTypeOf env data)]
      config.initiateStaticFields)
  | .bank => some (Members.spread
      [textField "requestId" tokens.requestId, textField "requestTime" tokens.requestTime,
        textField "transactionId" data.transactionId, textField "referenceId" data.transactionId,
        textField "accountNo" data.accountNo, (Str.of "amount", .number data.amount),
        textField "currency" (currencyOf env data), textField "description" data.note,
        textField "transferType" (transferTypeOf env data)]
      config.initiateStaticFields)
  | .vnpay => some (Members.spread
      [textField "vnp_TxnRef" data.transactionId, textField "vnp_OrderInfo" (transferNote data),
        (Str.of "vnp_Amount", .number (hundredfold data.amount)),
        textField "vnp_CurrCode" (currencyOf env data), textField "vnp_IpAddr" (Str.of "127.0.0.1"),
        textField "transferType" (transferTypeOf env data)]
      config.initiateStaticFields)
  | .zalopay => zalopayInitiate env config data tokens
  | .generic => some (Members.spread
      [textField "transactionId" data.transactionId, textField "partnerCode" data.partnerCode,
        textField "accountNo" data.accountNo, (Str.of "amount", .number data.amount),
        textField "currency" (currencyOf env data), textField "transferType" (transferTypeOf env data),
        textField "note" data.note, textField "requestId" tokens.requestId,
        textField "requestTime" tokens.requestTime]
      config.initiateStaticFields)

def buildCheckPayload (transfer : CheckedTransfer) (tokens : Tokens) : Option Members :=
  match config.requestStyle with
  | .momo => some (Members.spread
      [textField "requestId" tokens.requestId, textField "orderId" transfer.transactionId,
        textField "partnerRef" transfer.partnerRef]
      config.checkStaticFields)
  | .bank => some (Members.spread
      [textField "requestId" tokens.requestId, textField "requestTime" tokens.requestTime,
        textField "transactionId" transfer.transactionId, textField "referenceId" transfer.partnerRef,
        textField "partnerRef" transfer.partnerRef]
      config.checkStaticFields)
  | .vnpay => some (Members.spread
      [textField "vnp_TxnRef" transfer.transactionId, textField "vnp_TransactionNo" transfer.partnerRef]
      config.checkStaticFields)
  | .zalopay => do
    let appId ← appIdOf config [config.checkStaticFields.get (Str.of "app_id"),
      config.initiateStaticFields.get (Str.of "app_id")]
    some (withAppId appId
      [textField "app_trans_id" transfer.transactionId, textField "zp_trans_id" transfer.partnerRef]
      config.checkStaticFields)
  | .generic => some (Members.spread
      [textField "partnerCode" config.partnerCode, textField "partnerRef" transfer.partnerRef,
        textField "transactionId" transfer.transactionId, textField "requestId" tokens.requestId,
        textField "requestTime" tokens.requestTime]
      config.checkStaticFields)

end Payloads

/-! ## Signatures -/

def digestText (bytes : Bytes) : Str :=
  bytes.flatMap fun b => [unit (Nat.digitChar (b.toNat / 16)), unit (Nat.digitChar (b.toNat % 16))]

def isHashField (name : Str) : Bool :=
  name = Str.of "vnp_SecureHash" || name = Str.of "vnp_SecureHashType"

def vnpayEntries (payload : Members) : Members :=
  payload.filter fun entry => !isHashField entry.1 && !isNull entry.2

def vnpayPart (entry : Str × Value) : Option Str := do
  let key ← encodeURIComponent entry.1
  let text ← toText entry.2
  let value ← encodeURIComponent text
  some (key ++ unit '=' :: value)

def normalizeCanonicalValue (value : Option Value) : Str :=
  match value with
  | none | some .null => []
  | some (.string text) => text
  | some (.number n) => n.toString
  | some (.bool value) => Str.of (if value then "true" else "false")
  | some value => stringify value

def joinTexts (joiner : Str) : List Str → Str
  | [] => []
  | [text] => text
  | text :: rest => text ++ joiner ++ joinTexts joiner rest

def buildCanonicalFromFields (payload : Members) (fields : List Str) (joinerRaw : Str) : Str :=
  let list := fields.filter fun item => trim item ≠ []
  joinTexts (orText joinerRaw [unit '|'])
    (list.map fun name => normalizeCanonicalValue (payload.get name))

structure SignatureArgs where
  method : Method
  path : Str
  payload : Members
  headers : Members
  timestamp : Str
  nonce : Str

section Signatures

variable (env : SigningEnv) (config : RequestConfig)

/-- `createHmac(algorithm, apiSecret).update(text).digest('hex')`. -/
def signText (algorithm : SignatureAlgorithm) (text : Str) : Str :=
  digestText (env.hmac algorithm (Utf8.encode config.apiSecret) (Utf8.encode text))

def buildVnpayCanonical (payload : Members) : Option Str :=
  ((env.collation.byName (vnpayEntries payload)).mapM vnpayPart).map (joined (unit '&'))

/-- The payload and the headers after signing; `none` when it throws. -/
def applySignature (args : SignatureArgs) : Option (Members × Members) :=
  let fields := buildCanonicalFromFields args.payload config.signatureFields config.signatureJoiner
  let signed (text : Str) : Value := .string (signText env config config.signatureAlgorithm text)
  if config.apiSecret = [] then some (args.payload, args.headers)
  else
    match config.signatureMode with
    | .vnpayQuerySha512 => do
      let canonical ← buildVnpayCanonical env args.payload
      if canonical = [] then some (args.payload, args.headers)
      else
        let typed := args.payload.set (Str.of "vnp_SecureHashType") (.string (Str.of "HmacSHA512"))
        some (typed.set (orText config.signaturePayloadField (Str.of "vnp_SecureHash"))
          (.string (signText env config .sha512 canonical)), args.headers)
    | .zalopayMacSha256 | .payloadFieldsHmac =>
      if fields = [] then some (args.payload, args.headers)
      else some (args.payload.set (orText config.signaturePayloadField (Str.of "mac")) (signed fields),
        args.headers)
    | .headerCanonical =>
      let canonical := orText fields (args.method.text ++ unit '.' :: (args.path ++
        unit '.' :: stringify (.object args.payload)))
      some (args.payload, args.headers.set config.signatureHeader (signed canonical))
    | .legacyHeaderSha256 =>
      let canonical := args.timestamp ++ unit '.' :: (args.nonce ++
        unit '.' :: stringify (.object args.payload))
      some (args.payload, args.headers.set config.signatureHeader
        (.string (signText env config .sha256 canonical)))

end Signatures

/-! ## Calls -/

/-- `text.replaceAll(pattern, replacement)`, for a pattern that is not empty. -/
def replaceAll (pattern replacement : Str) : Nat → Str → Str
  | 0, text => text
  | _ + 1, [] => []
  | fuel + 1, u :: rest =>
    if pattern.isPrefixOf (u :: rest) then
      replacement ++ replaceAll pattern replacement fuel ((u :: rest).drop pattern.length)
    else u :: replaceAll pattern replacement fuel rest

def placeholder (name : Str) : Str := unit '\x7b' :: (name ++ [unit '\x7d'])

def hasPlaceholder (path name : Str) : Bool := placeholder name <:+: path

/-- `none` when it throws. -/
def interpolatePath (path : Str) (payload : Members) : Option Str :=
  payload.foldlM (fun result entry =>
    if isNull entry.2 || !hasPlaceholder result entry.1 then some result
    else do
      let text ← toText entry.2
      let value ← encodeURIComponent text
      some (replaceAll (placeholder entry.1) value result.length result)) path

def queryEntries (path : Str) (payload : Members) : Option (List (Str × Str)) :=
  (payload.filter fun entry => !isNull entry.2 && !hasPlaceholder path entry.1).mapM fun entry =>
    (toText entry.2).map fun text => (entry.1, text)

structure PartnerRequest where
  method : Method
  url : Str
  headers : Members
  body : Option Str

def withSecret (headers : Members) (name value : Str) : Members :=
  if value = [] then headers else headers.set name (.string value)

/-- What `callPartnerApi` gives to `fetch`; `none` when it throws before. -/
def callPartnerApi (env : SigningEnv) (config : RequestConfig) (path : Str) (method : Method)
    (payload : Members) (tokens : Tokens) : Option PartnerRequest := do
  let baseUrl := if config.baseUrl.getLast? = some (unit '/') then config.baseUrl.dropLast
    else config.baseUrl
  let normalizedPath := if path.head? = some (unit '/') then path else unit '/' :: path
  let timestamp := digits tokens.timestamp
  let initial := Members.spread
    [textField "Content-Type" (Str.of "application/json"), textField "X-Timestamp" timestamp,
      textField "X-Nonce" tokens.nonce] config.extraHeaders
  let (requestPayload, headers) ← applySignature env config
    { method, path := normalizedPath, payload, headers := initial, timestamp, nonce := tokens.nonce }
  let headers := withSecret headers config.apiKeyHeader config.apiKey
  let headers := withSecret headers config.clientIdHeader config.clientId
  let headers := withSecret headers config.merchantIdHeader config.merchantId
  let headers := withSecret headers (Str.of "Authorization")
    (if config.bearerToken = [] then [] else Str.of "Bearer " ++ config.bearerToken)
  let interpolated ← interpolatePath normalizedPath requestPayload
  let url := baseUrl ++ interpolated
  match method with
  | .post => some ⟨.post, url, headers, some (stringify (.object requestPayload))⟩
  | .get =>
    let entries ← queryEntries normalizedPath requestPayload
    let query := queryText entries
    some ⟨.get, if query = [] then url else url ++ unit '?' :: query, headers, none⟩

end Kufi.OutsidePayment

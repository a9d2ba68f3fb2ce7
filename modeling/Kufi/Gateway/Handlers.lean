import Kufi.Gateway.Fabric
import Kufi.Gateway.Requests

set_option autoImplicit false

/-!
# The gateway's handlers

`SubmitTransfer` and `GetReceipt`, one access to a shared store or one network
call at a time. Any number of them run at once, beside the clock, the Fabric
network, the cleanup goroutines and the file writes; a restart ends them all.
-/

namespace Kufi.Gateway

open Shared Marshal Chaincode

structure Node where
  now : Time
  -- the number of restarts so far
  boot : Nat
  stores : Stores
  fabric : Fabric

structure EndorsementInfo where
  mspID : String
  certificate : Bytes
  signature : Bytes
  deriving DecidableEq

structure TransactionInfo where
  txIndex : Int
  endorsements : List EndorsementInfo
  deriving DecidableEq

inductive Call where
  | submitTransfer (req : TransferRequest)
  | getReceipt (txID : String)
  deriving DecidableEq

-- The three submissions `SubmitTransfer` may make.
inductive Round where
  | crossOrg
  | originOnly
  | withoutPrivateData (endorsingOrgs : List String)
  deriving DecidableEq

inductive Stage where
  | arriving (call : Call)
  | checkKey (req : TransferRequest)
  | checkNonce (req : TransferRequest)
  | checkTimestamp (req : TransferRequest)
  | recordNonce (req : TransferRequest)
  | addNonce (req : TransferRequest) (timestamp : Time)
  | prepare (req : TransferRequest)
  | calling (req : TransferRequest) (clientSubmitTime : Time) (round : Round) (call : Submission)
  | queryBlock (req : TransferRequest) (clientSubmitTime : Time) (result : SubmitResult)
  | queryTransaction (req : TransferRequest) (clientSubmitTime : Time) (result : SubmitResult)
      (blockHash : String)
  | build (req : TransferRequest) (input : BuildInput)
  | storeReceipt (req : TransferRequest) (receipt : Receipt)
  | storeKey (req : TransferRequest) (receipt : Receipt)
  | answer (req : TransferRequest) (receipt : Receipt)
  | lookup (txID : String)
  | queryLedger (txID : String) (receipt : Receipt)
  | rebuild (txID : String) (receipt : Receipt) (txInfo : TransactionInfo)
  | storeRebuilt (txID : String) (receipt : Receipt)
  | finished (reply : Reply)
  | found (receipt : ReceiptDTO)

structure Handler where
  boot : Nat
  stage : Stage

inductive Answer where
  | proceed
  | fabric (answer : FabricAnswer)
  | block (result : Except String String)
  | transaction (result : Except String TransactionInfo)

variable (config : Config) (crypto : Crypto)

/-! ## What a submission sends -/

def privateData (req : TransferRequest) : Bytes :=
  utf8 (Json.struct
    [("amount_vnd", always req.amountVND),
      ("from_id", always req.fromID),
      ("internal_ref", always req.internalRef),
      ("memo", always req.memo),
      ("timestamp", always req.timestamp),
      ("to_id", always req.toID)]).encode

def collectionName (req : TransferRequest) : String :=
  if config.highRiskThreshold ≤ req.amountVND then
    if config.regulatorCollection = "" then "collectionHighRisk" else config.regulatorCollection
  else if config.interBankCollection = "" then "collectionInterBank"
  else config.interBankCollection

def Round.endorsingOrgs : Round → List String
  | .crossOrg => selectTransparencyEndorsingOrgs config
  | .originOnly => [config.mspID]
  | .withoutPrivateData endorsingOrgs => endorsingOrgs

def invocation (req : TransferRequest) (round : Round) : Invocation where
  creatorMSP := config.mspID
  arguments :=
    { commitmentHash := computeCommitmentHash crypto.sha256 (commitmentOf config req)
      internalRef := req.internalRef
      policyID := determinePolicyID config req }
  endorsingOrgs := round.endorsingOrgs config
  transient :=
    match round with
    | .withoutPrivateData _ => []
    | _ => [(collectionName config req, privateData req)]
  idempotencyKey := req.idempotencyKey

-- Whether an error of this round leads to another one.
def Round.next? (round : Round) (err : String) : Option Round :=
  match round with
  | .crossOrg =>
    if isMissingEndorsingPeerError err then some .originOnly
    else if isMissingCollectionError err then
      some (.withoutPrivateData (selectTransparencyEndorsingOrgs config))
    else none
  | .originOnly =>
    if isMissingCollectionError err then some (.withoutPrivateData [config.mspID]) else none
  | .withoutPrivateData _ => none

/-! ## What the receipt is built of -/

def committedEndorsements (endorsements : List EndorsementInfo) : List EndorsementInput :=
  endorsements.map fun endorsement =>
    { mspID := endorsement.mspID
      endorserID := ""
      certPEM := endorsement.certificate
      signature := endorsement.signature
      timestamp := Time.zero
      signatureValid := false
      certChainValid := false }

def submittedEndorsements (endorsements : List Endorsement) : List EndorsementInput :=
  endorsements.map fun endorsement =>
    { mspID := endorsement.mspID
      endorserID := ""
      certPEM := endorsement.certificate
      signature := endorsement.signature
      timestamp := endorsement.timestamp
      signatureValid := endorsement.signatureValid
      certChainValid := endorsement.certChainValid }

def fallbackBlockHash (req : TransferRequest) (result : SubmitResult) : String :=
  let data := "block:" ++ toString result.blockNumber ++ ":tx:" ++ result.txID ++ ":commit:" ++
    computeCommitmentHash crypto.sha256 (commitmentOf config req)
  hexEncode (crypto.sha256 (utf8 data.toList))

def submitInput (req : TransferRequest) (clientSubmitTime : Time) (result : SubmitResult)
    (blockHash : String) (txInfo : Option TransactionInfo) : BuildInput where
  txID := result.txID
  commitmentHash := computeCommitmentHash crypto.sha256 (commitmentOf config req)
  commitmentOpening := some (commitmentOf config req)
  blockNumber := result.blockNumber
  blockHash := blockHash
  txIndex := match txInfo with
    | some info => info.txIndex
    | none => 0
  validationCode := result.validationCode
  endorsements :=
    let committed := match txInfo with
      | some info => committedEndorsements info.endorsements
      | none => []
    if committed = [] then submittedEndorsements result.endorsements else committed
  originMSPID := config.mspID
  policyID := determinePolicyID config req
  policyMet := isTransparencyPolicyMet config (result.endorsements.map Endorsement.mspID)
  internalRef := req.internalRef
  clientSubmitTime := clientSubmitTime
  endorsementTime := result.commitTimestamp
  commitTime := result.commitTimestamp

def timeFromUnixMilli (ms : Int) : Time :=
  if ms = 0 then Time.zero else Time.ofUnixMilli ms

def rebuildInput (existing : Receipt) (txInfo : TransactionInfo) : BuildInput where
  txID := existing.txID
  commitmentHash := existing.commitmentHash
  commitmentOpening := existing.commitmentOpening
  blockNumber := existing.blockNumber
  blockHash := existing.blockHash
  txIndex := if 0 < txInfo.txIndex then txInfo.txIndex else existing.txIndex
  validationCode := existing.validationCode
  endorsements := committedEndorsements txInfo.endorsements
  originMSPID := existing.originMSPID
  policyID := existing.policyID
  policyMet := existing.policyMet
  internalRef := existing.internalRef
  clientSubmitTime := timeFromUnixMilli existing.timestamps.clientSubmit
  endorsementTime := timeFromUnixMilli existing.timestamps.endorsementTime
  commitTime := timeFromUnixMilli existing.timestamps.blockCommit

-- What `rebuildReceiptFromLedger` changes after `Build` has set the hash.
def restoreFields (existing rebuilt : Receipt) : Receipt :=
  { rebuilt with
    receiptSignature := existing.receiptSignature
    commitmentAlgorithm :=
      if existing.commitmentAlgorithm ≠ "" then existing.commitmentAlgorithm
      else rebuilt.commitmentAlgorithm
    observation :=
      if 0 < existing.observation.observedAt ∨ existing.observation.anchorRef ≠ "" ∨
          existing.observation.anchorType ≠ "" then existing.observation
      else rebuilt.observation
    timestamps :=
      { rebuilt.timestamps with ordererReceive := existing.timestamps.ordererReceive } }

def rebuildReceipt (now : Time) (existing : Receipt) (txInfo : TransactionInfo) : Receipt :=
  restoreFields existing
    (build crypto config.receiptBuilder now (rebuildInput existing txInfo))

/-! ## Steps -/

def respondError (now : Time) (status : Nat) (code message details : String) : Stage :=
  .finished (.failure status { code, message, details } (Time.unixMilli now))

def respondSuccess (now : Time) (receipt : Receipt) : Stage :=
  .finished (.success receipt.txID (receiptToDTO receipt) (Time.unixMilli now))

def Call.begin (now : Time) : Call → Stage
  | .submitTransfer req =>
    if req.bindErrors ≠ [] then
      respondError now 400 "BAD_REQUEST" "Invalid request body" ("\n".intercalate req.bindErrors)
    else
      match req.validate with
      | some err => respondError now 400 "VALIDATION_FAILED" "Validation failed" err
      | none => .checkKey req
  | .getReceipt txID =>
    if txID = "" then respondError now 400 "BAD_REQUEST" "Transaction ID required" ""
    else .lookup txID

def inWindow (now : Time) (req : TransferRequest) : Bool :=
  let timeDiff := Time.unixMilli now - req.timestamp
  0 ≤ timeDiff && timeDiff ≤ Duration.milliseconds config.nonceWindow

def Stage.step (s : Node) : Stage → Answer → Option (Node × Stage)
  | .arriving call, .proceed => some (s, call.begin s.now)
  | .checkKey req, .proceed =>
    match s.stores.getKey s.now req.idempotencyKey with
    | some receipt => some (s, respondSuccess s.now receipt)
    | none => some (s, .checkNonce req)
  | .checkNonce req, .proceed =>
    if s.stores.nonceExists config.toStoreConfig s.now req.nonce then
      some (s, respondError s.now 409 "REPLAY_DETECTED" "Replay detected" "Nonce already used")
    else some (s, .checkTimestamp req)
  | .checkTimestamp req, .proceed =>
    if inWindow config s.now req then some (s, .recordNonce req)
    else
      some (s, respondError s.now 400 "REPLAY_DETECTED" "Request expired or future timestamp" "")
  | .recordNonce req, .proceed => some (s, .addNonce req s.now)
  | .addNonce req timestamp, .proceed =>
    some ({ s with stores := s.stores.addNonce req.nonce timestamp }, .prepare req)
  | .prepare req, .proceed => some (s, .calling req s.now .crossOrg .acquiring)
  | .calling req clientSubmitTime round (.returned result), .proceed =>
    match result with
    | .ok result => some (s, .queryBlock req clientSubmitTime result)
    | .error err =>
      match round.next? config err with
      | some next => some (s, .calling req clientSubmitTime next .acquiring)
      | none =>
        some (s, respondError s.now 500 "FABRIC_ERROR" "Failed to submit transaction" err)
  | .calling req clientSubmitTime round call, .fabric outcome =>
    (call.step config.maxAttempts (invocation config crypto req round) s.now s.fabric outcome).map
      fun (fabric, call) => ({ s with fabric }, .calling req clientSubmitTime round call)
  | .queryBlock req clientSubmitTime result, .block queried =>
    let blockHash := match queried with
      | .ok blockHash => blockHash
      | .error _ => fallbackBlockHash config crypto req result
    some (s, .queryTransaction req clientSubmitTime result blockHash)
  | .queryTransaction req clientSubmitTime result blockHash, .transaction queried =>
    some (s, .build req
      (submitInput config crypto req clientSubmitTime result blockHash queried.toOption))
  | .build req input, .proceed =>
    some (s, .storeReceipt req (Kufi.Gateway.build crypto config.receiptBuilder s.now input))
  | .storeReceipt req receipt, .proceed =>
    some ({ s with stores := s.stores.storeReceipt config.toStoreConfig receipt.txID receipt },
      .storeKey req receipt)
  | .storeKey req receipt, .proceed =>
    some ({ s with
        stores := s.stores.storeKey config.toStoreConfig s.now req.idempotencyKey receipt },
      .answer req receipt)
  | .answer _ receipt, .proceed => some (s, respondSuccess s.now receipt)
  | .lookup txID, .proceed =>
    match s.stores.receipts.get txID with
    | none => some (s, respondError s.now 404 "NOT_FOUND" "Receipt not found" "")
    | some receipt =>
      if receipt.endorsements.items = [] ∧ receipt.txID ≠ "" then
        some (s, .queryLedger txID receipt)
      else some (s, .found (receiptToDTO receipt))
  | .queryLedger txID receipt, .transaction queried =>
    match queried with
    | .error _ => some (s, .found (receiptToDTO receipt))
    | .ok txInfo =>
      if txInfo.endorsements = [] then some (s, .found (receiptToDTO receipt))
      else some (s, .rebuild txID receipt txInfo)
  | .rebuild txID receipt txInfo, .proceed =>
    some (s, .storeRebuilt txID (rebuildReceipt config crypto s.now receipt txInfo))
  | .storeRebuilt txID receipt, .proceed =>
    some ({ s with stores := s.stores.storeReceipt config.toStoreConfig txID receipt },
      .found (receiptToDTO receipt))
  | _, _ => none

-- A handler lives as long as the process it was started in.
def Handler.step (s : Node) (handler : Handler) (answer : Answer) :
    Option (Node × Handler) :=
  match handler.stage with
  | .arriving call =>
    (Stage.step config crypto s (.arriving call) answer).map fun (s, stage) =>
      (s, { boot := s.boot, stage })
  | stage =>
    if handler.boot = s.boot then
      (Stage.step config crypto s stage answer).map fun (s, stage) =>
        (s, { boot := handler.boot, stage })
    else none

/-! ## The environment -/

inductive Event where
  | tick (elapsed : Nat)
  | commit (i : Nat)
  | invalidate (i : Nat) (code : Int)
  | finishWrite (i : Nat) (outcome : WriteOutcome)
  | cleanupKeys
  | cleanupNonces (outcome : WriteOutcome)
  | restart
  deriving DecidableEq

def Event.apply (s : Node) : Event → Option Node
  | .tick elapsed => some { s with now := s.now + elapsed }
  | .commit i => (s.fabric.commit i).map fun fabric => { s with fabric }
  | .invalidate i code => (s.fabric.invalidate i code).map fun fabric => { s with fabric }
  | .finishWrite i outcome =>
    (s.stores.finishWrite config.toStoreConfig i outcome).map fun stores => { s with stores }
  | .cleanupKeys => some { s with stores := s.stores.cleanupKeys config.toStoreConfig s.now }
  | .cleanupNonces outcome =>
    some { s with stores := s.stores.cleanupNonces config.toStoreConfig s.now outcome }
  | .restart =>
    some { s with
      boot := s.boot + 1
      stores := s.stores.restart config.toStoreConfig s.now }

def handlers : Machine Node Handler Answer where
  step := Handler.step config crypto

def environment : Machine Node Unit Event where
  step s _ event := (event.apply config s).map fun s => (s, ())

abbrev Process := Handler ⊕ Unit

def gateway : Machine Node Process (Answer ⊕ Event) :=
  Machine.either (handlers config crypto) (environment config)

/-! ## A gateway and a transfer -/

def bankConfig : Config where
  idempotencyTTL := 86400000000000
  nonceWindow := 300000000000
  dataDir := ["data"]
  mspID := "BankMSP"
  channelName := "payments"
  chaincodeName := "payment"
  maxAttempts := 3
  highRiskThreshold := 200000000
  regulatorCollection := ""
  interBankCollection := ""
  statusEndpoint := "https://bank/status"
  includeFullCerts := false

def bankNode : Node where
  now := 1700000000000000000
  boot := 0
  stores := Stores.empty
  fabric := Fabric.empty

def aliceTransfer : TransferRequest where
  fromID := "alice"
  toID := "bob"
  amountVND := 50000
  memo := "lunch"
  internalRef := "tx-1"
  idempotencyKey := "key-1"
  nonce := "nonce-0123456789"
  timestamp := 1700000000000
  userSignature := ""
  transferType := ""

end Kufi.Gateway

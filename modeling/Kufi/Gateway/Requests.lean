import Kufi.Gateway.ReceiptBuilder
import Kufi.Gateway.Stores

set_option autoImplicit false

/-!
# Transfer requests and replies
-/

namespace Kufi.Gateway

open Shared

structure Config extends StoreConfig where
  mspID : String
  channelName : String
  chaincodeName : String
  maxAttempts : Int
  highRiskThreshold : Int
  regulatorCollection : String
  interBankCollection : String
  statusEndpoint : String
  includeFullCerts : Bool

def Config.receiptBuilder (config : Config) : ReceiptBuilder where
  channelID := config.channelName
  chaincodeID := config.chaincodeName
  statusEndpoint := config.statusEndpoint
  includeFullCerts := config.includeFullCerts

/-! ## Requests -/

-- A member that the body does not have is zero.
structure TransferRequest where
  fromID : String
  toID : String
  amountVND : Int
  memo : String
  internalRef : String
  idempotencyKey : String
  nonce : String
  timestamp : Int
  userSignature : String
  transferType : String
  deriving DecidableEq

namespace TransferRequest

def fieldError (field tag : String) : String :=
  "Key: 'TransferRequest." ++ field ++ "' Error:Field validation for '" ++ field ++
    "' failed on the '" ++ tag ++ "' tag"

-- The `binding` tags, in the order of the fields.
def bindErrors (req : TransferRequest) : List String :=
  (if req.fromID = "" then [fieldError "FromID" "required"] else []) ++
  (if req.toID = "" then [fieldError "ToID" "required"] else []) ++
  (if req.amountVND = 0 then [fieldError "AmountVND" "required"]
    else if req.amountVND < 1 then [fieldError "AmountVND" "min"] else []) ++
  (if req.internalRef = "" then [fieldError "InternalRef" "required"] else []) ++
  (if req.idempotencyKey = "" then [fieldError "IdempotencyKey" "required"] else []) ++
  (if req.nonce = "" then [fieldError "Nonce" "required"] else []) ++
  (if req.timestamp = 0 then [fieldError "Timestamp" "required"] else [])

-- The error of `validateTransferRequest`.
def validate (req : TransferRequest) : Option String :=
  if req.amountVND ≤ 0 then some "amount must be positive"
  else if req.fromID = req.toID then some "sender and receiver cannot be the same"
  else if req.internalRef = "" then some "internal_ref is required"
  else if req.idempotencyKey = "" then some "idempotency_key is required"
  else if req.nonce.utf8ByteSize < 16 then some "nonce must be at least 16 characters"
  else none

end TransferRequest

variable (config : Config) (req : TransferRequest)

def determinePolicyID : String :=
  if config.highRiskThreshold ≤ req.amountVND then "high_risk" else "inter_bank_standard"

def commitmentOf : TransferCommitment where
  channelID := config.channelName
  chaincodeID := config.chaincodeName
  function := "CreateTransferIntent"
  fromID := req.fromID
  toID := req.toID
  amountVND := req.amountVND
  internalRef := req.internalRef
  timestamp := req.timestamp
  nonce := req.nonce

/-! ## Endorsing organisations -/

def selectTransparencyEndorsingOrgs : List String :=
  let candidates := [config.mspID, "TechcombankMSP", "VietcombankMSP", "TaxMSP"]
  let orgs := (candidates.filter (· ≠ "")).foldl (fun orgs org =>
    if org ∈ orgs then orgs else orgs ++ [org]) []
  orgs.take 2

def isTransparencyPolicyMet (mspIDs : List String) : Bool :=
  let named := mspIDs.filter (· ≠ "")
  decide (2 ≤ named.dedup.length) && named.any (· ≠ config.mspID)

/-! ## Replies -/

/-- A receipt as the API shows it; its nested structures are those of the receipt. -/
structure ReceiptDTO where
  schemaVersion : String
  channelID : String
  txID : String
  chaincodeID : String
  commitmentHash : String
  commitmentOpening : Option TransferCommitment
  commitmentAlgorithm : String
  blockNumber : Nat
  blockHash : String
  txIndex : Int
  validationCode : Int
  validationCodeName : String
  endorsements : Slice EndorsementRecord
  originMSPID : String
  policyID : String
  policyMet : Bool
  timestamps : ReceiptTimestamps
  statusEndpoint : String
  observation : ObservationMeta
  internalRef : String
  receiptHash : String
  deriving DecidableEq

def receiptToDTO (receipt : Receipt) : ReceiptDTO where
  schemaVersion := receipt.schemaVersion
  channelID := receipt.channelID
  txID := receipt.txID
  chaincodeID := receipt.chaincodeID
  commitmentHash := receipt.commitmentHash
  commitmentOpening := receipt.commitmentOpening
  commitmentAlgorithm := receipt.commitmentAlgorithm
  blockNumber := receipt.blockNumber
  blockHash := receipt.blockHash
  txIndex := receipt.txIndex
  validationCode := receipt.validationCode
  validationCodeName := receipt.validationCodeName
  endorsements := receipt.endorsements.items.foldl Slice.append none
  originMSPID := receipt.originMSPID
  policyID := receipt.policyID
  policyMet := receipt.policyMet
  timestamps := receipt.timestamps
  statusEndpoint := receipt.statusEndpoint
  observation := receipt.observation
  internalRef := receipt.internalRef
  receiptHash := receipt.receiptHash

structure ErrorDetail where
  code : String
  message : String
  details : String
  deriving DecidableEq

/-- A `TransferResponse` with its HTTP status. -/
inductive Reply where
  | success (txID : String) (receipt : ReceiptDTO) (processedAt : Int)
  | failure (status : Nat) (error : ErrorDetail) (processedAt : Int)
  deriving DecidableEq

end Kufi.Gateway

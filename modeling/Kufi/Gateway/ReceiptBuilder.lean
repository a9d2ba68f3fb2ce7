import Kufi.Gateway.Verify

set_option autoImplicit false

/-!
# Building receipts

`Build` makes a receipt of what is known of a committed transaction, and sets
its hash last.
-/

namespace Kufi.Gateway

open Shared

def validationCodeNames : List (Int × String) :=
  [(0, "VALID"),
    (1, "NIL_ENVELOPE"),
    (2, "BAD_PAYLOAD"),
    (3, "BAD_COMMON_HEADER"),
    (4, "BAD_CREATOR_SIGNATURE"),
    (5, "INVALID_ENDORSER_TRANSACTION"),
    (6, "INVALID_CONFIG_TRANSACTION"),
    (7, "UNSUPPORTED_TX_PAYLOAD"),
    (8, "BAD_PROPOSAL_TXID"),
    (9, "DUPLICATE_TXID"),
    (10, "ENDORSEMENT_POLICY_FAILURE"),
    (11, "MVCC_READ_CONFLICT"),
    (12, "PHANTOM_READ_CONFLICT"),
    (13, "UNKNOWN_TX_TYPE"),
    (14, "TARGET_CHAIN_NOT_FOUND"),
    (15, "MARSHAL_TX_ERROR"),
    (16, "NIL_TXACTION"),
    (17, "EXPIRED_CHAINCODE"),
    (18, "CHAINCODE_VERSION_CONFLICT"),
    (19, "BAD_HEADER_EXTENSION"),
    (20, "BAD_CHANNEL_HEADER"),
    (21, "BAD_RESPONSE_PAYLOAD"),
    (22, "BAD_RWSET"),
    (23, "ILLEGAL_WRITESET"),
    (24, "INVALID_WRITESET"),
    (254, "NOT_VALIDATED"),
    (255, "INVALID_OTHER_REASON")]

def validationCodeToName (code : Int) : String :=
  (validationCodeNames.lookup code).getD ("UNKNOWN_" ++ toString code)

structure EndorsementInput where
  mspID : String
  endorserID : String
  certPEM : Bytes
  signature : Bytes
  timestamp : Time
  signatureValid : Bool
  certChainValid : Bool
  deriving DecidableEq

structure BuildInput where
  txID : String
  commitmentHash : String
  commitmentOpening : Option TransferCommitment
  blockNumber : Nat
  blockHash : String
  txIndex : Int
  validationCode : Int
  endorsements : List EndorsementInput
  originMSPID : String
  policyID : String
  policyMet : Bool
  internalRef : String
  clientSubmitTime : Time
  endorsementTime : Time
  commitTime : Time
  deriving DecidableEq

structure ReceiptBuilder where
  channelID : String
  chaincodeID : String
  statusEndpoint : String
  includeFullCerts : Bool
  deriving DecidableEq

variable (crypto : Crypto) (builder : ReceiptBuilder)

-- The fingerprint is of the DER bytes, or of the raw bytes when there is no PEM block.
def endorsementRecord (input : EndorsementInput) : EndorsementRecord where
  mspID := input.mspID
  endorserID := input.endorserID
  certFingerprint :=
    if input.certPEM = [] then ""
    else hexEncode (crypto.sha256 ((crypto.pemDecode input.certPEM).getD input.certPEM))
  certificatePEM :=
    if input.certPEM ≠ [] ∧ builder.includeFullCerts = true then goString input.certPEM else ""
  signatureHex := hexEncode input.signature
  timestamp := if input.timestamp = Time.zero then 0 else Time.unixMilli input.timestamp
  signatureValid := input.signatureValid
  certChainValid := input.certChainValid

def assemble (now : Time) (input : BuildInput) : Receipt where
  schemaVersion := "v1"
  channelID := builder.channelID
  txID := input.txID
  chaincodeID := builder.chaincodeID
  commitmentHash := input.commitmentHash
  commitmentOpening := input.commitmentOpening
  commitmentAlgorithm := "sha256(json-transfer-commitment-v1)"
  blockNumber := input.blockNumber
  blockHash := input.blockHash
  txIndex := input.txIndex
  validationCode := input.validationCode
  validationCodeName := validationCodeToName input.validationCode
  endorsements := (input.endorsements.map (endorsementRecord crypto builder)).foldl Slice.append none
  originMSPID := input.originMSPID
  policyID := input.policyID
  policyMet := input.policyMet
  timestamps :=
    { clientSubmit := Time.unixMilli input.clientSubmitTime
      endorsementTime := Time.unixMilli input.endorsementTime
      ordererReceive := 0
      blockCommit := Time.unixMilli input.commitTime
      receiptCreated := Time.unixMilli now }
  statusEndpoint := builder.statusEndpoint
  observation :=
    { observedAt := Time.unixMilli now
      anchorType := "fabric_block_header_hash"
      anchorRef := input.blockHash }
  internalRef := input.internalRef
  receiptSignature := ""
  receiptHash := ""

def build (now : Time) (input : BuildInput) : Receipt :=
  let receipt := assemble crypto builder now input
  { receipt with receiptHash := receipt.computeReceiptHash crypto.sha256 }

end Kufi.Gateway

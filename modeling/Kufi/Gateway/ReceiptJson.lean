import Kufi.Gateway.Conversions
import Kufi.Shared.Unmarshal

set_option autoImplicit false

/-!
# Receipts as JSON

The file of a receipt, the bodies in which the API returns one, and how either
is read back.
-/

namespace Kufi.Gateway

open Shared Marshal Unmarshal

/-! ## Members -/

namespace Receipt

def fields (receipt : Receipt) : List (String × Option Json) :=
  [("schema_version", always receipt.schemaVersion),
    ("channel_id", always receipt.channelID),
    ("tx_id", always receipt.txID),
    ("chaincode_id", always receipt.chaincodeID),
    ("commitment_hash", always receipt.commitmentHash),
    ("commitment_opening", omitNil receipt.commitmentOpening),
    ("commitment_algorithm", omitEmpty "" receipt.commitmentAlgorithm),
    ("block_number", always receipt.blockNumber),
    ("block_hash", omitEmpty "" receipt.blockHash),
    ("tx_index", omitEmpty 0 receipt.txIndex),
    ("validation_code", always receipt.validationCode),
    ("validation_code_name", always receipt.validationCodeName),
    ("endorsements", always receipt.endorsements),
    ("origin_msp_id", omitEmpty "" receipt.originMSPID),
    ("policy_id", always receipt.policyID),
    ("policy_met", always receipt.policyMet),
    ("timestamps", always receipt.timestamps),
    ("status_endpoint", omitEmpty "" receipt.statusEndpoint),
    ("observation", always receipt.observation),
    ("internal_ref", omitEmpty "" receipt.internalRef),
    ("receipt_signature", omitEmpty "" receipt.receiptSignature),
    ("receipt_hash", always receipt.receiptHash)]

def json (receipt : Receipt) : Json := .struct receipt.fields

end Receipt

namespace ReceiptDTO

def fields (dto : ReceiptDTO) : List (String × Option Json) :=
  [("schema_version", always dto.schemaVersion),
    ("channel_id", always dto.channelID),
    ("tx_id", always dto.txID),
    ("chaincode_id", always dto.chaincodeID),
    ("commitment_hash", always dto.commitmentHash),
    ("commitment_opening", omitNil dto.commitmentOpening),
    ("commitment_algorithm", omitEmpty "" dto.commitmentAlgorithm),
    ("block_number", always dto.blockNumber),
    ("block_hash", omitEmpty "" dto.blockHash),
    ("tx_index", omitEmpty 0 dto.txIndex),
    ("validation_code", always dto.validationCode),
    ("validation_code_name", always dto.validationCodeName),
    ("endorsements", always dto.endorsements),
    ("origin_msp_id", omitEmpty "" dto.originMSPID),
    ("policy_id", always dto.policyID),
    ("policy_met", always dto.policyMet),
    ("timestamps", always dto.timestamps),
    ("status_endpoint", omitEmpty "" dto.statusEndpoint),
    ("observation", always dto.observation),
    ("internal_ref", omitEmpty "" dto.internalRef),
    ("receipt_hash", always dto.receiptHash)]

def json (dto : ReceiptDTO) : Json := .struct dto.fields

end ReceiptDTO

/-! ## Reading -/

def TransferCommitment.zero : TransferCommitment where
  channelID := ""
  chaincodeID := ""
  function := ""
  fromID := ""
  toID := ""
  amountVND := 0
  internalRef := ""
  timestamp := 0
  nonce := ""

def EndorsementRecord.zero : EndorsementRecord where
  mspID := ""
  endorserID := ""
  certFingerprint := ""
  certificatePEM := ""
  signatureHex := ""
  timestamp := 0
  signatureValid := false
  certChainValid := false

def ReceiptTimestamps.zero : ReceiptTimestamps where
  clientSubmit := 0
  endorsementTime := 0
  ordererReceive := 0
  blockCommit := 0
  receiptCreated := 0

def ObservationMeta.zero : ObservationMeta where
  observedAt := 0
  anchorType := ""
  anchorRef := ""

def Receipt.zero : Receipt where
  schemaVersion := ""
  channelID := ""
  txID := ""
  chaincodeID := ""
  commitmentHash := ""
  commitmentOpening := none
  commitmentAlgorithm := ""
  blockNumber := 0
  blockHash := ""
  txIndex := 0
  validationCode := 0
  validationCodeName := ""
  endorsements := none
  originMSPID := ""
  policyID := ""
  policyMet := false
  timestamps := .zero
  statusEndpoint := ""
  observation := .zero
  internalRef := ""
  receiptSignature := ""
  receiptHash := ""

def ReceiptDTO.zero : ReceiptDTO where
  schemaVersion := ""
  channelID := ""
  txID := ""
  chaincodeID := ""
  commitmentHash := ""
  commitmentOpening := none
  commitmentAlgorithm := ""
  blockNumber := 0
  blockHash := ""
  txIndex := 0
  validationCode := 0
  validationCodeName := ""
  endorsements := none
  originMSPID := ""
  policyID := ""
  policyMet := false
  timestamps := .zero
  statusEndpoint := ""
  observation := .zero
  internalRef := ""
  receiptHash := ""

def intoCommitment : Json → TransferCommitment → Option TransferCommitment :=
  intoStruct fun members commitment => do
    let channelID ← field intoString members "channel_id" commitment.channelID
    let chaincodeID ← field intoString members "chaincode_id" commitment.chaincodeID
    let function ← field intoString members "function" commitment.function
    let fromID ← field intoString members "from_id" commitment.fromID
    let toID ← field intoString members "to_id" commitment.toID
    let amountVND ← field (intoInt 64) members "amount_vnd" commitment.amountVND
    let internalRef ← field intoString members "internal_ref" commitment.internalRef
    let timestamp ← field (intoInt 64) members "timestamp" commitment.timestamp
    let nonce ← field intoString members "nonce" commitment.nonce
    some { channelID, chaincodeID, function, fromID, toID, amountVND, internalRef, timestamp, nonce }

def intoEndorsement : Json → EndorsementRecord → Option EndorsementRecord :=
  intoStruct fun members record => do
    let mspID ← field intoString members "msp_id" record.mspID
    let endorserID ← field intoString members "endorser_id" record.endorserID
    let certFingerprint ← field intoString members "cert_fingerprint" record.certFingerprint
    let certificatePEM ← field intoString members "certificate_pem" record.certificatePEM
    let signatureHex ← field intoString members "signature_hex" record.signatureHex
    let timestamp ← field (intoInt 64) members "timestamp" record.timestamp
    let signatureValid ← field intoBool members "signature_valid" record.signatureValid
    let certChainValid ← field intoBool members "cert_chain_valid" record.certChainValid
    some
      { mspID, endorserID, certFingerprint, certificatePEM, signatureHex, timestamp,
        signatureValid, certChainValid }

def intoTimestamps : Json → ReceiptTimestamps → Option ReceiptTimestamps :=
  intoStruct fun members timestamps => do
    let clientSubmit ← field (intoInt 64) members "client_submit" timestamps.clientSubmit
    let endorsementTime ← field (intoInt 64) members "endorsement_time" timestamps.endorsementTime
    let ordererReceive ← field (intoInt 64) members "orderer_receive" timestamps.ordererReceive
    let blockCommit ← field (intoInt 64) members "block_commit" timestamps.blockCommit
    let receiptCreated ← field (intoInt 64) members "receipt_created" timestamps.receiptCreated
    some { clientSubmit, endorsementTime, ordererReceive, blockCommit, receiptCreated }

def intoObservation : Json → ObservationMeta → Option ObservationMeta :=
  intoStruct fun members observation => do
    let observedAt ← field (intoInt 64) members "observed_at" observation.observedAt
    let anchorType ← field intoString members "anchor_type" observation.anchorType
    let anchorRef ← field intoString members "anchor_ref" observation.anchorRef
    some { observedAt, anchorType, anchorRef }

def readReceipt (members : Json.Members) (receipt : Receipt) : Option Receipt := do
  let schemaVersion ← field intoString members "schema_version" receipt.schemaVersion
  let channelID ← field intoString members "channel_id" receipt.channelID
  let txID ← field intoString members "tx_id" receipt.txID
  let chaincodeID ← field intoString members "chaincode_id" receipt.chaincodeID
  let commitmentHash ← field intoString members "commitment_hash" receipt.commitmentHash
  let commitmentOpening ←
    field (intoPointer .zero intoCommitment) members "commitment_opening" receipt.commitmentOpening
  let commitmentAlgorithm ←
    field intoString members "commitment_algorithm" receipt.commitmentAlgorithm
  let blockNumber ← field (intoUint 64) members "block_number" receipt.blockNumber
  let blockHash ← field intoString members "block_hash" receipt.blockHash
  let txIndex ← field (intoInt 64) members "tx_index" receipt.txIndex
  let validationCode ← field (intoInt 32) members "validation_code" receipt.validationCode
  let validationCodeName ← field intoString members "validation_code_name" receipt.validationCodeName
  let endorsements ←
    field (intoSlice .zero intoEndorsement) members "endorsements" receipt.endorsements
  let originMSPID ← field intoString members "origin_msp_id" receipt.originMSPID
  let policyID ← field intoString members "policy_id" receipt.policyID
  let policyMet ← field intoBool members "policy_met" receipt.policyMet
  let timestamps ← field intoTimestamps members "timestamps" receipt.timestamps
  let statusEndpoint ← field intoString members "status_endpoint" receipt.statusEndpoint
  let observation ← field intoObservation members "observation" receipt.observation
  let internalRef ← field intoString members "internal_ref" receipt.internalRef
  let receiptSignature ← field intoString members "receipt_signature" receipt.receiptSignature
  let receiptHash ← field intoString members "receipt_hash" receipt.receiptHash
  some
    { schemaVersion, channelID, txID, chaincodeID, commitmentHash, commitmentOpening,
      commitmentAlgorithm, blockNumber, blockHash, txIndex, validationCode, validationCodeName,
      endorsements, originMSPID, policyID, policyMet, timestamps, statusEndpoint, observation,
      internalRef, receiptSignature, receiptHash }

def readReceiptDTO (members : Json.Members) (dto : ReceiptDTO) : Option ReceiptDTO := do
  let schemaVersion ← field intoString members "schema_version" dto.schemaVersion
  let channelID ← field intoString members "channel_id" dto.channelID
  let txID ← field intoString members "tx_id" dto.txID
  let chaincodeID ← field intoString members "chaincode_id" dto.chaincodeID
  let commitmentHash ← field intoString members "commitment_hash" dto.commitmentHash
  let commitmentOpening ←
    field (intoPointer .zero intoCommitment) members "commitment_opening" dto.commitmentOpening
  let commitmentAlgorithm ←
    field intoString members "commitment_algorithm" dto.commitmentAlgorithm
  let blockNumber ← field (intoUint 64) members "block_number" dto.blockNumber
  let blockHash ← field intoString members "block_hash" dto.blockHash
  let txIndex ← field (intoInt 64) members "tx_index" dto.txIndex
  let validationCode ← field (intoInt 32) members "validation_code" dto.validationCode
  let validationCodeName ← field intoString members "validation_code_name" dto.validationCodeName
  let endorsements ←
    field (intoSlice .zero intoEndorsement) members "endorsements" dto.endorsements
  let originMSPID ← field intoString members "origin_msp_id" dto.originMSPID
  let policyID ← field intoString members "policy_id" dto.policyID
  let policyMet ← field intoBool members "policy_met" dto.policyMet
  let timestamps ← field intoTimestamps members "timestamps" dto.timestamps
  let statusEndpoint ← field intoString members "status_endpoint" dto.statusEndpoint
  let observation ← field intoObservation members "observation" dto.observation
  let internalRef ← field intoString members "internal_ref" dto.internalRef
  let receiptHash ← field intoString members "receipt_hash" dto.receiptHash
  some
    { schemaVersion, channelID, txID, chaincodeID, commitmentHash, commitmentOpening,
      commitmentAlgorithm, blockNumber, blockHash, txIndex, validationCode, validationCodeName,
      endorsements, originMSPID, policyID, policyMet, timestamps, statusEndpoint, observation,
      internalRef, receiptHash }

def intoReceipt : Json → Receipt → Option Receipt := intoStruct readReceipt

def intoReceiptDTO : Json → ReceiptDTO → Option ReceiptDTO := intoStruct readReceiptDTO

/-! ## Integers that survive -/

/-- The integers are below `2 ^ 53`, and the validation code is that of an `int32`. -/
structure Receipt.SmallIntegers (receipt : Receipt) : Prop where
  opening : ∀ commitment, receipt.commitmentOpening = some commitment →
    commitment.amountVND.natAbs < 2 ^ 53 ∧ commitment.timestamp.natAbs < 2 ^ 53
  blockNumber : receipt.blockNumber < 2 ^ 53
  txIndex : receipt.txIndex.natAbs < 2 ^ 53
  validationCode : -2 ^ 31 ≤ receipt.validationCode ∧ receipt.validationCode < 2 ^ 31
  endorsements : ∀ record ∈ receipt.endorsements.items, record.timestamp.natAbs < 2 ^ 53
  clientSubmit : receipt.timestamps.clientSubmit.natAbs < 2 ^ 53
  endorsementTime : receipt.timestamps.endorsementTime.natAbs < 2 ^ 53
  ordererReceive : receipt.timestamps.ordererReceive.natAbs < 2 ^ 53
  blockCommit : receipt.timestamps.blockCommit.natAbs < 2 ^ 53
  receiptCreated : receipt.timestamps.receiptCreated.natAbs < 2 ^ 53
  observedAt : receipt.observation.observedAt.natAbs < 2 ^ 53

/-! ## What was written is read -/

theorem intoCommitment_marshal {commitment : TransferCommitment}
    (amount : commitment.amountVND.natAbs < 2 ^ 53)
    (timestamp : commitment.timestamp.natAbs < 2 ^ 53) :
    intoCommitment (marshal commitment) .zero = some commitment := by
  refine intoStruct_struct (by simp only [List.map]; decide) fun members agree => ?_
  simp only [Agree, List.forall_mem_cons] at agree
  obtain ⟨channelID, chaincodeID, function, fromID, toID, amountVND, internalRef, time, nonce, -⟩ :=
    agree
  rw [field_string channelID, field_string chaincodeID, field_string function, field_string fromID,
    field_string toID, field_int amountVND amount, field_string internalRef,
    field_int time timestamp, field_string nonce]
  rfl

theorem intoEndorsement_marshal {record : EndorsementRecord}
    (timestamp : record.timestamp.natAbs < 2 ^ 53) :
    intoEndorsement (marshal record) .zero = some record := by
  refine intoStruct_struct (by simp only [List.map]; decide) fun members agree => ?_
  simp only [Agree, List.forall_mem_cons] at agree
  obtain ⟨mspID, endorserID, fingerprint, certificate, signature, time, signed, chained, -⟩ := agree
  rw [field_string mspID, field_string endorserID, field_string fingerprint]
  simp only [EndorsementRecord.zero]
  rw [field_string_omitEmpty certificate, field_string signature,
    field_int_omitEmpty time timestamp, field_bool signed, field_bool chained]
  rfl

theorem intoTimestamps_marshal {receipt : Receipt} (small : receipt.SmallIntegers) :
    intoTimestamps (marshal receipt.timestamps) .zero = some receipt.timestamps := by
  refine intoStruct_struct (by simp only [List.map]; decide) fun members agree => ?_
  simp only [Agree, List.forall_mem_cons] at agree
  obtain ⟨submit, endorsed, ordered, committed, created, -⟩ := agree
  rw [field_int submit small.clientSubmit, field_int endorsed small.endorsementTime]
  simp only [ReceiptTimestamps.zero]
  rw [field_int_omitEmpty ordered small.ordererReceive, field_int committed small.blockCommit,
    field_int created small.receiptCreated]
  rfl

theorem intoObservation_marshal {receipt : Receipt} (small : receipt.SmallIntegers) :
    intoObservation (marshal receipt.observation) .zero = some receipt.observation := by
  refine intoStruct_struct (by simp only [List.map]; decide) fun members agree => ?_
  simp only [Agree, List.forall_mem_cons] at agree
  obtain ⟨observed, anchorType, anchorRef, -⟩ := agree
  rw [field_int observed small.observedAt]
  simp only [ObservationMeta.zero]
  rw [field_string_omitEmpty anchorType, field_string_omitEmpty anchorRef]
  rfl

section

variable {receipt : Receipt} {members : Json.Members}

-- The members that are no strings and no booleans.
theorem fields_read (members : Json.Members) (small : receipt.SmallIntegers) :
    (∀ name, Json.named members name = (omitNil receipt.commitmentOpening).toList →
      field (intoPointer .zero intoCommitment) members name none =
        some receipt.commitmentOpening) ∧
    (∀ name, Json.named members name = (always receipt.endorsements).toList →
      field (intoSlice .zero intoEndorsement) members name none = some receipt.endorsements) ∧
    (∀ name, Json.named members name = (always receipt.blockNumber).toList →
      field (intoUint 64) members name 0 = some receipt.blockNumber) ∧
    (∀ name, Json.named members name = (always receipt.validationCode).toList →
      field (intoInt 32) members name 0 = some receipt.validationCode) := by
  refine ⟨fun name found => ?_, fun name found => ?_, fun name found => ?_, fun name found => ?_⟩
  · exact field_omitNil found (fun commitment opened =>
      intoCommitment_marshal (small.opening commitment opened).1 (small.opening commitment opened).2)
      (fun _ => nofun)
  · exact field_always found (intoSlice_marshal
      (fun record listed => intoEndorsement_marshal (small.endorsements record listed)) none)
  · exact field_always found (intoUint_number (by decide) small.blockNumber)
  · exact field_always found (if_pos small.validationCode)

theorem readReceipt_agree (small : receipt.SmallIntegers) (agree : Agree members receipt.fields) :
    readReceipt members .zero = some receipt := by
  simp only [Agree, Receipt.fields, List.forall_mem_cons] at agree
  obtain ⟨schemaVersion, channelID, txID, chaincodeID, commitmentHash, commitmentOpening,
    algorithm, blockNumber, blockHash, txIndex, code, codeName, endorsements, origin, policyID,
    policyMet, timestamps, endpoint, observation, internalRef, signature, hash, -⟩ := agree
  obtain ⟨opening, endorsed, number, validation⟩ := fields_read members small
  simp only [readReceipt, Receipt.zero]
  rw [field_string schemaVersion, field_string channelID, field_string txID,
    field_string chaincodeID, field_string commitmentHash, opening _ commitmentOpening,
    field_string_omitEmpty algorithm, number _ blockNumber, field_string_omitEmpty blockHash,
    field_int_omitEmpty txIndex small.txIndex, validation _ code, field_string codeName,
    endorsed _ endorsements, field_string_omitEmpty origin, field_string policyID,
    field_bool policyMet, field_always timestamps (intoTimestamps_marshal small),
    field_string_omitEmpty endpoint, field_always observation (intoObservation_marshal small),
    field_string_omitEmpty internalRef, field_string_omitEmpty signature, field_string hash]
  rfl

theorem readReceiptDTO_agree (small : receipt.SmallIntegers) (compact : receipt.Compact)
    (agree : Agree members (receiptToDTO receipt).fields) :
    readReceiptDTO members .zero = some (receiptToDTO receipt) := by
  simp only [Agree, ReceiptDTO.fields, receiptToDTO_endorsements compact,
    List.forall_mem_cons] at agree
  obtain ⟨schemaVersion, channelID, txID, chaincodeID, commitmentHash, commitmentOpening,
    algorithm, blockNumber, blockHash, txIndex, code, codeName, endorsements, origin, policyID,
    policyMet, timestamps, endpoint, observation, internalRef, hash, -⟩ := agree
  obtain ⟨opening, endorsed, number, validation⟩ := fields_read members small
  simp only [readReceiptDTO, ReceiptDTO.zero]
  rw [field_string schemaVersion, field_string channelID, field_string txID,
    field_string chaincodeID, field_string commitmentHash, opening _ commitmentOpening,
    field_string_omitEmpty algorithm, number _ blockNumber, field_string_omitEmpty blockHash,
    field_int_omitEmpty txIndex small.txIndex, validation _ code, field_string codeName,
    endorsed _ endorsements, field_string_omitEmpty origin, field_string policyID,
    field_bool policyMet, field_always timestamps (intoTimestamps_marshal small),
    field_string_omitEmpty endpoint, field_always observation (intoObservation_marshal small),
    field_string_omitEmpty internalRef, field_string hash]
  rw [← receiptToDTO_endorsements compact]
  rfl

/-! ## What JavaScript takes over -/

theorem steady_string_field {value : String} : SteadyField (always value) :=
  steady_always (Json.steady_string value)

theorem steady_string_omitEmpty {value : String} : SteadyField (omitEmpty "" value) :=
  steady_omitEmpty (Json.steady_string value)

theorem steady_bool_field {value : Bool} : SteadyField (always value) :=
  steady_always (Json.steady_bool value)

theorem steady_int_field {value : Int} (small : value.natAbs < 2 ^ 53) :
    SteadyField (always value) :=
  steady_always (Json.steady_number small)

theorem steady_int_omitEmpty {value : Int} (small : value.natAbs < 2 ^ 53) :
    SteadyField (omitEmpty 0 value) :=
  steady_omitEmpty (Json.steady_number small)

theorem steady_commitment {commitment : TransferCommitment}
    (amount : commitment.amountVND.natAbs < 2 ^ 53)
    (timestamp : commitment.timestamp.natAbs < 2 ^ 53) : Json.Steady (marshal commitment) := by
  refine steady_struct (by simp only [List.map]; decide) ?_
  simp only [List.forall_mem_cons]
  exact ⟨steady_string_field, steady_string_field, steady_string_field, steady_string_field,
    steady_string_field, steady_int_field amount, steady_string_field,
    steady_int_field timestamp, steady_string_field, nofun⟩

theorem steady_endorsement {record : EndorsementRecord}
    (timestamp : record.timestamp.natAbs < 2 ^ 53) : Json.Steady (marshal record) := by
  refine steady_struct (by simp only [List.map]; decide) ?_
  simp only [List.forall_mem_cons]
  exact ⟨steady_string_field, steady_string_field, steady_string_field, steady_string_omitEmpty,
    steady_string_field, steady_int_omitEmpty timestamp, steady_bool_field, steady_bool_field,
    nofun⟩

theorem steady_endorsements (small : receipt.SmallIntegers) :
    Json.Steady (marshal receipt.endorsements) := by
  have each := small.endorsements
  cases listed : receipt.endorsements with
  | none => exact Json.steady_null
  | some items =>
    refine Json.steady_array fun item member => ?_
    obtain ⟨record, listed', rfl⟩ := List.mem_map.mp member
    rw [listed] at each
    exact steady_endorsement (each record listed')

theorem steady_timestamps (small : receipt.SmallIntegers) :
    Json.Steady (marshal receipt.timestamps) := by
  refine steady_struct (by simp only [List.map]; decide) ?_
  simp only [List.forall_mem_cons]
  exact ⟨steady_int_field small.clientSubmit, steady_int_field small.endorsementTime,
    steady_int_omitEmpty small.ordererReceive, steady_int_field small.blockCommit,
    steady_int_field small.receiptCreated, nofun⟩

theorem steady_observation (small : receipt.SmallIntegers) :
    Json.Steady (marshal receipt.observation) := by
  refine steady_struct (by simp only [List.map]; decide) ?_
  simp only [List.forall_mem_cons]
  exact ⟨steady_int_field small.observedAt, steady_string_omitEmpty, steady_string_omitEmpty, nofun⟩

theorem steady_fields (small : receipt.SmallIntegers) (compact : receipt.Compact) :
    ∀ entry ∈ (receiptToDTO receipt).fields, SteadyField entry.2 := by
  have blockNumber : Json.Steady (marshal receipt.blockNumber) :=
    Json.steady_number (by simpa using small.blockNumber)
  have validationCode : receipt.validationCode.natAbs < 2 ^ 53 := by
    have := small.validationCode
    omega
  simp only [ReceiptDTO.fields, receiptToDTO_endorsements compact, List.forall_mem_cons]
  exact ⟨steady_string_field, steady_string_field, steady_string_field, steady_string_field,
    steady_string_field,
    steady_omitNil fun commitment opened =>
      steady_commitment (small.opening commitment opened).1 (small.opening commitment opened).2,
    steady_string_omitEmpty, steady_always blockNumber, steady_string_omitEmpty,
    steady_int_omitEmpty small.txIndex, steady_int_field validationCode, steady_string_field,
    steady_always (steady_endorsements small), steady_string_omitEmpty, steady_string_field,
    steady_bool_field, steady_always (steady_timestamps small), steady_string_omitEmpty,
    steady_always (steady_observation small), steady_string_omitEmpty, steady_string_field, nofun⟩

end

/-! ## The file -/

def saveReceipt (receipt : Receipt) : List Char := Json.indentStyle.write 0 receipt.json

def loadReceipt (text : List Char) : Option Receipt :=
  (Json.parse text).bind fun json => intoReceipt json .zero

theorem loadReceipt_saveReceipt {receipt : Receipt} (small : receipt.SmallIntegers) :
    loadReceipt (saveReceipt receipt) = some receipt := by
  rw [loadReceipt, saveReceipt, Json.parse_write, Option.bind_some]
  exact intoStruct_struct (by simp only [Receipt.fields, List.map]; decide)
    fun members agree => readReceipt_agree small agree

end Kufi.Gateway

import Kufi.Shared.Json

set_option autoImplicit false

/-!
# Receipts

The receipt of a committed transfer with its two digests. Both are taken over
the JSON text of a structure; what SHA-256 does with the text is a parameter.
-/

namespace Kufi.Gateway

open Shared

abbrev Bytes := List UInt8

structure TransferCommitment where
  channelID : String
  chaincodeID : String
  function : String
  fromID : String
  toID : String
  amountVND : Int
  internalRef : String
  timestamp : Int
  nonce : String
  deriving DecidableEq

structure EndorsementRecord where
  mspID : String
  endorserID : String
  certFingerprint : String
  certificatePEM : String
  signatureHex : String
  timestamp : Int
  signatureValid : Bool
  certChainValid : Bool
  deriving DecidableEq

structure ReceiptTimestamps where
  clientSubmit : Int
  endorsementTime : Int
  ordererReceive : Int
  blockCommit : Int
  receiptCreated : Int
  deriving DecidableEq

structure ObservationMeta where
  observedAt : Int
  anchorType : String
  anchorRef : String
  deriving DecidableEq

structure Receipt where
  schemaVersion : String
  channelID : String
  txID : String
  chaincodeID : String
  commitmentHash : String
  commitmentOpening : Option TransferCommitment
  commitmentAlgorithm : String
  blockNumber : Nat
  blockHash : String
  txIndex : Int
  validationCode : Int
  validationCodeName : String
  endorsements : Slice EndorsementRecord
  originMSPID : String
  policyID : String
  policyMet : Bool
  timestamps : ReceiptTimestamps
  statusEndpoint : String
  observation : ObservationMeta
  internalRef : String
  receiptSignature : String
  receiptHash : String
  deriving DecidableEq

/-! ## JSON -/

open Marshal

instance : Marshal TransferCommitment where
  marshal commitment := .struct
    [("channel_id", always commitment.channelID),
      ("chaincode_id", always commitment.chaincodeID),
      ("function", always commitment.function),
      ("from_id", always commitment.fromID),
      ("to_id", always commitment.toID),
      ("amount_vnd", always commitment.amountVND),
      ("internal_ref", always commitment.internalRef),
      ("timestamp", always commitment.timestamp),
      ("nonce", always commitment.nonce)]
  injective first second same := by
    cases first
    cases second
    simpa using Json.struct_injective (by rfl) (by simp) same

instance : Marshal EndorsementRecord where
  marshal record := .struct
    [("msp_id", always record.mspID),
      ("endorser_id", always record.endorserID),
      ("cert_fingerprint", always record.certFingerprint),
      ("certificate_pem", omitEmpty "" record.certificatePEM),
      ("signature_hex", always record.signatureHex),
      ("timestamp", omitEmpty 0 record.timestamp),
      ("signature_valid", always record.signatureValid),
      ("cert_chain_valid", always record.certChainValid)]
  injective first second same := by
    cases first
    cases second
    simpa using Json.struct_injective (by rfl) (by simp) same

instance : Marshal ReceiptTimestamps where
  marshal timestamps := .struct
    [("client_submit", always timestamps.clientSubmit),
      ("endorsement_time", always timestamps.endorsementTime),
      ("orderer_receive", omitEmpty 0 timestamps.ordererReceive),
      ("block_commit", always timestamps.blockCommit),
      ("receipt_created", always timestamps.receiptCreated)]
  injective first second same := by
    cases first
    cases second
    simpa using Json.struct_injective (by rfl) (by simp) same

instance : Marshal ObservationMeta where
  marshal observation := .struct
    [("observed_at", always observation.observedAt),
      ("anchor_type", omitEmpty "" observation.anchorType),
      ("anchor_ref", omitEmpty "" observation.anchorRef)]
  injective first second same := by
    cases first
    cases second
    simpa using Json.struct_injective (by rfl) (by simp) same

/-! ## Digests -/

/-- `hex.EncodeToString`. -/
def hexEncode (bytes : Bytes) : String :=
  String.ofList (bytes.flatMap fun byte =>
    [Nat.digitChar (byte.toNat / 16), Nat.digitChar (byte.toNat % 16)])

def utf8 (text : List Char) : Bytes :=
  (String.ofList text).toUTF8.data.toList

/-- The characters of a byte string; JSON shows U+FFFD for a byte that begins no character. -/
def decodeUtf8 : Nat → Bytes → List Char
  | 0, _ => []
  | _, [] => []
  | fuel + 1, byte :: rest =>
    match (ByteArray.mk (byte :: rest).toArray).utf8DecodeChar? 0 with
    | some c => c :: decodeUtf8 fuel ((byte :: rest).drop c.utf8Size)
    | none => Char.ofNat 0xFFFD :: decodeUtf8 fuel rest

def goString (bytes : Bytes) : String :=
  String.ofList (decodeUtf8 bytes.length bytes)

theorem utf8_injective : Function.Injective utf8 := by
  intro first second same
  have bytes := String.toByteArray_inj.mp (ByteArray.ext (Array.toList_inj.mp same))
  exact String.ofList_injective bytes

theorem utf8_cons (c : Char) (rest : List Char) :
    utf8 (c :: rest) = String.utf8EncodeChar c ++ utf8 rest := by
  unfold utf8
  rw [String.toUTF8_eq_toByteArray, String.toUTF8_eq_toByteArray, String.toByteArray_ofList,
    String.toByteArray_ofList, ← List.singleton_append, List.utf8Encode_append,
    List.utf8Encode_singleton]
  simp

theorem decodeUtf8_utf8 (text : List Char) {fuel : Nat} (enough : (utf8 text).length ≤ fuel) :
    decodeUtf8 fuel (utf8 text) = text := by
  induction text generalizing fuel with
  | nil => cases fuel <;> rfl
  | cons c rest ih =>
    have whole := utf8_cons c rest
    have size : (String.utf8EncodeChar c).length = c.utf8Size := String.length_utf8EncodeChar c
    have positive := c.utf8Size_pos
    have length := congrArg List.length whole
    have first : (ByteArray.mk (utf8 (c :: rest)).toArray).utf8DecodeChar? 0 = some c := by
      rw [utf8, Array.toArray_toList, String.toUTF8_eq_toByteArray, String.toByteArray_ofList]
      exact List.utf8DecodeChar?_utf8Encode_cons
    rw [List.length_append, size] at length
    cases bytes : utf8 (c :: rest) with
    | nil =>
      rw [bytes, List.length_nil] at length
      omega
    | cons byte more =>
      rw [bytes] at enough first whole length
      cases fuel with
      | zero => simp at enough
      | succ fuel =>
        rw [decodeUtf8, first]
        dsimp only
        rw [whole, List.drop_left' size, ih (by omega)]

theorem hexEncode_injective : Function.Injective hexEncode := by
  intro first second same
  have digits := String.ofList_injective same
  clear same
  induction first generalizing second with
  | nil => cases second <;> simp at digits ⊢
  | cons byte first ih =>
    cases second with
    | nil => simp at digits
    | cons byte' second =>
      simp only [List.flatMap_cons, List.cons_append, List.nil_append, List.cons.injEq] at digits
      obtain ⟨high, low, rest⟩ := digits
      have small := byte.toNat_lt
      have small' := byte'.toNat_lt
      have high := Json.digitChar_injective (by omega) (by omega) high
      have low := Json.digitChar_injective (by omega) (by omega) low
      have equal : byte = byte' := UInt8.toNat_inj.mp (by omega)
      rw [equal, ih rest]

section

variable (sha256 : Bytes → Bytes)

def computeCommitmentHash (commitment : TransferCommitment) : String :=
  hexEncode (sha256 (utf8 (marshal commitment).encode))

namespace Receipt

/-- The copy of the receipt that is hashed. -/
def hashData (receipt : Receipt) : Json :=
  .struct
    [("schema_version", always receipt.schemaVersion),
      ("channel_id", always receipt.channelID),
      ("tx_id", always receipt.txID),
      ("commitment_hash", always receipt.commitmentHash),
      ("commitment_opening", omitNil receipt.commitmentOpening),
      ("commitment_algorithm", omitEmpty "" receipt.commitmentAlgorithm),
      ("block_number", always receipt.blockNumber),
      ("block_hash", always receipt.blockHash),
      ("validation_code", always receipt.validationCode),
      ("endorsements", always receipt.endorsements),
      ("origin_msp_id", omitEmpty "" receipt.originMSPID),
      ("policy_id", always receipt.policyID),
      ("policy_met", always receipt.policyMet),
      ("timestamps", always receipt.timestamps),
      -- `omitempty` has no effect on a structure
      ("observation", always receipt.observation)]

def computeReceiptHash (receipt : Receipt) : String :=
  hexEncode (sha256 (utf8 receipt.hashData.encode))

end Receipt

end

end Kufi.Gateway

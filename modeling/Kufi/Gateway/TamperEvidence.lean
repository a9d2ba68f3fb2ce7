import Kufi.Gateway.Verify

set_option autoImplicit false

/-!
# Tamper evidence of receipts

The receipt hash is taken over a separately written copy of the structure. The
copy lacks five of the content fields, and these are all it lacks.
-/

namespace Kufi.Gateway

open Shared Marshal

namespace Receipt

/-- A receipt without its signature and its hash. -/
def content (receipt : Receipt) : Receipt :=
  { receipt with receiptSignature := "", receiptHash := "" }

/-- The content fields that the hashed copy does not have. -/
structure Unhashed where
  chaincodeID : String
  txIndex : Int
  validationCodeName : String
  statusEndpoint : String
  internalRef : String
  deriving DecidableEq

def unhashed (receipt : Receipt) : Unhashed where
  chaincodeID := receipt.chaincodeID
  txIndex := receipt.txIndex
  validationCodeName := receipt.validationCodeName
  statusEndpoint := receipt.statusEndpoint
  internalRef := receipt.internalRef

theorem content_of_hashData {first second : Receipt} (hashed : first.hashData = second.hashData)
    (rest : first.unhashed = second.unhashed) : first.content = second.content := by
  have members := Json.struct_injective (by rfl) (by simp) hashed
  cases first
  cases second
  simp only [List.cons.injEq, Prod.mk.injEq, always_inj, omitEmpty_inj, omitNil_inj,
    true_and, and_true] at members
  simp only [unhashed, Unhashed.mk.injEq] at rest
  simp only [content, mk.injEq, and_true]
  grind

theorem computeReceiptHash_inj {sha256 : Bytes → Bytes} (injective : Function.Injective sha256)
    {first second : Receipt} :
    first.computeReceiptHash sha256 = second.computeReceiptHash sha256 ↔
      first.hashData = second.hashData := by
  refine ⟨fun same => ?_, fun same => by rw [computeReceiptHash, computeReceiptHash, same]⟩
  exact Json.encode_injective (utf8_injective (injective (hexEncode_injective same)))

end Receipt

-- A verifier's clock readings and expected hashes may differ between the two calls.
theorem receipts_equal_iff (crypto : Crypto) (injective : Function.Injective crypto.sha256)
    (verifier : Verifier) (clock clock' : Nat → Time) (first second : Receipt)
    (expected expected' : String)
    (valid : (verifyReceipt crypto verifier clock first expected).receiptHashValid = true)
    (valid' : (verifyReceipt crypto verifier clock' second expected').receiptHashValid = true)
    (same : first.receiptHash = second.receiptHash) :
    first.content = second.content ↔ first.unhashed = second.unhashed := by
  rw [verifyReceipt_receiptHashValid] at valid valid'
  rw [← valid, ← valid', Receipt.computeReceiptHash_inj injective] at same
  constructor
  · intro equal
    have rest := congrArg Receipt.unhashed equal
    exact rest
  · exact Receipt.content_of_hashData same

/-! ## A receipt and its digest -/

def sampleReceipt : Receipt where
  schemaVersion := "v1"
  channelID := "kufi"
  txID := "t1"
  chaincodeID := "payment"
  commitmentHash := "9148e614f681f2cd1258fabf25cf5f5882f8891d682dd7422db29100ba1ffb7d"
  commitmentOpening := some
    { channelID := "kufi"
      chaincodeID := "payment"
      function := "CreateTransferIntent"
      fromID := "alice"
      toID := "bob"
      amountVND := 40
      internalRef := "tx-1"
      timestamp := 5
      nonce := "0123456789abcdef" }
  commitmentAlgorithm := "sha256(json-transfer-commitment-v1)"
  blockNumber := 7
  blockHash := "b7"
  txIndex := 0
  validationCode := 0
  validationCodeName := "VALID"
  endorsements := none
  originMSPID := "VPBankMSP"
  policyID := "inter_bank_standard"
  policyMet := false
  timestamps :=
    { clientSubmit := 5
      endorsementTime := 6
      ordererReceive := 0
      blockCommit := 6
      receiptCreated := 7 }
  statusEndpoint := ""
  observation := { observedAt := 7, anchorType := "fabric_block_header_hash", anchorRef := "b7" }
  internalRef := "tx-1"
  receiptSignature := ""
  receiptHash := "91a852909042fb44ea77a9937b24c5d612e9a11e2b6cb58bea5b6977c58dd4d3"

def sampleDigest : Bytes :=
  [0x91, 0xa8, 0x52, 0x90, 0x90, 0x42, 0xfb, 0x44, 0xea, 0x77, 0xa9, 0x93, 0x7b, 0x24,
    0xc5, 0xd6, 0x12, 0xe9, 0xa1, 0x1e, 0x2b, 0x6c, 0xb5, 0x8b, 0xea, 0x5b, 0x69, 0x77,
    0xc5, 0x8d, 0xd4, 0xd3]

-- SHA-256 on the text of the sample; no digest of another text is computed.
def sampleSha256 (text : Bytes) : Bytes :=
  if text = utf8 sampleReceipt.hashData.encode then sampleDigest else 0 :: text

theorem sampleSha256_injective : Function.Injective sampleSha256 := by
  intro first second same
  unfold sampleSha256 at same
  split_ifs at same with left right right
  · exact left.trans right.symm
  · exact absurd (List.cons.inj same).1 (by decide)
  · exact absurd (List.cons.inj same).1 (by decide)
  · exact (List.cons.inj same).2

def sampleCrypto : Crypto where
  sha256 := sampleSha256
  pemDecode _ := none
  parseCertificate _ := .error "no certificate"
  verifyCertificate _ _ _ := none

theorem sampleCrypto_sha256 : sampleCrypto.sha256 = sampleSha256 := rfl

theorem sampleDigest_hex : hexEncode sampleDigest = sampleReceipt.receiptHash := by decide

theorem verify_sample {receipt : Receipt} (hashed : receipt.hashData = sampleReceipt.hashData)
    (hash : receipt.receiptHash = sampleReceipt.receiptHash) (clock : Nat → Time)
    (expected : String) :
    (verifyReceipt sampleCrypto newVerifier clock receipt expected).receiptHashValid = true := by
  have digest : sampleSha256 (utf8 sampleReceipt.hashData.encode) = sampleDigest := by
    unfold sampleSha256
    rw [if_pos rfl]
  rw [verifyReceipt_receiptHashValid, Receipt.computeReceiptHash, hashed, hash,
    sampleCrypto_sha256, digest, sampleDigest_hex]

-- The same hash stands for a transfer with another reference.
theorem receipt_altered_undetected :
    ¬ ∀ (verifier : Verifier) (clock : Nat → Time) (first second : Receipt) (expected : String),
      (verifyReceipt sampleCrypto verifier clock first expected).receiptHashValid = true →
      (verifyReceipt sampleCrypto verifier clock second expected).receiptHashValid = true →
      first.receiptHash = second.receiptHash → first.content = second.content := by
  intro evident
  have equal := evident newVerifier (fun _ => 0) sampleReceipt
    { sampleReceipt with internalRef := "tx-2" } "" (verify_sample rfl rfl _ _)
    (verify_sample rfl rfl _ _) rfl
  exact absurd (congrArg Receipt.internalRef equal) (by decide)

def signedReceipt : Receipt :=
  { sampleReceipt with receiptSignature := "signed" }

theorem receipts_equal_iff_signed :
    sampleReceipt.content = signedReceipt.content ↔
      sampleReceipt.unhashed = signedReceipt.unhashed :=
  receipts_equal_iff sampleCrypto sampleSha256_injective newVerifier (fun _ => 0) (fun _ => 1)
    sampleReceipt signedReceipt "" "" (verify_sample rfl rfl (fun _ => 0) "")
    (verify_sample rfl rfl (fun _ => 1) "") rfl

end Kufi.Gateway

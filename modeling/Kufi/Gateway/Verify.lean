import Kufi.Gateway.Receipt
import Kufi.Shared.Time

set_option autoImplicit false

/-!
# Receipt verification

`VerifyReceipt` with its endorsement and policy checks. PEM and X.509 are
parameters; so are the readings of the clock, one for every call of it.
-/

namespace Kufi.Gateway

open Shared

structure Certificate where
  notBefore : Time
  notAfter : Time
  deriving DecidableEq

/-- What the gateway uses of Go's `crypto` and `encoding/pem` packages. -/
structure Crypto where
  sha256 : Bytes → Bytes
  -- the bytes of the first block, if there is one
  pemDecode : Bytes → Option Bytes
  parseCertificate : Bytes → Except String Certificate
  -- the error of `cert.Verify` with these roots at this time
  verifyCertificate : Certificate → List Certificate → Time → Option String

structure PolicyConfig where
  type : String
  requiredMSPs : List String
  minEndorsers : Int
  deriving DecidableEq

structure Verifier where
  trustedCAs : String → Option (List Certificate)
  policyConfig : String → Option PolicyConfig
  crlEndpoint : String
  allowExpiredCerts : Bool

/-- `NewVerifier`. -/
def newVerifier : Verifier where
  trustedCAs _ := none
  policyConfig _ := none
  crlEndpoint := ""
  allowExpiredCerts := false

structure EndorsementVerifyResult where
  mspID : String
  endorserID : String
  signatureValid : Bool
  certChainValid : Bool
  certExpired : Bool
  certRevoked : Bool
  error : String
  deriving DecidableEq

structure VerificationResult where
  valid : Bool
  errors : List String
  warnings : List String
  receiptHashValid : Bool
  commitmentHashMatch : Bool
  commitmentOpeningValid : Bool
  validationCodeValid : Bool
  policySatisfied : Bool
  endorsementResults : List EndorsementVerifyResult
  blockVerified : Bool
  verifiedAt : Int
  deriving DecidableEq

def VerificationResult.fail (result : VerificationResult) (message : String) : VerificationResult :=
  { result with valid := false, errors := result.errors ++ [message] }

def VerificationResult.warn (result : VerificationResult) (message : String) : VerificationResult :=
  { result with warnings := result.warnings ++ [message] }

def EndorsementVerifyResult.accepted (result : EndorsementVerifyResult) : Bool :=
  result.signatureValid && result.certChainValid && !result.certExpired && !result.certRevoked

variable (crypto : Crypto) (verifier : Verifier)

/-! ## Endorsements -/

def checkExpiry (now : Time) (cert : Certificate) (result : EndorsementVerifyResult) :
    EndorsementVerifyResult :=
  if now < cert.notBefore ∨ cert.notAfter < now then
    { result with
      certExpired := true
      error := if verifier.allowExpiredCerts then result.error
        else "certificate expired or not yet valid" }
  else result

def checkChain (now : Time) (endorsement : EndorsementRecord) (cert : Certificate)
    (result : EndorsementVerifyResult) : EndorsementVerifyResult :=
  match verifier.trustedCAs endorsement.mspID with
  | some roots =>
    let currentTime := if verifier.allowExpiredCerts then cert.notBefore + 3600000000000 else now
    match crypto.verifyCertificate cert roots currentTime with
    | none => { result with certChainValid := true }
    | some err =>
      { result with
        certChainValid := false
        error := if result.error = "" then "certificate chain verification failed: " ++ err
          else result.error }
  | none =>
    { result with
      certChainValid := endorsement.certChainValid
      error := "no trusted CA configured for MSP " ++ endorsement.mspID }

def checkFingerprint (endorsement : EndorsementRecord) (block : Bytes)
    (result : EndorsementVerifyResult) : EndorsementVerifyResult :=
  if endorsement.certFingerprint ≠ hexEncode (crypto.sha256 block) then
    { result with error := "certificate fingerprint mismatch", certChainValid := false }
  else result

-- `checkRevocation` is a placeholder that never finds a certificate revoked.
def checkRevocation (_certFingerprint : String) : Bool × Option String :=
  (false, none)

def checkCRL (endorsement : EndorsementRecord) (result : EndorsementVerifyResult) :
    EndorsementVerifyResult :=
  if verifier.crlEndpoint ≠ "" ∧ result.certChainValid = true then
    let (revoked, err) := checkRevocation endorsement.certFingerprint
    { result with
      error := match err with
        | some err => "revocation check failed: " ++ err
        | none => result.error
      certRevoked := revoked }
  else result

def verifyEndorsement (now : Time) (endorsement : EndorsementRecord) : EndorsementVerifyResult :=
  let result : EndorsementVerifyResult :=
    { mspID := endorsement.mspID
      endorserID := endorsement.endorserID
      signatureValid := false
      certChainValid := false
      certExpired := false
      certRevoked := false
      error := "" }
  if endorsement.certificatePEM ≠ "" then
    match crypto.pemDecode (utf8 endorsement.certificatePEM.toList) with
    | none => { result with error := "failed to decode certificate PEM" }
    | some block =>
      match crypto.parseCertificate block with
      | .error err => { result with error := "failed to parse certificate: " ++ err }
      | .ok cert =>
        let result := checkExpiry verifier now cert result
        let result := checkChain crypto verifier now endorsement cert result
        let result := checkFingerprint crypto endorsement block result
        checkCRL verifier endorsement
          { result with signatureValid := endorsement.signatureValid }
  else
    checkCRL verifier endorsement
      { result with
        signatureValid := endorsement.signatureValid
        certChainValid := endorsement.certChainValid }

/-! ## Policies -/

-- The MSPs are those of `validMSPs`, each once.
def verifyPolicy (policyID : String) (validMSPs : List String) : Bool :=
  match verifier.policyConfig policyID with
  | none => decide (0 < validMSPs.length)
  | some config =>
    if config.type = "AND" then config.requiredMSPs.all (validMSPs.contains ·)
    else if config.type = "OR" then config.requiredMSPs.any (validMSPs.contains ·)
    else if config.type = "MAJORITY" then
      decide (config.requiredMSPs.length / 2 < config.requiredMSPs.countP (validMSPs.contains ·))
    else if config.type = "MIN" then decide (config.minEndorsers ≤ validMSPs.length)
    else decide (0 < validMSPs.length)

def canTrustLedgerValidationFallback (receipt : Receipt)
    (endorsementResults : List EndorsementVerifyResult) : Bool :=
  if receipt.validationCode ≠ 0 ∨ receipt.endorsements.items = [] then false
  else if endorsementResults.any EndorsementVerifyResult.accepted then false
  else !receipt.endorsements.items.any fun endorsement =>
    endorsement.certificatePEM ≠ "" || endorsement.signatureValid || endorsement.certChainValid

/-! ## Receipts -/

def checkReceiptHash (receipt : Receipt) (result : VerificationResult) : VerificationResult :=
  let valid := decide (receipt.computeReceiptHash crypto.sha256 = receipt.receiptHash)
  let result := { result with receiptHashValid := valid }
  if valid then result
  else result.fail "receipt hash mismatch - receipt may have been tampered with"

def checkCommitmentHash (receipt : Receipt) (expectedCommitmentHash : String)
    (result : VerificationResult) : VerificationResult :=
  if expectedCommitmentHash ≠ "" then
    let matching := decide (receipt.commitmentHash = expectedCommitmentHash)
    let result := { result with commitmentHashMatch := matching }
    if matching then result else result.fail "commitment hash does not match expected value"
  else result

def checkCommitmentOpening (receipt : Receipt) (result : VerificationResult) : VerificationResult :=
  match receipt.commitmentOpening with
  | some opening =>
    let valid := decide (computeCommitmentHash crypto.sha256 opening = receipt.commitmentHash)
    let result := { result with commitmentOpeningValid := valid }
    if valid then result else result.fail "commitment opening does not match commitment hash"
  | none =>
    result.warn "missing commitment opening; cannot independently recompute commitment hash"

def checkValidationCode (receipt : Receipt) (result : VerificationResult) : VerificationResult :=
  let valid := decide (receipt.validationCode = 0)
  let result := { result with validationCodeValid := valid }
  if valid then result
  else result.fail ("transaction validation failed: " ++ receipt.validationCodeName)

def checkEndorsements (clock : Nat → Time) (receipt : Receipt) (result : VerificationResult) :
    VerificationResult :=
  let endorsementResults := receipt.endorsements.items.mapIdx fun i endorsement =>
    verifyEndorsement crypto verifier (clock (i + 1)) endorsement
  let validMSPs := endorsementResults.filter EndorsementVerifyResult.accepted |>.map
    EndorsementVerifyResult.mspID |>.dedup
  let satisfied := verifyPolicy verifier receipt.policyID validMSPs
  let fallback := !satisfied && canTrustLedgerValidationFallback receipt endorsementResults
  let result := { result with endorsementResults, policySatisfied := satisfied || fallback }
  let result := if fallback then
      result.warn ("endorsement crypto proof is incomplete in receipt; " ++
        "policy accepted based on committed VALID transaction")
    else result
  if result.policySatisfied then result
  else result.fail ("endorsement policy '" ++ receipt.policyID ++ "' not satisfied")

def checkCompleteness (receipt : Receipt) (result : VerificationResult) : VerificationResult :=
  let result := if receipt.blockNumber = 0 then
      result.warn "block number is 0, might indicate incomplete receipt"
    else result
  if receipt.endorsements.items = [] then result.fail "receipt contains no endorsements"
  else result

def verifyReceipt (clock : Nat → Time) (receipt : Receipt) (expectedCommitmentHash : String) :
    VerificationResult :=
  let result : VerificationResult :=
    { valid := true
      errors := []
      warnings := []
      receiptHashValid := false
      commitmentHashMatch := false
      commitmentOpeningValid := false
      validationCodeValid := false
      policySatisfied := false
      endorsementResults := []
      blockVerified := false
      verifiedAt := Time.unixMilli (clock 0) }
  let result := checkReceiptHash crypto receipt result
  let result := checkCommitmentHash receipt expectedCommitmentHash result
  let result := checkCommitmentOpening crypto receipt result
  let result := checkValidationCode receipt result
  let result := checkEndorsements crypto verifier clock receipt result
  checkCompleteness receipt result

/-! ## The hash verdict

Only the first check writes it.
-/

section

variable (result : VerificationResult) (receipt : Receipt)

@[simp] theorem fail_receiptHashValid (message : String) :
    (result.fail message).receiptHashValid = result.receiptHashValid := rfl

@[simp] theorem warn_receiptHashValid (message : String) :
    (result.warn message).receiptHashValid = result.receiptHashValid := rfl

@[simp] theorem checkReceiptHash_receiptHashValid :
    (checkReceiptHash crypto receipt result).receiptHashValid =
      decide (receipt.computeReceiptHash crypto.sha256 = receipt.receiptHash) := by
  unfold checkReceiptHash
  dsimp only
  split <;> rfl

@[simp] theorem checkCommitmentHash_receiptHashValid (expectedCommitmentHash : String) :
    (checkCommitmentHash receipt expectedCommitmentHash result).receiptHashValid =
      result.receiptHashValid := by
  unfold checkCommitmentHash
  dsimp only
  split
  · split <;> rfl
  · rfl

@[simp] theorem checkCommitmentOpening_receiptHashValid :
    (checkCommitmentOpening crypto receipt result).receiptHashValid = result.receiptHashValid := by
  unfold checkCommitmentOpening
  cases receipt.commitmentOpening with
  | none => rfl
  | some opening => dsimp only; split <;> rfl

@[simp] theorem checkValidationCode_receiptHashValid :
    (checkValidationCode receipt result).receiptHashValid = result.receiptHashValid := by
  unfold checkValidationCode
  dsimp only
  split <;> rfl

@[simp] theorem checkEndorsements_receiptHashValid (clock : Nat → Time) :
    (checkEndorsements crypto verifier clock receipt result).receiptHashValid =
      result.receiptHashValid := by
  unfold checkEndorsements
  dsimp only
  split <;> split <;> rfl

@[simp] theorem checkCompleteness_receiptHashValid :
    (checkCompleteness receipt result).receiptHashValid = result.receiptHashValid := by
  unfold checkCompleteness
  dsimp only
  split <;> split <;> rfl

theorem verifyReceipt_receiptHashValid (clock : Nat → Time) (expectedCommitmentHash : String) :
    (verifyReceipt crypto verifier clock receipt expectedCommitmentHash).receiptHashValid = true ↔
      receipt.computeReceiptHash crypto.sha256 = receipt.receiptHash := by
  simp [verifyReceipt]

end

end Kufi.Gateway

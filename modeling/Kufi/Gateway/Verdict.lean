import Kufi.Gateway.Verify
import Mathlib.Data.Finset.Card

set_option autoImplicit false

/-!
# What decides a verification

When an endorsement is accepted, when a set of MSPs meets a policy, and what
the verdicts of `VerifyReceipt` say of the receipt.
-/

namespace Kufi.Gateway

open Shared

variable (crypto : Crypto) (verifier : Verifier)

/-! ## Endorsements -/

/-- The certificate of an endorsement stands up at the given time. -/
def Certified (now : Time) (endorsement : EndorsementRecord) : Prop :=
  ∃ block cert, crypto.pemDecode (utf8 endorsement.certificatePEM.toList) = some block ∧
    crypto.parseCertificate block = .ok cert ∧ cert.notBefore ≤ now ∧ now ≤ cert.notAfter ∧
    endorsement.certFingerprint = hexEncode (crypto.sha256 block) ∧
    match verifier.trustedCAs endorsement.mspID with
    | some roots =>
      crypto.verifyCertificate cert roots
        (if verifier.allowExpiredCerts then cert.notBefore + 3600000000000 else now) = none
    -- the recorded status, when no root is configured for the MSP
    | none => endorsement.certChainValid = true

section

variable (now : Time) (endorsement : EndorsementRecord) (cert : Certificate) (block : Bytes)
  (result : EndorsementVerifyResult)

theorem checkCRL_accepted (unrevoked : result.certRevoked = false) :
    (checkCRL verifier endorsement result).accepted = result.accepted := by
  unfold checkCRL
  split
  · simp [EndorsementVerifyResult.accepted, checkRevocation, unrevoked]
  · rfl

@[simp] theorem checkExpiry_certRevoked :
    (checkExpiry verifier now cert result).certRevoked = result.certRevoked := by
  unfold checkExpiry
  split <;> rfl

theorem checkExpiry_certExpired (unexpired : result.certExpired = false) :
    (checkExpiry verifier now cert result).certExpired = false ↔
      cert.notBefore ≤ now ∧ now ≤ cert.notAfter := by
  have inside : cert.notBefore ≤ now ∧ now ≤ cert.notAfter ↔
      ¬ (now < cert.notBefore ∨ cert.notAfter < now) := by
    rw [not_or, not_lt, not_lt]
  rw [inside]
  unfold checkExpiry
  split
  next outside => simp [outside]
  next within => simp [within, unexpired]

@[simp] theorem checkChain_certRevoked :
    (checkChain crypto verifier now endorsement cert result).certRevoked = result.certRevoked := by
  unfold checkChain
  split <;> try rfl
  dsimp only
  split <;> rfl

@[simp] theorem checkChain_certExpired :
    (checkChain crypto verifier now endorsement cert result).certExpired = result.certExpired := by
  unfold checkChain
  split <;> try rfl
  dsimp only
  split <;> rfl

theorem checkChain_certChainValid :
    (checkChain crypto verifier now endorsement cert result).certChainValid = true ↔
      match verifier.trustedCAs endorsement.mspID with
      | some roots =>
        crypto.verifyCertificate cert roots
          (if verifier.allowExpiredCerts then cert.notBefore + 3600000000000 else now) = none
      | none => endorsement.certChainValid = true := by
  unfold checkChain
  cases verifier.trustedCAs endorsement.mspID with
  | none => rfl
  | some roots =>
    dsimp only
    split
    next accepted => simp [accepted]
    next err refused => simp [refused]

@[simp] theorem checkFingerprint_certRevoked :
    (checkFingerprint crypto endorsement block result).certRevoked = result.certRevoked := by
  unfold checkFingerprint
  split <;> rfl

@[simp] theorem checkFingerprint_certExpired :
    (checkFingerprint crypto endorsement block result).certExpired = result.certExpired := by
  unfold checkFingerprint
  split <;> rfl

theorem checkFingerprint_certChainValid :
    (checkFingerprint crypto endorsement block result).certChainValid = true ↔
      result.certChainValid = true ∧
        endorsement.certFingerprint = hexEncode (crypto.sha256 block) := by
  unfold checkFingerprint
  split
  next different => simp [different]
  next same => simp [not_not.mp same]

end

theorem verifyEndorsement_accepted (now : Time) (endorsement : EndorsementRecord) :
    (verifyEndorsement crypto verifier now endorsement).accepted = true ↔
      endorsement.signatureValid = true ∧
        if endorsement.certificatePEM = "" then endorsement.certChainValid = true
        else Certified crypto verifier now endorsement := by
  unfold verifyEndorsement
  dsimp only
  by_cases recorded : endorsement.certificatePEM = ""
  next =>
    rw [if_neg (not_not_intro recorded), if_pos recorded, checkCRL_accepted _ _ _ rfl]
    simp [EndorsementVerifyResult.accepted]
  next =>
    rw [if_pos recorded, if_neg recorded]
    unfold Certified
    cases crypto.pemDecode (utf8 endorsement.certificatePEM.toList) with
    | none => simp [EndorsementVerifyResult.accepted]
    | some block =>
      dsimp only
      cases parsed : crypto.parseCertificate block with
      | error err => simp [EndorsementVerifyResult.accepted, parsed]
      | ok cert =>
        dsimp only
        rw [checkCRL_accepted _ _ _ (by simp)]
        simp only [EndorsementVerifyResult.accepted, Bool.and_eq_true, Bool.not_eq_true',
          checkFingerprint_certChainValid, checkFingerprint_certExpired,
          checkFingerprint_certRevoked, checkChain_certChainValid, checkChain_certExpired,
          checkChain_certRevoked, checkExpiry_certRevoked, checkExpiry_certExpired, and_true]
        constructor
        · rintro ⟨⟨signed, chained, printed⟩, began, lasts⟩
          exact ⟨signed, block, cert, rfl, parsed, began, lasts, printed, chained⟩
        · rintro ⟨signed, _, _, decoded, parsed', began, lasts, printed, chained⟩
          obtain rfl := Option.some.inj decoded
          obtain rfl := Except.ok.inj (parsed.symm.trans parsed')
          exact ⟨⟨signed, chained, printed⟩, began, lasts⟩

/-! ## Policies -/

/-- What a policy asks of the MSPs whose endorsements have validated. -/
def PolicyHolds (config : Option PolicyConfig) (msps : Finset String) : Prop :=
  match config with
  | none => msps.Nonempty
  | some config =>
    if config.type = "AND" then ∀ msp ∈ config.requiredMSPs, msp ∈ msps
    else if config.type = "OR" then ∃ msp ∈ config.requiredMSPs, msp ∈ msps
    else if config.type = "MAJORITY" then
      config.requiredMSPs.length < 2 * config.requiredMSPs.countP (· ∈ msps)
    else if config.type = "MIN" then config.minEndorsers ≤ msps.card
    else msps.Nonempty

theorem PolicyHolds.mono {config : Option PolicyConfig} {fewer more : Finset String}
    (subset : fewer ⊆ more) (holds : PolicyHolds config fewer) : PolicyHolds config more := by
  unfold PolicyHolds at holds ⊢
  cases config with
  | none => exact holds.mono subset
  | some config =>
    dsimp only at holds ⊢
    split_ifs at holds ⊢
    next => exact fun msp required => subset (holds msp required)
    next =>
      obtain ⟨msp, required, valid⟩ := holds
      exact ⟨msp, required, subset valid⟩
    next =>
      have counts : config.requiredMSPs.countP (· ∈ fewer) ≤
          config.requiredMSPs.countP (· ∈ more) :=
        List.countP_mono_left fun msp _ valid => by simpa using subset (by simpa using valid)
      omega
    next =>
      have cards := Finset.card_le_card subset
      omega
    next => exact holds.mono subset

theorem verifyPolicy_iff (policyID : String) (msps : List String) :
    verifyPolicy verifier policyID msps.dedup = true ↔
      PolicyHolds (verifier.policyConfig policyID) msps.toFinset := by
  have positive : 0 < msps.dedup.length ↔ msps.toFinset.Nonempty := by
    rw [← List.card_toFinset, Finset.card_pos]
  unfold verifyPolicy PolicyHolds
  cases verifier.policyConfig policyID with
  | none => simpa using positive
  | some config =>
    dsimp only
    split
    next => simp [List.all_eq_true]
    next =>
      split
      next => simp [List.any_eq_true]
      next =>
        split
        next =>
          have counts : config.requiredMSPs.countP (msps.dedup.contains ·) =
              config.requiredMSPs.countP (· ∈ msps.toFinset) :=
            List.countP_congr fun msp _ => by simp
          rw [decide_eq_true_eq, counts]
          omega
        next =>
          split
          next => rw [decide_eq_true_eq, List.card_toFinset]
          next => simpa using positive

/-! ## Verdicts -/

/-- The endorsements of a receipt, each with the time it is checked at. -/
def Receipt.timedEndorsements (clock : Nat → Time) (receipt : Receipt) :
    List (Time × EndorsementRecord) :=
  receipt.endorsements.items.mapIdx fun i endorsement => (clock (i + 1), endorsement)

def Accepted (timed : Time × EndorsementRecord) : Prop :=
  (verifyEndorsement crypto verifier timed.1 timed.2).accepted = true

instance (timed : Time × EndorsementRecord) : Decidable (Accepted crypto verifier timed) :=
  inferInstanceAs (Decidable (_ = true))

/-- The MSPs with an endorsement that is accepted. -/
def validatedMSPs (timed : List (Time × EndorsementRecord)) : Finset String :=
  ((timed.filter (Accepted crypto verifier ·)).map fun one => one.2.mspID).toFinset

/-- Nothing in the receipt can be checked: the ledger's verdict is taken instead. -/
structure Receipt.Unproven (receipt : Receipt) : Prop where
  valid : receipt.validationCode = 0
  endorsed : receipt.endorsements.items ≠ []
  unchecked : ∀ endorsement ∈ receipt.endorsements.items, endorsement.certificatePEM = "" ∧
    endorsement.signatureValid = false ∧ endorsement.certChainValid = false

section

variable (now : Time) (endorsement : EndorsementRecord) (cert : Certificate) (block : Bytes)
  (result : EndorsementVerifyResult)

@[simp] theorem checkExpiry_mspID :
    (checkExpiry verifier now cert result).mspID = result.mspID := by
  unfold checkExpiry
  split <;> rfl

@[simp] theorem checkChain_mspID :
    (checkChain crypto verifier now endorsement cert result).mspID = result.mspID := by
  unfold checkChain
  split <;> try rfl
  dsimp only
  split <;> rfl

@[simp] theorem checkFingerprint_mspID :
    (checkFingerprint crypto endorsement block result).mspID = result.mspID := by
  unfold checkFingerprint
  split <;> rfl

@[simp] theorem checkCRL_mspID : (checkCRL verifier endorsement result).mspID = result.mspID := by
  unfold checkCRL
  split <;> rfl

@[simp] theorem verifyEndorsement_mspID :
    (verifyEndorsement crypto verifier now endorsement).mspID = endorsement.mspID := by
  unfold verifyEndorsement
  dsimp only
  split
  · split
    · rfl
    · split
      · rfl
      · simp
  · simp

end

section

variable (clock : Nat → Time) (receipt : Receipt)

def endorsementResults : List EndorsementVerifyResult :=
  receipt.endorsements.items.mapIdx fun i endorsement =>
    verifyEndorsement crypto verifier (clock (i + 1)) endorsement

theorem endorsementResults_eq :
    endorsementResults crypto verifier clock receipt =
      (receipt.timedEndorsements clock).map fun timed =>
        verifyEndorsement crypto verifier timed.1 timed.2 := by
  unfold endorsementResults Receipt.timedEndorsements
  simp [List.mapIdx_eq_zipIdx_map]

theorem validMSPs_eq :
    ((endorsementResults crypto verifier clock receipt).filter
      EndorsementVerifyResult.accepted).map EndorsementVerifyResult.mspID =
        ((receipt.timedEndorsements clock).filter (Accepted crypto verifier ·)).map fun timed =>
          timed.2.mspID := by
  rw [endorsementResults_eq, List.filter_map, List.map_map]
  have same : (EndorsementVerifyResult.accepted ∘ fun timed : Time × EndorsementRecord =>
      verifyEndorsement crypto verifier timed.1 timed.2) = (Accepted crypto verifier ·) := by
    funext timed
    exact Bool.decide_eq_true.symm
  rw [same]
  exact List.map_congr_left fun timed _ => by simp

theorem Receipt.map_snd_timedEndorsements :
    (receipt.timedEndorsements clock).map Prod.snd = receipt.endorsements.items := by
  simp [Receipt.timedEndorsements, List.mapIdx_eq_zipIdx_map, Function.comp_def]

variable {receipt}

-- Without a recorded signature no endorsement is accepted.
theorem Receipt.Unproven.none_accepted (unproven : receipt.Unproven) :
    (endorsementResults crypto verifier clock receipt).any EndorsementVerifyResult.accepted =
      false := by
  rw [List.any_eq_false]
  intro result member accepted
  obtain ⟨i, bound, rfl⟩ := List.mem_mapIdx.mp member
  rw [verifyEndorsement_accepted] at accepted
  have unsigned := (unproven.unchecked _ (List.getElem_mem bound)).2.1
  rw [unsigned] at accepted
  exact absurd accepted.1 Bool.false_ne_true

theorem canTrustLedgerValidationFallback_iff :
    canTrustLedgerValidationFallback receipt (endorsementResults crypto verifier clock receipt) =
      true ↔ receipt.Unproven := by
  have unchecked : (!receipt.endorsements.items.any fun endorsement =>
        endorsement.certificatePEM ≠ "" || endorsement.signatureValid ||
          endorsement.certChainValid) = true ↔
      ∀ endorsement ∈ receipt.endorsements.items, endorsement.certificatePEM = "" ∧
        endorsement.signatureValid = false ∧ endorsement.certChainValid = false := by
    simp [List.any_eq_false, and_assoc]
  unfold canTrustLedgerValidationFallback
  constructor
  · intro trusted
    split at trusted
    next => cases trusted
    next applies =>
      split at trusted
      next => cases trusted
      next => exact ⟨by tauto, by tauto, unchecked.mp trusted⟩
  · intro unproven
    rw [if_neg (by simp [unproven.valid, unproven.endorsed]),
      unproven.none_accepted crypto verifier clock, if_neg Bool.false_ne_true]
    exact unchecked.mpr unproven.unchecked

/-! ### The verdicts -/

variable (receipt) (result : VerificationResult)

def policySatisfied : Bool :=
  let results := endorsementResults crypto verifier clock receipt
  let satisfied := verifyPolicy verifier receipt.policyID
    ((results.filter EndorsementVerifyResult.accepted).map EndorsementVerifyResult.mspID).dedup
  satisfied || !satisfied && canTrustLedgerValidationFallback receipt results

theorem policySatisfied_iff :
    policySatisfied crypto verifier clock receipt = true ↔
      PolicyHolds (verifier.policyConfig receipt.policyID)
        (validatedMSPs crypto verifier (receipt.timedEndorsements clock)) ∨ receipt.Unproven := by
  unfold policySatisfied validatedMSPs
  rw [← canTrustLedgerValidationFallback_iff crypto verifier clock, ← validMSPs_eq,
    ← verifyPolicy_iff]
  dsimp only
  rw [Bool.or_eq_true, Bool.and_eq_true, Bool.not_eq_true']
  cases verifyPolicy verifier receipt.policyID _ <;> simp

theorem checkEndorsements_verdict :
    (checkEndorsements crypto verifier clock receipt result).policySatisfied =
        policySatisfied crypto verifier clock receipt ∧
      (checkEndorsements crypto verifier clock receipt result).valid =
        (result.valid && policySatisfied crypto verifier clock receipt) := by
  unfold checkEndorsements policySatisfied endorsementResults
  dsimp only
  generalize verifyPolicy verifier receipt.policyID _ = satisfied
  generalize canTrustLedgerValidationFallback receipt _ = fallback
  cases satisfied <;> cases fallback <;>
    simp [VerificationResult.fail, VerificationResult.warn]

theorem checkReceiptHash_valid :
    (checkReceiptHash crypto receipt result).valid = true ↔
      result.valid = true ∧ receipt.computeReceiptHash crypto.sha256 = receipt.receiptHash := by
  unfold checkReceiptHash
  by_cases same : receipt.computeReceiptHash crypto.sha256 = receipt.receiptHash <;>
    simp [same, VerificationResult.fail]

theorem checkCommitmentHash_valid (expectedCommitmentHash : String) :
    (checkCommitmentHash receipt expectedCommitmentHash result).valid = true ↔
      result.valid = true ∧
        (expectedCommitmentHash ≠ "" → receipt.commitmentHash = expectedCommitmentHash) := by
  unfold checkCommitmentHash
  by_cases empty : expectedCommitmentHash = "" <;>
    by_cases same : receipt.commitmentHash = expectedCommitmentHash <;>
      simp [empty, same, VerificationResult.fail]

theorem checkCommitmentOpening_valid :
    (checkCommitmentOpening crypto receipt result).valid = true ↔
      result.valid = true ∧ ∀ opening ∈ receipt.commitmentOpening,
        computeCommitmentHash crypto.sha256 opening = receipt.commitmentHash := by
  unfold checkCommitmentOpening
  cases receipt.commitmentOpening with
  | none => simp [VerificationResult.warn]
  | some opening =>
    by_cases same : computeCommitmentHash crypto.sha256 opening = receipt.commitmentHash <;>
      simp [same, VerificationResult.fail]

theorem checkValidationCode_valid :
    (checkValidationCode receipt result).valid = true ↔
      result.valid = true ∧ receipt.validationCode = 0 := by
  unfold checkValidationCode
  by_cases valid : receipt.validationCode = 0 <;> simp [valid, VerificationResult.fail]

theorem checkCompleteness_verdict :
    (checkCompleteness receipt result).policySatisfied = result.policySatisfied ∧
      ((checkCompleteness receipt result).valid = true ↔
        result.valid = true ∧ receipt.endorsements.items ≠ []) := by
  unfold checkCompleteness
  by_cases first : receipt.blockNumber = 0 <;>
    by_cases empty : receipt.endorsements.items = [] <;>
      simp [first, empty, VerificationResult.fail, VerificationResult.warn]

theorem verifyReceipt_policySatisfied (expectedCommitmentHash : String) :
    (verifyReceipt crypto verifier clock receipt expectedCommitmentHash).policySatisfied =
      policySatisfied crypto verifier clock receipt := by
  unfold verifyReceipt
  dsimp only
  rw [(checkCompleteness_verdict _ _).1, (checkEndorsements_verdict _ _ _ _ _).1]

theorem verifyReceipt_valid (expectedCommitmentHash : String) :
    (verifyReceipt crypto verifier clock receipt expectedCommitmentHash).valid = true ↔
      receipt.computeReceiptHash crypto.sha256 = receipt.receiptHash ∧
      (expectedCommitmentHash ≠ "" → receipt.commitmentHash = expectedCommitmentHash) ∧
      (∀ opening ∈ receipt.commitmentOpening,
        computeCommitmentHash crypto.sha256 opening = receipt.commitmentHash) ∧
      receipt.validationCode = 0 ∧ policySatisfied crypto verifier clock receipt = true ∧
      receipt.endorsements.items ≠ [] := by
  unfold verifyReceipt
  dsimp only
  rw [(checkCompleteness_verdict _ _).2, (checkEndorsements_verdict _ _ _ _ _).2,
    Bool.and_eq_true, checkValidationCode_valid, checkCommitmentOpening_valid,
    checkCommitmentHash_valid, checkReceiptHash_valid]
  simp only [true_and, and_assoc]

end

end Kufi.Gateway

import Kufi.Gateway.Verdict

set_option autoImplicit false

/-!
# Two evaluators of endorsement policies

The extractor of endorsements has an evaluator of its own beside the one of the
receipt verifier.
-/

namespace Kufi.Gateway

/-- What `VerifyEndorsement` has found about one endorsement. -/
structure VerifiedEndorsement where
  mspID : String
  signatureValid : Bool
  certChainValid : Bool
  deriving DecidableEq

def VerifiedEndorsement.valid (endorsement : VerifiedEndorsement) : Bool :=
  endorsement.signatureValid && endorsement.certChainValid

-- The keys of the map `validMSPs`.
def validMSPs (endorsements : List VerifiedEndorsement) : List String :=
  (endorsements.filter VerifiedEndorsement.valid).map VerifiedEndorsement.mspID |>.dedup

/-- `VerifyEndorsementPolicy`, with its error. -/
def verifyEndorsementPolicy (endorsements : List VerifiedEndorsement) (policyType : String)
    (requiredMSPs : List String) : Bool × Option String :=
  let validMSPs := validMSPs endorsements
  if policyType = "AND" then
    match requiredMSPs.find? fun msp => !validMSPs.contains msp with
    | some msp => (false, some ("missing valid endorsement from MSP: " ++ msp))
    | none => (true, none)
  else if policyType = "OR" then
    if requiredMSPs.any (validMSPs.contains ·) then (true, none)
    else (false, some "no valid endorsement from any required MSP")
  else if policyType = "MAJORITY" then
    let count := requiredMSPs.countP (validMSPs.contains ·)
    let majority := requiredMSPs.length / 2 + 1
    if majority ≤ count then (true, none)
    else (false, some ("insufficient endorsements: " ++ toString count ++ " of " ++
      toString majority ++ " required"))
  else (false, some ("unknown policy type: " ++ policyType))

/-- The types that both evaluators know. -/
def sharedTypes : List String := ["AND", "OR", "MAJORITY"]

/-- The MSPs of the results that the verifier accepts, as `VerifyReceipt` collects them. -/
def acceptedMSPs (results : List EndorsementVerifyResult) : List String :=
  (results.filter EndorsementVerifyResult.accepted).map EndorsementVerifyResult.mspID |>.dedup

/-! ## Sets of MSPs -/

theorem mem_validMSPs {endorsements : List VerifiedEndorsement} {msp : String} :
    msp ∈ validMSPs endorsements ↔
      ∃ endorsement ∈ endorsements, endorsement.valid = true ∧ endorsement.mspID = msp := by
  simp [validMSPs, and_assoc]

theorem mem_acceptedMSPs {results : List EndorsementVerifyResult} {msp : String} :
    msp ∈ acceptedMSPs results ↔
      ∃ result ∈ results, result.accepted = true ∧ result.mspID = msp := by
  simp [acceptedMSPs, and_assoc]

theorem validMSPs_subset {fewer more : List VerifiedEndorsement} (subset : fewer ⊆ more) :
    (validMSPs fewer).toFinset ⊆ (validMSPs more).toFinset := by
  intro msp among
  obtain ⟨endorsement, listed, valid, same⟩ := mem_validMSPs.mp (List.mem_toFinset.mp among)
  exact List.mem_toFinset.mpr (mem_validMSPs.mpr ⟨endorsement, subset listed, valid, same⟩)

theorem acceptedMSPs_subset {fewer more : List EndorsementVerifyResult} (subset : fewer ⊆ more) :
    (acceptedMSPs fewer).toFinset ⊆ (acceptedMSPs more).toFinset := by
  intro msp among
  obtain ⟨result, listed, accepted, same⟩ := mem_acceptedMSPs.mp (List.mem_toFinset.mp among)
  exact List.mem_toFinset.mpr (mem_acceptedMSPs.mpr ⟨result, subset listed, accepted, same⟩)

/-! ## Both evaluators -/

section

variable {config : PolicyConfig}

/-- The extractor accepts what the policy asks for. -/
theorem verifyEndorsementPolicy_iff (known : config.type ∈ sharedTypes)
    (endorsements : List VerifiedEndorsement) :
    (verifyEndorsementPolicy endorsements config.type config.requiredMSPs).1 = true ↔
      PolicyHolds (some config) (validMSPs endorsements).toFinset := by
  unfold verifyEndorsementPolicy PolicyHolds
  dsimp only
  split_ifs with and or any majority enough
  · cases missing : config.requiredMSPs.find? fun msp =>
        !(validMSPs endorsements).contains msp with
    | none => simpa using missing
    | some msp =>
      have absent : msp ∉ validMSPs endorsements := by simpa using List.find?_some missing
      simp only [Bool.false_eq_true, List.mem_toFinset, false_iff, not_forall]
      exact ⟨msp, List.mem_of_find?_eq_some missing, absent⟩
  · simpa using any
  · simpa using any
  · have counts : config.requiredMSPs.countP ((validMSPs endorsements).contains ·) =
        config.requiredMSPs.countP (· ∈ (validMSPs endorsements).toFinset) :=
      List.countP_congr fun msp _ => by simp
    rw [counts] at enough
    simp only [true_iff]
    omega
  · have counts : config.requiredMSPs.countP ((validMSPs endorsements).contains ·) =
        config.requiredMSPs.countP (· ∈ (validMSPs endorsements).toFinset) :=
      List.countP_congr fun msp _ => by simp
    rw [counts] at enough
    simp only [false_iff]
    omega
  all_goals simp [sharedTypes, and, or, majority] at known

variable {verifier : Verifier} {policyID : String}

theorem verifyPolicy_holds_iff (found : verifier.policyConfig policyID = some config)
    {msps : List String} (distinct : msps.Nodup) :
    verifyPolicy verifier policyID msps = true ↔ PolicyHolds (some config) msps.toFinset := by
  rw [← found, ← verifyPolicy_iff, distinct.dedup]

end

/-- A verdict that the order and the repetition of endorsements do not matter to, and that one
endorsement more, whatever it is, never turns into a rejection. -/
structure SetVerdict {A : Type} (accepts : List A → Bool) : Prop where
  same : ∀ first second : List A, (∀ one, one ∈ first ↔ one ∈ second) →
    accepts first = accepts second
  grows : ∀ (before after : List A) (added : A), accepts (before ++ after) = true →
    accepts (before ++ added :: after) = true

theorem SetVerdict.of_mono {A : Type} {accepts : List A → Bool}
    (mono : ∀ fewer more : List A, fewer ⊆ more → accepts fewer = true → accepts more = true) :
    SetVerdict accepts where
  same first second equal := by
    rw [Bool.eq_iff_iff]
    exact ⟨mono _ _ fun one listed => (equal one).mp listed,
      mono _ _ fun one listed => (equal one).mpr listed⟩
  grows before after added accepted := by
    refine mono _ _ (fun one listed => ?_) accepted
    rcases List.mem_append.mp listed with first | last
    · exact List.mem_append_left _ first
    · exact List.mem_append_right _ (List.mem_cons_of_mem _ last)

/-- The evaluators agree on every set of MSPs, and each is a verdict on a set of endorsements. -/
theorem evaluators_agree {verifier : Verifier} {policyID : String} {config : PolicyConfig}
    (found : verifier.policyConfig policyID = some config) (known : config.type ∈ sharedTypes) :
    (∀ (endorsements : List VerifiedEndorsement) (msps : List String), msps.Nodup →
        (∀ msp, msp ∈ msps ↔ msp ∈ validMSPs endorsements) →
        verifyPolicy verifier policyID msps =
          (verifyEndorsementPolicy endorsements config.type config.requiredMSPs).1) ∧
      SetVerdict (fun endorsements =>
        (verifyEndorsementPolicy endorsements config.type config.requiredMSPs).1) ∧
      SetVerdict (fun results => verifyPolicy verifier policyID (acceptedMSPs results)) := by
  refine ⟨fun endorsements msps distinct same => ?_, .of_mono fun fewer more subset accepted => ?_,
    .of_mono fun fewer more subset accepted => ?_⟩
  · have sets : msps.toFinset = (validMSPs endorsements).toFinset := by
      ext msp
      simp [same]
    rw [Bool.eq_iff_iff, verifyPolicy_holds_iff found distinct, verifyEndorsementPolicy_iff known,
      sets]
  · rw [verifyEndorsementPolicy_iff known] at accepted ⊢
    exact accepted.mono (validMSPs_subset subset)
  · have distinct (results : List EndorsementVerifyResult) : (acceptedMSPs results).Nodup :=
      List.nodup_dedup _
    rw [verifyPolicy_holds_iff found (distinct _)] at accepted ⊢
    exact accepted.mono (acceptedMSPs_subset subset)

def majorityConfig : PolicyConfig := ⟨"MAJORITY", ["BankMSP", "AuditMSP", "BankMSP"], 0⟩

theorem evaluators_agree_majority :
    (∀ (endorsements : List VerifiedEndorsement) (msps : List String), msps.Nodup →
        (∀ msp, msp ∈ msps ↔ msp ∈ validMSPs endorsements) →
        verifyPolicy { newVerifier with policyConfig := fun _ => some majorityConfig } "p" msps =
          (verifyEndorsementPolicy endorsements majorityConfig.type
            majorityConfig.requiredMSPs).1) ∧
      SetVerdict (fun endorsements => (verifyEndorsementPolicy endorsements majorityConfig.type
        majorityConfig.requiredMSPs).1) ∧
      SetVerdict (fun results =>
        verifyPolicy { newVerifier with policyConfig := fun _ => some majorityConfig } "p"
          (acceptedMSPs results)) :=
  evaluators_agree rfl (by decide)

end Kufi.Gateway

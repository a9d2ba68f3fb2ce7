import Kufi.Gateway.TamperEvidence
import Kufi.Gateway.Verdict
import Mathlib.Data.List.Forall2

set_option autoImplicit false

/-!
# Weaker evidence

What a receipt loses when certificates are removed, flags cleared or
endorsements dropped, and when the verifier is satisfied with less.
-/

namespace Kufi.Gateway

open Shared

/-- The same endorsement without its certificate or with flags cleared. -/
structure Weakens (endorsement weaker : EndorsementRecord) : Prop where
  rest : weaker =
    { endorsement with
      certificatePEM := weaker.certificatePEM
      signatureValid := weaker.signatureValid
      certChainValid := weaker.certChainValid }
  certificate : weaker.certificatePEM = endorsement.certificatePEM ∨ weaker.certificatePEM = ""
  signature : weaker.signatureValid = true → endorsement.signatureValid = true
  chain : weaker.certChainValid = true → endorsement.certChainValid = true

/-- The receipt with some of its endorsements weakened or dropped and its hash recomputed. What
is left of an endorsement is checked at the time at which the endorsement is. -/
structure LessEvidence (sha256 : Bytes → Bytes) (receipt weaker : Receipt)
    (clock clock' : Nat → Time) : Prop where
  rest : weaker =
    { receipt with endorsements := weaker.endorsements, receiptHash := weaker.receiptHash }
  recomputed : weaker.receiptHash = weaker.computeReceiptHash sha256
  endorsements : List.SublistForall₂
    (fun weaker endorsement => weaker.1 = endorsement.1 ∧ Weakens endorsement.2 weaker.2)
    (weaker.timedEndorsements clock') (receipt.timedEndorsements clock)

theorem mem_of_sublistForall₂ {A B : Type} {R : A → B → Prop} {fewer : List A} {items : List B}
    (related : List.SublistForall₂ R fewer items) {one : A} (member : one ∈ fewer) :
    ∃ item ∈ items, R one item := by
  induction related with
  | nil => cases member
  | cons pair _ ih =>
    rcases List.mem_cons.mp member with rfl | later
    · exact ⟨_, List.mem_cons_self, pair⟩
    · obtain ⟨item, among, related⟩ := ih later
      exact ⟨item, List.mem_cons_of_mem _ among, related⟩
  | cons_right _ ih =>
    obtain ⟨item, among, related⟩ := ih member
    exact ⟨item, List.mem_cons_of_mem _ among, related⟩

section

variable {crypto : Crypto} {verifier : Verifier}

theorem Weakens.mspID {endorsement weaker : EndorsementRecord}
    (weakens : Weakens endorsement weaker) : weaker.mspID = endorsement.mspID := by
  rw [weakens.rest]

theorem Weakens.certified {endorsement weaker : EndorsementRecord} {now : Time}
    (weakens : Weakens endorsement weaker)
    (kept : weaker.certificatePEM = endorsement.certificatePEM)
    (certified : Certified crypto verifier now weaker) :
    Certified crypto verifier now endorsement := by
  obtain ⟨block, cert, decoded, parsed, began, lasts, printed, chained⟩ := certified
  have fingerprint : weaker.certFingerprint = endorsement.certFingerprint := by rw [weakens.rest]
  rw [kept] at decoded
  rw [fingerprint] at printed
  rw [weakens.mspID] at chained
  refine ⟨block, cert, decoded, parsed, began, lasts, printed, ?_⟩
  split at chained
  next => exact chained
  next => exact weakens.chain chained

/-- What is left is accepted only where the endorsement is, or for want of the certificate. -/
theorem Weakens.accepted {endorsement weaker : EndorsementRecord} {now : Time}
    (weakens : Weakens endorsement weaker) (accepted : Accepted crypto verifier (now, weaker)) :
    Accepted crypto verifier (now, endorsement) ∨
      endorsement.certificatePEM ≠ "" ∧ weaker.certificatePEM = "" ∧
        weaker.signatureValid = true ∧ weaker.certChainValid = true := by
  unfold Accepted at accepted ⊢
  rw [verifyEndorsement_accepted] at accepted ⊢
  obtain ⟨signed, proof⟩ := accepted
  by_cases bare : weaker.certificatePEM = ""
  next =>
    rw [if_pos bare] at proof
    by_cases recorded : endorsement.certificatePEM = ""
    next =>
      rw [if_pos recorded]
      exact .inl ⟨weakens.signature signed, weakens.chain proof⟩
    next => exact .inr ⟨recorded, bare, signed, proof⟩
  next =>
    have kept := weakens.certificate.resolve_right bare
    rw [if_neg bare] at proof
    rw [if_neg (kept ▸ bare)]
    exact .inl ⟨weakens.signature signed, weakens.certified kept proof⟩

end

/-- An endorsement that was not accepted is accepted by its flags, now that its certificate is
gone. -/
def Stripped (crypto : Crypto) (verifier : Verifier) (receipt weaker : Receipt)
    (clock : Nat → Time) : Prop :=
  ∃ endorsement ∈ receipt.timedEndorsements clock, ∃ bare ∈ weaker.endorsements.items,
    Weakens endorsement.2 bare ∧ ¬ Accepted crypto verifier endorsement ∧
      endorsement.2.certificatePEM ≠ "" ∧ bare.certificatePEM = "" ∧
      bare.signatureValid = true ∧ bare.certChainValid = true

section

variable {crypto : Crypto} {verifier : Verifier} {receipt weaker : Receipt}
  {clock clock' : Nat → Time}

theorem LessEvidence.validatedMSPs_subset
    (less : LessEvidence crypto.sha256 receipt weaker clock clock')
    (unstripped : ¬ Stripped crypto verifier receipt weaker clock) :
    validatedMSPs crypto verifier (weaker.timedEndorsements clock') ⊆
      validatedMSPs crypto verifier (receipt.timedEndorsements clock) := by
  intro msp valid
  simp only [validatedMSPs, List.mem_toFinset, List.mem_map, List.mem_filter,
    decide_eq_true_eq] at valid ⊢
  obtain ⟨⟨now, left⟩, ⟨member, accepted⟩, rfl⟩ := valid
  obtain ⟨⟨now', endorsement⟩, original, same, weakens⟩ :=
    mem_of_sublistForall₂ less.endorsements member
  obtain rfl : now = now' := same
  refine ⟨(now, endorsement), ⟨original, ?_⟩, weakens.mspID.symm⟩
  by_contra refused
  have listed : left ∈ weaker.endorsements.items := by
    rw [← Receipt.map_snd_timedEndorsements clock' weaker]
    exact List.mem_map_of_mem member
  have bare := (weakens.accepted accepted).resolve_left refused
  exact unstripped ⟨_, original, left, listed, weakens, refused, bare⟩

theorem LessEvidence.policySatisfied
    (less : LessEvidence crypto.sha256 receipt weaker clock clock')
    (satisfied : policySatisfied crypto verifier clock' weaker = true) :
    Kufi.Gateway.policySatisfied crypto verifier clock receipt = true ∨ weaker.Unproven ∨
      Stripped crypto verifier receipt weaker clock := by
  rw [policySatisfied_iff] at satisfied ⊢
  rcases satisfied with holds | unproven
  · by_cases stripped : Stripped crypto verifier receipt weaker clock
    · exact .inr (.inr stripped)
    · have samePolicy : weaker.policyID = receipt.policyID := by rw [less.rest]
      rw [samePolicy] at holds
      exact .inl (.inl (holds.mono (less.validatedMSPs_subset stripped)))
  · exact .inr (.inl unproven)

end

/-! ## The verdict on less evidence -/

theorem policySatisfied_lessEvidence (crypto : Crypto) (verifier : Verifier) :
    (∀ (receipt weaker : Receipt) (clock clock' : Nat → Time) (expected expected' : String),
      LessEvidence crypto.sha256 receipt weaker clock clock' →
      (verifyReceipt crypto verifier clock receipt expected).policySatisfied = false →
      (verifyReceipt crypto verifier clock' weaker expected').policySatisfied = true →
      weaker.Unproven ∨ Stripped crypto verifier receipt weaker clock) ∧
    ∀ (receipt : Receipt) (clock : Nat → Time) (expected : String),
      (verifyReceipt crypto verifier clock receipt expected).policySatisfied = true →
      PolicyHolds (verifier.policyConfig receipt.policyID)
        (validatedMSPs crypto verifier (receipt.timedEndorsements clock)) ∨ receipt.Unproven := by
  simp only [verifyReceipt_policySatisfied]
  constructor
  · intro receipt weaker clock clock' _ _ less refused satisfied
    refine (less.policySatisfied satisfied).resolve_left fun accepted => ?_
    rw [accepted] at refused
    cases refused
  · intro receipt clock _ satisfied
    exact (policySatisfied_iff crypto verifier clock receipt).mp satisfied

namespace Receipt

def endorsedBy (receipt : Receipt) (endorsement : EndorsementRecord) : Receipt :=
  { receipt with endorsements := some [endorsement] }

def rehash (sha256 : Bytes → Bytes) (receipt : Receipt) : Receipt :=
  { receipt with receiptHash := receipt.computeReceiptHash sha256 }

end Receipt

theorem rehash_lessEvidence (sha256 : Bytes → Bytes) (receipt : Receipt)
    {endorsement weaker : EndorsementRecord} (weakens : Weakens endorsement weaker) :
    LessEvidence sha256 (receipt.endorsedBy endorsement)
      ((receipt.endorsedBy weaker).rehash sha256) (fun _ => 0) (fun _ => 0) where
  rest := rfl
  recomputed := rfl
  endorsements := .cons ⟨rfl, weakens⟩ .nil

-- The text of the certificate holds no PEM block.
def garbledEndorsement : EndorsementRecord where
  mspID := "VPBankMSP"
  endorserID := ""
  certFingerprint := ""
  certificatePEM := "no certificate"
  signatureHex := "3045"
  timestamp := 0
  signatureValid := false
  certChainValid := false

def bareEndorsement : EndorsementRecord :=
  { garbledEndorsement with certificatePEM := "" }

theorem garbled_weakens : Weakens garbledEndorsement bareEndorsement :=
  ⟨rfl, .inr rfl, id, id⟩

theorem garbled_refused :
    policySatisfied sampleCrypto newVerifier (fun _ => 0)
      (sampleReceipt.endorsedBy garbledEndorsement) = false := by
  decide

theorem bare_satisfied (expected : String) :
    (verifyReceipt sampleCrypto newVerifier (fun _ => 0)
      ((sampleReceipt.endorsedBy bareEndorsement).rehash sampleSha256) expected).policySatisfied =
        true := by
  rw [verifyReceipt_policySatisfied, policySatisfied_iff]
  exact .inr ⟨rfl, List.cons_ne_nil _ _, by simp [Receipt.rehash, Receipt.endorsedBy,
    Slice.items, bareEndorsement, garbledEndorsement]⟩

theorem policySatisfied_lessEvidence_bare :
    ((sampleReceipt.endorsedBy bareEndorsement).rehash sampleSha256).Unproven ∨
      Stripped sampleCrypto newVerifier (sampleReceipt.endorsedBy garbledEndorsement)
        ((sampleReceipt.endorsedBy bareEndorsement).rehash sampleSha256) (fun _ => 0) :=
  (policySatisfied_lessEvidence sampleCrypto newVerifier).1 _ _ _ _ "" ""
    (rehash_lessEvidence sampleSha256 sampleReceipt garbled_weakens)
    ((verifyReceipt_policySatisfied _ _ _ _ _).trans garbled_refused) (bare_satisfied "")

-- Removing a certificate that does not decode leaves nothing to check.
theorem policySatisfied_without_certificate :
    ¬ ∀ (crypto : Crypto) (verifier : Verifier),
      (∀ (receipt weaker : Receipt) (clock clock' : Nat → Time) (expected expected' : String),
        LessEvidence crypto.sha256 receipt weaker clock clock' →
        (verifyReceipt crypto verifier clock receipt expected).policySatisfied = false →
        (verifyReceipt crypto verifier clock' weaker expected').policySatisfied = false) ∧
      ∀ (receipt : Receipt) (clock : Nat → Time) (expected : String),
        (verifyReceipt crypto verifier clock receipt expected).policySatisfied = true →
        PolicyHolds (verifier.policyConfig receipt.policyID)
          (validatedMSPs crypto verifier (receipt.timedEndorsements clock)) := by
  intro unrewarded
  have kept := (unrewarded sampleCrypto newVerifier).1 _ _ _ _ "" ""
    (rehash_lessEvidence sampleSha256 sampleReceipt garbled_weakens)
    ((verifyReceipt_policySatisfied _ _ _ _ _).trans garbled_refused)
  rw [bare_satisfied] at kept
  cases kept

end Kufi.Gateway

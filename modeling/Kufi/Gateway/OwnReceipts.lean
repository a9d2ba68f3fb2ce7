import Kufi.Gateway.Conversions
import Kufi.Gateway.Handlers
import Kufi.Gateway.Evidence

set_option autoImplicit false

/-!
# Verifying the gateway's own receipts

The receipt of a committed transfer is built without positive flags, and the
verifier of the gateway knows no certificate authority and no policy.
-/

namespace Kufi.Gateway

open Shared

/-- `extractEndorsements`: the client sets neither the flags nor a time of their own. -/
def extractEndorsements (transaction : List EndorsementInfo) : List Endorsement :=
  transaction.map fun endorsement =>
    { mspID := endorsement.mspID
      signature := endorsement.signature
      certificate := endorsement.certificate
      timestamp := Time.zero
      signatureValid := false
      certChainValid := false }

structure VerifyReceiptRequest where
  receipt : ReceiptDTO
  expectedCommitmentHash : String

/-- `Handler.VerifyReceipt`; the response has the members of the result. -/
def verifyReceiptRequest (crypto : Crypto) (clock : Nat → Time) (req : VerifyReceiptRequest) :
    VerificationResult :=
  verifyReceipt crypto newVerifier clock (dtoToReceipt req.receipt) req.expectedCommitmentHash

theorem goString_eq_empty (bytes : Bytes) : goString bytes = "" ↔ bytes = [] := by
  unfold goString
  rw [← String.toList_inj, String.toList_ofList]
  cases bytes with
  | nil => simp [decodeUtf8]
  | cons byte rest =>
    simp only [List.length_cons, decodeUtf8, String.toList_empty, reduceCtorEq, iff_false]
    split <;> exact List.cons_ne_nil _ _

section

variable {crypto : Crypto} {builder : ReceiptBuilder}

/-- Without positive flags the gateway's verifier is satisfied by the ledger's verdict alone. -/
theorem policySatisfied_unflagged {clock : Nat → Time} {receipt : Receipt}
    (unflagged : ∀ endorsement ∈ receipt.endorsements.items,
      endorsement.signatureValid = false ∧ endorsement.certChainValid = false) :
    policySatisfied crypto newVerifier clock receipt = true ↔
      receipt.validationCode = 0 ∧ receipt.endorsements.items ≠ [] ∧
        ∀ endorsement ∈ receipt.endorsements.items, endorsement.certificatePEM = "" := by
  have unvalidated : validatedMSPs crypto newVerifier (receipt.timedEndorsements clock) = ∅ := by
    unfold validatedMSPs
    rw [List.filter_eq_nil_iff.mpr]
    · rfl
    · intro timed member accepted
      have listed : timed.2 ∈ receipt.endorsements.items := by
        rw [← Receipt.map_snd_timedEndorsements clock receipt]
        exact List.mem_map_of_mem member
      have signed := ((verifyEndorsement_accepted crypto newVerifier timed.1 timed.2).mp
        (of_decide_eq_true accepted)).1
      rw [(unflagged timed.2 listed).1] at signed
      cases signed
  rw [policySatisfied_iff, unvalidated]
  constructor
  · rintro (nobody | unproven)
    · exact absurd nobody Finset.not_nonempty_empty
    · exact ⟨unproven.valid, unproven.endorsed, fun endorsement listed =>
        (unproven.unchecked endorsement listed).1⟩
  · rintro ⟨valid, endorsed, bare⟩
    exact .inr ⟨valid, endorsed, fun endorsement listed =>
      ⟨bare endorsement listed, unflagged endorsement listed⟩⟩

theorem endorsementRecord_certificatePEM (input : EndorsementInput) :
    (endorsementRecord crypto builder input).certificatePEM = "" ↔
      builder.includeFullCerts = false ∨ input.certPEM = [] := by
  unfold endorsementRecord
  dsimp only
  split
  next included =>
    rw [goString_eq_empty]
    simp [included]
  next omitted =>
    simp only [true_iff]
    by_cases empty : input.certPEM = []
    · exact .inr empty
    · exact .inl (by simpa [empty] using omitted)

theorem items_build (now : Time) (input : BuildInput) :
    (build crypto builder now input).endorsements.items =
      input.endorsements.map (endorsementRecord crypto builder) :=
  Slice.items_foldl_append_none _

/-- A receipt built without positive flags is verified exactly where it holds no certificate. -/
theorem verify_build {clock : Nat → Time} {now : Time} {input : BuildInput}
    {commitment : TransferCommitment} (opening : input.commitmentOpening = some commitment)
    (hash : input.commitmentHash = computeCommitmentHash crypto.sha256 commitment)
    (valid : input.validationCode = 0) (endorsed : input.endorsements ≠ [])
    (unflagged : ∀ endorsement ∈ input.endorsements,
      endorsement.signatureValid = false ∧ endorsement.certChainValid = false) :
    (verifyReceiptRequest crypto clock
      { receipt := receiptToDTO (build crypto builder now input)
        expectedCommitmentHash := computeCommitmentHash crypto.sha256 commitment }).valid = true ↔
      builder.includeFullCerts = false ∨
        ∀ endorsement ∈ input.endorsements, endorsement.certPEM = [] := by
  have items : (build crypto builder now input).endorsements.items =
      input.endorsements.map (endorsementRecord crypto builder) := items_build now input
  have unsigned : ∀ endorsement ∈ (build crypto builder now input).endorsements.items,
      endorsement.signatureValid = false ∧ endorsement.certChainValid = false := by
    intro endorsement listed
    rw [items] at listed
    obtain ⟨source, member, rfl⟩ := List.mem_map.mp listed
    exact unflagged source member
  have bare : (∀ endorsement ∈ (build crypto builder now input).endorsements.items,
      endorsement.certificatePEM = "") ↔ builder.includeFullCerts = false ∨
        ∀ endorsement ∈ input.endorsements, endorsement.certPEM = [] := by
    rw [items]
    simp only [List.mem_map, forall_exists_index, and_imp, forall_apply_eq_imp_iff₂,
      endorsementRecord_certificatePEM]
    cases builder.includeFullCerts <;> simp
  have listed : (build crypto builder now input).endorsements.items ≠ [] := by
    rw [items]
    exact fun empty => endorsed (List.map_eq_nil_iff.mp empty)
  have returned : dtoToReceipt (receiptToDTO (build crypto builder now input)) =
      build crypto builder now input :=
    dtoToReceipt_receiptToDTO (build_compact crypto builder now input)
  unfold verifyReceiptRequest
  dsimp only
  rw [returned, verifyReceipt_valid, policySatisfied_unflagged unsigned]
  constructor
  · rintro ⟨_, _, _, _, ⟨_, _, missing⟩, _⟩
    exact bare.mp missing
  · intro condition
    refine ⟨rfl, fun _ => hash, ?_, valid, ⟨valid, listed, bare.mpr condition⟩, listed⟩
    intro stored opens
    obtain rfl := Option.some.inj (opening.symm.trans opens)
    exact hash.symm

end

/-! ## A transfer that has been committed -/

section

variable {config : Config} {crypto : Crypto} {req : TransferRequest} {clientSubmitTime : Time}
  {result : SubmitResult} {blockHash : String} {txInfo : Option TransactionInfo}

/-- The client and, where it answers, the ledger show the endorsements of the transaction. -/
structure ShowsEndorsements (transaction : List EndorsementInfo) (result : SubmitResult)
    (txInfo : Option TransactionInfo) : Prop where
  submitted : result.endorsements = extractEndorsements transaction
  -- a transaction that does not parse is shown without endorsements
  committed : ∀ info ∈ txInfo, info.endorsements = transaction ∨ info.endorsements = []

theorem submitInput_endorsements {transaction : List EndorsementInfo}
    (shows : ShowsEndorsements transaction result txInfo) :
    (submitInput config crypto req clientSubmitTime result blockHash txInfo).endorsements =
      committedEndorsements transaction := by
  have submitted : submittedEndorsements result.endorsements = committedEndorsements transaction := by
    rw [shows.submitted]
    simp [submittedEndorsements, extractEndorsements, committedEndorsements]
  unfold submitInput
  dsimp only
  cases txInfo with
  | none => exact submitted
  | some info =>
    dsimp only
    split
    next => exact submitted
    next listed =>
      rcases shows.committed info rfl with same | missing
      · rw [same]
      · exact absurd (by rw [missing]; rfl) listed

end

theorem verify_own_receipt {config : Config} {crypto : Crypto} {req : TransferRequest}
    {clientSubmitTime now : Time} {clock : Nat → Time} {result : SubmitResult} {blockHash : String}
    {txInfo : Option TransactionInfo} {transaction : List EndorsementInfo}
    (valid : result.validationCode = 0) (endorsed : transaction ≠ [])
    (shows : ShowsEndorsements transaction result txInfo) :
    (verifyReceiptRequest crypto clock
      { receipt := receiptToDTO (build crypto config.receiptBuilder now
          (submitInput config crypto req clientSubmitTime result blockHash txInfo))
        expectedCommitmentHash :=
          computeCommitmentHash crypto.sha256 (commitmentOf config req) }).valid = true ↔
      config.includeFullCerts = false ∨
        ∀ endorsement ∈ transaction, endorsement.certificate = [] := by
  have inputs : (submitInput config crypto req clientSubmitTime result blockHash
      txInfo).endorsements = committedEndorsements transaction := submitInput_endorsements shows
  rw [verify_build rfl rfl valid, inputs]
  · simp [committedEndorsements, Config.receiptBuilder]
  · rw [inputs]
    exact fun empty => endorsed (List.map_eq_nil_iff.mp empty)
  · rw [inputs]
    intro endorsement listed
    obtain ⟨_, _, rfl⟩ := List.mem_map.mp listed
    exact ⟨rfl, rfl⟩

theorem own_receipt_valid_iff (config : Config) (crypto : Crypto) (req : TransferRequest)
    (clientSubmitTime now : Time) (clock : Nat → Time) (result : SubmitResult) (blockHash : String)
    (txInfo : Option TransactionInfo) (transaction : List EndorsementInfo)
    (valid : result.validationCode = 0) (endorsed : transaction ≠ [])
    (shows : ShowsEndorsements transaction result txInfo) :
    (verifyReceiptRequest crypto clock
      { receipt := receiptToDTO (build crypto config.receiptBuilder now
          (submitInput config crypto req clientSubmitTime result blockHash txInfo))
        expectedCommitmentHash :=
          computeCommitmentHash crypto.sha256 (commitmentOf config req) }).valid = true ↔
      config.includeFullCerts = false ∨
        ∀ endorsement ∈ transaction, endorsement.certificate = [] :=
  verify_own_receipt valid endorsed shows

def bankEndorsement : EndorsementInfo where
  mspID := "BankMSP"
  certificate := [0x2D, 0x2D, 0x2D]
  signature := [0x30, 0x45]

def committedTransfer : SubmitResult where
  txID := "t1"
  blockNumber := 7
  validationCode := 0
  endorsements := extractEndorsements [bankEndorsement]
  commitTimestamp := 1700000002000000000

theorem committedTransfer_shows :
    ShowsEndorsements [bankEndorsement] committedTransfer none where
  submitted := rfl
  committed := nofun

theorem own_receipt_valid_iff_bankConfig :
    (verifyReceiptRequest sampleCrypto (fun _ => 1700000004000000000)
      { receipt := receiptToDTO (build sampleCrypto bankConfig.receiptBuilder 1700000003000000000
          (submitInput bankConfig sampleCrypto aliceTransfer 1700000001000000000 committedTransfer
            "b7" none))
        expectedCommitmentHash :=
          computeCommitmentHash sampleSha256 (commitmentOf bankConfig aliceTransfer) }).valid =
        true ↔
      bankConfig.includeFullCerts = false ∨
        ∀ endorsement ∈ [bankEndorsement], endorsement.certificate = [] :=
  own_receipt_valid_iff bankConfig sampleCrypto aliceTransfer 1700000001000000000
    1700000003000000000 (fun _ => 1700000004000000000) committedTransfer "b7" none
    [bankEndorsement] rfl (List.cons_ne_nil _ _) committedTransfer_shows

-- With full certificates the receipt holds something that the verifier cannot check.
theorem own_receipt_with_certificate_refused :
    ¬ ∀ (config : Config) (crypto : Crypto) (req : TransferRequest) (clientSubmitTime now : Time)
      (clock : Nat → Time) (result : SubmitResult) (blockHash : String)
      (txInfo : Option TransactionInfo) (transaction : List EndorsementInfo),
      result.validationCode = 0 → transaction ≠ [] → ShowsEndorsements transaction result txInfo →
      (verifyReceiptRequest crypto clock
        { receipt := receiptToDTO (build crypto config.receiptBuilder now
            (submitInput config crypto req clientSubmitTime result blockHash txInfo))
          expectedCommitmentHash :=
            computeCommitmentHash crypto.sha256 (commitmentOf config req) }).valid = true := by
  intro accepted
  have verified := accepted { bankConfig with includeFullCerts := true } sampleCrypto aliceTransfer
    0 0 (fun _ => 0) committedTransfer "b7" none [bankEndorsement] rfl (List.cons_ne_nil _ _)
    committedTransfer_shows
  rw [verify_own_receipt rfl (List.cons_ne_nil _ _) committedTransfer_shows] at verified
  rcases verified with omitted | empty
  · cases omitted
  · exact absurd (empty bankEndorsement List.mem_cons_self) (by decide)

end Kufi.Gateway

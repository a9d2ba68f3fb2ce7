import Kufi.ChainService.Responses

set_option autoImplicit false

/-!
# What `ANCHORED` says of a receipt

The adapter calls a transaction anchored when the receipt is complete and
either its validation code or the name of the code stands for success. When
that means a receipt committed as valid.
-/

namespace Kufi.ChainService.Response

open Shared Ecma

variable (toUpperCase : Str → Str)

/-- A receipt of the transaction asked for that was committed as valid. -/
structure CommittedAsValid (receipt : Option Value) (asked : Option Str) : Prop where
  code : property receipt "validation_code" = some (.number Number.zero)
  name : ∀ name, stringMember receipt "validation_code_name" = some name → name = Str.of "VALID"
  txId : ∀ txId ∈ stringMember receipt "tx_id", ∀ askedId ∈ asked, txId = askedId
  commitmentHash : (stringMember receipt "commitment_hash").isSome = true
  blockProof : ∃ blockNumber, number (memberOrZero receipt "block_number") = .ok blockNumber ∧
    hasBlockProof blockNumber receipt = true
  receiptHash : (stringMember receipt "receipt_hash").isSome = true
  policyId : (stringMember receipt "policy_id").isSome = true
  endorsements : ∃ endorsements, property receipt "endorsements" = some (.array endorsements)
  schemaVersion : (stringMember receipt "schema_version").isSome = true

/-- The parser returned a result with the status. -/
def Anchored (result : Thrown AnchorTransferResult) : Prop :=
  ∃ anchored, result = .ok anchored ∧ anchored.chainStatus = .anchored

def AnchoredMeansCommitted (result : Thrown AnchorTransferResult) (body : Option Value)
    (asked : Option Str) : Prop :=
  (Anchored result → CommittedAsValid (extractReceiptPayload body) asked) ∧
    ∀ n, property (extractReceiptPayload body) "validation_code" = some (.number n) →
      n ≠ Number.zero → ¬ Anchored result

/-- The transaction that a response names beside its receipt. -/
def askedTxId (body : Option Value) : Option Str :=
  (stringMember body "tx_id").or (stringMember body "txId")

/-! ## When a receipt is anchored -/

/-- The receipt has every part that is asked of it. -/
def Complete (receipt : Option Value) (txId : Str) : Prop :=
  ∃ blockNumber, number (memberOrZero receipt "block_number") = .ok blockNumber ∧
    hasVerifiableBundle txId blockNumber receipt = true

section

variable {toUpperCase} {receipt envelope : Option Value} {fallbackTxId : Str}

theorem number_eq_ok {value : Option Value} {n : Option Number} :
    number value = .ok n ↔ toNumber value = .of n := by
  unfold number
  cases toNumber value <;> cases n <;> simp [Coerced.of]

theorem buildPendingResult_pending {txId : Str} {body : Option Value}
    {result : AnchorTransferResult} (built : buildPendingResult txId body = .ok result) :
    result.chainStatus = .pending := by
  unfold buildPendingResult at built
  cases converted : number (memberOrZero body "block_number") with
  | error => rw [converted] at built; cases built
  | ok => rw [converted] at built; cases built; rfl

theorem not_anchored_pending (txId : Str) (body : Option Value) :
    ¬ Anchored (buildPendingResult txId body) := by
  rintro ⟨result, built, anchored⟩
  rw [buildPendingResult_pending built] at anchored
  cases anchored

theorem not_anchored_error (message : Str) : ¬ Anchored (.error message) := by
  rintro ⟨_, same, _⟩
  cases same

theorem anchored_buildResult_iff :
    Anchored (buildResultFromReceipt toUpperCase receipt envelope fallbackTxId) ↔
      Complete receipt (receiptTxId receipt envelope fallbackTxId) ∧
        ∃ code, number (property receipt "validation_code") = .ok code ∧
          isValidationSuccess code (validationCodeName toUpperCase receipt) = true := by
  unfold buildResultFromReceipt Complete
  cases number (memberOrZero receipt "block_number") with
  | error message =>
    refine iff_of_false (not_anchored_error message) ?_
    rintro ⟨⟨_, same, _⟩, _⟩
    cases same
  | ok blockNumber =>
    cases number (property receipt "validation_code") with
    | error message =>
      refine iff_of_false (not_anchored_error message) ?_
      rintro ⟨_, _, same, _⟩
      cases same
    | ok code =>
      simp only [Except.ok.injEq, exists_eq_left', bind, Except.bind]
      split
      next success =>
        rw [Bool.and_eq_true] at success
        exact iff_of_true ⟨_, rfl, rfl⟩ ⟨success.2, success.1⟩
      next refused =>
        have never : ¬ (hasVerifiableBundle (receiptTxId receipt envelope fallbackTxId) blockNumber
              receipt = true ∧
            isValidationSuccess code (validationCodeName toUpperCase receipt) = true) := by
          rw [Bool.and_eq_true] at refused
          exact fun both => refused both.symm
        refine iff_of_false ?_ never
        split
        next =>
          rintro ⟨_, same, anchored⟩
          cases same
          cases anchored
        next => exact not_anchored_pending _ _

/-- A parser passes on what is not pending and makes the rest pending. -/
theorem anchored_bind_iff {parsed : Thrown AnchorTransferResult}
    {rest : AnchorTransferResult → Thrown AnchorTransferResult}
    (pending : ∀ result, ¬ Anchored (rest result)) :
    Anchored (parsed.bind fun result =>
        if result.chainStatus ≠ .pending then .ok result else rest result) ↔ Anchored parsed := by
  cases parsed with
  | error message => exact iff_of_false (not_anchored_error _) (not_anchored_error _)
  | ok result =>
    simp only [Except.bind]
    split
    next => exact Iff.rfl
    next waiting =>
      refine iff_of_false (pending result) ?_
      rintro ⟨_, same, anchored⟩
      obtain rfl := Except.ok.inj same
      rw [anchored] at waiting
      exact waiting (by decide)

theorem not_anchored_pendingOrMissing (body receipt : Option Value) :
    ¬ Anchored (pendingOrMissing toUpperCase body receipt) := by
  unfold pendingOrMissing
  dsimp only
  split
  · exact not_anchored_pending _ _
  · exact not_anchored_error _

/-- The response is taken for one with a receipt. -/
def HasReceipt (toUpperCase : Str → Str) (body : Option Value) : Prop :=
  truthy body = true ∧ unsuccessful toUpperCase body = false ∧
    (extractReceiptPayload body).isSome = true

theorem anchored_parseAnchor_iff {body : Option Value} :
    Anchored (parseAnchorTransferResponse toUpperCase body) ↔
      HasReceipt toUpperCase body ∧
        Anchored (buildResultFromReceipt toUpperCase (extractReceiptPayload body) body
          (namedTxId body (extractReceiptPayload body))) := by
  unfold parseAnchorTransferResponse HasReceipt
  split
  next empty => exact iff_of_false (not_anchored_error _) fun both => by simp_all
  next =>
    split
    next => exact iff_of_false (not_anchored_error _) fun both => by simp_all
    next =>
      split
      next receipt extracted =>
        rw [extracted]
        refine (anchored_bind_iff fun _ => not_anchored_pendingOrMissing _ _).trans ?_
        simp_all
      next extracted =>
        exact iff_of_false (not_anchored_pendingOrMissing _ _) fun both => by simp_all

theorem anchored_parseLookup_iff {body : Option Value} {txId : Str} :
    Anchored (parseReceiptLookupResponse toUpperCase body txId) ↔
      HasReceipt toUpperCase body ∧
        Anchored (buildResultFromReceipt toUpperCase (extractReceiptPayload body) body txId) := by
  unfold parseReceiptLookupResponse HasReceipt
  split
  next empty => exact iff_of_false (not_anchored_pending _ _) fun both => by simp_all
  next =>
    split
    next =>
      refine iff_of_false ?_ fun both => by simp_all
      split
      · exact not_anchored_pending _ _
      · exact not_anchored_error _
    next =>
      split
      next extracted => exact iff_of_false (not_anchored_pending _ _) fun both => by simp_all
      next receipt extracted =>
        rw [extracted]
        refine (anchored_bind_iff fun _ => not_anchored_pending _ _).trans ?_
        simp_all

/-! ## Receipts that say it in one way only -/

def Succeeds (toUpperCase : Str → Str) (receipt : Option Value) : Prop :=
  ∃ code, number (property receipt "validation_code") = .ok code ∧
    isValidationSuccess code (validationCodeName toUpperCase receipt) = true

/-- The code and its name cannot be taken for a success that they are not. -/
structure Unmistakable (toUpperCase : Str → Str) (receipt : Option Value) (asked : Option Str) :
    Prop where
  -- what is converted to zero is the number zero
  converted : toNumber (property receipt "validation_code") = .number Number.zero →
    property receipt "validation_code" = some (.number Number.zero)
  -- the name of success does not stand beside another code
  named : validationCodeName toUpperCase receipt = Str.of "VALID" →
    toNumber (property receipt "validation_code") ≠ .throws →
    toNumber (property receipt "validation_code") = .number Number.zero
  -- nor another name beside the code of success
  spelled : toNumber (property receipt "validation_code") = .number Number.zero →
    ∀ name, stringMember receipt "validation_code_name" = some name → name = Str.of "VALID"
  txId : Succeeds toUpperCase receipt →
    ∀ txId ∈ stringMember receipt "tx_id", ∀ askedId ∈ asked, txId = askedId

theorem succeeds_of_zero (zero : toNumber (property receipt "validation_code") =
    .number Number.zero) : Succeeds toUpperCase receipt :=
  ⟨some Number.zero, number_eq_ok.mpr zero, by simp [isValidationSuccess]⟩

theorem succeeds_of_name (valid : validationCodeName toUpperCase receipt = Str.of "VALID")
    (converts : toNumber (property receipt "validation_code") ≠ .throws) :
    Succeeds toUpperCase receipt := by
  cases converted : toNumber (property receipt "validation_code") with
  | throws => exact absurd converted converts
  | nan => exact ⟨none, number_eq_ok.mpr converted, by simp [isValidationSuccess, valid]⟩
  | number n => exact ⟨some n, number_eq_ok.mpr converted, by simp [isValidationSuccess, valid]⟩

theorem zero_of_succeeds {asked : Option Str} (clear : Unmistakable toUpperCase receipt asked)
    (succeeds : Succeeds toUpperCase receipt) :
    toNumber (property receipt "validation_code") = .number Number.zero := by
  obtain ⟨code, converted, success⟩ := succeeds
  rw [number_eq_ok] at converted
  simp only [isValidationSuccess, Bool.or_eq_true, decide_eq_true_eq] at success
  rcases success with rfl | valid
  · exact converted
  · refine clear.named valid fun throws => ?_
    rw [converted] at throws
    cases code <;> cases throws

theorem committedAsValid {asked : Option Str} {txId : Str} (complete : Complete receipt txId)
    (clear : Unmistakable toUpperCase receipt asked) (succeeds : Succeeds toUpperCase receipt) :
    CommittedAsValid receipt asked := by
  have zero := zero_of_succeeds clear succeeds
  obtain ⟨blockNumber, converted, bundle⟩ := complete
  simp only [hasVerifiableBundle, hasPolicyInfo, Bool.and_eq_true] at bundle
  obtain ⟨⟨⟨⟨⟨-, commitmentHash⟩, blockProof⟩, receiptHash⟩, policyId, listed⟩, schemaVersion⟩ :=
    bundle
  exact
    { code := clear.converted zero
      name := clear.spelled zero
      txId := clear.txId succeeds
      commitmentHash
      blockProof := ⟨blockNumber, converted, blockProof⟩
      receiptHash
      policyId
      endorsements := by
        split at listed
        next endorsements found => exact ⟨endorsements, found⟩
        next => cases listed
      schemaVersion }

/-- Stated for a parser that anchors what has a receipt that is complete and succeeds. -/
theorem anchoredMeansCommitted_iff {result : Thrown AnchorTransferResult} {body : Option Value}
    {asked : Option Str}
    (anchored : Anchored result ↔ HasReceipt toUpperCase body ∧
      Anchored (buildResultFromReceipt toUpperCase (extractReceiptPayload body) body
        fallbackTxId)) :
    AnchoredMeansCommitted result body asked ↔
      (HasReceipt toUpperCase body →
        Complete (extractReceiptPayload body)
          (receiptTxId (extractReceiptPayload body) body fallbackTxId) →
        Unmistakable toUpperCase (extractReceiptPayload body) asked) := by
  constructor
  · rintro ⟨committed, -⟩ has complete
    have means (succeeds : Succeeds toUpperCase (extractReceiptPayload body)) :
        CommittedAsValid (extractReceiptPayload body) asked :=
      committed (anchored.mpr ⟨has, anchored_buildResult_iff.mpr ⟨complete, succeeds⟩⟩)
    exact
      { converted := fun zero => (means (succeeds_of_zero zero)).code
        named := fun valid converts => by
          rw [(means (succeeds_of_name valid converts)).code]
          rfl
        spelled := fun zero => (means (succeeds_of_zero zero)).name
        txId := fun succeeds => (means succeeds).txId }
  · intro clear
    have committed : Anchored result → CommittedAsValid (extractReceiptPayload body) asked := by
      intro status
      obtain ⟨has, built⟩ := anchored.mp status
      obtain ⟨complete, succeeds⟩ := anchored_buildResult_iff.mp built
      exact committedAsValid complete (clear has complete) succeeds
    refine ⟨committed, fun n code nonzero status => nonzero ?_⟩
    have zero := (committed status).code
    rw [code] at zero
    exact Value.number.inj (Option.some.inj zero)

end

/-- Both parsers call committed transactions anchored exactly where the receipt cannot be
mistaken. -/
theorem anchored_means_committed_iff (body : Option Value) (txId : Str) :
    (AnchoredMeansCommitted (parseAnchorTransferResponse toUpperCase body) body (askedTxId body) ↔
      (HasReceipt toUpperCase body →
        Complete (extractReceiptPayload body)
          (receiptTxId (extractReceiptPayload body) body
            (namedTxId body (extractReceiptPayload body))) →
        Unmistakable toUpperCase (extractReceiptPayload body) (askedTxId body))) ∧
    (AnchoredMeansCommitted (parseReceiptLookupResponse toUpperCase body txId) body (some txId) ↔
      (HasReceipt toUpperCase body →
        Complete (extractReceiptPayload body) (receiptTxId (extractReceiptPayload body) body txId) →
        Unmistakable toUpperCase (extractReceiptPayload body) (some txId))) :=
  ⟨anchoredMeansCommitted_iff anchored_parseAnchor_iff,
    anchoredMeansCommitted_iff anchored_parseLookup_iff⟩

/-! ## A receipt without a code -/

-- Upper case as far as ASCII goes.
def asciiUpperCase (text : Str) : Str :=
  text.map fun u => if 97 ≤ u.toNat ∧ u.toNat ≤ 122 then UInt16.ofNat (u.toNat - 32) else u

def text (value : String) : Value := .string (Str.of value)

/-- A receipt whose validation code is `null`. -/
def uncodedReceipt : Value :=
  .object
    [(Str.of "tx_id", text "t1"), (Str.of "validation_code", .null),
      (Str.of "commitment_hash", text "c0"), (Str.of "block_hash", text "b7"),
      (Str.of "receipt_hash", text "r0"), (Str.of "policy_id", text "inter_bank_standard"),
      (Str.of "endorsements", .array []), (Str.of "schema_version", text "v1")]

theorem uncoded_receipt_anchored :
    ¬ ∀ (body : Option Value) (txId : Str),
      AnchoredMeansCommitted (parseAnchorTransferResponse asciiUpperCase body) body
          (askedTxId body) ∧
        AnchoredMeansCommitted (parseReceiptLookupResponse asciiUpperCase body txId) body
          (some txId) := by
  intro claimed
  have committed := (claimed (some uncodedReceipt) (Str.of "t1")).2.1
  have anchored : Anchored (parseReceiptLookupResponse asciiUpperCase (some uncodedReceipt)
      (Str.of "t1")) := by
    rw [anchored_parseLookup_iff, anchored_buildResult_iff]
    refine ⟨⟨rfl, by decide, by decide⟩, ⟨some Number.zero, rfl, by decide⟩, ?_⟩
    exact ⟨some Number.zero, rfl, by decide⟩
  have code := (committed anchored).code
  cases code

end Kufi.ChainService.Response

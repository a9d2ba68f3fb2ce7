import Kufi.Gateway.HandlerSteps
import Kufi.Gateway.ReceiptConsistency
import Kufi.Gateway.Conversions
import Mathlib.Data.Finset.Card

set_option autoImplicit false

/-!
# The policy flag of stored receipts

The flag is computed of the endorsements that the submission returns. The
receipt lists those of the committed transaction where the ledger shows them,
at once or when it is rebuilt.
-/

namespace Kufi.Gateway

open Shared

/-- Two organisations have endorsed, one of them not the origin. -/
def PolicyMet (origin : String) (mspIDs : List String) : Prop :=
  ∃ first ∈ mspIDs, ∃ second ∈ mspIDs,
    first ≠ "" ∧ second ≠ "" ∧ first ≠ second ∧ first ≠ origin

instance (origin : String) (mspIDs : List String) : Decidable (PolicyMet origin mspIDs) :=
  inferInstanceAs (Decidable (∃ _ ∈ mspIDs, ∃ _ ∈ mspIDs, _))

theorem isTransparencyPolicyMet_iff (config : Config) (mspIDs : List String) :
    isTransparencyPolicyMet config mspIDs = true ↔ PolicyMet config.mspID mspIDs := by
  unfold isTransparencyPolicyMet PolicyMet
  simp only [Bool.and_eq_true, decide_eq_true_eq, List.any_eq_true]
  rw [← List.card_toFinset]
  constructor
  · rintro ⟨two, independent, member, different⟩
    obtain ⟨other, among, apart⟩ := Finset.exists_mem_ne two independent
    rw [List.mem_toFinset, List.mem_filter, decide_eq_true_eq] at among
    rw [List.mem_filter, decide_eq_true_eq] at member
    exact ⟨independent, member.1, other, among.1, member.2, among.2, apart.symm, different⟩
  · rintro ⟨first, member, second, among, named, named', apart, different⟩
    have inside {mspID : String} (member : mspID ∈ mspIDs) (named : mspID ≠ "") :
        mspID ∈ mspIDs.filter fun mspID => decide (mspID ≠ "") :=
      List.mem_filter.mpr ⟨member, decide_eq_true named⟩
    refine ⟨Finset.one_lt_card.mpr ⟨first, ?_, second, ?_, apart⟩, first, inside member named, ?_⟩
    · exact List.mem_toFinset.mpr (inside member named)
    · exact List.mem_toFinset.mpr (inside among named')
    · exact different

def Receipt.Flagged (receipt : Receipt) : Prop :=
  receipt.policyMet = true ↔
    PolicyMet receipt.originMSPID (receipt.endorsements.items.map EndorsementRecord.mspID)

def BuildInput.Flagged (input : BuildInput) : Prop :=
  input.policyMet = true ↔
    PolicyMet input.originMSPID (input.endorsements.map EndorsementInput.mspID)

def TransactionInfo.mspIDs (txInfo : TransactionInfo) : List String :=
  txInfo.endorsements.map EndorsementInfo.mspID

def SubmitResult.mspIDs (result : SubmitResult) : List String :=
  result.endorsements.map Endorsement.mspID

section

variable {I : Type} (config : Config)

/-- What the ledger shows of a transaction is worth what the submission has returned, and less
than the policy where a receipt is rebuilt. -/
def LedgerAgrees (world : GatewayWorld I) (i : I) (action : Answer ⊕ Event) : Prop :=
  match action, world.stage? i with
  | .inl (.transaction (.ok txInfo)), some (.queryTransaction _ _ result _) =>
    txInfo.endorsements = [] ∨
      (PolicyMet config.mspID result.mspIDs ↔ PolicyMet config.mspID txInfo.mspIDs)
  | .inl (.transaction (.ok txInfo)), some (.queryLedger _ receipt) =>
    ¬PolicyMet receipt.originMSPID txInfo.mspIDs
  | _, _ => True

instance (world : GatewayWorld I) (i : I) (action : Answer ⊕ Event) :
    Decidable (LedgerAgrees config world i action) := by
  unfold LedgerAgrees
  split <;> infer_instance

end

/-! ## Flags of what is built -/

section

variable {config : Config} {crypto : Crypto}

theorem build_flagged {now : Time} {input : BuildInput} (flagged : input.Flagged) :
    (build crypto config.receiptBuilder now input).Flagged := by
  unfold Receipt.Flagged
  have items : (build crypto config.receiptBuilder now input).endorsements.items =
      input.endorsements.map (endorsementRecord crypto config.receiptBuilder) :=
    Slice.items_foldl_append_none _
  rw [items, List.map_map]
  exact flagged

theorem mspIDs_committed (endorsements : List EndorsementInfo) :
    (committedEndorsements endorsements).map EndorsementInput.mspID =
      endorsements.map EndorsementInfo.mspID := by
  simp [committedEndorsements]

theorem mspIDs_submitted (endorsements : List Endorsement) :
    (submittedEndorsements endorsements).map EndorsementInput.mspID =
      endorsements.map Endorsement.mspID := by
  simp [submittedEndorsements]

theorem submitInput_flagged {req : TransferRequest} {clientSubmitTime : Time} {result : SubmitResult}
    {blockHash : String} {txInfo : Option TransactionInfo}
    (agrees : ∀ info ∈ txInfo, info.endorsements = [] ∨
      (PolicyMet config.mspID result.mspIDs ↔ PolicyMet config.mspID info.mspIDs)) :
    (submitInput config crypto req clientSubmitTime result blockHash txInfo).Flagged := by
  unfold BuildInput.Flagged
  have flag : (submitInput config crypto req clientSubmitTime result blockHash txInfo).policyMet =
      true ↔ PolicyMet config.mspID result.mspIDs := isTransparencyPolicyMet_iff config _
  rw [flag]
  unfold submitInput
  dsimp only
  cases txInfo with
  | none => rw [if_pos rfl, mspIDs_submitted, SubmitResult.mspIDs]
  | some info =>
    dsimp only
    split
    next => rw [mspIDs_submitted, SubmitResult.mspIDs]
    next listed =>
      rw [mspIDs_committed]
      refine (agrees info rfl).resolve_left fun missing => listed ?_
      rw [missing]
      rfl

/-- A receipt without endorsements is rebuilt with its flag. -/
theorem rebuildReceipt_flagged {now : Time} {receipt : Receipt} {txInfo : TransactionInfo}
    (unmet : receipt.policyMet = false) (short : ¬PolicyMet receipt.originMSPID txInfo.mspIDs) :
    (rebuildReceipt config crypto now receipt txInfo).Flagged := by
  have input : (rebuildInput receipt txInfo).Flagged := by
    unfold BuildInput.Flagged rebuildInput
    dsimp only
    rw [mspIDs_committed, unmet]
    exact iff_of_false (by decide) short
  have built := @build_flagged config crypto now _ input
  exact built

theorem Receipt.Flagged.unmet {receipt : Receipt} (flagged : receipt.Flagged)
    (unendorsed : receipt.endorsements.items = []) : receipt.policyMet = false := by
  rw [Receipt.Flagged, unendorsed] at flagged
  rw [← Bool.not_eq_true, flagged]
  rintro ⟨_, member, _⟩
  cases member

theorem asReceipt_flagged {content : FileContent} {receipt : Receipt}
    (read : content.asReceipt = some receipt)
    (stored : ∀ kept, content = .receipt kept → kept.Flagged) : receipt.Flagged := by
  have zero : FileContent.zeroReceipt.Flagged := by
    unfold Receipt.Flagged
    decide
  cases content with
  | receipt kept =>
    obtain rfl := Option.some.inj read
    exact stored kept rfl
  | torn => cases read
  | entry _ | nonces _ =>
    obtain rfl := Option.some.inj read
    exact zero

end

/-! ## Runs -/

/-- What a handler holds on its way to the store. -/
def Stage.Flagged : Stage → Prop
  | .build _ input => input.Flagged
  | .storeReceipt _ receipt | .storeRebuilt _ receipt => receipt.Flagged
  | .queryLedger _ receipt => receipt.policyMet = false
  | .rebuild _ receipt txInfo =>
    receipt.policyMet = false ∧ ¬PolicyMet receipt.originMSPID txInfo.mspIDs
  | _ => True

section

variable {I : Type} {config : Config} {crypto : Crypto} {world : GatewayWorld I} {i : I}

theorem Stage.Moves.flagged {s after : Node} {stage next : Stage} {answer : Answer}
    (moves : Stage.Moves config crypto s answer stage after next)
    (every : s.stores.Every Receipt.Flagged) (flagged : stage.Flagged)
    (shown : ∀ req clientSubmitTime result blockHash txInfo,
      stage = .queryTransaction req clientSubmitTime result blockHash →
      answer = .transaction (.ok txInfo) → txInfo.endorsements = [] ∨
        (PolicyMet config.mspID result.mspIDs ↔ PolicyMet config.mspID txInfo.mspIDs))
    (short : ∀ txID receipt txInfo, stage = .queryLedger txID receipt →
      answer = .transaction (.ok txInfo) → ¬PolicyMet receipt.originMSPID txInfo.mspIDs) :
    after.stores.Every Receipt.Flagged ∧ next.Flagged := by
  cases moves with
  | @begin call =>
    refine ⟨every, ?_⟩
    cases call <;> simp only [Call.begin] <;> split <;> try split
    all_goals trivial
  | addNonce => exact ⟨every.addNonce, trivial⟩
  | queryTransaction given =>
    refine ⟨every, submitInput_flagged fun info known => ?_⟩
    rename_i queried
    cases queried with
    | error _ => cases known
    | ok txInfo =>
      obtain rfl := Option.some.inj known
      exact shown _ _ _ _ _ rfl given
  | build => exact ⟨every, build_flagged flagged⟩
  | storeReceipt => exact ⟨every.storeReceipt flagged, trivial⟩
  | storeKey => exact ⟨every.storeKey, trivial⟩
  | unendorsed found unendorsed =>
    exact ⟨every, (every.memory _ _ found).unmet unendorsed⟩
  | queryLedger given => exact ⟨every, flagged, short _ _ _ rfl given⟩
  | rebuild => exact ⟨every, rebuildReceipt_flagged flagged.1 flagged.2⟩
  | storeRebuilt => exact ⟨every.storeReceipt flagged, trivial⟩
  | _ => exact ⟨every, trivial⟩

structure FlagsKept (world : GatewayWorld I) : Prop where
  begun : world.Begun
  stores : world.shared.state.stores.Every Receipt.Flagged
  stages : ∀ j stage, world.Live j stage → stage.Flagged

theorem GatewayWorld.Installed.flagsKept (installed : world.Installed) : FlagsKept world := by
  refine ⟨installed.begun, ?_, fun j stage live => ?_⟩
  · rw [installed.stores]
    exact .empty
  · obtain ⟨call, rfl⟩ := installed.arriving j _ live
    trivial

theorem FlagsKept.happened {event : Event} {state : Node} (kept : FlagsKept world)
    (applied : event.apply config world.shared.state = some state) :
    FlagsKept (world.happened state) := by
  refine ⟨kept.begun.happened applied, Event.every kept.stores ?_ applied, ?_⟩
  · intro _ file member receipt read
    refine asReceipt_flagged read fun stored same => ?_
    exact kept.stores.disk _ stored (same ▸ mem_jsonFiles member)
  · intro j stage alive
    rcases kept.begun.live_happened applied alive with ⟨call, rfl⟩ | ⟨_, before⟩
    · trivial
    · exact kept.stages j stage before

variable [DecidableEq I]

theorem FlagsKept.handler {handler : Handler} {next : Stage} {answer : Answer} {state : Node}
    {shown : List Observation} (kept : FlagsKept world)
    (live : world.Live i handler.stage ∨ ∃ call, handler.stage = .arriving call)
    (agrees : LedgerAgrees config world i (.inl answer))
    (moves : Stage.Moves config crypto world.shared.state answer handler.stage state next) :
    FlagsKept (world.moved i state shown next) := by
  have boot := moves.boot
  generalize handler.stage = stage at *
  have flagged : stage.Flagged := by
    rcases live with live | ⟨call, rfl⟩
    · exact kept.stages i stage live
    · trivial
  have own (known : ∀ call, stage ≠ .arriving call) : world.stage? i = some stage :=
    GatewayWorld.stage?_eq_some.mpr (live.resolve_right fun ⟨call, same⟩ => known call same)
  obtain ⟨stores, arrives⟩ := moves.flagged kept.stores flagged
    (fun req clientSubmitTime result blockHash txInfo same given => by
      subst same given
      unfold LedgerAgrees at agrees
      rw [own nofun] at agrees
      exact agrees)
    (fun txID receipt txInfo same given => by
      subst same given
      unfold LedgerAgrees at agrees
      rw [own nofun] at agrees
      exact agrees)
  refine ⟨kept.begun.moved boot, stores, fun j stage' alive => ?_⟩
  rcases GatewayWorld.live_moved boot alive with ⟨_, rfl⟩ | ⟨_, before⟩
  · exact arrives
  · exact kept.stages j stage' before

theorem policy_flags_match {start : GatewayWorld I} (installed : start.Installed)
    (reached : (observedGateway config crypto).Reaches (LedgerAgrees config) start world) :
    ∀ txID receipt, world.shared.state.stores.receipts.get txID = some receipt →
      receipt.Flagged := by
  have kept : FlagsKept world := by
    refine reached.invariant FlagsKept installed.flagsKept ?_
    intro world i action after kept agrees fired
    cases GatewayWorld.fire_moves fired with
    | handler own moves live => exact kept.handler live agrees moves
    | event applied => exact kept.happened applied
  exact kept.stores.memory

end

/-! ## Endorsements that the submission did not return -/

def endorsed (mspID : String) : Endorsement where
  mspID := mspID
  signature := [1]
  certificate := []
  timestamp := bankNode.now
  signatureValid := true
  certChainValid := true

def twoOrganisations : TransactionInfo where
  txIndex := 0
  endorsements := ["BankMSP", "TechcombankMSP"].map fun mspID =>
    { mspID, certificate := [], signature := [1] }

-- A submission that returns `endorsements`, and what the ledger answers afterwards.
def submitsWith {I : Type} (i environment : I) (endorsements : List Endorsement)
    (queried : Except String TransactionInfo) : List (I × (Answer ⊕ Event)) :=
  proceeds i 7 ++
    [(i, .inl (.fabric (.acquired true))),
      (i, .inl (.fabric (.proposal (.ok "transaction-1")))),
      (i, .inl (.fabric (.endorsement (.ok endorsements) 1700000000 0))),
      (i, .inl (.fabric (.submission none true))),
      (environment, .inr (.commit 0)),
      (i, .inl (.fabric (.status (.ok 7)))),
      (i, .inl .proceed),
      (i, .inl (.block (.ok "block-hash"))),
      (i, .inl (.transaction queried))] ++
    proceeds i 4

def unflaggedRun (labels : List (Fin 3 × (Answer ⊕ Event))) : Bool :=
  (((observedGateway bankConfig sampleCrypto).run submitThenGet labels).bind fun world =>
    world.shared.state.stores.receipts.get "transaction-1").any fun receipt =>
      decide (receipt.policyMet = false ∧
        PolicyMet receipt.originMSPID (receipt.endorsements.items.map EndorsementRecord.mspID))

-- Both at submission and after a rebuild.
theorem policy_flags_differ :
    (¬ ∀ (endorsements : List Endorsement) (queried : Except String TransactionInfo)
        (world : GatewayWorld (Fin 3)),
      (observedGateway bankConfig sampleCrypto).run submitThenGet
          (submitsWith 0 2 endorsements queried) = some world →
        ∀ txID receipt, world.shared.state.stores.receipts.get txID = some receipt →
          receipt.Flagged) ∧
    ¬ ∀ (txInfo : TransactionInfo) (world : GatewayWorld (Fin 3)),
      (observedGateway bankConfig sampleCrypto).run submitThenGet
          (carriedOut 0 2 ++ proceeds 1 2 ++ [(1, .inl (.transaction (.ok txInfo)))] ++
            proceeds 1 2) = some world →
        ∀ txID receipt, world.shared.state.stores.receipts.get txID = some receipt →
          receipt.Flagged := by
  have differs (labels : List (Fin 3 × (Answer ⊕ Event))) (found : unflaggedRun labels = true) :
      ∃ world, (observedGateway bankConfig sampleCrypto).run submitThenGet labels = some world ∧
        ∃ receipt, world.shared.state.stores.receipts.get "transaction-1" = some receipt ∧
          ¬receipt.Flagged := by
    obtain ⟨receipt, loaded, unflagged⟩ := Option.any_eq_true _ _ |>.mp found
    obtain ⟨world, ran, stored⟩ := Option.bind_eq_some_iff.mp loaded
    obtain ⟨flag, met⟩ := of_decide_eq_true unflagged
    refine ⟨world, ran, receipt, stored, fun flagged => ?_⟩
    rw [flagged.mpr met] at flag
    cases flag
  constructor
  · intro always
    obtain ⟨world, ran, receipt, stored, unflagged⟩ :=
      differs (submitsWith 0 2 [] (.ok twoOrganisations)) (by decide +kernel)
    exact unflagged (always _ _ world ran _ receipt stored)
  · intro always
    obtain ⟨world, ran, receipt, stored, unflagged⟩ :=
      differs (carriedOut 0 2 ++ proceeds 1 2 ++
        [(1, .inl (.transaction (.ok twoOrganisations)))] ++ proceeds 1 2) (by decide +kernel)
    exact unflagged (always _ world ran _ receipt stored)

theorem policy_flags_match_committed :
    ∃ world, (observedGateway bankConfig sampleCrypto).run submitThenGet
        (submitsWith 0 2 (["BankMSP", "TechcombankMSP"].map endorsed) (.ok twoOrganisations)) =
          some world ∧
      ∀ txID receipt, world.shared.state.stores.receipts.get txID = some receipt →
        receipt.Flagged := by
  have reached : ((observedGateway bankConfig sampleCrypto).checkedRun (LedgerAgrees bankConfig)
      submitThenGet (submitsWith 0 2 (["BankMSP", "TechcombankMSP"].map endorsed)
        (.ok twoOrganisations))).isSome := by
    decide +kernel
  obtain ⟨world, ran⟩ := Option.isSome_iff_exists.mp reached
  have runs := Machine.Runs.checked .nil ran
  exact ⟨world, runs.run, policy_flags_match (twoCalls_installed _ _) runs.reaches⟩

end Kufi.Gateway

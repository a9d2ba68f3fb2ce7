import Kufi.ChainService.Exchange
import Kufi.Gateway.OneIntent

set_option autoImplicit false

/-!
# What a sound call leaves behind

A call that commits its transfer stores a receipt that the adapter can read. Its
nonce is in the gateway's store from the moment the call records it.
-/

namespace Kufi.ChainService

open Shared Text Gateway

/-! ## Receipts that anchor -/

/-- The adapter returns the receipt of the transfer, or that it is pending. -/
def Anchors (payload : TransferRequest) (result : Except GrpcStatus AnchorTransferResult) : Prop :=
  ∃ anchored, result = .ok anchored ∧ (anchored.chainStatus = .pending ∨
    anchored.chainStatus = .anchored ∧
      ∃ receipt, anchored.receipt = some receipt ∧ receipt.Describes payload)

-- What a receipt of a committed transfer needs so that the adapter does not fail on it.
structure Anchorable (config : Config) (req : TransferRequest) (receipt : Receipt) : Prop where
  opens : OpensFor config req receipt
  valid : receipt.validationCode = 0
  validName : receipt.validationCodeName = "VALID"
  named : (asString receipt.txID).isSome

section

variable {config : Config} {adapterConfig : AdapterConfig} {crypto : Crypto}

theorem asString_isSome {value : String} (named : (asString value).isSome) :
    asString value = some value ∧ value ≠ "" := by
  unfold asString at named ⊢
  split at named
  next => cases named
  next nonBlank =>
    refine ⟨if_neg nonBlank, ?_⟩
    rintro rfl
    exact nonBlank (by decide)

theorem Anchors.enriched {req : TransferRequest} {result : AnchorTransferResult} {confirmed : Nat}
    (anchors : Anchors req (.ok result)) :
    Anchors req (.ok (enrichWithObserverConfirmations adapterConfig confirmed result)) := by
  unfold enrichWithObserverConfirmations
  dsimp only
  split
  next => exact anchors
  next =>
    split
    next => exact ⟨_, rfl, .inl rfl⟩
    next => exact anchors

theorem parse_anchors {req : TransferRequest} {receipt : Receipt} {confirmed : Nat}
    (anchorable : Anchorable config req receipt) :
    ∃ parsed, parseAnchorTransferResponse receipt.txID (receiptToDTO receipt) = .ok parsed ∧
      Anchors req (.ok (enrichWithObserverConfirmations adapterConfig confirmed parsed)) := by
  obtain ⟨named, nonEmpty⟩ := asString_isSome anchorable.named
  have describes : (receiptToDTO receipt).Describes req :=
    describes_of_sameTransfer anchorable.opens ⟨rfl, rfl, rfl, rfl⟩
  have txID : (receiptToDTO receipt).txID = receipt.txID := rfl
  have success : isValidationSuccess (receiptToDTO receipt) = true := by
    have code : (receiptToDTO receipt).validationCode = 0 := anchorable.valid
    simp [isValidationSuccess, code]
  have noFailure : isValidationFailure (receiptToDTO receipt) = false := by
    have code : (receiptToDTO receipt).validationCode = 0 := anchorable.valid
    have name : (receiptToDTO receipt).validationCodeName = "VALID" := anchorable.validName
    unfold isValidationFailure
    rw [code, name]
    decide
  unfold parseAnchorTransferResponse buildResultFromReceipt
  simp only [txID, named, success, noFailure, Bool.true_and, Option.or_some, Option.getD_some]
  cases complete : hasVerifiableBundle receipt.txID (receiptToDTO receipt) with
  | true => exact ⟨_, rfl, Anchors.enriched ⟨_, rfl, .inr ⟨rfl, _, rfl, describes⟩⟩⟩
  | false =>
    refine ⟨buildPendingResult receipt.txID none, ?_, Anchors.enriched ⟨_, rfl, .inl rfl⟩⟩
    simp [buildPendingResult, nonEmpty]

/-! ## Stages of a sound call -/

def SoundCall : Submission → Prop
  | .endorsing _ txID => (asString txID).isSome
  | .submitting _ intent _ | .awaiting _ intent _ => (asString intent.txID).isSome
  | .returned (.ok result) => result.validationCode = 0 ∧ (asString result.txID).isSome
  | _ => True

-- Whatever the clock says, the receipt built of the input anchors the transfer.
def SoundStage (config : Config) : Stage → Prop
  | .calling _ _ _ call => SoundCall call
  | .queryBlock _ _ result | .queryTransaction _ _ result _ =>
    result.validationCode = 0 ∧ (asString result.txID).isSome
  | .build req input =>
    input.validationCode = 0 ∧ (asString input.txID).isSome ∧
      input.commitmentOpening = some (commitmentOf config req)
  | .storeReceipt req receipt | .storeKey req receipt | .answer req receipt =>
    Anchorable config req receipt
  | _ => True

-- Fabric's transaction ids are not blank.
def Named : Answer → Prop
  | .fabric (.proposal (.ok txID)) => (asString txID).isSome
  | _ => True

theorem soundCall_iff {call : Submission} (unsubmitted : call.Unsubmitted) :
    SoundCall call ↔ ∀ txID, call.transaction? = some txID → (asString txID).isSome := by
  cases call with
  | endorsing attempt txID => simp [SoundCall, Submission.transaction?]
  | submitting attempt intent endorsements => simp [SoundCall, Submission.transaction?]
  | awaiting attempt intent endorsements => cases unsubmitted
  | returned result =>
    cases result with
    | ok result => cases unsubmitted
    | error err => simp [SoundCall, Submission.transaction?]
  | _ => simp [SoundCall, Submission.transaction?]

theorem SoundCall.step {invocation : Invocation} {fabric after : Fabric} {outcome : FabricAnswer}
    {call next : Submission} (sound : SoundCall call) (named : Named (.fabric outcome))
    (moves : SubmissionMoves invocation fabric outcome call after next) : SoundCall next := by
  cases moves with
  | quiet before after same =>
    rw [soundCall_iff after]
    exact fun txID pending => (soundCall_iff before).mp sound txID (same txID pending)
  | propose given new =>
    subst given
    exact named
  | submit => exact sound
  | committed valid own =>
    refine ⟨valid, ?_⟩
    rw [own]
    exact sound
  | lost given after idle =>
    rw [soundCall_iff after]
    intro txID pending
    rw [idle] at pending
    cases pending
  | failed given after idle =>
    rw [soundCall_iff after]
    intro txID pending
    rw [idle] at pending
    cases pending

theorem SoundStage.step {s after : Node} {answer : Answer} {stage next : Stage}
    (sound : SoundStage config stage) (named : Named answer)
    (moves : Stage.Moves config crypto s answer stage after next) : SoundStage config next := by
  cases moves with
  | @begin call =>
    cases call <;> simp only [Call.begin] <;> split <;> try split
    all_goals trivial
  | call given stepped =>
    subst given
    exact SoundCall.step sound named (Submission.step_moves stepped)
  | committed => exact sound
  | queryBlock => exact sound
  | queryTransaction => exact ⟨sound.1, sound.2, rfl⟩
  | build =>
    obtain ⟨code, named, opens⟩ := sound
    refine ⟨opens, code, ?_, named⟩
    change validationCodeToName _ = "VALID"
    rw [code]
    decide
  | storeReceipt => exact sound
  | storeKey => exact sound
  | _ => trivial

end

/-! ## A nonce that nobody has recorded -/

structure Unrecorded (nonce : String) (stores : Stores) : Prop where
  memory : stores.nonces.get nonce = none
  disk : ∀ path nonces, stores.disk.get path = some (.nonces nonces) → nonces.get nonce = none
  writes : ∀ path nonces, .file path (.nonces nonces) ∈ stores.writes → nonces.get nonce = none

section

variable {config : Config} {crypto : Crypto} {nonce : String} {s after : Node}

theorem get_keep_none {nonces : Dict String Time} {wanted : String → Time → Bool}
    (missing : nonces.get nonce = none) : (nonces.keep wanted).get nonce = none := by
  cases found : (nonces.keep wanted).get nonce with
  | none => rfl
  | some time =>
    rw [(Dict.get_keep.mp found).1] at missing
    cases missing

theorem Unrecorded.moves {answer : Answer} {stage next : Stage}
    (unrecorded : Unrecorded nonce s.stores)
    (other : ∀ req time, stage = .addNonce req time → req.nonce ≠ nonce)
    (moves : Stage.Moves config crypto s answer stage after next) :
    Unrecorded nonce after.stores := by
  cases moves with
  | @addNonce req time =>
    have different := other req time rfl
    refine ⟨?_, unrecorded.disk, fun path nonces member => unrecorded.writes path nonces ?_⟩
    · change (Dict.set _ _ _).get nonce = none
      rw [Dict.get_set, if_neg (Ne.symm different)]
      exact unrecorded.memory
    · unfold Stores.addNonce at member
      dsimp only at member
      split at member
      · simpa using member
      · exact member
  | storeReceipt =>
    refine ⟨unrecorded.memory, unrecorded.disk, fun path nonces member => ?_⟩
    exact unrecorded.writes path nonces (by simpa [Stores.storeReceipt] using member)
  | storeKey =>
    refine ⟨unrecorded.memory, unrecorded.disk, fun path nonces member => ?_⟩
    exact unrecorded.writes path nonces (by simpa [Stores.storeKey] using member)
  | storeRebuilt =>
    refine ⟨unrecorded.memory, unrecorded.disk, fun path nonces member => ?_⟩
    exact unrecorded.writes path nonces (by simpa [Stores.storeReceipt] using member)
  | _ => exact unrecorded

theorem Unrecorded.event {event : Event} (unrecorded : Unrecorded nonce s.stores)
    (applied : event.apply config s = some after) : Unrecorded nonce after.stores := by
  cases event with
  | tick elapsed =>
    obtain rfl := Option.some.inj applied
    exact unrecorded
  | commit i =>
    obtain ⟨_, _, rfl⟩ := Option.map_eq_some_iff.mp applied
    exact unrecorded
  | invalidate i code =>
    obtain ⟨_, _, rfl⟩ := Option.map_eq_some_iff.mp applied
    exact unrecorded
  | finishWrite i outcome =>
    obtain ⟨stores, finished, rfl⟩ := Option.map_eq_some_iff.mp applied
    obtain ⟨write, pending, rfl⟩ := Option.map_eq_some_iff.mp finished
    have rest (path : Path) (nonces : Dict String Time)
        (member : FileWrite.file path (.nonces nonces) ∈ s.stores.writes.eraseIdx i) :
        nonces.get nonce = none :=
      unrecorded.writes path nonces (List.mem_of_mem_eraseIdx member)
    cases write with
    | file target content =>
      refine ⟨unrecorded.memory, fun path nonces found => ?_, rest⟩
      rcases Stores.get_writeFile found with old | ⟨rfl, same | torn⟩
      · exact unrecorded.disk path nonces old
      · exact unrecorded.writes path nonces (same ▸ List.mem_of_getElem? pending)
      · cases torn
    | nonces =>
      refine ⟨unrecorded.memory, fun path nonces found => ?_, rest⟩
      rcases Stores.get_writeFile found with old | ⟨_, same | torn⟩
      · exact unrecorded.disk path nonces old
      · obtain rfl := FileContent.nonces.inj same
        exact unrecorded.memory
      · cases torn
  | cleanupKeys =>
    obtain rfl := Option.some.inj applied
    exact ⟨unrecorded.memory,
      fun path nonces found => unrecorded.disk path nonces (Stores.get_cleanupKeys_disk found),
      unrecorded.writes⟩
  | cleanupNonces outcome =>
    obtain rfl := Option.some.inj applied
    refine ⟨get_keep_none unrecorded.memory, fun path nonces found => ?_, unrecorded.writes⟩
    rcases Stores.get_writeFile found with old | ⟨_, same | torn⟩
    · exact unrecorded.disk path nonces old
    · obtain rfl := FileContent.nonces.inj same
      exact get_keep_none unrecorded.memory
    · cases torn
  | restart =>
    obtain rfl := Option.some.inj applied
    refine ⟨?_, fun path nonces found => ?_, fun _ _ member => nomatch member⟩
    · change (Stores.loadNonces _ _ _).get nonce = none
      unfold Stores.loadNonces
      split
      next nonces read =>
        apply get_keep_none
        obtain ⟨content, found, stored⟩ := Option.bind_eq_some_iff.mp read
        cases content with
        | nonces stored' =>
          obtain rfl := Option.some.inj stored
          exact unrecorded.disk _ _ found
        | torn => cases stored
        | _ =>
          obtain rfl := Option.some.inj stored
          rfl
      next => rfl
    · exact unrecorded.disk path nonces (Dict.get_keep.mp found).1

end

end Kufi.ChainService

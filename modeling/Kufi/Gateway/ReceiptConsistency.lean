import Kufi.Gateway.HandlerSteps
import Kufi.Gateway.StoredReceipts
import Kufi.Gateway.TamperEvidence
import Mathlib.Data.Fintype.Basic

set_option autoImplicit false

/-!
# Consistency of stored receipts

`Build` sets the hash last. A rebuild from the ledger builds again and assigns
some fields afterwards, so its hash covers values that it does not keep.
-/

namespace Kufi.Gateway

open Shared

namespace Receipt

def SelfConsistent (crypto : Crypto) (receipt : Receipt) : Prop :=
  receipt.receiptHash = receipt.computeReceiptHash crypto.sha256

/-- The receipts differ in their endorsements and hashes at most. -/
def SameBut (existing rebuilt : Receipt) : Prop :=
  { rebuilt with endorsements := existing.endorsements, receiptHash := existing.receiptHash } =
    existing

-- The receipts that `Build` returns.
def Built (config : Config) (crypto : Crypto) (receipt : Receipt) : Prop :=
  ∃ now input, receipt = build crypto config.receiptBuilder now input

end Receipt

/-- What a rebuild needs to keep the other fields. -/
def Rebuildable (now : Time) (existing : Receipt) (txInfo : TransactionInfo) : Prop :=
  Time.unixMilli now = existing.timestamps.receiptCreated ∧
    (txInfo.txIndex ≤ 0 ∨ txInfo.txIndex = existing.txIndex) ∧
    existing.timestamps.clientSubmit ≠ 0 ∧ existing.timestamps.endorsementTime ≠ 0 ∧
    existing.timestamps.blockCommit ≠ 0

instance (now : Time) (existing : Receipt) (txInfo : TransactionInfo) :
    Decidable (Rebuildable now existing txInfo) :=
  inferInstanceAs (Decidable (_ ∧ _))

section

variable {config : Config} {crypto : Crypto} {receipt : Receipt}

theorem build_selfConsistent (builder : ReceiptBuilder) (now : Time) (input : BuildInput) :
    (build crypto builder now input).SelfConsistent crypto :=
  rfl

theorem Receipt.Built.selfConsistent (built : receipt.Built config crypto) :
    receipt.SelfConsistent crypto := by
  obtain ⟨now, input, rfl⟩ := built
  exact build_selfConsistent _ now input

theorem unixMilli_timeFromUnixMilli {milliseconds : Int} :
    Time.unixMilli (timeFromUnixMilli milliseconds) = milliseconds ↔ milliseconds ≠ 0 := by
  unfold timeFromUnixMilli
  split
  next zero =>
    subst zero
    decide
  next nonzero => simp [nonzero]

/-- A rebuild of a receipt of `Build` keeps the other fields in exactly this case. -/
theorem sameBut_iff_rebuildable {now : Time} {existing : Receipt} {txInfo : TransactionInfo}
    (built : existing.Built config crypto) :
    existing.SameBut (rebuildReceipt config crypto now existing txInfo) ↔
      Rebuildable now existing txInfo := by
  obtain ⟨created, input, rfl⟩ := built
  have index : (0 < txInfo.txIndex → txInfo.txIndex = input.txIndex) ↔
      (txInfo.txIndex ≤ 0 ∨ txInfo.txIndex = input.txIndex) := by omega
  simp only [Receipt.SameBut, rebuildReceipt, restoreFields, build, assemble, rebuildInput,
    Rebuildable, Receipt.mk.injEq, ReceiptTimestamps.mk.injEq, unixMilli_timeFromUnixMilli]
  simp [index]
  tauto

-- The fields assigned after `Build` are then those that it has set.
theorem rebuildReceipt_built {now : Time} {existing : Receipt} {txInfo : TransactionInfo}
    (built : existing.Built config crypto) (rebuildable : Rebuildable now existing txInfo) :
    (rebuildReceipt config crypto now existing txInfo).Built config crypto := by
  refine ⟨now, rebuildInput existing txInfo, ?_⟩
  obtain ⟨created, input, rfl⟩ := built
  have sameMoment : Time.unixMilli now = Time.unixMilli created := rebuildable.1
  simp [rebuildReceipt, restoreFields, build, assemble, rebuildInput, sameMoment]

theorem Receipt.observation_of_hashData {first second : Receipt}
    (hashed : first.hashData = second.hashData) : first.observation = second.observation := by
  have members := Json.struct_injective (by rfl) (by simp) hashed
  simp only [List.cons.injEq, Prod.mk.injEq, Marshal.always_inj, true_and, and_true] at members
  exact members.2.2.2.2.2.2.2.2.2.2.2.2.2.2

/-- A rebuild of a receipt of `Build` hashes to its own hash in exactly this case. -/
theorem rebuilt_selfConsistent_iff (injective : Function.Injective crypto.sha256) {now : Time}
    {existing : Receipt} {txInfo : TransactionInfo} (built : existing.Built config crypto) :
    (rebuildReceipt config crypto now existing txInfo).SelfConsistent crypto ↔
      Time.unixMilli now = existing.timestamps.receiptCreated := by
  have hashed : (rebuildReceipt config crypto now existing txInfo).SelfConsistent crypto ↔
      (assemble crypto config.receiptBuilder now (rebuildInput existing txInfo)).hashData =
        (rebuildReceipt config crypto now existing txInfo).hashData :=
    Receipt.computeReceiptHash_inj injective
  rw [hashed]
  obtain ⟨created, input, rfl⟩ := built
  constructor
  · intro same
    have observation := congrArg ObservationMeta.observedAt (Receipt.observation_of_hashData same)
    simpa [rebuildReceipt, restoreFields, build, assemble] using observation
  · intro (sameMoment : Time.unixMilli now = Time.unixMilli created)
    simp [rebuildReceipt, Receipt.hashData, restoreFields, build, assemble, rebuildInput, sameMoment]

end

/-! ## Stored receipts -/

/-- Every receipt in memory, in a file or in a pending write is one that `Build` returned. -/
abbrev Stores.Genuine (config : Config) (crypto : Crypto) (stores : Stores) : Prop :=
  stores.Every (Receipt.Built config crypto)

-- The receipts that a handler is about to show or to store.
def Stage.receipt? : Stage → Option Receipt
  | .storeReceipt _ receipt | .storeKey _ receipt | .answer _ receipt | .queryLedger _ receipt
  | .rebuild _ receipt _ | .storeRebuilt _ receipt => some receipt
  | _ => none

/-- The receipts that have been rebuilt, before and after. -/
def rebuilds (history : List Observation) : List (Receipt × Receipt) :=
  history.filterMap fun
    | .rebuilt existing rebuilt => some (existing, rebuilt)
    | _ => none

theorem rebuilds_append (first rest : List Observation) :
    rebuilds (first ++ rest) = rebuilds first ++ rebuilds rest :=
  List.filterMap_append

def Stage.rebuilding? : Stage → Option (Receipt × TransactionInfo)
  | .rebuild _ receipt txInfo => some (receipt, txInfo)
  | _ => none

def FileContent.isReceipt : FileContent → Bool
  | .receipt _ | .torn => true
  | .entry _ | .nonces _ => false

section

variable {I : Type} (config : Config)

/-- What every step of a run must meet for the stored receipts to stay as they were built. -/
def ReceiptsSafe (world : GatewayWorld I) (i : I) : Answer ⊕ Event → Prop
  | .inl _ =>
    ∀ work ∈ (world.stage? i).bind Stage.rebuilding?,
      Rebuildable world.shared.state.now work.1 work.2
  | .inr .restart =>
    -- no other store has written to the directory of the receipts
    ∀ file ∈ jsonFiles world.shared.state.stores.disk config.receiptDir, file.2.isReceipt = true
  | .inr _ => True

instance (world : GatewayWorld I) (i : I) (action : Answer ⊕ Event) :
    Decidable (ReceiptsSafe config world i action) :=
  match action with
  | .inl _ => inferInstanceAs (Decidable (∀ _ ∈ _, _))
  | .inr .restart => inferInstanceAs (Decidable (∀ _ ∈ _, _))
  | .inr (.tick _) | .inr (.commit _) | .inr (.invalidate _ _) | .inr (.finishWrite _ _)
  | .inr .cleanupKeys | .inr (.cleanupNonces _) => .isTrue trivial

end

/-! ## The receipts in a step -/

section

variable {config : Config} {crypto : Crypto} {s after : Node} {stage next : Stage} {answer : Answer}

inductive ReceiptMoves (config : Config) (crypto : Crypto) (s : Node) : Stage → Node → Stage → Prop
  | store {stage next : Stage} {txID : String} {receipt : Receipt}
      (own : stage.receipt? = some receipt) (keeps : ∀ kept, next.receipt? = some kept → kept = receipt)
      (silent : rebuilds (stage.shows s.now next) = []) :
      ReceiptMoves config crypto s stage
        { s with stores := s.stores.storeReceipt config.toStoreConfig txID receipt } next
  | rebuild {txID : String} {receipt : Receipt} {txInfo : TransactionInfo} :
      ReceiptMoves config crypto s (.rebuild txID receipt txInfo) s
        (.storeRebuilt txID (rebuildReceipt config crypto s.now receipt txInfo))
  | other {stage next : Stage} {after : Node}
      (memory : after.stores.receipts = s.stores.receipts)
      (disk : after.stores.disk = s.stores.disk)
      (writes : ∀ path receipt, .file path (.receipt receipt) ∈ after.stores.writes →
        .file path (.receipt receipt) ∈ s.stores.writes)
      (silent : rebuilds (stage.shows s.now next) = [])
      (keeps : ∀ receipt, next.receipt? = some receipt → stage.receipt? = some receipt ∨
        receipt.Built config crypto ∨ ∃ txID, s.stores.receipts.get txID = some receipt) :
      ReceiptMoves config crypto s stage after next

theorem Stage.Moves.receipts (moves : Stage.Moves config crypto s answer stage after next) :
    ReceiptMoves config crypto s stage after next := by
  cases moves with
  | storeReceipt => exact .store rfl (fun _ same => (Option.some.inj same).symm) rfl
  | storeRebuilt => exact .store rfl (fun _ none => by cases none) rfl
  | rebuild => exact .rebuild
  | @begin call =>
    refine .other rfl rfl (fun _ _ member => member) rfl fun receipt holds => ?_
    cases call <;> simp only [Call.begin] at holds <;> split at holds <;> try split at holds
    all_goals cases holds
  | addNonce =>
    refine .other rfl rfl (fun path receipt member => ?_) rfl fun _ none => by cases none
    unfold Stores.addNonce at member
    dsimp only at member
    split at member
    · simpa using member
    · exact member
  | @build req input =>
    refine .other rfl rfl (fun _ _ member => member) rfl fun receipt holds => ?_
    obtain rfl := Option.some.inj holds
    exact .inr (.inl ⟨s.now, input, rfl⟩)
  | storeKey =>
    refine .other rfl rfl (fun path receipt member => ?_) rfl fun receipt holds => .inl holds
    simpa [Stores.storeKey] using member
  | @unendorsed txID receipt found =>
    refine .other rfl rfl (fun _ _ member => member) rfl fun receipt' holds => ?_
    obtain rfl := Option.some.inj holds
    exact .inr (.inr ⟨txID, found⟩)
  | queryLedger => exact .other rfl rfl (fun _ _ member => member) rfl fun _ holds => .inl holds
  | _ => exact .other rfl rfl (fun _ _ member => member) rfl fun _ none => by cases none

end

/-! ## Runs -/

section

variable {I : Type} {config : Config} {crypto : Crypto}

structure Consistent (config : Config) (crypto : Crypto) (world : GatewayWorld I) : Prop where
  begun : world.Begun
  genuine : world.shared.state.stores.Genuine config crypto
  held : ∀ j stage receipt, world.Live j stage → stage.receipt? = some receipt →
    receipt.Built config crypto
  rebuilt : ∀ pair ∈ rebuilds world.shared.history, pair.1.SameBut pair.2

theorem Event.genuine {world : GatewayWorld I} {i : I} {event : Event} {state : Node}
    (genuine : world.shared.state.stores.Genuine config crypto)
    (safe : ReceiptsSafe config world i (.inr event))
    (applied : event.apply config world.shared.state = some state) :
    state.stores.Genuine config crypto := by
  refine Event.every genuine ?_ applied
  rintro rfl ⟨stem, content⟩ member receipt read
  have isReceipt := safe _ member
  cases content with
  | receipt stored =>
    obtain rfl := Option.some.inj read
    exact genuine.disk _ stored (mem_jsonFiles member)
  | torn => cases read
  | entry stored => cases isReceipt
  | nonces stored => cases isReceipt

variable {world : GatewayWorld I} {i : I} {state : Node}

theorem GatewayWorld.Installed.consistent (installed : world.Installed) :
    Consistent config crypto world := by
  refine ⟨installed.begun, ?_, ?_, ?_⟩
  · rw [installed.stores]
    exact .empty
  · intro j stage receipt live holds
    obtain ⟨call, rfl⟩ := installed.arriving j _ live
    cases holds
  · rw [installed.history]
    exact fun _ member => nomatch member

variable [DecidableEq I]

theorem Consistent.held_moved {shown : List Observation} {next : Stage}
    (consistent : Consistent config crypto world) (boot : state.boot = world.shared.state.boot)
    (holds : ∀ receipt, next.receipt? = some receipt → receipt.Built config crypto) :
    ∀ j stage receipt, (world.moved i state shown next).Live j stage →
      stage.receipt? = some receipt → receipt.Built config crypto := by
  intro j stage receipt alive has
  rcases GatewayWorld.live_moved boot alive with ⟨_, rfl⟩ | ⟨_, before⟩
  · exact holds receipt has
  · exact consistent.held j stage receipt before has

theorem Consistent.handler {handler : Handler} {next : Stage} {answer : Answer}
    (consistent : Consistent config crypto world)
    (live : world.Live i handler.stage ∨ ∃ call, handler.stage = .arriving call)
    (safe : ReceiptsSafe config world i (.inl answer))
    (moves : Stage.Moves config crypto world.shared.state answer handler.stage state next) :
    Consistent config crypto
      (world.moved i state (handler.stage.shows world.shared.state.now next) next) := by
  have boot := moves.boot
  generalize handler.stage = stage at *
  have holds (receipt : Receipt) (has : stage.receipt? = some receipt) :
      receipt.Built config crypto := by
    rcases live with live | ⟨call, rfl⟩
    · exact consistent.held i stage receipt live has
    · cases has
  cases moves.receipts with
  | @store _ _ _ receipt own keeps silent =>
    refine ⟨consistent.begun.moved boot, consistent.genuine.storeReceipt (holds receipt own),
      consistent.held_moved boot fun kept has => ?_, ?_⟩
    · rw [keeps kept has]
      exact holds receipt own
    · unfold GatewayWorld.moved
      rw [rebuilds_append, silent, List.append_nil]
      exact consistent.rebuilt
  | @rebuild txID receipt txInfo =>
    have alive : world.Live i (.rebuild txID receipt txInfo) :=
      live.resolve_right fun ⟨call, arriving⟩ => nomatch arriving
    have built := holds receipt rfl
    have rebuildable : Rebuildable world.shared.state.now receipt txInfo := by
      apply safe (receipt, txInfo)
      rw [GatewayWorld.stage?_eq_some.mpr alive]
      rfl
    refine ⟨consistent.begun.moved boot, consistent.genuine,
      consistent.held_moved boot fun kept has => ?_, ?_⟩
    · obtain rfl := Option.some.inj has
      exact rebuildReceipt_built built rebuildable
    · unfold GatewayWorld.moved
      rw [rebuilds_append]
      intro pair member
      rcases List.mem_append.mp member with old | new
      · exact consistent.rebuilt pair old
      · obtain rfl := List.mem_singleton.mp new
        exact (sameBut_iff_rebuildable built).mpr rebuildable
  | other memory disk writes silent keeps =>
    refine ⟨consistent.begun.moved boot, ⟨?_, ?_, fun path receipt member => ?_⟩,
      consistent.held_moved boot fun kept has => ?_, ?_⟩
    · unfold GatewayWorld.moved
      rw [memory]
      exact consistent.genuine.memory
    · unfold GatewayWorld.moved
      rw [disk]
      exact consistent.genuine.disk
    · exact consistent.genuine.writes path receipt (writes path receipt member)
    · rcases keeps kept has with own | built | ⟨txID, found⟩
      · exact holds kept own
      · exact built
      · exact consistent.genuine.memory txID kept found
    · unfold GatewayWorld.moved
      rw [rebuilds_append, silent, List.append_nil]
      exact consistent.rebuilt

omit [DecidableEq I] in
theorem Consistent.happened {event : Event} (consistent : Consistent config crypto world)
    (safe : ReceiptsSafe config world i (.inr event))
    (applied : event.apply config world.shared.state = some state) :
    Consistent config crypto (world.happened state) := by
  refine ⟨consistent.begun.happened applied, Event.genuine consistent.genuine safe applied, ?_,
    consistent.rebuilt⟩
  intro j stage receipt alive has
  rcases consistent.begun.live_happened applied alive with ⟨call, rfl⟩ | ⟨_, before⟩
  · cases has
  · exact consistent.held j stage receipt before has

/-- Stored receipts are self-consistent and rebuilds keep the other fields. -/
theorem receipts_stay_consistent {config : Config} {crypto : Crypto} {start world : GatewayWorld I}
    (installed : start.Installed)
    (reached : (observedGateway config crypto).Reaches (ReceiptsSafe config) start world) :
    (∀ txID receipt, world.shared.state.stores.receipts.get txID = some receipt →
      receipt.SelfConsistent crypto ∧ ∀ verifier clock expected,
        (verifyReceipt crypto verifier clock receipt expected).receiptHashValid = true) ∧
    ∀ pair ∈ rebuilds world.shared.history, pair.1.SameBut pair.2 := by
  have consistent : Consistent config crypto world := by
    refine reached.invariant (Consistent config crypto) installed.consistent ?_
    intro world i action after consistent safe fired
    cases GatewayWorld.fire_moves fired with
    | handler own moves live => exact consistent.handler live safe moves
    | event applied => exact consistent.happened safe applied
  refine ⟨fun txID receipt found => ?_, consistent.rebuilt⟩
  have own := (consistent.genuine.memory txID receipt found).selfConsistent
  refine ⟨own, fun verifier clock expected => ?_⟩
  rw [verifyReceipt_receiptHashValid]
  exact own.symm

end

/-! ## A receipt without endorsements -/

def submitThenGet : GatewayWorld (Fin 3) :=
  twoCalls (.submitTransfer aliceTransfer) (.getReceipt "transaction-1")

def ledgerInfo : TransactionInfo where
  txIndex := 0
  endorsements := [{ mspID := "BankMSP", certificate := [], signature := [1] }]

-- The steps of a `GetReceipt` that finds the endorsements on the ledger.
def rebuildsReceipt {I : Type} (i : I) : List (I × (Answer ⊕ Event)) :=
  proceeds i 2 ++ [(i, .inl (.transaction (.ok ledgerInfo)))] ++ proceeds i 2

def unendorsedReceipt : Receipt :=
  build sampleCrypto bankConfig.receiptBuilder bankNode.now
    (submitInput bankConfig sampleCrypto aliceTransfer bankNode.now
      { txID := "transaction-1"
        blockNumber := 7
        validationCode := 0
        endorsements := []
        commitTimestamp := bankNode.now } "block-hash" none)

-- A millisecond later the rebuild leaves a receipt whose hash is not its own.
theorem rebuild_breaks_hash :
    ¬ ∀ (labels : List (Fin 3 × (Answer ⊕ Event))) (world : GatewayWorld (Fin 3)),
      (observedGateway bankConfig sampleCrypto).run submitThenGet labels = some world →
        (∀ txID receipt, world.shared.state.stores.receipts.get txID = some receipt →
          receipt.SelfConsistent sampleCrypto ∧ ∀ verifier clock expected,
            (verifyReceipt sampleCrypto verifier clock receipt expected).receiptHashValid = true) ∧
        ∀ pair ∈ rebuilds world.shared.history, pair.1.SameBut pair.2 := by
  intro stays
  have rebuilt : ((observedGateway bankConfig sampleCrypto).run submitThenGet
      (carriedOut 0 2 ++ [(2, .inr (.tick 1000000))] ++ rebuildsReceipt 1)).map (fun world =>
        world.shared.state.stores.receipts.get "transaction-1") =
      some (some (rebuildReceipt bankConfig sampleCrypto (bankNode.now + 1000000)
        unendorsedReceipt ledgerInfo)) := rfl
  obtain ⟨world, ran, stored⟩ := Option.map_eq_some_iff.mp rebuilt
  have own := ((stays _ world ran).1 "transaction-1" _ stored).1
  have built : unendorsedReceipt.Built bankConfig sampleCrypto := ⟨_, _, rfl⟩
  have sameMoment := (rebuilt_selfConsistent_iff sampleSha256_injective built).mp own
  exact absurd sameMoment (by decide)

-- In the millisecond of its creation the receipt survives the rebuild.
theorem receipts_stay_consistent_sameMillisecond :
    ∃ world, (observedGateway bankConfig sampleCrypto).run submitThenGet
        (carriedOut 0 2 ++ [(2, .inr (.tick 999999))] ++ rebuildsReceipt 1) = some world ∧
      (∀ txID receipt, world.shared.state.stores.receipts.get txID = some receipt →
        receipt.SelfConsistent sampleCrypto ∧ ∀ verifier clock expected,
          (verifyReceipt sampleCrypto verifier clock receipt expected).receiptHashValid = true) ∧
      ∀ pair ∈ rebuilds world.shared.history, pair.1.SameBut pair.2 := by
  have reached : ((observedGateway bankConfig sampleCrypto).checkedRun (ReceiptsSafe bankConfig)
      submitThenGet (carriedOut 0 2 ++ [(2, .inr (.tick 999999))] ++ rebuildsReceipt 1)).isSome := by
    decide
  obtain ⟨world, ran⟩ := Option.isSome_iff_exists.mp reached
  have runs := Machine.Runs.checked .nil ran
  exact ⟨world, runs.run, receipts_stay_consistent (twoCalls_installed _ _) runs.reaches⟩

end Kufi.Gateway

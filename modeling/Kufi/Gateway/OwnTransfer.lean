import Kufi.Gateway.HandlerSteps
import Kufi.Gateway.TamperEvidence
import Mathlib.Data.Fintype.Basic

set_option autoImplicit false

/-!
# Answers about the caller's transfer

The idempotency store answers by key alone. Its entries come from earlier
requests, through memory or through a file that a restart has read.
-/

namespace Kufi.Gateway

open Shared

def SameTransfer (first second : TransferRequest) : Prop :=
  first.fromID = second.fromID ∧ first.toID = second.toID ∧ first.amountVND = second.amountVND ∧
    first.internalRef = second.internalRef

instance (first second : TransferRequest) : Decidable (SameTransfer first second) :=
  inferInstanceAs (Decidable (_ ∧ _))

/-- The receipt opens a commitment to the transfer of the request. -/
def ReceiptDTO.Describes (receipt : ReceiptDTO) (req : TransferRequest) : Prop :=
  ∃ opening, receipt.commitmentOpening = some opening ∧ opening.fromID = req.fromID ∧
    opening.toID = req.toID ∧ opening.amountVND = req.amountVND ∧
    opening.internalRef = req.internalRef

/-- The requests that have stored their receipts under their keys, and when. -/
def storedEntries (history : List Observation) : List (TransferRequest × Time) :=
  history.filterMap fun
    | .stored req time => some (req, time)
    | _ => none

/-- The replies of success, with the requests they answer. -/
def answers (history : List Observation) : List (TransferRequest × ReceiptDTO) :=
  history.filterMap fun
    | .answered req receipt => some (req, receipt)
    | _ => none

theorem storedEntries_append (first rest : List Observation) :
    storedEntries (first ++ rest) = storedEntries first ++ storedEntries rest :=
  List.filterMap_append

theorem answers_append (first rest : List Observation) :
    answers (first ++ rest) = answers first ++ answers rest :=
  List.filterMap_append

-- A restart reads the file under the stem of its name.
def MayAnswer (config : Config) (key asked : String) : Prop :=
  key = asked ∨ config.keyFile key = config.idempotencyDir ++ [asked ++ ".json"]

instance (config : Config) (key asked : String) : Decidable (MayAnswer config key asked) :=
  inferInstanceAs (Decidable (_ ∨ _))

def Stage.keyCheck? : Stage → Option TransferRequest
  | .checkKey req => some req
  | _ => none

section

variable {I : Type} (config : Config)

/-- Every unexpired entry that may answer a request is of the same transfer. -/
def OwnKeys (world : GatewayWorld I) (i : I) : Answer ⊕ Event → Prop
  | .inl _ =>
    ∀ req ∈ (world.stage? i).bind Stage.keyCheck?,
      ∀ entry ∈ storedEntries world.shared.history,
        MayAnswer config entry.1.idempotencyKey req.idempotencyKey →
          world.shared.state.now ≤ entry.2 + config.idempotencyTTL → SameTransfer entry.1 req
  | .inr _ => True

instance (world : GatewayWorld I) (i : I) (action : Answer ⊕ Event) :
    Decidable (OwnKeys config world i action) :=
  match action with
  | .inl _ => inferInstanceAs (Decidable (∀ _ ∈ _, _))
  | .inr _ => .isTrue trivial

end

/-! ## The keys in a step -/

def OpensFor (config : Config) (req : TransferRequest) (receipt : Receipt) : Prop :=
  receipt.commitmentOpening = some (commitmentOf config req)

-- Receipts are of the request that they are built for.
def Stage.Opens (config : Config) : Stage → Prop
  | .build req input => input.commitmentOpening = some (commitmentOf config req)
  | .storeReceipt req receipt | .storeKey req receipt | .answer req receipt =>
    OpensFor config req receipt
  | _ => True

section

variable {config : Config} {crypto : Crypto} {s after : Node} {stage next : Stage} {answer : Answer}

inductive KeyMoves (config : Config) (s : Node) : Stage → Node → Stage → Prop
  | cached {req : TransferRequest} {receipt : Receipt}
      (found : s.stores.getKey s.now req.idempotencyKey = some receipt) :
      KeyMoves config s (.checkKey req) s (respondSuccess s.now receipt)
  | storeKey {req : TransferRequest} {receipt : Receipt} :
      KeyMoves config s (.storeKey req receipt)
        { s with
          stores := s.stores.storeKey config.toStoreConfig s.now req.idempotencyKey receipt }
        (.answer req receipt)
  | answer {req : TransferRequest} {receipt : Receipt} :
      KeyMoves config s (.answer req receipt) s (respondSuccess s.now receipt)
  | other {stage next : Stage} {after : Node}
      (memory : after.stores.idempotency = s.stores.idempotency)
      (disk : after.stores.disk = s.stores.disk)
      (writes : ∀ path entry, .file path (.entry entry) ∈ after.stores.writes →
        .file path (.entry entry) ∈ s.stores.writes)
      (unstored : storedEntries (stage.shows s.now next) = [])
      (unanswered : answers (stage.shows s.now next) = [])
      (opens : stage.Opens config → next.Opens config) : KeyMoves config s stage after next

theorem Stage.Moves.keys (moves : Stage.Moves config crypto s answer stage after next) :
    KeyMoves config s stage after next := by
  cases moves with
  | cached found => exact .cached found
  | storeKey => exact .storeKey
  | answer => exact .answer
  | @begin call =>
    refine .other rfl rfl (fun _ _ member => member) rfl rfl fun _ => ?_
    cases call <;> simp only [Call.begin] <;> split <;> try split
    all_goals trivial
  | addNonce =>
    refine .other rfl rfl (fun path entry member => ?_) rfl rfl fun _ => trivial
    unfold Stores.addNonce at member
    dsimp only at member
    split at member
    · simpa using member
    · exact member
  | queryTransaction => exact .other rfl rfl (fun _ _ member => member) rfl rfl fun _ => rfl
  | build => exact .other rfl rfl (fun _ _ member => member) rfl rfl id
  | storeReceipt =>
    refine .other rfl rfl (fun path entry member => ?_) rfl rfl id
    simpa [Stores.storeReceipt] using member
  | storeRebuilt =>
    refine .other rfl rfl (fun path entry member => ?_) rfl rfl fun _ => trivial
    simpa [Stores.storeReceipt] using member
  | _ => exact .other rfl rfl (fun _ _ member => member) rfl rfl fun _ => trivial

end

/-! ## Where entries come from -/

/-- The entry has no receipt, or one of a request with such a key, which has stored it. -/
def Origin (config : Config) (fits : TransferRequest → Receipt → Prop)
    (stored : List (TransferRequest × Time)) (holds : String → Prop) (entry : IdempotencyEntry) :
    Prop :=
  ∀ receipt, entry.receipt = some receipt → ∃ origin ∈ stored, holds origin.1.idempotencyKey ∧
    entry.expiresAt = origin.2 + config.idempotencyTTL ∧ fits origin.1 receipt

structure Stores.Traced (config : Config) (fits : TransferRequest → Receipt → Prop)
    (stored : List (TransferRequest × Time)) (stores : Stores) : Prop where
  memory : ∀ key entry, stores.idempotency.get key = some entry →
    Origin config fits stored (MayAnswer config · key) entry
  disk : ∀ path entry, stores.disk.get path = some (.entry entry) →
    Origin config fits stored (config.keyFile · = path) entry
  writes : ∀ path entry, .file path (.entry entry) ∈ stores.writes →
    Origin config fits stored (config.keyFile · = path) entry

theorem Stores.traced_empty (config : Config) (fits : TransferRequest → Receipt → Prop) :
    Stores.empty.Traced config fits [] where
  memory _ _ found := nomatch found
  disk _ _ found := nomatch found
  writes _ _ member := nomatch member

section

variable {config : Config} {fits : TransferRequest → Receipt → Prop}
  {stored : List (TransferRequest × Time)} {stores : Stores}

theorem Origin.grow {holds : String → Prop} {entry : IdempotencyEntry}
    (origin : Origin config fits stored holds entry) (more : List (TransferRequest × Time)) :
    Origin config fits (stored ++ more) holds entry := by
  intro receipt has
  obtain ⟨source, member, rest⟩ := origin receipt has
  exact ⟨source, List.mem_append_left more member, rest⟩

theorem Stores.Traced.grow (traced : stores.Traced config fits stored)
    (more : List (TransferRequest × Time)) : stores.Traced config fits (stored ++ more) where
  memory key entry found := (traced.memory key entry found).grow more
  disk path entry found := (traced.disk path entry found).grow more
  writes path entry found := (traced.writes path entry found).grow more

theorem Stores.Traced.storeKey {now : Time} {req : TransferRequest} {receipt : Receipt}
    (traced : stores.Traced config fits stored)
    (own : fits req receipt) :
    (stores.storeKey config.toStoreConfig now req.idempotencyKey receipt).Traced config fits
      (stored ++ [(req, now)]) := by
  have new {holds : String → Prop} (same : holds req.idempotencyKey) :
      Origin config fits (stored ++ [(req, now)]) holds
        { receipt := some receipt, expiresAt := now + config.idempotencyTTL } := by
    intro receipt' has
    obtain rfl := Option.some.inj has
    exact ⟨(req, now), by simp, same, rfl, own⟩
  have grown := traced.grow [(req, now)]
  constructor
  · intro key entry found
    rw [Stores.storeKey, Dict.get_set] at found
    split at found
    next same =>
      obtain rfl := Option.some.inj found
      exact new (.inl same.symm)
    next => exact grown.memory key entry found
  · exact grown.disk
  · intro path entry member
    rcases List.mem_append.mp member with old | added
    · exact grown.writes path entry old
    · obtain ⟨rfl, same⟩ := FileWrite.file.inj (List.mem_singleton.mp added)
      obtain rfl := FileContent.entry.inj same
      exact new rfl

theorem Stores.Traced.finishWrite {i : Nat} {outcome : WriteOutcome} {after : Stores}
    (traced : stores.Traced config fits stored)
    (finished : stores.finishWrite config.toStoreConfig i outcome = some after) :
    after.Traced config fits stored := by
  obtain ⟨write, pending, rfl⟩ := Option.map_eq_some_iff.mp finished
  have rest (path : Path) (entry : IdempotencyEntry)
      (member : FileWrite.file path (.entry entry) ∈ stores.writes.eraseIdx i) :
      Origin config fits stored (config.keyFile · = path) entry :=
    traced.writes path entry (List.mem_of_mem_eraseIdx member)
  cases write with
  | file target content =>
    refine ⟨traced.memory, fun path entry found => ?_, rest⟩
    rcases Stores.get_writeFile found with old | ⟨rfl, same | torn⟩
    · exact traced.disk path entry old
    · exact traced.writes path entry (same ▸ List.mem_of_getElem? pending)
    · cases torn
  | nonces =>
    refine ⟨traced.memory, fun path entry found => ?_, rest⟩
    rcases Stores.get_writeFile found with old | ⟨_, same | torn⟩
    · exact traced.disk path entry old
    · cases same
    · cases torn

theorem Stores.Traced.restart {now : Time} (traced : stores.Traced config fits stored) :
    (stores.restart config.toStoreConfig now).Traced config fits stored := by
  constructor
  · intro key entry loaded receipt has
    obtain ⟨content, found, read⟩ := Stores.get_loadEntries loaded
    rw [FileContent.eq_of_asEntry read has] at found
    obtain ⟨origin, member, file, rest⟩ := traced.disk _ entry found receipt has
    exact ⟨origin, member, .inr file, rest⟩
  · exact fun path entry found => traced.disk path entry (Dict.get_keep.mp found).1
  · exact fun path entry member => nomatch member

theorem Event.traced {event : Event} {s state : Node} (traced : s.stores.Traced config fits stored)
    (applied : event.apply config s = some state) : state.stores.Traced config fits stored := by
  cases event with
  | tick elapsed =>
    obtain rfl := Option.some.inj applied
    exact traced
  | commit i =>
    obtain ⟨_, _, rfl⟩ := Option.map_eq_some_iff.mp applied
    exact traced
  | invalidate i code =>
    obtain ⟨_, _, rfl⟩ := Option.map_eq_some_iff.mp applied
    exact traced
  | finishWrite i outcome =>
    obtain ⟨_, finished, rfl⟩ := Option.map_eq_some_iff.mp applied
    exact traced.finishWrite finished
  | cleanupKeys =>
    obtain rfl := Option.some.inj applied
    refine ⟨fun key entry found => ?_, fun path entry found => ?_, traced.writes⟩
    · exact traced.memory key entry (Dict.get_keep.mp found).1
    · exact traced.disk path entry (Stores.get_cleanupKeys_disk found)
  | cleanupNonces outcome =>
    obtain rfl := Option.some.inj applied
    refine ⟨traced.memory, fun path entry found => ?_, traced.writes⟩
    rcases Stores.get_writeFile found with old | ⟨_, same | torn⟩
    · exact traced.disk path entry old
    · cases same
    · cases torn
  | restart =>
    obtain rfl := Option.some.inj applied
    exact traced.restart

end

/-! ## Runs -/

section

variable {I : Type}

structure Answering (config : Config) (world : GatewayWorld I) : Prop where
  begun : world.Begun
  traced : world.shared.state.stores.Traced config (OpensFor config) (storedEntries world.shared.history)
  opens : ∀ j stage, world.Live j stage → stage.Opens config
  answered : ∀ reply ∈ answers world.shared.history, reply.2.Describes reply.1

variable {config : Config} {crypto : Crypto} {world : GatewayWorld I} {i : I} {state : Node}

theorem describes_of_sameTransfer {receipt : Receipt} {origin req : TransferRequest}
    (opens : OpensFor config origin receipt)
    (same : SameTransfer origin req) : (receiptToDTO receipt).Describes req :=
  ⟨commitmentOf config origin, opens, same⟩

theorem GatewayWorld.Installed.answering (installed : world.Installed) :
    Answering config world := by
  refine ⟨installed.begun, ?_, ?_, ?_⟩
  · rw [installed.stores, installed.history]
    exact Stores.traced_empty _ _
  · intro j stage live
    obtain ⟨call, rfl⟩ := installed.arriving j _ live
    trivial
  · rw [installed.history]
    exact fun _ member => nomatch member

variable [DecidableEq I]

-- The stages after a step of handler `i`.
theorem Answering.opens_moved {shown : List Observation} {next : Stage}
    (answering : Answering config world) (boot : state.boot = world.shared.state.boot)
    (opens : next.Opens config) :
    ∀ j stage, (world.moved i state shown next).Live j stage → stage.Opens config := by
  intro j stage alive
  rcases GatewayWorld.live_moved boot alive with ⟨_, rfl⟩ | ⟨_, before⟩
  · exact opens
  · exact answering.opens j stage before

-- A reply of success is added to those of the run.
theorem Answering.replied {req : TransferRequest} {receipt : Receipt}
    (answering : Answering config world) (describes : (receiptToDTO receipt).Describes req) :
    Answering config (world.moved i world.shared.state
      [.answered req (receiptToDTO receipt)] (respondSuccess world.shared.state.now receipt)) := by
  refine ⟨answering.begun.moved rfl, ?_, answering.opens_moved rfl trivial, ?_⟩
  · unfold GatewayWorld.moved
    rw [storedEntries_append]
    exact answering.traced.grow _
  · unfold GatewayWorld.moved
    rw [answers_append]
    intro reply member
    rcases List.mem_append.mp member with old | own
    · exact answering.answered reply old
    · obtain rfl := List.mem_singleton.mp own
      exact describes

theorem Answering.handler {handler : Handler} {next : Stage} {answer : Answer}
    (answering : Answering config world)
    (live : world.Live i handler.stage ∨ ∃ call, handler.stage = .arriving call)
    (safe : OwnKeys config world i (.inl answer))
    (moves : Stage.Moves config crypto world.shared.state answer handler.stage state next) :
    Answering config
      (world.moved i state (handler.stage.shows world.shared.state.now next) next) := by
  have boot := moves.boot
  generalize handler.stage = stage at *
  have begun (idle : ∀ call, stage ≠ .arriving call) : world.Live i stage :=
    live.resolve_right fun ⟨call, arriving⟩ => idle call arriving
  have opens : stage.Opens config := by
    rcases live with live | ⟨call, rfl⟩
    · exact answering.opens i stage live
    · trivial
  cases moves.keys with
  | @cached req receipt found =>
    apply answering.replied
    obtain ⟨entry, known, unexpired, has⟩ := Stores.getKey_eq_some.mp found
    obtain ⟨origin, member, answersFor, expires, opened⟩ :=
      answering.traced.memory _ entry known receipt has
    have checks : req ∈ (world.stage? i).bind Stage.keyCheck? := by
      rw [GatewayWorld.stage?_eq_some.mpr (begun (by simp))]
      rfl
    rw [expires] at unexpired
    exact describes_of_sameTransfer opened
      (safe req checks origin member answersFor (Int.not_lt.mp unexpired))
  | storeKey =>
    refine ⟨answering.begun.moved rfl, ?_, answering.opens_moved rfl opens, ?_⟩
    · unfold GatewayWorld.moved
      rw [storedEntries_append]
      exact answering.traced.storeKey opens
    · unfold GatewayWorld.moved
      rw [answers_append]
      simpa [Stage.shows, answers] using answering.answered
  | answer =>
    exact answering.replied (describes_of_sameTransfer opens ⟨rfl, rfl, rfl, rfl⟩)
  | other memory disk writes unstored unanswered opening =>
    refine ⟨answering.begun.moved boot, ?_, answering.opens_moved boot (opening opens), ?_⟩
    · unfold GatewayWorld.moved
      rw [storedEntries_append, unstored, List.append_nil]
      refine ⟨?_, ?_, fun path entry member => ?_⟩
      · rw [memory]
        exact answering.traced.memory
      · rw [disk]
        exact answering.traced.disk
      · exact answering.traced.writes path entry (writes path entry member)
    · unfold GatewayWorld.moved
      rw [answers_append, unanswered, List.append_nil]
      exact answering.answered

omit [DecidableEq I] in
theorem Answering.happened {event : Event} (answering : Answering config world)
    (applied : event.apply config world.shared.state = some state) :
    Answering config (world.happened state) := by
  refine ⟨answering.begun.happened applied, Event.traced answering.traced applied, ?_,
    answering.answered⟩
  intro j stage alive
  rcases answering.begun.live_happened applied alive with ⟨call, rfl⟩ | ⟨_, before⟩
  · trivial
  · exact answering.opens j stage before

/-- Every reply of success opens a commitment to the transfer of its own request. -/
theorem answers_describe {config : Config} {crypto : Crypto} {start world : GatewayWorld I}
    (installed : start.Installed)
    (reached : (observedGateway config crypto).Reaches (OwnKeys config) start world) :
    ∀ reply ∈ answers world.shared.history, reply.2.Describes reply.1 := by
  refine (reached.invariant (Answering config) installed.answering ?_).answered
  intro world i action after answering safe fired
  cases GatewayWorld.fire_moves fired with
  | handler own moves live => exact answering.handler live safe moves
  | event applied => exact answering.happened applied

end

/-! ## Two requests with one key -/

def bobTransfer : TransferRequest where
  fromID := "bob"
  toID := "carol"
  amountVND := 90000
  memo := ""
  internalRef := "tx-2"
  idempotencyKey := "key-1"
  nonce := "nonce-9876543210"
  timestamp := 1700000000000
  userSignature := ""
  transferType := ""

def oneKey (second : TransferRequest) : GatewayWorld (Fin 3) :=
  twoCalls (.submitTransfer aliceTransfer) (.submitTransfer second)

-- Bob's transfer is answered with the receipt of Alice's.
theorem key_answers_another_transfer :
    ¬ ∀ (labels : List (Fin 3 × (Answer ⊕ Event))) (world : GatewayWorld (Fin 3)),
      (observedGateway bankConfig sampleCrypto).run (oneKey bobTransfer) labels = some world →
        ∀ reply ∈ answers world.shared.history, reply.2.Describes reply.1 := by
  intro describes
  have answered : ((observedGateway bankConfig sampleCrypto).run (oneKey bobTransfer)
      (carriedOut 0 2 ++ proceeds 1 2)).map (fun world =>
        (answers world.shared.history).map fun reply =>
          (reply.1.fromID, reply.2.commitmentOpening.map TransferCommitment.fromID)) =
      some [("alice", some "alice"), ("bob", some "alice")] := by decide
  obtain ⟨world, ran, replies⟩ := Option.map_eq_some_iff.mp answered
  have second : ("bob", some "alice") ∈ (answers world.shared.history).map fun reply =>
      (reply.1.fromID, reply.2.commitmentOpening.map TransferCommitment.fromID) := by
    rw [replies]
    simp
  obtain ⟨reply, member, parts⟩ := List.mem_map.mp second
  obtain ⟨fromBob, ofAlice⟩ := Prod.mk.inj parts
  obtain ⟨opening, opens, own, _⟩ := describes _ world ran reply member
  rw [opens, Option.map_some, own, fromBob] at ofAlice
  exact absurd ofAlice (by decide)

-- The same transfer again, after a restart has read the entry from its file.
theorem answers_describe_repeated :
    ∃ world, (observedGateway bankConfig sampleCrypto).run
        (oneKey { aliceTransfer with nonce := "nonce-9876543210" })
        (carriedOut 0 2 ++
          [(2, .inr (.finishWrite 1 .written)), (2, .inr (.tick 1000000)), (2, .inr .restart)] ++
          proceeds 1 2) = some world ∧
      ∀ reply ∈ answers world.shared.history, reply.2.Describes reply.1 := by
  have reached : ((observedGateway bankConfig sampleCrypto).checkedRun (OwnKeys bankConfig)
      (oneKey { aliceTransfer with nonce := "nonce-9876543210" })
      (carriedOut 0 2 ++
        [(2, .inr (.finishWrite 1 .written)), (2, .inr (.tick 1000000)), (2, .inr .restart)] ++
        proceeds 1 2)).isSome := by decide
  obtain ⟨world, ran⟩ := Option.isSome_iff_exists.mp reached
  have runs := Machine.Runs.checked .nil ran
  exact ⟨world, runs.run, answers_describe (twoCalls_installed _ _) runs.reaches⟩

end Kufi.Gateway

import Kufi.ChainService.Anchoring
import Kufi.Gateway.Replay

set_option autoImplicit false

/-!
# Retries that are not replays

Every attempt carries the same nonce and the same key. The gateway records the
nonce before the slow submission and the key after it, so what an attempt meets
depends on where the earlier one has got to.
-/

namespace Kufi.ChainService

open Shared Gateway

/-! ## What a run has shown -/

def missedAttempts (history : List Shown) : List Nat :=
  history.filterMap fun
    | .missed attempt => some attempt
    | _ => none

def recordedAttempts (history : List Shown) : List Nat :=
  history.filterMap fun
    | .recorded attempt => some attempt
    | _ => none

def proposals (history : List Shown) : List (Nat × String) :=
  history.filterMap fun
    | .proposed attempt txID => some (attempt, txID)
    | _ => none

def storedRequests (history : List Shown) : List (TransferRequest × Time) :=
  history.filterMap fun
    | .stored req time => some (req, time)
    | _ => none

variable {history shown : List Shown}

theorem missedAttempts_append :
    missedAttempts (history ++ shown) = missedAttempts history ++ missedAttempts shown :=
  List.filterMap_append

theorem recordedAttempts_append :
    recordedAttempts (history ++ shown) = recordedAttempts history ++ recordedAttempts shown :=
  List.filterMap_append

theorem proposals_append :
    proposals (history ++ shown) = proposals history ++ proposals shown :=
  List.filterMap_append

theorem storedRequests_append :
    storedRequests (history ++ shown) = storedRequests history ++ storedRequests shown :=
  List.filterMap_append

/-! ## The scope of the attempts -/

section

variable (config : Config) (payload : TransferRequest)

def Valid (req : TransferRequest) : Prop :=
  req.bindErrors = [] ∧ req.validate = none

/-- A request of somebody else, with another nonce and a key that does not answer the payload. -/
def Foreign (req : TransferRequest) : Prop :=
  req.nonce ≠ payload.nonce ∧ ¬ MayAnswer config req.idempotencyKey payload.idempotencyKey

def Belongs (attempt : Option Nat) (req : TransferRequest) : Prop :=
  match attempt with
  | some _ => req = payload
  | none => Foreign config payload req

variable {I : Type}

/-- An installed gateway, and an adapter about to post its first attempt. -/
structure Starts (world : ExchangeWorld I) : Prop where
  stores : world.shared.state.node.stores = Stores.empty
  adapter : world.shared.state.adapter = .posting 0
  replies : world.shared.state.replies = []
  history : world.shared.history = []
  calls : ∀ i attempt handler, world.procs i = .call attempt handler →
    ∃ call, handler.stage = .arriving call ∧ (attempt.isSome → call = .submitTransfer payload) ∧
      ∀ req, call = .submitTransfer req → Belongs config payload attempt req
  -- the adapter posts each attempt once
  numbers : ∀ i j attempt handler handler', world.procs i = .call (some attempt) handler →
    world.procs j = .call (some attempt) handler' → i = j

/-- What every step of a run must meet for no attempt to be taken for a replay. -/
def RetrySafe (world : ExchangeWorld I) (i : I) : Act → Prop
  | .handle answer =>
    Named answer ∧ ∀ live ∈ world.live? i, live.1.isSome = true →
      -- an attempt misses the key only if no attempt has missed it before
      (∀ req ∈ live.2.keyCheck?,
        world.shared.state.node.stores.getKey world.shared.state.node.now req.idempotencyKey =
          none → missedAttempts world.shared.history = []) ∧
      -- all attempts are inside the nonce window
      ∀ req ∈ live.2.windowCheck?, inWindow config world.shared.state.node.now req = true
  | _ => True

/-- No attempt is taken for a replay, and what the adapter makes of a reply to a later attempt than
the one that has committed the transfer is the receipt of the transfer, or that it is pending. -/
def Served (world : ExchangeWorld I) : Prop :=
  (∀ reply ∈ world.shared.state.replies, ∀ status error processedAt,
    reply.2 = .failure status error processedAt → error.code ≠ "REPLAY_DETECTED") ∧
  ∀ earlier txID, (earlier, txID) ∈ proposals world.shared.history →
    (world.shared.state.node.fabric.getState txID).isSome = true →
      ∀ later reply result, earlier < later →
        world.shared.state.adapter = .finished later (some reply) result → Anchors payload result

instance (answer : Answer) : Decidable (Named answer) :=
  match answer with
  | .fabric outcome => by
    unfold Named
    split <;> infer_instance
  | .proceed | .block _ | .transaction _ => .isTrue trivial

instance (world : ExchangeWorld I) (i : I) (act : Act) :
    Decidable (RetrySafe config world i act) :=
  match act with
  | .handle _ => inferInstanceAs (Decidable (_ ∧ _))
  | .post | .receive _ | .lose _ | .happen _ => .isTrue trivial

end

/-! ## A step of a call -/

-- The request that a stage of `SubmitTransfer` works on.
def serves? : Stage → Option TransferRequest
  | .checkKey req | .answer req _ => some req
  | stage => stage.inFlight?

section

variable {config : Config} {crypto : Crypto} {s after : Node} {answer : Answer}
  {stage next : Stage}

theorem begin_serves {call : Call} {req : TransferRequest}
    (serves : serves? (call.begin s.now) = some req) :
    call = .submitTransfer req ∧ Valid req ∧ call.begin s.now = .checkKey req := by
  cases call with
  | getReceipt txID =>
    simp only [Call.begin] at serves
    split at serves <;> cases serves
  | submitTransfer own =>
    simp only [Call.begin] at serves ⊢
    split at serves
    next => cases serves
    next noErrors =>
      split at serves
      next => cases serves
      next valid =>
        obtain rfl := Option.some.inj serves
        simp only [ne_eq, not_not] at noErrors
        simp [Valid, noErrors, valid]

theorem moves_not_arriving (moves : Stage.Moves config crypto s answer stage after next)
    (call : Call) : next ≠ .arriving call := by
  cases moves with
  | @begin call' =>
    cases call' <;> simp only [Call.begin] <;> split <;> try split
    all_goals simp [respondError]
  | _ => simp [respondError, respondSuccess]

-- A call goes on with its request, and past the key check it has missed the key.
theorem moves_serves (moves : Stage.Moves config crypto s answer stage after next)
    {req : TransferRequest} (serves : serves? next = some req) :
    (stage = .arriving (.submitTransfer req) ∧ Valid req ∧ next = .checkKey req) ∨
      (stage = .checkKey req ∧ next = .checkNonce req ∧
        s.stores.getKey s.now req.idempotencyKey = none) ∨
      ((∀ own, stage ≠ .checkKey own) ∧ serves? stage = some req) := by
  cases moves with
  | begin =>
    obtain ⟨rfl, valid, same⟩ := begin_serves serves
    exact .inl ⟨rfl, valid, same⟩
  | missed missing =>
    obtain rfl := Option.some.inj serves
    exact .inr (.inl ⟨rfl, rfl, missing⟩)
  | cached | replayed | outside | refused | answer | unknown | lookup | unendorsed | unchanged
  | queryLedger | rebuild | storeRebuilt => cases serves
  | _ => exact .inr (.inr ⟨fun _ => by simp, serves⟩)

/-! ## What a step of a call shows -/

def callShows (now : Time) (attempt : Option Nat) (stage next : Stage) : List Shown :=
  attemptShows attempt stage next ++ storeShows now stage next

inductive ShowsOf (attempt : Option Nat) (stage next : Stage) (shown : List Shown) : Prop
  | missed {number : Nat} {req : TransferRequest} (own : attempt = some number)
      (before : stage = .checkKey req) (after : next = .checkNonce req)
      (same : shown = [.missed number])
  | recorded {number : Nat} {req : TransferRequest} {timestamp : Time}
      (own : attempt = some number) (before : stage = .addNonce req timestamp)
      (after : next = .prepare req) (same : shown = [.recorded number])
  | proposed {number : Nat} {req : TransferRequest} {txID : String} (own : attempt = some number)
      (before : ∃ clientSubmitTime round call, stage = .calling req clientSubmitTime round call)
      (same : shown = [.proposed number txID])
  | stored {req : TransferRequest} {receipt : Receipt} {time : Time}
      (before : stage = .storeKey req receipt) (same : shown = [.stored req time])
  | quiet (same : shown = [])

theorem moves_shows (moves : Stage.Moves config crypto s answer stage after next)
    (attempt : Option Nat) : ShowsOf attempt stage next (callShows s.now attempt stage next) := by
  cases moves with
  | @begin call =>
    apply ShowsOf.quiet
    cases attempt <;> rfl
  | missed =>
    cases attempt with
    | none => exact .quiet rfl
    | some number => exact .missed rfl rfl rfl rfl
  | addNonce =>
    cases attempt with
    | none => exact .quiet rfl
    | some number => exact .recorded rfl rfl rfl rfl
  | @call req clientSubmitTime round call next outcome fabric given stepped =>
    cases attempt with
    | none => exact .quiet rfl
    | some number =>
      unfold callShows attemptShows
      split
      next same => cases same
      next same => cases same
      next own _ _ =>
        obtain rfl := Option.some.inj own
        exact .proposed rfl ⟨_, _, _, rfl⟩ rfl
      next => exact .quiet rfl
  | @storeKey req receipt =>
    have same : callShows s.now attempt (.storeKey req receipt) (.answer req receipt) =
        [.stored req s.now] := by
      cases attempt <;> rfl
    exact .stored rfl same
  | _ =>
    apply ShowsOf.quiet
    cases attempt <;> rfl

-- The request of a call that has missed its key and not yet recorded its nonce.
def unrecorded? : Stage → Option TransferRequest
  | .checkNonce req => some req
  | stage => stage.between?

theorem serves_of_unrecorded {req : TransferRequest} (unrecorded : unrecorded? stage = some req) :
    serves? stage = some req ∧ stage ≠ .checkKey req := by
  cases stage with
  | checkNonce own => exact ⟨unrecorded, by simp⟩
  | checkTimestamp own => exact ⟨unrecorded, by simp⟩
  | recordNonce own => exact ⟨unrecorded, by simp⟩
  | addNonce own timestamp => exact ⟨unrecorded, by simp⟩
  | _ => cases unrecorded

theorem moves_unrecorded (moves : Stage.Moves config crypto s answer stage after next)
    {req : TransferRequest} (unrecorded : unrecorded? next = some req) :
    (stage = .checkKey req ∧ next = .checkNonce req) ∨
      (unrecorded? stage = some req ∧ ∀ own timestamp, stage ≠ .addNonce own timestamp) := by
  cases moves with
  | begin =>
    obtain ⟨serves, _⟩ := serves_of_unrecorded unrecorded
    obtain ⟨_, _, same⟩ := begin_serves serves
    rw [same] at unrecorded
    cases unrecorded
  | missed =>
    obtain rfl := Option.some.inj unrecorded
    exact .inl ⟨rfl, rfl⟩
  | fresh | inside | recordNonce => exact .inr ⟨unrecorded, fun _ _ => by simp⟩
  | _ => cases unrecorded

theorem moves_lookup {txID : String}
    (moves : Stage.Moves config crypto s answer stage after (.lookup txID)) :
    ∃ txID', stage = .arriving (.getReceipt txID') := by
  generalize same : Stage.lookup txID = next at moves
  cases moves with
  | @begin call =>
    cases call with
    | getReceipt txID' => exact ⟨txID', rfl⟩
    | submitTransfer req =>
      simp only [Call.begin] at same
      split at same <;> try split at same
      all_goals cases same
  | _ => cases same

theorem moves_missing {req : TransferRequest}
    (moves : Stage.Moves config crypto s answer (.checkKey req) after (.checkNonce req)) :
    s.stores.getKey s.now req.idempotencyKey = none := by
  rcases moves_serves moves rfl with ⟨arriving, _⟩ | ⟨_, _, missing⟩ | ⟨other, _⟩
  · cases arriving
  · exact missing
  · exact absurd rfl (other req)

end

/-! ## What the attempts have done -/

/-- One attempt at most has missed the key, and no other one has gone further. -/
structure Attempted (payload : TransferRequest) (history : List Shown) : Prop where
  once : (missedAttempts history).length ≤ 1
  valid : missedAttempts history ≠ [] → Valid payload
  recorded : ∀ number ∈ recordedAttempts history, number ∈ missedAttempts history
  proposed : ∀ proposal ∈ proposals history, proposal.1 ∈ missedAttempts history

section

variable {payload : TransferRequest} {attempt : Option Nat} {stage next : Stage} {number : Nat}

theorem Attempted.grow (attempted : Attempted payload history) (misses : missedAttempts shown = [])
    (recorded : ∀ number ∈ recordedAttempts shown, number ∈ missedAttempts history)
    (proposed : ∀ proposal ∈ proposals shown, proposal.1 ∈ missedAttempts history) :
    Attempted payload (history ++ shown) := by
  have same : missedAttempts (history ++ shown) = missedAttempts history := by
    rw [missedAttempts_append, misses, List.append_nil]
  refine ⟨same ▸ attempted.once, same ▸ attempted.valid, fun number member => ?_,
    fun proposal member => ?_⟩
  · rw [recordedAttempts_append] at member
    rw [same]
    rcases List.mem_append.mp member with old | new
    · exact attempted.recorded number old
    · exact recorded number new
  · rw [proposals_append] at member
    rw [same]
    rcases List.mem_append.mp member with old | new
    · exact attempted.proposed proposal old
    · exact proposed proposal new

theorem Attempted.missed (attempted : Attempted payload history)
    (none : missedAttempts history = []) (valid : Valid payload) :
    Attempted payload (history ++ [.missed number]) := by
  have own : missedAttempts (history ++ [.missed number]) = [number] := by
    rw [missedAttempts_append, none]
    rfl
  refine ⟨le_of_eq (congrArg List.length own), fun _ => valid, fun recorded member => ?_,
    fun proposal member => ?_⟩
  · rw [recordedAttempts_append] at member
    have old := attempted.recorded recorded (by simpa [recordedAttempts] using member)
    rw [none] at old
    cases old
  · rw [proposals_append] at member
    have old := attempted.proposed proposal (by simpa [proposals] using member)
    rw [none] at old
    cases old

theorem Attempted.shows (attempted : Attempted payload history)
    (shows : ShowsOf attempt stage next shown)
    (first : ∀ req, stage = .checkKey req → next = .checkNonce req → attempt.isSome = true →
      missedAttempts history = [] ∧ Valid payload)
    (past : ∀ number req, attempt = some number → serves? stage = some req →
      stage = .checkKey req ∨ number ∈ missedAttempts history) :
    Attempted payload (history ++ shown) := by
  cases shows with
  | missed own before after same =>
    obtain ⟨none, valid⟩ := first _ before after (by rw [own]; rfl)
    rw [same]
    exact attempted.missed none valid
  | @recorded number req timestamp own before after same =>
    have missed : number ∈ missedAttempts history :=
      (past number req own (by rw [before]; rfl)).resolve_left (by simp [before])
    subst same
    exact attempted.grow rfl (by simpa [recordedAttempts] using missed) (by simp [proposals])
  | @proposed number req txID own before same =>
    obtain ⟨clientSubmitTime, round, call, rfl⟩ := before
    have missed : number ∈ missedAttempts history := (past number req own rfl).resolve_left (by simp)
    subst same
    exact attempted.grow rfl (by simp [recordedAttempts]) (by simpa [proposals] using missed)
  | stored before same =>
    subst same
    exact attempted.grow rfl (by simp [recordedAttempts]) (by simp [proposals])
  | quiet same =>
    rw [same, List.append_nil]
    exact attempted

theorem Attempted.alone {other : Nat} (attempted : Attempted payload history)
    (missed : number ∈ missedAttempts history) (missed' : other ∈ missedAttempts history) :
    number = other := by
  cases numbers : missedAttempts history with
  | nil =>
    rw [numbers] at missed
    cases missed
  | cons only rest =>
    have short := attempted.once
    rw [numbers] at short missed missed'
    obtain rfl : rest = [] := List.length_eq_zero_iff.mp (by simpa using short)
    rw [List.mem_singleton.mp missed, List.mem_singleton.mp missed']

end

/-! ## Runs -/

-- A reply to an attempt is the receipt of the transfer, or an error that tells of no replay.
def RepliedTo (config : Config) (payload : TransferRequest) (history : List Shown)
    (number : Nat) : Reply → Prop
  | .success txID receipt _ =>
    ∃ stored, Anchorable config payload stored ∧ txID = stored.txID ∧ receipt = receiptToDTO stored
  | .failure _ error _ =>
    error.code ≠ "REPLAY_DETECTED" ∧ (Valid payload → number ∈ missedAttempts history)

structure Retrying {I : Type} (config : Config) (payload : TransferRequest)
    (world : ExchangeWorld I) : Prop where
  begun : world.Begun
  arriving : ∀ i attempt boot call, world.procs i = .call attempt ⟨boot, .arriving call⟩ →
    (attempt.isSome = true → call = .submitTransfer payload) ∧
      ∀ req, call = .submitTransfer req → Belongs config payload attempt req
  numbers : ∀ i j number handler handler', world.procs i = .call (some number) handler →
    world.procs j = .call (some number) handler' → i = j
  serves : ∀ i attempt stage req, world.Live i attempt stage → serves? stage = some req →
    Belongs config payload attempt req ∧ Valid req
  sound : ∀ i attempt stage, world.Live i attempt stage → SoundStage config stage
  submits : ∀ i number stage txID, world.Live i (some number) stage → stage ≠ .lookup txID
  attempted : Attempted payload world.shared.history
  past : ∀ i number stage req, world.Live i (some number) stage → serves? stage = some req →
    stage = .checkKey req ∨ number ∈ missedAttempts world.shared.history
  unrecorded : ∀ i number stage req, world.Live i (some number) stage →
    unrecorded? stage = some req → number ∉ recordedAttempts world.shared.history
  nonce : recordedAttempts world.shared.history = [] →
    Unrecorded payload.nonce world.shared.state.node.stores
  traced : world.shared.state.node.stores.Traced config (Anchorable config)
    (storedRequests world.shared.history)
  origins : ∀ entry ∈ storedRequests world.shared.history,
    entry.1 = payload ∨ Foreign config payload entry.1
  replies : ∀ reply ∈ world.shared.state.replies,
    RepliedTo config payload world.shared.history reply.1 reply.2
  returned : ∀ number reply result,
    world.shared.state.adapter = .finished number (some reply) result →
      (number, reply) ∈ world.shared.state.replies ∧ (∀ txID receipt processedAt,
        reply = .success txID receipt processedAt → Anchors payload result)

section

variable {I : Type} {adapterConfig : AdapterConfig} {config : Config} {crypto : Crypto}
  {payload : TransferRequest} {world : ExchangeWorld I} {i : I}

theorem Starts.retrying (starts : Starts config payload world) : Retrying config payload world := by
  have arriving (i : I) (attempt : Option Nat) (stage : Stage) (live : world.Live i attempt stage) :
      ∃ call, stage = .arriving call := by
    obtain ⟨call, same, _⟩ := starts.calls i attempt _ live
    exact ⟨call, same⟩
  have idle (i : I) (attempt : Option Nat) (stage : Stage) (live : world.Live i attempt stage) :
      serves? stage = none ∧ unrecorded? stage = none ∧ SoundStage config stage := by
    obtain ⟨call, rfl⟩ := arriving i attempt stage live
    exact ⟨rfl, rfl, trivial⟩
  constructor
  · intro i attempt handler proc
    obtain ⟨call, same, _⟩ := starts.calls i attempt handler proc
    exact .inr ⟨call, same⟩
  · intro i attempt boot call proc
    obtain ⟨call', same, rest⟩ := starts.calls i attempt _ proc
    obtain rfl := Stage.arriving.inj same
    exact rest
  · exact starts.numbers
  · intro i attempt stage req live serves
    rw [(idle i attempt stage live).1] at serves
    cases serves
  · exact fun i attempt stage live => (idle i attempt stage live).2.2
  · intro i number stage txID live
    obtain ⟨call, rfl⟩ := arriving i number stage live
    simp
  · rw [starts.history]
    exact ⟨Nat.zero_le 1, fun some => absurd rfl some, (fun _ member => nomatch member),
      (fun _ member => nomatch member)⟩
  · intro i number stage req live serves
    rw [(idle i number stage live).1] at serves
    cases serves
  · intro i number stage req live unrecorded
    rw [(idle i number stage live).2.1] at unrecorded
    cases unrecorded
  · intro _
    rw [starts.stores]
    exact ⟨rfl, (fun _ _ found => nomatch found), (fun _ _ member => nomatch member)⟩
  · rw [starts.stores, starts.history]
    exact Stores.traced_empty _ _
  · rw [starts.history]
    exact fun _ member => nomatch member
  · rw [starts.replies]
    exact fun _ member => nomatch member
  · intro number reply result finished
    rw [starts.adapter] at finished
    cases finished

/-! ## A step of the adapter -/

theorem failed_reply {number number' : Nat} {reply : Option Reply} {reply' : Reply}
    {status : Option Nat} {result : Except GrpcStatus AnchorTransferResult}
    (finished : AnchorTransfer.failed number reply status = .finished number' (some reply') result) :
    number' = number ∧ reply = some reply' := by
  unfold AnchorTransfer.failed at finished
  split at finished
  next => cases finished
  next =>
    obtain ⟨rfl, rfl, _⟩ := AnchorTransfer.finished.inj finished
    exact ⟨rfl, rfl⟩

theorem received_reply {number number' confirmed : Nat} {reply reply' : Reply}
    {result : Except GrpcStatus AnchorTransferResult}
    (finished : AnchorTransfer.received adapterConfig confirmed number reply =
      .finished number' (some reply') result) : number' = number ∧ reply' = reply := by
  cases reply with
  | success txID receipt processedAt =>
    simp only [AnchorTransfer.received] at finished
    split at finished
    all_goals
      obtain ⟨rfl, same, _⟩ := AnchorTransfer.finished.inj finished
      exact ⟨rfl, (Option.some.inj same).symm⟩
  | failure status error processedAt =>
    obtain ⟨rfl, same⟩ := failed_reply finished
    exact ⟨rfl, (Option.some.inj same).symm⟩

theorem received_anchors {stored : Receipt} {number number' confirmed : Nat} {processedAt : Int}
    {reply : Option Reply} {result : Except GrpcStatus AnchorTransferResult}
    (anchorable : Anchorable config payload stored)
    (finished : AnchorTransfer.received adapterConfig confirmed number
      (.success stored.txID (receiptToDTO stored) processedAt) = .finished number' reply result) :
    Anchors payload result := by
  obtain ⟨parsed, same, anchors⟩ : ∃ parsed,
      parseAnchorTransferResponse stored.txID (receiptToDTO stored) = .ok parsed ∧
        Anchors payload (.ok (enrichWithObserverConfirmations adapterConfig confirmed parsed)) :=
    parse_anchors anchorable
  simp only [AnchorTransfer.received, same] at finished
  obtain ⟨_, _, rfl⟩ := AnchorTransfer.finished.inj finished
  exact anchors

theorem Retrying.adapted {act : Act} {adapter : AnchorTransfer}
    (retrying : Retrying config payload world)
    (stepped : world.shared.state.adapter.step adapterConfig world.shared.state.replies act =
      some adapter) : Retrying config payload (world.adapted adapter) := by
  refine { retrying with returned := fun number reply result finished => ?_ }
  change adapter = _ at finished
  subst finished
  cases before : world.shared.state.adapter with
  | posting attempt =>
    rw [before] at stepped
    cases act <;> cases stepped
  | waiting attempt =>
    rw [before] at stepped
    cases act with
    | receive confirmed =>
      obtain ⟨own, found, received⟩ := Option.map_eq_some_iff.mp stepped
      have member : (attempt, own) ∈ world.shared.state.replies := by
        obtain ⟨before, after, same, _⟩ := List.lookup_eq_some_iff.mp found
        rw [same]
        simp
      obtain ⟨rfl, rfl⟩ := received_reply received
      refine ⟨member, fun txID receipt processedAt same => ?_⟩
      subst same
      obtain ⟨stored, anchorable, rfl, rfl⟩ := retrying.replies _ member
      exact received_anchors anchorable received
    | lose loss =>
      have none := (failed_reply (Option.some.inj stepped)).2
      cases none
    | _ => cases stepped
  | finished attempt reply' result' =>
    rw [before] at stepped
    cases act <;> cases stepped

theorem Retrying.happened {event : Event} {node : Node} (retrying : Retrying config payload world)
    (applied : event.apply config world.shared.state.node = some node) :
    Retrying config payload (world.happened node) := by
  have before {j : I} {attempt : Option Nat} {stage : Stage}
      (live : (world.happened node).Live j attempt stage) :
      (∃ call, stage = .arriving call) ∨ world.Live j attempt stage :=
    (retrying.begun.live_happened applied live).imp_right And.right
  constructor
  · exact retrying.begun.happened applied
  · exact retrying.arriving
  · exact retrying.numbers
  · intro j attempt stage req live serves
    rcases before live with ⟨call, rfl⟩ | live
    · cases serves
    · exact retrying.serves j attempt stage req live serves
  · intro j attempt stage live
    rcases before live with ⟨call, rfl⟩ | live
    · trivial
    · exact retrying.sound j attempt stage live
  · intro j number stage txID live
    rcases before live with ⟨call, rfl⟩ | live
    · simp
    · exact retrying.submits j number stage txID live
  · exact retrying.attempted
  · intro j number stage req live serves
    rcases before live with ⟨call, rfl⟩ | live
    · cases serves
    · exact retrying.past j number stage req live serves
  · intro j number stage req live unrecorded
    rcases before live with ⟨call, rfl⟩ | live
    · cases unrecorded
    · exact retrying.unrecorded j number stage req live unrecorded
  · exact fun none => (retrying.nonce none).event applied
  · exact Event.traced retrying.traced applied
  · exact retrying.origins
  · exact retrying.replies
  · exact retrying.returned

/-! ## A step of a call -/

section

variable {attempt : Option Nat} {boot : Nat} {stage next : Stage} {answer : Answer} {node : Node}
  {req : TransferRequest} {number : Nat}

theorem Retrying.belongs (retrying : Retrying config payload world)
    (own : world.procs i = .call attempt ⟨boot, stage⟩)
    (live : world.Live i attempt stage ∨ ∃ call, stage = .arriving call)
    (moves : Stage.Moves config crypto world.shared.state.node answer stage node next)
    (serves : serves? next = some req) : Belongs config payload attempt req ∧ Valid req := by
  rcases moves_serves moves serves with ⟨rfl, valid, _⟩ | ⟨rfl, _, _⟩ | ⟨_, before⟩
  · exact ⟨(retrying.arriving i attempt boot _ own).2 req rfl, valid⟩
  · exact retrying.serves i attempt _ req (live.resolve_right (by simp)) rfl
  · refine retrying.serves i attempt stage req (live.resolve_right ?_) before
    rintro ⟨call, rfl⟩
    cases before

theorem Retrying.first (retrying : Retrying config payload world)
    (live : world.Live i attempt stage ∨ ∃ call, stage = .arriving call)
    (safe : RetrySafe config world i (.handle answer))
    (moves : Stage.Moves config crypto world.shared.state.node answer stage node next)
    (before : stage = .checkKey req) (after : next = .checkNonce req)
    (isAttempt : attempt.isSome = true) :
    missedAttempts world.shared.history = [] ∧ Valid payload := by
  subst before after
  have alive : world.Live i attempt (.checkKey req) := live.resolve_right (by simp)
  obtain ⟨belongs, valid⟩ := retrying.serves i attempt _ req alive rfl
  have none := (safe.2 (attempt, .checkKey req) (ExchangeWorld.live?_eq_some.mpr alive)
    isAttempt).1 req rfl (moves_missing moves)
  obtain ⟨number, rfl⟩ := Option.isSome_iff_exists.mp isAttempt
  obtain rfl : req = payload := belongs
  exact ⟨none, valid⟩

theorem Retrying.pastNow (retrying : Retrying config payload world)
    (live : world.Live i attempt stage ∨ ∃ call, stage = .arriving call) :
    ∀ number req, attempt = some number → serves? stage = some req →
      stage = .checkKey req ∨ number ∈ missedAttempts world.shared.history := by
  rintro number req rfl serves
  refine retrying.past i number stage req (live.resolve_right ?_) serves
  rintro ⟨call, rfl⟩
  cases serves

theorem Retrying.attemptedNext (retrying : Retrying config payload world)
    (live : world.Live i attempt stage ∨ ∃ call, stage = .arriving call)
    (safe : RetrySafe config world i (.handle answer))
    (moves : Stage.Moves config crypto world.shared.state.node answer stage node next) :
    Attempted payload (world.shared.history ++
      callShows world.shared.state.node.now attempt stage next) :=
  retrying.attempted.shows (moves_shows moves attempt)
    (fun _ before after => retrying.first live safe moves before after) (retrying.pastNow live)

-- The nonce of the payload is known to nobody when an attempt checks it.
theorem Retrying.fresh (retrying : Retrying config payload world)
    (live : world.Live i (some number) (.checkNonce req)) :
    world.shared.state.node.stores.nonceExists config.toStoreConfig world.shared.state.node.now
      req.nonce = false := by
  obtain ⟨rfl : req = payload, _⟩ := retrying.serves i _ _ req live rfl
  have missed := (retrying.past i number _ req live rfl).resolve_left (by simp)
  have unrecorded := retrying.unrecorded i number _ req live rfl
  have none : recordedAttempts world.shared.history = [] := by
    refine List.eq_nil_iff_forall_not_mem.mpr fun other member => ?_
    obtain rfl := retrying.attempted.alone (retrying.attempted.recorded other member) missed
    exact unrecorded member
  unfold Stores.nonceExists
  rw [(retrying.nonce none).memory]
  rfl

-- The entry under the payload's key is one of the payload.
theorem Retrying.cached (retrying : Retrying config payload world) {stored : Receipt}
    (found : world.shared.state.node.stores.getKey world.shared.state.node.now
      payload.idempotencyKey = some stored) : Anchorable config payload stored := by
  obtain ⟨entry, known, _, has⟩ := Stores.getKey_eq_some.mp found
  obtain ⟨origin, member, answersFor, _, anchorable⟩ :=
    retrying.traced.memory _ entry known stored has
  rcases retrying.origins origin member with same | foreign
  · exact same ▸ anchorable
  · exact absurd answersFor foreign.2

theorem begin_finished {now : Time} {reply : Reply}
    (finished : Call.begin now (.submitTransfer payload) = .finished reply) :
    ∃ status error processedAt, reply = .failure status error processedAt ∧
      error.code ≠ "REPLAY_DETECTED" ∧ ¬ Valid payload := by
  simp only [Call.begin] at finished
  split at finished
  next errors =>
    obtain rfl := Stage.finished.inj finished
    exact ⟨_, _, _, rfl, by simp, fun valid => errors valid.1⟩
  next =>
    split at finished
    next err invalid =>
      obtain rfl := Stage.finished.inj finished
      refine ⟨_, _, _, rfl, by simp, fun valid => ?_⟩
      rw [valid.2] at invalid
      cases invalid
    next => cases finished

theorem Retrying.repliedNext (retrying : Retrying config payload world)
    (own : world.procs i = .call (some number) ⟨boot, stage⟩)
    (live : world.Live i (some number) stage ∨ ∃ call, stage = .arriving call)
    (safe : RetrySafe config world i (.handle answer))
    (moves : Stage.Moves config crypto world.shared.state.node answer stage node next)
    {reply : Reply} (finished : next = .finished reply) :
    RepliedTo config payload world.shared.history number reply := by
  cases moves with
  | @begin call =>
    obtain rfl := (retrying.arriving i _ boot call own).1 rfl
    obtain ⟨status, error, processedAt, rfl, other, invalid⟩ := begin_finished finished
    exact ⟨other, fun valid => absurd valid invalid⟩
  | @cached req receipt found =>
    obtain ⟨rfl : req = payload, _⟩ :=
      retrying.serves i _ _ req (live.resolve_right (by simp)) rfl
    obtain rfl := Stage.finished.inj finished
    exact ⟨receipt, retrying.cached found, rfl, rfl⟩
  | @replayed req known =>
    rw [retrying.fresh (live.resolve_right (by simp))] at known
    cases known
  | @outside req outside =>
    have alive : world.Live i (some number) (.checkTimestamp req) := live.resolve_right (by simp)
    have inside := (safe.2 _ (ExchangeWorld.live?_eq_some.mpr alive) rfl).2 req rfl
    rw [outside] at inside
    cases inside
  | @refused req clientSubmitTime round err last =>
    obtain rfl := Stage.finished.inj finished
    refine ⟨by simp, fun _ => ?_⟩
    exact (retrying.pastNow live number req rfl rfl).resolve_left (by simp)
  | @answer req receipt =>
    have alive : world.Live i (some number) (.answer req receipt) := live.resolve_right (by simp)
    obtain ⟨rfl : req = payload, _⟩ := retrying.serves i _ _ req alive rfl
    obtain rfl := Stage.finished.inj finished
    exact ⟨receipt, retrying.sound i _ _ alive, rfl, rfl⟩
  | @unknown txID => exact absurd rfl (retrying.submits i number _ txID (live.resolve_right (by simp)))
  | _ => cases finished

theorem RepliedTo.grow {reply : Reply} (replied : RepliedTo config payload history number reply)
    (more : List Shown) : RepliedTo config payload (history ++ more) number reply := by
  cases reply with
  | success txID receipt processedAt => exact replied
  | failure status error processedAt =>
    refine ⟨replied.1, fun valid => ?_⟩
    rw [missedAttempts_append]
    exact List.mem_append_left _ (replied.2 valid)

theorem Retrying.pastNext (retrying : Retrying config payload world)
    (live : world.Live i (some number) stage ∨ ∃ call, stage = .arriving call)
    (moves : Stage.Moves config crypto world.shared.state.node answer stage node next)
    (serves : serves? next = some req) :
    next = .checkKey req ∨ number ∈ missedAttempts (world.shared.history ++
      callShows world.shared.state.node.now (some number) stage next) := by
  rw [missedAttempts_append]
  rcases moves_serves moves serves with ⟨_, _, rfl⟩ | ⟨rfl, rfl, _⟩ | ⟨other, before⟩
  · exact .inl rfl
  · exact .inr (List.mem_append_right _ (List.mem_singleton.mpr rfl))
  · have missed := (retrying.pastNow live number req rfl before).resolve_left (other req)
    exact .inr (List.mem_append_left _ missed)

theorem recordedAttempts_shows (shows : ShowsOf attempt stage next shown)
    (recorded : number ∈ recordedAttempts shown) :
    attempt = some number ∧ ∃ req timestamp, stage = .addNonce req timestamp := by
  cases shows with
  | recorded own before after same =>
    subst same
    obtain rfl := List.mem_singleton.mp recorded
    exact ⟨own, _, _, before⟩
  | _ =>
    subst_vars
    cases recorded

theorem Retrying.unrecordedNext (retrying : Retrying config payload world)
    (live : world.Live i (some number) stage ∨ ∃ call, stage = .arriving call)
    (safe : RetrySafe config world i (.handle answer))
    (moves : Stage.Moves config crypto world.shared.state.node answer stage node next)
    (unrecorded : unrecorded? next = some req) :
    number ∉ recordedAttempts (world.shared.history ++
      callShows world.shared.state.node.now (some number) stage next) := by
  rw [recordedAttempts_append]
  intro member
  rcases List.mem_append.mp member with old | new
  · rcases moves_unrecorded moves unrecorded with ⟨before, after⟩ | ⟨before, _⟩
    · have none := (retrying.first live safe moves before after rfl).1
      have missed := retrying.attempted.recorded number old
      rw [none] at missed
      cases missed
    · refine retrying.unrecorded i number stage req (live.resolve_right ?_) before old
      rintro ⟨call, rfl⟩
      cases before
  · obtain ⟨_, own, timestamp, before⟩ := recordedAttempts_shows (moves_shows moves _) new
    rcases moves_unrecorded moves unrecorded with ⟨other, _⟩ | ⟨_, other⟩
    · rw [other] at before
      cases before
    · exact other own timestamp before

theorem Retrying.nonceNext (retrying : Retrying config payload world)
    (live : world.Live i attempt stage ∨ ∃ call, stage = .arriving call)
    (moves : Stage.Moves config crypto world.shared.state.node answer stage node next)
    (none : recordedAttempts (world.shared.history ++
      callShows world.shared.state.node.now attempt stage next) = []) :
    Unrecorded payload.nonce node.stores := by
  rw [recordedAttempts_append, List.append_eq_nil_iff] at none
  refine (retrying.nonce none.1).moves ?_ moves
  rintro req timestamp rfl
  obtain ⟨belongs, _⟩ := retrying.serves i attempt _ req (live.resolve_right (by simp)) rfl
  cases attempt with
  | none => exact belongs.1
  | some number =>
    cases moves with
    | addNonce => cases none.2

theorem storedRequests_shows (shows : ShowsOf attempt stage next shown)
    {entry : TransferRequest × Time} (stored : entry ∈ storedRequests shown) :
    ∃ receipt, stage = .storeKey entry.1 receipt := by
  cases shows with
  | @stored req receipt time before same =>
    subst same
    obtain rfl := List.mem_singleton.mp stored
    exact ⟨receipt, before⟩
  | _ =>
    subst_vars
    cases stored

theorem Retrying.tracedNext (retrying : Retrying config payload world)
    (live : world.Live i attempt stage ∨ ∃ call, stage = .arriving call)
    (moves : Stage.Moves config crypto world.shared.state.node answer stage node next) :
    node.stores.Traced config (Anchorable config) (storedRequests (world.shared.history ++
      callShows world.shared.state.node.now attempt stage next)) := by
  rw [storedRequests_append]
  cases moves.keys with
  | cached => exact retrying.traced.grow _
  | @storeKey req receipt =>
    have anchorable := retrying.sound i attempt _ (live.resolve_right (by simp))
    have stored : storedRequests (callShows world.shared.state.node.now attempt
        (.storeKey req receipt) (.answer req receipt)) =
        [(req, world.shared.state.node.now)] := by
      cases attempt <;> rfl
    rw [stored]
    exact retrying.traced.storeKey anchorable
  | answer => exact retrying.traced.grow _
  | other memory disk writes =>
    refine Stores.Traced.grow ⟨?_, ?_, fun path entry member => ?_⟩ _
    · rw [memory]
      exact retrying.traced.memory
    · rw [disk]
      exact retrying.traced.disk
    · exact retrying.traced.writes path entry (writes path entry member)

theorem Retrying.originsNext (retrying : Retrying config payload world)
    (live : world.Live i attempt stage ∨ ∃ call, stage = .arriving call)
    (moves : Stage.Moves config crypto world.shared.state.node answer stage node next) :
    ∀ entry ∈ storedRequests (world.shared.history ++
        callShows world.shared.state.node.now attempt stage next),
      entry.1 = payload ∨ Foreign config payload entry.1 := by
  rw [storedRequests_append]
  intro entry member
  rcases List.mem_append.mp member with old | new
  · exact retrying.origins entry old
  · obtain ⟨receipt, rfl⟩ := storedRequests_shows (moves_shows moves attempt) new
    obtain ⟨belongs, _⟩ := retrying.serves i attempt _ _ (live.resolve_right (by simp)) rfl
    cases attempt with
    | none => exact .inr belongs
    | some number => exact .inl belongs

theorem Retrying.call [DecidableEq I] (retrying : Retrying config payload world)
    (own : world.procs i = .call attempt ⟨boot, stage⟩)
    (live : world.Live i attempt stage ∨ ∃ call, stage = .arriving call)
    (safe : RetrySafe config world i (.handle answer))
    (moves : Stage.Moves config crypto world.shared.state.node answer stage node next) :
    Retrying config payload (world.moved i attempt node stage next) := by
  have sameBoot : node.boot = world.shared.state.node.boot := moves.boot
  constructor
  · exact retrying.begun.moved sameBoot
  · intro j attempt' boot' call proc
    rcases ExchangeWorld.procs_moved proc with ⟨rfl, rfl, same⟩ | ⟨_, proc⟩
    · exact absurd same.symm (moves_not_arriving moves call)
    · exact retrying.arriving j attempt' boot' call proc
  · intro j k number handler handler' first second
    rcases ExchangeWorld.procs_moved first with ⟨rfl, rfl, _⟩ | ⟨_, old⟩ <;>
      rcases ExchangeWorld.procs_moved second with ⟨rfl, same, _⟩ | ⟨_, old'⟩
    · rfl
    · exact retrying.numbers _ _ number _ _ own old'
    · exact retrying.numbers _ _ number _ _ old (same ▸ own)
    · exact retrying.numbers _ _ number _ _ old old'
  · intro j attempt' stage' req alive serves
    rcases ExchangeWorld.live_moved sameBoot alive with ⟨rfl, rfl, rfl⟩ | ⟨_, before⟩
    · exact retrying.belongs own live moves serves
    · exact retrying.serves j attempt' stage' req before serves
  · intro j attempt' stage' alive
    rcases ExchangeWorld.live_moved sameBoot alive with ⟨rfl, rfl, rfl⟩ | ⟨_, before⟩
    · refine SoundStage.step ?_ safe.1 moves
      rcases live with live | ⟨call, rfl⟩
      · exact retrying.sound _ _ _ live
      · trivial
    · exact retrying.sound j attempt' stage' before
  · rintro j number stage' txID alive rfl
    rcases ExchangeWorld.live_moved sameBoot alive with ⟨rfl, rfl, rfl⟩ | ⟨_, before⟩
    · obtain ⟨txID', rfl⟩ := moves_lookup moves
      exact nomatch (retrying.arriving _ _ _ _ own).1 rfl
    · exact retrying.submits j number _ txID before rfl
  · exact retrying.attemptedNext live safe moves
  · intro j number stage' req alive serves
    rcases ExchangeWorld.live_moved sameBoot alive with ⟨rfl, rfl, rfl⟩ | ⟨_, before⟩
    · exact retrying.pastNext live moves serves
    · refine (retrying.past j number stage' req before serves).imp_right fun missed => ?_
      exact missedAttempts_append ▸ List.mem_append_left _ missed
  · intro j number stage' req alive unrecorded
    rcases ExchangeWorld.live_moved sameBoot alive with ⟨rfl, rfl, rfl⟩ | ⟨other, before⟩
    · exact retrying.unrecordedNext live safe moves unrecorded
    · refine fun member => (List.mem_append.mp (recordedAttempts_append ▸ member)).elim
        (retrying.unrecorded j number stage' req before unrecorded) fun new => ?_
      obtain ⟨rfl, _⟩ := recordedAttempts_shows (moves_shows moves attempt) new
      exact other (retrying.numbers j i number _ _ before own)
  · exact retrying.nonceNext live moves
  · exact retrying.tracedNext live moves
  · exact retrying.originsNext live moves
  · intro reply member
    rcases List.mem_append.mp member with old | new
    · exact (retrying.replies reply old).grow _
    · cases attempt with
      | none => cases new
      | some number =>
        unfold replied at new
        split at new
        next finished =>
          obtain rfl := Option.some.inj ‹_›
          obtain rfl := List.mem_singleton.mp new
          exact (retrying.repliedNext own live safe moves rfl).grow _
        next => cases new
  · intro number reply result finished
    obtain ⟨member, anchors⟩ := retrying.returned number reply result finished
    exact ⟨List.mem_append_left _ member, anchors⟩

end

theorem Retrying.served (retrying : Retrying config payload world) : Served payload world := by
  constructor
  · rintro ⟨number, reply⟩ member status error processedAt rfl
    exact (retrying.replies _ member).1
  · intro earlier txID proposed _ later reply result order finished
    have missed := retrying.attempted.proposed _ proposed
    have valid := retrying.attempted.valid (List.ne_nil_of_mem missed)
    obtain ⟨member, anchors⟩ := retrying.returned later reply result finished
    cases reply with
    | success txID receipt processedAt => exact anchors txID receipt processedAt rfl
    | failure status error processedAt =>
      have missed' := (retrying.replies _ member).2 valid
      have same := retrying.attempted.alone missed missed'
      exact absurd same (Nat.ne_of_lt order)

theorem retries_not_replays [DecidableEq I] {start : ExchangeWorld I}
    (starts : Starts config payload start)
    (reached : (observedExchange adapterConfig config crypto).Reaches (RetrySafe config) start
      world) : Served payload world := by
  refine (reached.invariant (Retrying config payload) starts.retrying ?_).served
  intro world i act after retrying safe fired
  cases ExchangeWorld.fire_moves fired with
  | adapter stepped => exact retrying.adapted stepped
  | call own moves live => exact retrying.call own live safe moves
  | environment applied => exact retrying.happened applied

end

/-! ## An attempt beside an earlier one -/

def observers : AdapterConfig where
  observers := 0
  requireTransparencyQuorum := false

def aliceAttempt (number : Nat) : Party :=
  .call (some number) { boot := 0, stage := .arriving (.submitTransfer aliceTransfer) }

def twoAttempts : ExchangeWorld (Fin 4) where
  shared :=
    { state := { node := bankNode, adapter := .posting 0, replies := [] }
      history := [] }
  procs i :=
    if i = 0 then .adapter
    else if i = 1 then aliceAttempt 0
    else if i = 2 then aliceAttempt 1
    else .environment

theorem twoAttempts_starts : Starts bankConfig aliceTransfer twoAttempts where
  stores := rfl
  adapter := rfl
  replies := rfl
  history := rfl
  calls i attempt handler proc := by
    have arrives (number : Nat) (own : aliceAttempt number = .call attempt handler) :
        ∃ call, handler.stage = .arriving call ∧
          (attempt.isSome = true → call = .submitTransfer aliceTransfer) ∧
          ∀ req, call = .submitTransfer req → Belongs bankConfig aliceTransfer attempt req := by
      obtain ⟨rfl, rfl⟩ := Party.call.inj own
      refine ⟨_, rfl, fun _ => rfl, fun req same => ?_⟩
      exact (Call.submitTransfer.inj same).symm
    unfold twoAttempts at proc
    dsimp only at proc
    split at proc
    next => cases proc
    next =>
      split at proc
      next => exact arrives 0 proc
      next =>
        split at proc
        next => exact arrives 1 proc
        next => cases proc
  numbers i j number handler handler' first second := by
    have index (i : Fin 4) (handler : Handler)
        (proc : twoAttempts.procs i = .call (some number) handler) : i.val = number + 1 := by
      unfold twoAttempts at proc
      dsimp only at proc
      split at proc
      next => cases proc
      next =>
        split at proc
        next own =>
          obtain ⟨same, _⟩ := Party.call.inj proc
          rw [own, ← Option.some.inj same]
          rfl
        next =>
          split at proc
          next own =>
            obtain ⟨same, _⟩ := Party.call.inj proc
            rw [own, ← Option.some.inj same]
            rfl
          next => cases proc
    exact Fin.ext ((index i handler first).trans (index j handler' second).symm)

-- The labels of a run of the gateway, for call `i` and the environment.
def handled {I : Type} (labels : List (I × (Answer ⊕ Event))) : List (I × Act) :=
  labels.map fun (i, action) => (i, Sum.elim Act.handle Act.happen action)

-- The first attempt waits for the ledger when the adapter gives up.
def overtaken : List (Fin 4 × Act) :=
  [(0, .post)] ++ handled (callsLedger 1) ++ [(0, .lose .noResponse), (0, .post)] ++
    handled (proceeds 2 3)

theorem retry_refused_as_replay :
    ¬ ∀ (labels : List (Fin 4 × Act)) (world : ExchangeWorld (Fin 4)),
      (observedExchange observers bankConfig sampleCrypto).run twoAttempts labels = some world →
        Served aliceTransfer world := by
  intro served
  have refused : ((observedExchange observers bankConfig sampleCrypto).run twoAttempts
      overtaken).map (fun world => world.shared.state.replies) =
      some [(1, .failure 409
        { code := "REPLAY_DETECTED", message := "Replay detected", details := "Nonce already used" }
        1700000000000)] := by
    decide +kernel
  obtain ⟨world, ran, replies⟩ := Option.map_eq_some_iff.mp refused
  exact (served overtaken world ran).1 _ (replies ▸ List.mem_singleton.mpr rfl) _ _ _ rfl rfl

-- The first attempt has stored its key, and only its reply is lost.
def answered : List (Fin 4 × Act) :=
  [(0, .post)] ++ handled (carriedOut 1 3) ++ [(0, .lose .gatewayTimeout), (0, .post)] ++
    handled (proceeds 2 2) ++ [(0, .receive 0)]

theorem retries_not_replays_answered :
    ∃ world, (observedExchange observers bankConfig sampleCrypto).run twoAttempts answered =
      some world ∧ Served aliceTransfer world := by
  have reached : ((observedExchange observers bankConfig sampleCrypto).checkedRun
      (RetrySafe bankConfig) twoAttempts answered).isSome := by
    decide +kernel
  obtain ⟨world, ran⟩ := Option.isSome_iff_exists.mp reached
  have runs := Machine.Runs.checked .nil ran
  exact ⟨world, runs.run, retries_not_replays twoAttempts_starts runs.reaches⟩

end Kufi.ChainService

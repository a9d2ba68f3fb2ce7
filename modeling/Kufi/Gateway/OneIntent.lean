import Kufi.Gateway.OwnTransfer
import Kufi.Gateway.Submissions

set_option autoImplicit false

/-!
# One intent for each key

A request looks its key up before a long submission and stores it afterwards.
Until then only the handler knows of the transaction it has submitted.
-/

namespace Kufi.Gateway

open Shared Chaincode

/-- The request of a handler that has missed its key and not yet stored it. -/
def Stage.inFlight? : Stage → Option TransferRequest
  | .checkNonce req | .checkTimestamp req | .recordNonce req | .addNonce req _ | .prepare req
  | .calling req _ _ _ | .queryBlock req _ _ | .queryTransaction req _ _ _ | .build req _
  | .storeReceipt req _ | .storeKey req _ => some req
  | _ => none

def Stage.submission? : Stage → Option (TransferRequest × Submission)
  | .calling req _ _ call => some (req, call)
  | _ => none

/-- An error does not hide that the transaction has been ordered. -/
def Submission.Honest (fabric : Fabric) : Submission → FabricAnswer → Prop
  | .submitting _ _ _, .submission (some _) delivered => delivered = false
  | .awaiting _ intent _, .status (.error _) => (fabric.rejected.lookup intent.txID).isSome
  | _, _ => True

instance (fabric : Fabric) (call : Submission) (outcome : FabricAnswer) :
    Decidable (call.Honest fabric outcome) := by
  unfold Submission.Honest
  split <;> infer_instance

section

variable {I : Type} (config : Config) (key : String)

def Answer.Honest (fabric : Fabric) (call : Submission) : Answer → Prop
  | .fabric outcome => call.Honest fabric outcome
  | _ => True

/-- What every step of a run must meet for the key to have one intent at most. -/
def OneIntentSafe (world : GatewayWorld I) (i : I) : Answer ⊕ Event → Prop
  | .inl answer =>
    (∀ req ∈ (world.stage? i).bind Stage.keyCheck?, req.idempotencyKey = key →
      -- the lookup is within the lifetime of what has been stored under the key
      (∀ entry ∈ storedEntries world.shared.history, entry.1.idempotencyKey = key →
        world.shared.state.now ≤ entry.2 + config.idempotencyTTL) ∧
      -- and misses the key only when no other request with it is in flight
      (world.shared.state.stores.getKey world.shared.state.now key = none →
        ∀ j, ∀ other ∈ (world.stage? j).bind Stage.inFlight?, other.idempotencyKey ≠ key)) ∧
    ∀ work ∈ (world.stage? i).bind Stage.submission?, work.1.idempotencyKey = key →
      answer.Honest world.shared.state.fabric work.2
  | .inr .restart =>
    -- a request that has submitted its transaction has stored its key, and so has the file
    (world.shared.state.fabric.intentsOf key ≠ [] →
      ∀ j, ∀ other ∈ (world.stage? j).bind Stage.inFlight?, other.idempotencyKey ≠ key) ∧
    ∀ entry ∈ world.shared.state.stores.idempotency.get key,
      world.shared.state.now ≤ entry.expiresAt →
        (Stores.loadEntries config.toStoreConfig world.shared.state.now
          world.shared.state.stores.disk).get key = some entry
  | .inr _ => True

instance (fabric : Fabric) (call : Submission) (answer : Answer) :
    Decidable (answer.Honest fabric call) :=
  match answer with
  | .fabric _ => inferInstanceAs (Decidable (Submission.Honest _ _ _))
  | .proceed | .block _ | .transaction _ => .isTrue trivial

instance [Fintype I] (world : GatewayWorld I) (i : I) (action : Answer ⊕ Event) :
    Decidable (OneIntentSafe config key world i action) :=
  match action with
  | .inl _ => inferInstanceAs (Decidable (_ ∧ _))
  | .inr .restart => inferInstanceAs (Decidable (_ ∧ _))
  | .inr (.tick _) | .inr (.commit _) | .inr (.invalidate _ _) | .inr (.finishWrite _ _)
  | .inr .cleanupKeys | .inr (.cleanupNonces _) => .isTrue trivial

end

/-! ## A step of a handler -/

-- What the handler's stage says of the intents with its key.
def Stage.Agrees (own : List Submitted) : Stage → Prop
  | .calling _ _ _ (.awaiting _ intent _) => ∀ submitted ∈ own, submitted.intent.txID = intent.txID
  | .calling _ _ _ (.returned (.ok _)) | .queryBlock _ _ _ | .queryTransaction _ _ _ _ | .build _ _
  | .storeReceipt _ _ | .storeKey _ _ => True
  | _ => own = []

theorem Submission.Unsubmitted.agrees {call : Submission} (unsubmitted : call.Unsubmitted)
    (req : TransferRequest) (clientSubmitTime : Time) (round : Round) (own : List Submitted) :
    (Stage.calling req clientSubmitTime round call).Agrees own ↔ own = [] := by
  cases call with
  | awaiting => cases unsubmitted
  | returned result =>
    cases result with
    | ok => cases unsubmitted
    | error => rfl
  | _ => rfl

inductive IntentMoves (config : Config) (crypto : Crypto) (s : Node) (answer : Answer) :
    Stage → Node → Stage → Prop
  | missed {req : TransferRequest} (missing : s.stores.getKey s.now req.idempotencyKey = none) :
      IntentMoves config crypto s answer (.checkKey req) s (.checkNonce req)
  | call {req : TransferRequest} {clientSubmitTime : Time} {round : Round} {call next : Submission}
      {outcome : FabricAnswer} {fabric : Fabric} (given : answer = .fabric outcome)
      (moves : SubmissionMoves (invocation config crypto req round) s.fabric outcome call fabric
        next) :
      IntentMoves config crypto s answer (.calling req clientSubmitTime round call) { s with fabric }
        (.calling req clientSubmitTime round next)
  | storeKey {req : TransferRequest} {receipt : Receipt} :
      IntentMoves config crypto s answer (.storeKey req receipt)
        { s with
          stores := s.stores.storeKey config.toStoreConfig s.now req.idempotencyKey receipt }
        (.answer req receipt)
  | other {stage next : Stage} {after : Node} (fabric : after.fabric = s.fabric)
      (memory : after.stores.idempotency = s.stores.idempotency)
      (idle : next.transaction? = none)
      (goes : (next.inFlight? = stage.inFlight? ∧ ∀ own, stage.Agrees own → next.Agrees own) ∨
        (next.inFlight? = none ∧ ∀ own, stage.Agrees own → own = [])) :
      IntentMoves config crypto s answer stage after next

theorem Stage.Moves.intents {config : Config} {crypto : Crypto} {s after : Node}
    {stage next : Stage} {answer : Answer}
    (moves : Stage.Moves config crypto s answer stage after next) :
    IntentMoves config crypto s answer stage after next := by
  cases moves with
  | missed missing => exact .missed missing
  | call given stepped => exact .call given (Submission.step_moves stepped)
  | storeKey => exact .storeKey
  | @begin call =>
    have outside : (call.begin s.now).inFlight? = none ∧ (call.begin s.now).transaction? = none := by
      cases call <;> simp only [Call.begin] <;> split <;> try split
      all_goals exact ⟨rfl, rfl⟩
    exact .other rfl rfl outside.2 (.inr ⟨outside.1, fun _ agrees => agrees⟩)
  | replayed | outside | refused | cached =>
    exact .other rfl rfl rfl (.inr ⟨rfl, fun _ agrees => agrees⟩)
  | queryBlock | queryTransaction | build | storeReceipt | committed =>
    exact .other rfl rfl rfl (.inl ⟨rfl, fun _ _ => trivial⟩)
  | _ => exact .other rfl rfl rfl (.inl ⟨rfl, fun _ agrees => agrees⟩)

/-! ## Runs -/

section

variable {I : Type} (config : Config) (key : String)

/-- The key is in memory, as one of its requests has stored it. -/
def Stores.Remembers (stores : Stores) (history : List Observation) : Prop :=
  ∃ entry receipt, stores.idempotency.get key = some entry ∧ entry.receipt = some receipt ∧
    ∃ stored ∈ storedEntries history, stored.1.idempotencyKey = key ∧
      entry.expiresAt = stored.2 + config.idempotencyTTL

/-- The lifetime of what a request has stored under the key is over. -/
def Expired (now : Time) (history : List Observation) : Prop :=
  ∃ stored ∈ storedEntries history, stored.1.idempotencyKey = key ∧
    stored.2 + config.idempotencyTTL < now

def GatewayWorld.InFlight (world : GatewayWorld I) : Prop :=
  ∃ j stage req, world.Live j stage ∧ stage.inFlight? = some req ∧ req.idempotencyKey = key

structure OneIntent (world : GatewayWorld I) : Prop where
  proposing : world.Proposing
  once : (world.shared.state.fabric.intentsOf key).length ≤ 1
  alone : ∀ j k stage stage' req req', world.Live j stage → world.Live k stage' →
    stage.inFlight? = some req → stage'.inFlight? = some req' → req.idempotencyKey = key →
    req'.idempotencyKey = key → j = k
  agrees : ∀ j stage req, world.Live j stage → stage.inFlight? = some req →
    req.idempotencyKey = key → stage.Agrees (world.shared.state.fabric.intentsOf key)
  known : world.shared.state.fabric.intentsOf key = [] ∨ world.InFlight key ∨
    world.shared.state.stores.Remembers config key world.shared.history ∨
    Expired config key world.shared.state.now world.shared.history

variable {config key} {crypto : Crypto} {world : GatewayWorld I} {i : I} {state : Node}

theorem GatewayWorld.Installed.oneIntent (installed : world.Installed) :
    OneIntent config key world := by
  have outside (j : I) (stage : Stage) (live : world.Live j stage) : stage.inFlight? = none := by
    obtain ⟨call, rfl⟩ := installed.arriving j _ live
    rfl
  have none : world.shared.state.fabric.intentsOf key = [] := by
    rw [installed.fabric]
    rfl
  refine ⟨installed.proposing, ?_, fun j k stage stage' req req' live _ flying => ?_,
    fun j stage req live flying => ?_, .inl none⟩
  · rw [none]
    exact Nat.zero_le 1
  · rw [outside j stage live] at flying
    cases flying
  · rw [outside j stage live] at flying
    cases flying

theorem Stage.Agrees.subperm {stage : Stage} {own own' : List Submitted} (agrees : stage.Agrees own)
    (fewer : own'.Subperm own) : stage.Agrees own' := by
  have empty (none : own = []) : own' = [] := by
    subst none
    exact List.subperm_nil.mp fewer
  cases stage with
  | calling req clientSubmitTime round call =>
    cases call with
    | awaiting => exact fun submitted member => agrees submitted (fewer.subset member)
    | returned result =>
      cases result with
      | ok => trivial
      | error => exact empty agrees
    | _ => exact empty agrees
  | queryBlock | queryTransaction | build | storeReceipt | storeKey => trivial
  | _ => exact empty agrees

/-! ### A step of the environment -/

theorem Event.remembers {event : Event} (safe : OneIntentSafe config key world i (.inr event))
    (applied : event.apply config world.shared.state = some state)
    (remembers : world.shared.state.stores.Remembers config key world.shared.history) :
    state.stores.Remembers config key world.shared.history ∨
      Expired config key state.now world.shared.history := by
  obtain ⟨entry, receipt, found, has, stored, member, own, expires⟩ := remembers
  have stays (kept : state.stores.idempotency.get key = some entry) :
      state.stores.Remembers config key world.shared.history :=
    ⟨entry, receipt, kept, has, stored, member, own, expires⟩
  cases event with
  | commit i =>
    obtain ⟨_, _, rfl⟩ := Option.map_eq_some_iff.mp applied
    exact .inl (stays found)
  | invalidate i code =>
    obtain ⟨_, _, rfl⟩ := Option.map_eq_some_iff.mp applied
    exact .inl (stays found)
  | finishWrite i outcome =>
    obtain ⟨_, finished, rfl⟩ := Option.map_eq_some_iff.mp applied
    obtain ⟨write, _, rfl⟩ := Option.map_eq_some_iff.mp finished
    cases write <;> exact .inl (stays found)
  | cleanupKeys =>
    obtain rfl := Option.some.inj applied
    by_cases past : entry.expiresAt < world.shared.state.now
    · exact .inr ⟨stored, member, own, expires ▸ past⟩
    · exact .inl (stays (Dict.get_keep.mpr ⟨found, by simp [past]⟩))
  | restart =>
    obtain rfl := Option.some.inj applied
    by_cases past : entry.expiresAt < world.shared.state.now
    · exact .inr ⟨stored, member, own, expires ▸ past⟩
    · exact .inl (stays (safe.2 entry found (Int.not_lt.mp past)))
  | _ =>
    obtain rfl := Option.some.inj applied
    exact .inl (stays found)

theorem OneIntent.happened {event : Event} (one : OneIntent config key world)
    (safe : OneIntentSafe config key world i (.inr event))
    (applied : event.apply config world.shared.state = some state) :
    OneIntent config key (world.happened state) := by
  have fewer := (Event.fabric applied).2.2 key
  have before (j : I) (stage : Stage) (req : TransferRequest)
      (live : (world.happened state).Live j stage) (flying : stage.inFlight? = some req) :
      world.Live j stage := by
    rcases one.proposing.begun.live_happened applied live with ⟨call, rfl⟩ | ⟨_, live⟩
    · cases flying
    · exact live
  refine ⟨one.proposing.happened applied, fewer.length_le.trans one.once,
    fun j k stage stage' req req' live live' flying flying' => ?_,
    fun j stage req live flying own => ?_, ?_⟩
  · exact one.alone j k stage stage' req req' (before j stage req live flying)
      (before k stage' req' live' flying') flying flying'
  · exact (one.agrees j stage req (before j stage req live flying) flying own).subperm fewer
  · rcases one.known with none | ⟨j, stage, req, live, flying, own⟩ | remembers | expired
    · rw [none] at fewer
      exact .inl (List.subperm_nil.mp fewer)
    · by_cases restarted : event = .restart
      · subst restarted
        by_cases none : world.shared.state.fabric.intentsOf key = []
        · rw [none] at fewer
          exact .inl (List.subperm_nil.mp fewer)
        · refine absurd own (safe.1 none j req ?_)
          rw [GatewayWorld.stage?_eq_some.mpr live]
          exact flying
      · exact .inr (.inl ⟨j, stage, req, live.happened restarted applied, flying, own⟩)
    · have kept := Event.remembers safe applied remembers
      exact .inr (.inr kept)
    · obtain ⟨stored, member, own, past⟩ := expired
      exact .inr (.inr (.inr ⟨stored, member, own, Int.lt_of_lt_of_le past (Event.now_le applied)⟩))

/-! ### A step of a handler -/

variable [DecidableEq I]

theorem Stores.Remembers.shown {stores : Stores} {history : List Observation}
    (remembers : stores.Remembers config key history) (shown : List Observation) :
    stores.Remembers config key (history ++ shown) := by
  obtain ⟨entry, receipt, found, has, stored, member, rest⟩ := remembers
  refine ⟨entry, receipt, found, has, stored, ?_, rest⟩
  rw [storedEntries_append]
  exact List.mem_append_left _ member

theorem Expired.shown {now : Time} {history : List Observation}
    (expired : Expired config key now history) (shown : List Observation) :
    Expired config key now (history ++ shown) := by
  obtain ⟨stored, member, rest⟩ := expired
  refine ⟨stored, ?_, rest⟩
  rw [storedEntries_append]
  exact List.mem_append_left _ member

-- Handler `i` stays in flight with the key or has not been it, and its stage fits the intents.
theorem OneIntent.stays {shown : List Observation} {next : Stage} (one : OneIntent config key world)
    (proposing : (world.moved i state shown next).Proposing)
    (boot : state.boot = world.shared.state.boot) (now : state.now = world.shared.state.now)
    (once : (state.fabric.intentsOf key).length ≤ 1)
    (flies : ∀ req, next.inFlight? = some req → req.idempotencyKey = key →
      (∃ stage, world.Live i stage ∧ stage.inFlight? = some req) ∧
        next.Agrees (state.fabric.intentsOf key))
    (others : ∀ j stage req, j ≠ i → world.Live j stage → stage.inFlight? = some req →
      req.idempotencyKey = key → stage.Agrees (state.fabric.intentsOf key))
    (known : state.fabric.intentsOf key = [] ∨
      (∃ req, next.inFlight? = some req ∧ req.idempotencyKey = key) ∨
      state.stores.Remembers config key (world.shared.history ++ shown) ∨
      (state.fabric.intentsOf key = world.shared.state.fabric.intentsOf key ∧
        state.stores.idempotency.get key = world.shared.state.stores.idempotency.get key ∧
        ∀ stage req, world.Live i stage → stage.inFlight? = some req → req.idempotencyKey ≠ key)) :
    OneIntent config key (world.moved i state shown next) := by
  have before (j : I) (stage : Stage) (req : TransferRequest)
      (live : (world.moved i state shown next).Live j stage)
      (flying : stage.inFlight? = some req) (own : req.idempotencyKey = key) :
      ∃ stage, world.Live j stage ∧ stage.inFlight? = some req := by
    rcases GatewayWorld.live_moved boot live with ⟨rfl, rfl⟩ | ⟨_, live⟩
    · exact (flies req flying own).1
    · exact ⟨stage, live, flying⟩
  refine ⟨proposing, once, fun j k stage stage' req req' live live' flying flying' own own' => ?_,
    fun j stage req live flying own => ?_, ?_⟩
  · obtain ⟨old, alive, flew⟩ := before j stage req live flying own
    obtain ⟨old', alive', flew'⟩ := before k stage' req' live' flying' own'
    exact one.alone j k old old' req req' alive alive' flew flew' own own'
  · rcases GatewayWorld.live_moved boot live with ⟨_, rfl⟩ | ⟨other, live⟩
    · exact (flies req flying own).2
    · exact others j stage req other live flying own
  · rcases known with none | ⟨req, flying, own⟩ | remembers | ⟨same, memory, outside⟩
    · exact .inl none
    · exact .inr (.inl ⟨i, next, req, GatewayWorld.live_own boot, flying, own⟩)
    · exact .inr (.inr (.inl remembers))
    · rcases one.known with none | ⟨j, stage, req, live, flying, own⟩ | remembers | expired
      · exact .inl (same.trans none)
      · refine .inr (.inl ⟨j, stage, req, live.moved ?_ boot, flying, own⟩)
        rintro rfl
        exact outside stage req live flying own
      · obtain ⟨entry, receipt, found, rest⟩ := remembers
        have kept : state.stores.Remembers config key world.shared.history :=
          ⟨entry, receipt, memory.trans found, rest⟩
        exact .inr (.inr (.inl (kept.shown shown)))
      · refine .inr (.inr (.inr ?_))
        unfold GatewayWorld.moved
        rw [now]
        exact expired.shown shown

-- The handler's request has another key.
theorem OneIntent.another {shown : List Observation} {next : Stage} (one : OneIntent config key world)
    (proposing : (world.moved i state shown next).Proposing)
    (boot : state.boot = world.shared.state.boot) (now : state.now = world.shared.state.now)
    (memory : state.stores.idempotency.get key = world.shared.state.stores.idempotency.get key)
    (intents : state.fabric.intentsOf key = world.shared.state.fabric.intentsOf key)
    (before : ∀ stage req, world.Live i stage → stage.inFlight? = some req →
      req.idempotencyKey ≠ key)
    (after : ∀ req, next.inFlight? = some req → req.idempotencyKey ≠ key) :
    OneIntent config key (world.moved i state shown next) := by
  refine one.stays proposing boot now (intents ▸ one.once) (fun req flying own => ?_)
    (fun j stage req _ live flying own => ?_) (.inr (.inr (.inr ⟨intents, memory, before⟩)))
  · exact absurd own (after req flying)
  · rw [intents]
    exact one.agrees j stage req live flying own

theorem OneIntent.missed {req : TransferRequest} {answer : Answer}
    (one : OneIntent config key world) (live : world.Live i (.checkKey req))
    (safe : OneIntentSafe config key world i (.inl answer))
    (missing : world.shared.state.stores.getKey world.shared.state.now req.idempotencyKey = none) :
    OneIntent config key (world.moved i world.shared.state [] (.checkNonce req)) := by
  have proposing : (world.moved i world.shared.state [] (.checkNonce req)).Proposing :=
    one.proposing.quiet rfl rfl fun _ none => nomatch none
  by_cases own : req.idempotencyKey = key
  · have checks : req ∈ (world.stage? i).bind Stage.keyCheck? := by
      rw [GatewayWorld.stage?_eq_some.mpr live]
      rfl
    rw [own] at missing
    obtain ⟨lifetime, nobody⟩ := safe.1 req checks own
    have nobody (j : I) (stage : Stage) (other : TransferRequest) (alive : world.Live j stage)
        (flying : stage.inFlight? = some other) : other.idempotencyKey ≠ key := by
      apply nobody missing j
      rw [GatewayWorld.stage?_eq_some.mpr alive]
      exact flying
    have none : world.shared.state.fabric.intentsOf key = [] := by
      rcases one.known with none | ⟨j, stage, other, alive, flying, same⟩ | remembers | expired
      · exact none
      · exact absurd same (nobody j stage other alive flying)
      · obtain ⟨entry, receipt, found, has, stored, member, same, expires⟩ := remembers
        have unexpired := lifetime stored member same
        rw [← expires] at unexpired
        rw [Stores.getKey_eq_some.mpr ⟨entry, found, Int.not_lt.mpr unexpired, has⟩] at missing
        cases missing
      · obtain ⟨stored, member, same, past⟩ := expired
        exact absurd past (Int.not_lt.mpr (lifetime stored member same))
    refine ⟨proposing, one.once, fun j k stage stage' first second alive alive' flying flying'
      same same' => ?_, fun j stage other alive flying same => ?_, .inl none⟩
    · rcases GatewayWorld.live_moved rfl alive with ⟨here, _⟩ | ⟨_, before⟩
      · rcases GatewayWorld.live_moved rfl alive' with ⟨there, _⟩ | ⟨_, before'⟩
        · exact here.trans there.symm
        · exact absurd same' (nobody k stage' second before' flying')
      · exact absurd same (nobody j stage first before flying)
    · rcases GatewayWorld.live_moved rfl alive with ⟨_, rfl⟩ | ⟨_, before⟩
      · exact none
      · exact absurd same (nobody j stage other before flying)
  · refine one.another proposing rfl rfl rfl rfl (fun stage other alive flying => ?_)
      fun other flying => ?_
    · rw [alive.unique live] at flying
      cases flying
    · obtain rfl := Option.some.inj flying
      exact own

theorem OneIntent.storeKey {req : TransferRequest} {receipt : Receipt}
    (one : OneIntent config key world) (live : world.Live i (.storeKey req receipt))
    (boot : state.boot = world.shared.state.boot) (now : state.now = world.shared.state.now)
    (fabric : state.fabric = world.shared.state.fabric)
    (stores : state.stores = world.shared.state.stores.storeKey config.toStoreConfig
      world.shared.state.now req.idempotencyKey receipt) :
    OneIntent config key
      (world.moved i state [.stored req world.shared.state.now] (.answer req receipt)) := by
  have proposing : (world.moved i state [.stored req world.shared.state.now]
      (.answer req receipt)).Proposing :=
    one.proposing.quiet boot fabric fun _ none => nomatch none
  have memory : state.stores.idempotency.get key = if key = req.idempotencyKey then
      some { receipt := some receipt, expiresAt := world.shared.state.now + config.idempotencyTTL }
      else world.shared.state.stores.idempotency.get key := by
    rw [stores]
    exact Dict.get_set _ _ _ _
  by_cases own : req.idempotencyKey = key
  · rw [if_pos own.symm] at memory
    refine one.stays proposing boot now (fabric ▸ one.once) (fun _ none => nomatch none)
      (fun j stage other _ alive flying same => ?_) (.inr (.inr (.inl ?_)))
    · rw [fabric]
      exact one.agrees j stage other alive flying same
    · refine ⟨_, receipt, memory, rfl, (req, world.shared.state.now), ?_, own, rfl⟩
      rw [storedEntries_append]
      exact List.mem_append_right _ (List.mem_singleton.mpr rfl)
  · rw [if_neg (Ne.symm own)] at memory
    refine one.another proposing boot now memory (by rw [fabric])
      (fun stage other alive flying => ?_) fun _ none => nomatch none
    rw [alive.unique live] at flying
    obtain rfl := Option.some.inj flying
    exact own

-- The call of a request with the key goes on, and its stage fits the intents.
theorem OneIntent.continues {req : TransferRequest} {clientSubmitTime : Time} {round : Round}
    {call next : Submission} (one : OneIntent config key world)
    (live : world.Live i (.calling req clientSubmitTime round call))
    (own : req.idempotencyKey = key)
    (proposing : (world.moved i state [] (.calling req clientSubmitTime round next)).Proposing)
    (boot : state.boot = world.shared.state.boot) (now : state.now = world.shared.state.now)
    (once : (state.fabric.intentsOf key).length ≤ 1)
    (agrees : (Stage.calling req clientSubmitTime round next).Agrees
      (state.fabric.intentsOf key)) :
    OneIntent config key (world.moved i state [] (.calling req clientSubmitTime round next)) := by
  refine one.stays proposing boot now once (fun other flying _ => ⟨⟨_, live, flying⟩, agrees⟩)
    (fun j stage other different alive flying same => ?_) (.inr (.inl ⟨req, rfl, own⟩))
  exact absurd (one.alone j i stage _ other req alive live flying rfl same own) different

-- The call submits its transaction.
theorem OneIntent.submits {req : TransferRequest} {clientSubmitTime : Time} {round : Round}
    {attempt : Nat} {intent : TransferIntent} {endorsements : List Endorsement} {next : Submission}
    (one : OneIntent config key world)
    (live : world.Live i
      (.calling req clientSubmitTime round (.submitting attempt intent endorsements)))
    (boot : state.boot = world.shared.state.boot) (now : state.now = world.shared.state.now)
    (memory : state.stores.idempotency = world.shared.state.stores.idempotency)
    (fabric : state.fabric = world.shared.state.fabric.order
      { intent, idempotencyKey := req.idempotencyKey })
    (idle : next.transaction? = none)
    (sure : req.idempotencyKey = key → next = .awaiting attempt intent endorsements) :
    OneIntent config key (world.moved i state [] (.calling req clientSubmitTime round next)) := by
  have proposing : (world.moved i state []
      (.calling req clientSubmitTime round next)).Proposing :=
    one.proposing.order live boot rfl fabric idle
  by_cases own : req.idempotencyKey = key
  · obtain rfl := sure own
    have none : world.shared.state.fabric.intentsOf key = [] :=
      one.agrees i _ req live rfl own
    have single : (state.fabric.intentsOf key).Perm
        [{ intent, idempotencyKey := req.idempotencyKey }] := by
      rw [fabric, ← none]
      exact Fabric.intentsOf_order_own own
    refine one.continues live own proposing boot now (le_of_eq single.length_eq)
      fun submitted member => ?_
    obtain rfl := List.mem_singleton.mp (single.mem_iff.mp member)
    rfl
  · refine one.another proposing boot now (by rw [memory]) ?_ (fun stage other alive flying => ?_)
      fun other flying => ?_
    · rw [fabric]
      exact Fabric.intentsOf_order_other own
    · rw [alive.unique live] at flying
      obtain rfl := Option.some.inj flying
      exact own
    · obtain rfl := Option.some.inj flying
      exact own

-- The call leaves the submitted transactions as they are.
theorem OneIntent.waits {req : TransferRequest} {clientSubmitTime : Time} {round : Round}
    {call next : Submission} (one : OneIntent config key world)
    (live : world.Live i (.calling req clientSubmitTime round call))
    (proposing : (world.moved i state [] (.calling req clientSubmitTime round next)).Proposing)
    (boot : state.boot = world.shared.state.boot) (now : state.now = world.shared.state.now)
    (memory : state.stores.idempotency = world.shared.state.stores.idempotency)
    (intents : state.fabric.intentsOf key = world.shared.state.fabric.intentsOf key)
    (agrees : req.idempotencyKey = key → (Stage.calling req clientSubmitTime round call).Agrees
        (world.shared.state.fabric.intentsOf key) →
      (Stage.calling req clientSubmitTime round next).Agrees
        (world.shared.state.fabric.intentsOf key)) :
    OneIntent config key (world.moved i state [] (.calling req clientSubmitTime round next)) := by
  by_cases own : req.idempotencyKey = key
  · refine one.continues live own proposing boot now (intents ▸ one.once) ?_
    rw [intents]
    exact agrees own (one.agrees i _ req live rfl own)
  · refine one.another proposing boot now (by rw [memory]) intents
      (fun stage other alive flying => ?_) fun other flying => ?_
    · rw [alive.unique live] at flying
      obtain rfl := Option.some.inj flying
      exact own
    · obtain rfl := Option.some.inj flying
      exact own

theorem OneIntent.call {req : TransferRequest} {clientSubmitTime : Time} {round : Round}
    {call next : Submission} {outcome : FabricAnswer} {fabric : Fabric}
    (one : OneIntent config key world)
    (live : world.Live i (.calling req clientSubmitTime round call))
    (safe : OneIntentSafe config key world i (.inl (.fabric outcome)))
    (moves : SubmissionMoves (invocation config crypto req round) world.shared.state.fabric outcome
      call fabric next) :
    OneIntent config key (world.moved i { world.shared.state with fabric } []
      (.calling req clientSubmitTime round next)) := by
  have honest (own : req.idempotencyKey = key) :
      call.Honest world.shared.state.fabric outcome := by
    refine safe.2 (req, call) ?_ own
    rw [GatewayWorld.stage?_eq_some.mpr live]
    rfl
  cases moves with
  | quiet before after same =>
    refine one.waits live ?_ rfl rfl rfl rfl fun _ agrees => ?_
    · exact one.proposing.quiet rfl rfl fun txID pending => ⟨_, live, same txID pending⟩
    · rw [before.agrees] at agrees
      rw [after.agrees]
      exact agrees
  | propose given new =>
    exact one.waits live (one.proposing.propose rfl new rfl rfl) rfl rfl rfl rfl
      fun _ agrees => agrees
  | submit => exact one.submits live rfl rfl rfl rfl rfl fun _ => rfl
  | lost given after none =>
    refine one.submits live rfl rfl rfl rfl none fun own => ?_
    have delivered := honest own
    rw [given] at delivered
    cases delivered
  | committed valid own =>
    exact one.waits live (one.proposing.quiet rfl rfl fun _ none => nomatch none) rfl rfl rfl rfl
      fun _ _ => trivial
  | @failed attempt intent endorsements _ given after none =>
    refine one.waits live ?_ rfl rfl rfl rfl fun own agrees => ?_
    · refine one.proposing.quiet rfl rfl fun txID pending => ?_
      have idle := none.symm.trans pending
      cases idle
    · have rejected : (world.shared.state.fabric.rejected.lookup intent.txID).isSome := by
        rcases given with ⟨err, rfl⟩ | rejected
        · exact honest own
        · exact rejected
      rw [after.agrees]
      refine List.eq_nil_iff_forall_not_mem.mpr fun submitted member => ?_
      exact one.proposing.distinct.rejected rejected member (agrees submitted member)

theorem OneIntent.other {shown : List Observation} {stage next : Stage}
    (one : OneIntent config key world)
    (current : ∀ old, world.Live i old → old = stage)
    (live : world.Live i stage ∨ ∃ call, stage = .arriving call)
    (boot : state.boot = world.shared.state.boot) (now : state.now = world.shared.state.now)
    (fabric : state.fabric = world.shared.state.fabric)
    (memory : state.stores.idempotency = world.shared.state.stores.idempotency)
    (idle : next.transaction? = none)
    (goes : (next.inFlight? = stage.inFlight? ∧ ∀ own, stage.Agrees own → next.Agrees own) ∨
      (next.inFlight? = none ∧ ∀ own, stage.Agrees own → own = [])) :
    OneIntent config key (world.moved i state shown next) := by
  have proposing : (world.moved i state shown next).Proposing := by
    refine one.proposing.quiet boot fabric fun txID pending => ?_
    rw [idle] at pending
    cases pending
  have alive (req : TransferRequest) (flying : stage.inFlight? = some req) :
      world.Live i stage := by
    rcases live with live | ⟨call, rfl⟩
    · exact live
    · cases flying
  by_cases own : ∃ req, stage.inFlight? = some req ∧ req.idempotencyKey = key
  · obtain ⟨req, flying, own⟩ := own
    have agrees := one.agrees i stage req (alive req flying) flying own
    refine one.stays proposing boot now (fabric ▸ one.once) (fun req' flying' same => ?_)
      (fun j stage' other _ live' flying' same => ?_) ?_
    · rcases goes with ⟨flies, fits⟩ | ⟨landed, _⟩
      · rw [fabric]
        exact ⟨⟨stage, alive req flying, flies ▸ flying'⟩, fits _ agrees⟩
      · rw [landed] at flying'
        cases flying'
    · rw [fabric]
      exact one.agrees j stage' other live' flying' same
    · rcases goes with ⟨flies, _⟩ | ⟨_, empty⟩
      · exact .inr (.inl ⟨req, flies.trans flying, own⟩)
      · rw [fabric]
        exact .inl (empty _ agrees)
  · refine one.another proposing boot now (by rw [memory]) (by rw [fabric])
      (fun old req live' flying same => ?_) fun req flying same => ?_
    · obtain rfl := current old live'
      exact own ⟨req, flying, same⟩
    · rcases goes with ⟨flies, _⟩ | ⟨landed, _⟩
      · exact own ⟨req, flies ▸ flying, same⟩
      · rw [landed] at flying
        cases flying

theorem OneIntent.handler {handler : Handler} {next : Stage} {answer : Answer}
    (one : OneIntent config key world) (own : world.procs i = .inl handler)
    (live : world.Live i handler.stage ∨ ∃ call, handler.stage = .arriving call)
    (safe : OneIntentSafe config key world i (.inl answer))
    (moves : Stage.Moves config crypto world.shared.state answer handler.stage state next) :
    OneIntent config key
      (world.moved i state (handler.stage.shows world.shared.state.now next) next) := by
  have boot := moves.boot
  have now := moves.now
  have current (old : Stage) (alive : world.Live i old) : old = handler.stage :=
    congrArg Handler.stage (Sum.inl.inj (alive.symm.trans own))
  generalize handler.stage = stage at *
  have begun (idle : ∀ call, stage ≠ .arriving call) : world.Live i stage :=
    live.resolve_right fun ⟨call, arriving⟩ => idle call arriving
  cases moves.intents with
  | missed missing => exact one.missed (begun (by simp)) safe missing
  | call given submits =>
    subst given
    exact one.call (begun (by simp)) safe submits
  | storeKey => exact one.storeKey (begun (by simp)) rfl rfl rfl rfl
  | other fabric memory idle goes =>
    exact one.other current live boot now fabric memory idle goes

/-- At most one transaction of the requests with the key is ever on the ledger. -/
theorem one_intent_committed {config : Config} {crypto : Crypto} {key : String}
    {start world : GatewayWorld I} (installed : start.Installed)
    (reached : (observedGateway config crypto).Reaches (OneIntentSafe config key) start world) :
    (world.shared.state.fabric.ledger.filter fun submitted =>
      submitted.idempotencyKey = key).length ≤ 1 := by
  have one : OneIntent config key world := by
    refine reached.invariant (OneIntent config key) installed.oneIntent ?_
    intro world i action after one safe fired
    cases GatewayWorld.fire_moves fired with
    | handler own moves live => exact one.handler own live safe moves
    | event applied => exact one.happened safe applied
  refine le_trans (List.Sublist.length_le ?_) one.once
  exact (List.sublist_append_right _ _).filter _

end

/-! ## A transaction that is submitted twice -/

-- The first transaction is committed and the reply to the status call is lost.
def resubmitted : List (Fin 3 × (Answer ⊕ Event)) :=
  callsLedger 0 ++
    [(2, .inr (.commit 0)),
      (0, .inl (.fabric (.status (.error "context deadline exceeded")))),
      (0, .inl (.fabric .elapsed)),
      (0, .inl (.fabric (.proposal (.ok "transaction-2")))),
      (0, .inl (.fabric (.endorsement (.ok []) 1700000000 0))),
      (0, .inl (.fabric (.submission none true))),
      (2, .inr (.commit 0))]

theorem intent_committed_twice :
    ¬ ∀ (labels : List (Fin 3 × (Answer ⊕ Event))) (world : GatewayWorld (Fin 3)),
      (observedGateway bankConfig sampleCrypto).run (oneKey aliceTransfer) labels = some world →
        (world.shared.state.fabric.ledger.filter fun submitted =>
          submitted.idempotencyKey = "key-1").length ≤ 1 := by
  intro once
  have committed : ((observedGateway bankConfig sampleCrypto).run (oneKey aliceTransfer)
      resubmitted).map (fun world => (world.shared.state.fabric.ledger.filter fun submitted =>
        submitted.idempotencyKey = "key-1").length) = some 2 := by
    decide +kernel
  obtain ⟨world, ran, twice⟩ := Option.map_eq_some_iff.mp committed
  have single := once resubmitted world ran
  rw [twice] at single
  exact absurd single (by decide)

-- The transaction is rejected and tried again; a second request comes when it is stored.
def retried : List (Fin 3 × (Answer ⊕ Event)) :=
  callsLedger 0 ++
    [(2, .inr (.invalidate 0 11)),
      (0, .inl (.fabric (.status (.error "context deadline exceeded")))),
      (0, .inl (.fabric .elapsed)),
      (0, .inl (.fabric (.proposal (.ok "transaction-2")))),
      (0, .inl (.fabric (.endorsement (.ok []) 1700000000 0))),
      (0, .inl (.fabric (.submission none true))),
      (2, .inr (.commit 0)),
      (0, .inl (.fabric (.status (.ok 8)))),
      (0, .inl .proceed),
      (0, .inl (.block (.ok "block-hash"))),
      (0, .inl (.transaction (.error "not found")))] ++
    proceeds 0 3 ++ proceeds 1 2

theorem one_intent_committed_retried :
    ∃ world, (observedGateway bankConfig sampleCrypto).run (oneKey aliceTransfer) retried =
        some world ∧
      (world.shared.state.fabric.ledger.filter fun submitted =>
        submitted.idempotencyKey = "key-1").length ≤ 1 := by
  have reached : ((observedGateway bankConfig sampleCrypto).checkedRun
      (OneIntentSafe bankConfig "key-1") (oneKey aliceTransfer) retried).isSome := by
    decide +kernel
  obtain ⟨world, ran⟩ := Option.isSome_iff_exists.mp reached
  have runs := Machine.Runs.checked .nil ran
  exact ⟨world, runs.run, one_intent_committed (twoCalls_installed _ _) runs.reaches⟩

end Kufi.Gateway

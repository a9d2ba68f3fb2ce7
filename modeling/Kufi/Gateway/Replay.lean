import Kufi.Gateway.HandlerSteps
import Kufi.Gateway.TamperEvidence
import Mathlib.Data.Fintype.Basic

set_option autoImplicit false

/-!
# Replay protection

A request passes when neither the nonce store nor the window check refuses it.
The check of the nonce, the check of the window and the recording of the nonce
are three steps, and the store forgets a nonce after its window.
-/

namespace Kufi.Gateway

open Shared

/-- The nonces and timestamps of the requests that have passed. -/
def passes (history : List Observation) : List (String × Int) :=
  history.filterMap fun
    | .passed req => some (req.nonce, req.timestamp)
    | _ => none

@[simp] theorem passes_append (first rest : List Observation) :
    passes (first ++ rest) = passes first ++ passes rest :=
  List.filterMap_append

-- From this moment on the window check refuses the timestamp, or it is the last millisecond.
def Over (config : Config) (now : Time) (timestamp : Int) : Prop :=
  timestamp + Duration.milliseconds config.nonceWindow ≤ Time.unixMilli now

/-- The request of a handler that has passed the nonce check and not yet recorded the nonce. -/
def Stage.between? : Stage → Option TransferRequest
  | .checkTimestamp req | .recordNonce req | .addNonce req _ => some req
  | _ => none

/-- The request of a handler that has passed and not yet recorded the nonce. -/
def Stage.recording? : Stage → Option TransferRequest
  | .recordNonce req | .addNonce req _ => some req
  | _ => none

def Stage.nonceCheck? : Stage → Option TransferRequest
  | .checkNonce req => some req
  | _ => none

def Stage.windowCheck? : Stage → Option TransferRequest
  | .checkTimestamp req => some req
  | _ => none

theorem Stage.between?_of_recording? {stage : Stage} {req : TransferRequest}
    (records : stage.recording? = some req) : stage.between? = some req := by
  cases stage <;> first | exact records | cases records

section

variable {config : Config} {crypto : Crypto} {s : Node}

theorem aged_milliseconds {now recorded window timestamp : Int}
    (opened : timestamp ≤ now / 1000000) (kept : timestamp ≤ recorded / 1000000)
    (aged : ¬ now - recorded < window) : timestamp + window.tdiv 1000000 ≤ now / 1000000 := by
  by_cases negative : window < 0
  · have rounded : 0 ≤ (-window).tdiv 1000000 := Int.tdiv_nonneg (by omega) (by decide)
    rw [Int.neg_tdiv] at rounded
    omega
  · rw [Int.tdiv_eq_ediv_of_nonneg (by omega)]
    omega

-- The ages are nanoseconds and the window check compares whole milliseconds.
theorem over_of_expired {now recorded : Time} {timestamp : Int}
    (opened : timestamp ≤ Time.unixMilli now) (kept : timestamp ≤ Time.unixMilli recorded)
    (expired : ¬ now - recorded < config.nonceWindow) : Over config now timestamp :=
  aged_milliseconds opened kept expired

theorem Over.later {now later : Time} {timestamp : Int} (past : Over config now timestamp)
    (order : now ≤ later) : Over config later timestamp :=
  Int.le_trans past (Time.unixMilli_mono order)

/-! ## The nonces in a step -/

inductive NonceMoves (config : Config) (s : Node) : Stage → Node → Stage → Prop
  | fresh {req : TransferRequest}
      (unknown : s.stores.nonceExists config.toStoreConfig s.now req.nonce = false) :
      NonceMoves config s (.checkNonce req) s (.checkTimestamp req)
  | inside {req : TransferRequest} (inside : inWindow config s.now req = true) :
      NonceMoves config s (.checkTimestamp req) s (.recordNonce req)
  | recordNonce {req : TransferRequest} :
      NonceMoves config s (.recordNonce req) s (.addNonce req s.now)
  | addNonce {req : TransferRequest} {timestamp : Time} :
      NonceMoves config s (.addNonce req timestamp)
        { s with stores := s.stores.addNonce req.nonce timestamp } (.prepare req)
  | other {stage next : Stage} {after : Node} (done : next.between? = none)
      (before : stage.recording? = none) (nonces : after.stores.nonces = s.stores.nonces)
      (silent : passes (stage.shows s.now next) = []) : NonceMoves config s stage after next

theorem Stage.Moves.nonces {answer : Answer} {stage next : Stage} {after : Node}
    (moves : Stage.Moves config crypto s answer stage after next) :
    NonceMoves config s stage after next := by
  cases moves with
  | fresh unknown => exact .fresh unknown
  | inside inside => exact .inside inside
  | recordNonce => exact .recordNonce
  | addNonce => exact .addNonce
  | @begin call =>
    refine .other ?_ rfl rfl rfl
    cases call <;> simp only [Call.begin] <;> split <;> try split
    all_goals rfl
  | _ => exact .other rfl rfl rfl rfl

end

/-! ## Runs in which the checks protect -/

section

variable {I : Type} (config : Config)

-- The nonces that a restart would read.
def Stores.savedNonces (stores : Stores) : Dict String Time :=
  ((stores.disk.get config.noncesFile).bind FileContent.asNonces).getD ∅

/-- What every step of a run must meet for the two checks to keep replays out. -/
def ReplaySafe (world : GatewayWorld I) (i : I) : Answer ⊕ Event → Prop
  | .inl _ =>
    -- no other request with the nonce is between its nonce check and its recording
    (∀ req ∈ (world.stage? i).bind Stage.nonceCheck?,
      ∀ j, ∀ other ∈ (world.stage? j).bind Stage.between?, other.nonce ≠ req.nonce) ∧
    -- the last millisecond of the window is not the second time
    ∀ req ∈ (world.stage? i).bind Stage.windowCheck?,
      (req.nonce, req.timestamp) ∈ passes world.shared.history →
        Time.unixMilli world.shared.state.now - req.timestamp ≠
          Duration.milliseconds config.nonceWindow
  | .inr .restart =>
    -- every nonce of a request that has passed is recorded, and expired or saved
    (∀ j, (world.stage? j).bind Stage.recording? = none) ∧
      ∀ entry ∈ world.shared.state.stores.nonces.entries,
        world.shared.state.now - entry.2 < config.nonceWindow →
          (world.shared.state.stores.savedNonces config).get entry.1 = some entry.2
  | .inr _ => True

instance [Fintype I] (world : GatewayWorld I) (i : I) (action : Answer ⊕ Event) :
    Decidable (ReplaySafe config world i action) :=
  match action with
  | .inl _ => inferInstanceAs (Decidable (_ ∧ _))
  | .inr .restart => inferInstanceAs (Decidable (_ ∧ _))
  | .inr (.tick _) | .inr (.commit _) | .inr (.invalidate _ _) | .inr (.finishWrite _ _)
  | .inr .cleanupKeys | .inr (.cleanupNonces _) => .isTrue trivial

end

/-! ## Nonces that have passed are kept until their window is past -/

section

variable {I : Type}

def Stores.Recorded (stores : Stores) (pass : String × Int) : Prop :=
  ∃ recorded, stores.nonces.get pass.1 = some recorded ∧ pass.2 ≤ Time.unixMilli recorded

def GatewayWorld.Recording (world : GatewayWorld I) (pass : String × Int) : Prop :=
  ∃ j stage req, world.Live j stage ∧ stage.recording? = some req ∧
    (req.nonce, req.timestamp) = pass

-- What the nonce check has made sure of.
def Stage.Guarded (config : Config) (now : Time) (passed : List (String × Int)) : Stage → Prop
  | .checkTimestamp req => ∀ timestamp, (req.nonce, timestamp) ∈ passed → Over config now timestamp
  | .recordNonce req =>
    req.timestamp ≤ Time.unixMilli now ∧ ∀ timestamp, (req.nonce, timestamp) ∈ passed →
      Over config now timestamp ∨ timestamp = req.timestamp
  | .addNonce req recorded =>
    req.timestamp ≤ Time.unixMilli recorded ∧ ∀ timestamp, (req.nonce, timestamp) ∈ passed →
      Over config now timestamp ∨ timestamp = req.timestamp
  | _ => True

structure Protected (config : Config) (world : GatewayWorld I) : Prop where
  begun : world.Begun
  once : (passes world.shared.history).Nodup
  opened : ∀ pass ∈ passes world.shared.history, pass.2 ≤ Time.unixMilli world.shared.state.now
  kept : ∀ pass ∈ passes world.shared.history, Over config world.shared.state.now pass.2 ∨
    world.Recording pass ∨ world.shared.state.stores.Recorded pass
  alone : ∀ j k stage stage' req req', world.Live j stage → world.Live k stage' →
    stage.between? = some req → stage'.between? = some req' → req.nonce = req'.nonce → j = k
  guarded : ∀ j stage, world.Live j stage →
    stage.Guarded config world.shared.state.now (passes world.shared.history)

variable {config : Config} {crypto : Crypto} {world : GatewayWorld I} {i : I}

theorem Stage.guarded_of_between? {stage : Stage} {now : Time} {passed : List (String × Int)}
    (outside : stage.between? = none) : stage.Guarded config now passed := by
  cases stage <;> trivial

theorem Stage.Guarded.later {stage : Stage} {now later : Time} {passed : List (String × Int)}
    (guarded : stage.Guarded config now passed) (order : now ≤ later) :
    stage.Guarded config later passed := by
  cases stage with
  | checkTimestamp req => exact fun timestamp member => (guarded timestamp member).later order
  | recordNonce req =>
    refine ⟨guarded.1.trans (Time.unixMilli_mono order), fun timestamp member => ?_⟩
    exact (guarded.2 timestamp member).imp_left (·.later order)
  | addNonce req recorded =>
    exact ⟨guarded.1, fun timestamp member => (guarded.2 timestamp member).imp_left (·.later order)⟩
  | _ => trivial

-- A request with another nonce passes.
theorem Stage.Guarded.pass {stage : Stage} {now : Time} {passed : List (String × Int)}
    {req : TransferRequest} (guarded : stage.Guarded config now passed)
    (other : ∀ own, stage.between? = some own → own.nonce ≠ req.nonce) :
    stage.Guarded config now (passed ++ [(req.nonce, req.timestamp)]) := by
  have old {own : TransferRequest} {timestamp : Int} (different : own.nonce ≠ req.nonce)
      (member : (own.nonce, timestamp) ∈ passed ++ [(req.nonce, req.timestamp)]) :
      (own.nonce, timestamp) ∈ passed := by
    simpa [different] using member
  cases stage with
  | checkTimestamp own =>
    exact fun timestamp member => guarded timestamp (old (other own rfl) member)
  | recordNonce own =>
    exact ⟨guarded.1, fun timestamp member => guarded.2 timestamp (old (other own rfl) member)⟩
  | addNonce own recorded =>
    exact ⟨guarded.1, fun timestamp member => guarded.2 timestamp (old (other own rfl) member)⟩
  | _ => trivial

theorem GatewayWorld.Installed.protects (installed : world.Installed) :
    Protected config world := by
  have none_between (j : I) (stage : Stage) (live : world.Live j stage) :
      stage.between? = none := by
    obtain ⟨call, rfl⟩ := installed.arriving j _ live
    rfl
  constructor
  · exact installed.begun
  · rw [installed.history]
    exact List.nodup_nil
  · rw [installed.history]
    exact fun _ member => nomatch member
  · rw [installed.history]
    exact fun _ member => nomatch member
  · intro j k stage stage' req req' live _ between
    rw [none_between j stage live] at between
    cases between
  · intro j stage live
    exact Stage.guarded_of_between? (none_between j stage live)

/-! ### A step of a handler -/

variable [DecidableEq I] {state : Node} {req : TransferRequest}

theorem Protected.fresh (holds : Protected config world) (live : world.Live i (.checkNonce req))
    (safe : ∀ j, ∀ other ∈ (world.stage? j).bind Stage.between?, other.nonce ≠ req.nonce)
    (unknown : world.shared.state.stores.nonceExists config.toStoreConfig world.shared.state.now
      req.nonce = false) :
    Protected config (world.moved i world.shared.state [] (.checkTimestamp req)) := by
  have different (j : I) (stage : Stage) (other : TransferRequest) (live : world.Live j stage)
      (between : stage.between? = some other) : other.nonce ≠ req.nonce := by
    apply safe j
    rw [GatewayWorld.stage?_eq_some.mpr live]
    exact between
  have own (stage : Stage) (own : world.Live i stage) : stage = .checkNonce req :=
    own.unique live
  have history : passes (world.moved i world.shared.state [] (.checkTimestamp req)).shared.history =
      passes world.shared.history := congrArg passes (List.append_nil _)
  constructor
  · exact holds.begun.moved rfl
  · rw [history]
    exact holds.once
  · rw [history]
    exact holds.opened
  · rw [history]
    intro pass member
    rcases holds.kept pass member with past | ⟨j, stage, other, alive, records, same⟩ | recorded
    · exact .inl past
    · refine .inr (.inl ⟨j, stage, other, alive.moved ?_ rfl, records, same⟩)
      rintro rfl
      rw [own stage alive] at records
      cases records
    · exact .inr (.inr recorded)
  · intro j k stage stage' first second alive alive' between between' same
    rcases GatewayWorld.live_moved rfl alive with ⟨rfl, rfl⟩ | ⟨_, before⟩
    · obtain rfl := Option.some.inj between
      rcases GatewayWorld.live_moved rfl alive' with ⟨rfl, _⟩ | ⟨_, before'⟩
      · rfl
      · exact absurd same.symm (different k stage' second before' between')
    · rcases GatewayWorld.live_moved rfl alive' with ⟨_, rfl⟩ | ⟨_, before'⟩
      · obtain rfl := Option.some.inj between'
        exact absurd same (different j stage first before between)
      · exact holds.alone j k stage stage' first second before before' between between' same
  · intro j stage alive
    rw [history]
    rcases GatewayWorld.live_moved rfl alive with ⟨_, rfl⟩ | ⟨_, before⟩
    · intro timestamp member
      rcases holds.kept _ member with past | ⟨k, stage', other, alive', records, same⟩ | recorded
      · exact past
      · have equal := congrArg Prod.fst same
        exact absurd equal (different k stage' other alive' (Stage.between?_of_recording? records))
      · obtain ⟨recorded, found, kept⟩ := recorded
        apply over_of_expired (holds.opened _ member) kept
        simpa [Stores.nonceExists, found] using unknown
    · exact holds.guarded j stage before

-- A handler that does not come between the check and the recording leaves the others alone.
theorem Protected.alone_moved {shown : List Observation} {next : Stage}
    (holds : Protected config world) (boot : state.boot = world.shared.state.boot)
    (stays : ∀ req, next.between? = some req →
      ∃ stage, world.Live i stage ∧ stage.between? = some req) :
    ∀ j k stage stage' first second, (world.moved i state shown next).Live j stage →
      (world.moved i state shown next).Live k stage' → stage.between? = some first →
      stage'.between? = some second → first.nonce = second.nonce → j = k := by
  have before (j : I) (stage : Stage) (req : TransferRequest)
      (alive : (world.moved i state shown next).Live j stage)
      (between : stage.between? = some req) :
      ∃ stage, world.Live j stage ∧ stage.between? = some req := by
    rcases GatewayWorld.live_moved boot alive with ⟨rfl, rfl⟩ | ⟨_, alive⟩
    · exact stays req between
    · exact ⟨stage, alive, between⟩
  intro j k stage stage' first second alive alive' between between' same
  obtain ⟨old, live, holds_first⟩ := before j stage first alive between
  obtain ⟨old', live', holds_second⟩ := before k stage' second alive' between'
  exact holds.alone j k old old' first second live live' holds_first holds_second same

theorem Protected.inside (holds : Protected config world)
    (live : world.Live i (.checkTimestamp req))
    (safe : (req.nonce, req.timestamp) ∈ passes world.shared.history →
      Time.unixMilli world.shared.state.now - req.timestamp ≠
        Duration.milliseconds config.nonceWindow)
    (inside : inWindow config world.shared.state.now req = true) :
    Protected config (world.moved i world.shared.state [.passed req] (.recordNonce req)) := by
  have opens : 0 ≤ Time.unixMilli world.shared.state.now - req.timestamp ∧
      Time.unixMilli world.shared.state.now - req.timestamp ≤
        Duration.milliseconds config.nonceWindow := by
    simpa [inWindow] using inside
  have past : ∀ timestamp, (req.nonce, timestamp) ∈ passes world.shared.history →
      Over config world.shared.state.now timestamp := holds.guarded i _ live
  have history :
      passes (world.moved i world.shared.state [.passed req] (.recordNonce req)).shared.history =
        passes world.shared.history ++ [(req.nonce, req.timestamp)] := passes_append _ _
  have new : (req.nonce, req.timestamp) ∉ passes world.shared.history := by
    intro member
    have last := past _ member
    unfold Over at last
    exact safe member (by omega)
  have records : (world.moved i world.shared.state [.passed req] (.recordNonce req)).Live i
      (.recordNonce req) := GatewayWorld.live_own rfl
  constructor
  · exact holds.begun.moved rfl
  · rw [history, List.nodup_append_comm]
    exact List.nodup_cons.mpr ⟨by simpa using new, holds.once⟩
  · rw [history]
    intro pass member
    rcases List.mem_append.mp member with old | own
    · exact holds.opened pass old
    · obtain rfl := List.mem_singleton.mp own
      change req.timestamp ≤ Time.unixMilli world.shared.state.now
      omega
  · rw [history]
    intro pass member
    rcases List.mem_append.mp member with old | own
    · rcases holds.kept pass old with past | ⟨j, stage, other, alive, recording, same⟩ | recorded
      · exact .inl past
      · refine .inr (.inl ⟨j, stage, other, alive.moved ?_ rfl, recording, same⟩)
        rintro rfl
        rw [alive.unique live] at recording
        cases recording
      · exact .inr (.inr recorded)
    · obtain rfl := List.mem_singleton.mp own
      exact .inr (.inl ⟨i, _, req, records, rfl, rfl⟩)
  · exact holds.alone_moved rfl fun other between => ⟨_, live, between⟩
  · intro j stage alive
    rw [history]
    rcases GatewayWorld.live_moved rfl alive with ⟨_, rfl⟩ | ⟨other, before⟩
    · refine ⟨Int.sub_nonneg.mp opens.1, fun timestamp member => ?_⟩
      rcases List.mem_append.mp member with old | own
      · exact .inl (past timestamp old)
      · exact .inr (congrArg Prod.snd (List.mem_singleton.mp own))
    · refine (holds.guarded j stage before).pass fun own between same => other ?_
      exact holds.alone j i stage _ own req before live between rfl same

theorem Protected.recordNonce (holds : Protected config world)
    (live : world.Live i (.recordNonce req)) :
    Protected config (world.moved i world.shared.state []
      (.addNonce req world.shared.state.now)) := by
  have history : passes (world.moved i world.shared.state []
      (.addNonce req world.shared.state.now)).shared.history = passes world.shared.history :=
    congrArg passes (List.append_nil _)
  constructor
  · exact holds.begun.moved rfl
  · rw [history]
    exact holds.once
  · rw [history]
    exact holds.opened
  · rw [history]
    intro pass member
    rcases holds.kept pass member with past | ⟨j, stage, other, alive, recording, same⟩ | recorded
    · exact .inl past
    · by_cases own : j = i
      · subst own
        rw [alive.unique live] at recording
        exact .inr (.inl ⟨j, _, other, GatewayWorld.live_own rfl, recording, same⟩)
      · exact .inr (.inl ⟨j, stage, other, alive.moved own rfl, recording, same⟩)
    · exact .inr (.inr recorded)
  · exact holds.alone_moved rfl fun other between => ⟨_, live, between⟩
  · intro j stage alive
    rw [history]
    rcases GatewayWorld.live_moved rfl alive with ⟨_, rfl⟩ | ⟨_, before⟩
    · exact holds.guarded i (.recordNonce req) live
    · exact holds.guarded j stage before

theorem Protected.addNonce {timestamp : Time} (holds : Protected config world)
    (live : world.Live i (.addNonce req timestamp))
    (boot : state.boot = world.shared.state.boot) (now : state.now = world.shared.state.now)
    (stores : state.stores = world.shared.state.stores.addNonce req.nonce timestamp) :
    Protected config (world.moved i state [] (.prepare req)) := by
  have history : passes (world.moved i state [] (.prepare req)).shared.history =
      passes world.shared.history := congrArg passes (List.append_nil _)
  have clock : (world.moved i state [] (.prepare req)).shared.state.now =
      world.shared.state.now := now
  obtain ⟨kept, passed⟩ := holds.guarded i _ live
  have nonces (nonce : String) : state.stores.nonces.get nonce =
      if nonce = req.nonce then some timestamp
      else world.shared.state.stores.nonces.get nonce := by
    rw [stores]
    exact Dict.get_set _ _ _ _
  constructor
  · exact holds.begun.moved boot
  · rw [history]
    exact holds.once
  · rw [history, clock]
    exact holds.opened
  · rw [history, clock]
    rintro ⟨nonce, passedAt⟩ member
    by_cases own : nonce = req.nonce
    · subst own
      rcases passed passedAt member with past | rfl
      · exact .inl past
      · exact .inr (.inr ⟨timestamp, (nonces _).trans (if_pos rfl), kept⟩)
    · rcases holds.kept _ member with past | ⟨j, stage, other, alive, recording, same⟩ | recorded
      · exact .inl past
      · refine .inr (.inl ⟨j, stage, other, alive.moved ?_ boot, recording, same⟩)
        rintro rfl
        rw [alive.unique live] at recording
        obtain rfl := Option.some.inj recording
        exact own (congrArg Prod.fst same).symm
      · obtain ⟨recorded, found, later⟩ := recorded
        exact .inr (.inr ⟨recorded, (nonces _).trans ((if_neg own).trans found), later⟩)
  · exact holds.alone_moved boot fun other between => nomatch between
  · intro j stage alive
    rw [history, clock]
    rcases GatewayWorld.live_moved boot alive with ⟨_, rfl⟩ | ⟨_, before⟩
    · trivial
    · exact holds.guarded j stage before

theorem Protected.other {shown : List Observation} {next : Stage}
    (holds : Protected config world) (boot : state.boot = world.shared.state.boot)
    (now : state.now = world.shared.state.now) (done : next.between? = none)
    (before : ∀ old, world.Live i old → old.recording? = none)
    (nonces : state.stores.nonces = world.shared.state.stores.nonces)
    (silent : passes shown = []) : Protected config (world.moved i state shown next) := by
  have history : passes (world.moved i state shown next).shared.history =
      passes world.shared.history := by
    rw [GatewayWorld.moved, passes_append, silent, List.append_nil]
  have clock : (world.moved i state shown next).shared.state.now = world.shared.state.now := now
  constructor
  · exact holds.begun.moved boot
  · rw [history]
    exact holds.once
  · rw [history, clock]
    exact holds.opened
  · rw [history, clock]
    intro pass member
    rcases holds.kept pass member with past | ⟨j, stage, other, alive, recording, same⟩ | recorded
    · exact .inl past
    · refine .inr (.inl ⟨j, stage, other, alive.moved ?_ boot, recording, same⟩)
      rintro rfl
      rw [before stage alive] at recording
      cases recording
    · refine .inr (.inr ?_)
      unfold Stores.Recorded GatewayWorld.moved
      rw [nonces]
      exact recorded
  · exact holds.alone_moved boot fun req between => by rw [done] at between; cases between
  · intro j stage alive
    rw [history, clock]
    rcases GatewayWorld.live_moved boot alive with ⟨_, rfl⟩ | ⟨_, before⟩
    · exact Stage.guarded_of_between? done
    · exact holds.guarded j stage before

theorem Protected.handler {handler : Handler} {next : Stage} {answer : Answer}
    (holds : Protected config world) (own : world.procs i = .inl handler)
    (live : world.Live i handler.stage ∨ ∃ call, handler.stage = .arriving call)
    (safe : ReplaySafe config world i (.inl answer))
    (moves : Stage.Moves config crypto world.shared.state answer handler.stage state next) :
    Protected config
      (world.moved i state (handler.stage.shows world.shared.state.now next) next) := by
  have boot := moves.boot
  have now := moves.now
  have current (old : Stage) (alive : world.Live i old) : old = handler.stage :=
    congrArg Handler.stage (Sum.inl.inj (alive.symm.trans own))
  generalize handler.stage = stage at *
  have begun (idle : ∀ call, stage ≠ .arriving call) : world.Live i stage :=
    live.resolve_right fun ⟨call, arriving⟩ => idle call arriving
  cases moves.nonces with
  | @fresh req unknown =>
    have live := begun (by simp)
    refine holds.fresh live (safe.1 req ?_) unknown
    rw [GatewayWorld.stage?_eq_some.mpr live]
    rfl
  | @inside req inside =>
    have live := begun (by simp)
    refine holds.inside live (safe.2 req ?_) inside
    rw [GatewayWorld.stage?_eq_some.mpr live]
    rfl
  | recordNonce => exact holds.recordNonce (begun (by simp))
  | addNonce => exact holds.addNonce (begun (by simp)) rfl rfl rfl
  | other done before nonces silent =>
    refine holds.other boot now done (fun old alive => ?_) nonces silent
    rw [current old alive]
    exact before

/-! ### A step of the environment -/

omit [DecidableEq I] in
-- What an event does to the clock and to the nonces in memory.
theorem Event.nonces {event : Event} {state : Node} (safe : ReplaySafe config world i (.inr event))
    (applied : event.apply config world.shared.state = some state) {pass : String × Int}
    (opened : pass.2 ≤ Time.unixMilli world.shared.state.now)
    (recorded : world.shared.state.stores.Recorded pass) :
    Over config state.now pass.2 ∨ state.stores.Recorded pass := by
  obtain ⟨recorded, found, kept⟩ := recorded
  cases event with
  | commit i =>
    obtain ⟨_, _, rfl⟩ := Option.map_eq_some_iff.mp applied
    exact .inr ⟨recorded, found, kept⟩
  | invalidate i code =>
    obtain ⟨_, _, rfl⟩ := Option.map_eq_some_iff.mp applied
    exact .inr ⟨recorded, found, kept⟩
  | finishWrite i outcome =>
    obtain ⟨stores, finished, rfl⟩ := Option.map_eq_some_iff.mp applied
    obtain ⟨write, _, rfl⟩ := Option.map_eq_some_iff.mp finished
    refine .inr ⟨recorded, ?_, kept⟩
    cases write <;> exact found
  | cleanupNonces outcome =>
    obtain rfl := Option.some.inj applied
    by_cases expired : config.nonceWindow < world.shared.state.now - recorded
    · exact .inl (over_of_expired opened kept (Int.not_lt.mpr (Int.le_of_lt expired)))
    · exact .inr ⟨recorded, Dict.get_keep.mpr ⟨found, by simp [expired]⟩, kept⟩
  | restart =>
    obtain rfl := Option.some.inj applied
    by_cases fresh : world.shared.state.now - recorded < config.nonceWindow
    · have saved := safe.2 ⟨pass.1, recorded⟩ (Dict.get_eq_some.mp found) fresh
      refine .inr ⟨recorded, ?_, kept⟩
      unfold Stores.savedNonces at saved
      simp only [Stores.restart, Stores.loadNonces]
      cases stored : (world.shared.state.stores.disk.get config.noncesFile).bind
          FileContent.asNonces with
      | none =>
        rw [stored] at saved
        cases saved
      | some nonces =>
        rw [stored] at saved
        exact Dict.get_keep.mpr ⟨saved, decide_eq_true fresh⟩
    · exact .inl (over_of_expired opened kept fresh)
  | _ =>
    obtain rfl := Option.some.inj applied
    exact .inr ⟨recorded, found, kept⟩

omit [DecidableEq I] in
theorem Protected.happened {event : Event} (holds : Protected config world)
    (safe : ReplaySafe config world i (.inr event))
    (applied : event.apply config world.shared.state = some state) :
    Protected config (world.happened state) := by
  have later := Event.now_le applied
  have before (j : I) (stage : Stage) (req : TransferRequest)
      (alive : (world.happened state).Live j stage) (between : stage.between? = some req) :
      world.Live j stage := by
    rcases holds.begun.live_happened applied alive with ⟨call, rfl⟩ | ⟨_, alive⟩
    · cases between
    · exact alive
  constructor
  · exact holds.begun.happened applied
  · exact holds.once
  · exact fun pass member => (holds.opened pass member).trans (Time.unixMilli_mono later)
  · intro pass member
    rcases holds.kept pass member with past | ⟨j, stage, other, alive, records, same⟩ | recorded
    · exact .inl (past.later later)
    · refine .inr (.inl ⟨j, stage, other, alive.happened ?_ applied, records, same⟩)
      rintro rfl
      have unrecorded := safe.1 j
      rw [GatewayWorld.stage?_eq_some.mpr alive, Option.bind_some, records] at unrecorded
      cases unrecorded
    · exact (Event.nonces safe applied (holds.opened pass member) recorded).imp_right .inr
  · intro j k stage stage' first second alive alive' between between'
    exact holds.alone j k stage stage' first second (before j stage first alive between)
      (before k stage' second alive' between') between between'
  · intro j stage alive
    cases between : stage.between? with
    | none => exact Stage.guarded_of_between? between
    | some req => exact (holds.guarded j stage (before j stage req alive between)).later later

/-- No two requests with the same nonce and timestamp pass the nonce and the window check. -/
theorem replays_refused {config : Config} {crypto : Crypto} {start world : GatewayWorld I}
    (installed : start.Installed)
    (reached : (observedGateway config crypto).Reaches (ReplaySafe config) start world) :
    (passes world.shared.history).Nodup := by
  refine (reached.invariant (Protected config) installed.protects ?_).once
  intro world i action after holds safe fired
  cases GatewayWorld.fire_moves fired with
  | handler own moves live => exact holds.handler own live safe moves
  | event applied => exact holds.happened safe applied

end

/-! ## Runs -/

def replayed : GatewayWorld (Fin 3) :=
  twoCalls (.submitTransfer aliceTransfer) (.submitTransfer aliceTransfer)

-- Both look for the nonce before either records it.
def overlapping : List (Fin 3 × (Answer ⊕ Event)) :=
  [0, 0, 0, 1, 1, 1, 0, 1].map fun i => (i, .inl .proceed)

theorem replay_passes_beside :
    ¬ ∀ (labels : List (Fin 3 × (Answer ⊕ Event))) (world : GatewayWorld (Fin 3)),
      (observedGateway bankConfig sampleCrypto).run replayed labels = some world →
        (passes world.shared.history).Nodup := by
  intro refused
  have passed : ((observedGateway bankConfig sampleCrypto).run replayed overlapping).map
      (fun world => passes world.shared.history) =
        some [("nonce-0123456789", 1700000000000), ("nonce-0123456789", 1700000000000)] := by
    decide
  obtain ⟨world, ran, twice⟩ := Option.map_eq_some_iff.mp passed
  have once := refused overlapping world ran
  rw [twice] at once
  exact absurd once (by decide)

-- The second request comes after the first has recorded the nonce, the nonces have been
-- cleaned up and the process has restarted.
def afterwards : List (Fin 3 × (Answer ⊕ Event)) :=
  [0, 0, 0, 0, 0, 0].map (fun i => (i, .inl .proceed)) ++
    [(2, .inr (.tick 1000000)), (2, .inr (.cleanupNonces .written)), (2, .inr .restart)] ++
    [1, 1, 1].map fun i => (i, .inl .proceed)

theorem replays_refused_afterwards :
    ∃ world, (observedGateway bankConfig sampleCrypto).run replayed afterwards = some world ∧
      (passes world.shared.history).Nodup := by
  have reached : ((observedGateway bankConfig sampleCrypto).checkedRun (ReplaySafe bankConfig)
      replayed afterwards).isSome := by decide
  obtain ⟨world, ran⟩ := Option.isSome_iff_exists.mp reached
  have runs := Machine.Runs.checked .nil ran
  exact ⟨world, runs.run, replays_refused (twoCalls_installed _ _) runs.reaches⟩

end Kufi.Gateway

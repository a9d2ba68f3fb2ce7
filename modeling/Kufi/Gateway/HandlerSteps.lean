import Kufi.Gateway.Handlers
import Kufi.Shared.History

set_option autoImplicit false

/-!
# What a step of a handler does

The steps of a handler by name, and what a run shows of them: the requests that
pass the replay checks, the keys that are stored, the replies of success and
the receipts that are rebuilt.
-/

namespace Kufi.Gateway

open Shared

inductive Stage.Moves (config : Config) (crypto : Crypto) (s : Node) (answer : Answer) :
    Stage → Node → Stage → Prop
  | begin {call : Call} : Moves config crypto s answer (.arriving call) s (call.begin s.now)
  | cached {req : TransferRequest} {receipt : Receipt}
      (found : s.stores.getKey s.now req.idempotencyKey = some receipt) :
      Moves config crypto s answer (.checkKey req) s (respondSuccess s.now receipt)
  | missed {req : TransferRequest} (missing : s.stores.getKey s.now req.idempotencyKey = none) :
      Moves config crypto s answer (.checkKey req) s (.checkNonce req)
  | replayed {req : TransferRequest}
      (known : s.stores.nonceExists config.toStoreConfig s.now req.nonce = true) :
      Moves config crypto s answer (.checkNonce req) s
        (respondError s.now 409 "REPLAY_DETECTED" "Replay detected" "Nonce already used")
  | fresh {req : TransferRequest}
      (unknown : s.stores.nonceExists config.toStoreConfig s.now req.nonce = false) :
      Moves config crypto s answer (.checkNonce req) s (.checkTimestamp req)
  | inside {req : TransferRequest} (inside : inWindow config s.now req = true) :
      Moves config crypto s answer (.checkTimestamp req) s (.recordNonce req)
  | outside {req : TransferRequest} (outside : inWindow config s.now req = false) :
      Moves config crypto s answer (.checkTimestamp req) s
        (respondError s.now 400 "REPLAY_DETECTED" "Request expired or future timestamp" "")
  | recordNonce {req : TransferRequest} :
      Moves config crypto s answer (.recordNonce req) s (.addNonce req s.now)
  | addNonce {req : TransferRequest} {timestamp : Time} :
      Moves config crypto s answer (.addNonce req timestamp)
        { s with stores := s.stores.addNonce req.nonce timestamp } (.prepare req)
  | prepare {req : TransferRequest} :
      Moves config crypto s answer (.prepare req) s (.calling req s.now .crossOrg .acquiring)
  | call {req : TransferRequest} {clientSubmitTime : Time} {round : Round} {call next : Submission}
      {outcome : FabricAnswer} {fabric : Fabric} (given : answer = .fabric outcome)
      (stepped : call.step config.maxAttempts (invocation config crypto req round) s.now s.fabric
        outcome = some (fabric, next)) :
      Moves config crypto s answer (.calling req clientSubmitTime round call) { s with fabric }
        (.calling req clientSubmitTime round next)
  | committed {req : TransferRequest} {clientSubmitTime : Time} {round : Round}
      {result : SubmitResult} :
      Moves config crypto s answer (.calling req clientSubmitTime round (.returned (.ok result))) s
        (.queryBlock req clientSubmitTime result)
  | again {req : TransferRequest} {clientSubmitTime : Time} {round next : Round} {err : String}
      (follows : round.next? config err = some next) :
      Moves config crypto s answer (.calling req clientSubmitTime round (.returned (.error err))) s
        (.calling req clientSubmitTime next .acquiring)
  | refused {req : TransferRequest} {clientSubmitTime : Time} {round : Round} {err : String}
      (last : round.next? config err = none) :
      Moves config crypto s answer (.calling req clientSubmitTime round (.returned (.error err))) s
        (respondError s.now 500 "FABRIC_ERROR" "Failed to submit transaction" err)
  | queryBlock {req : TransferRequest} {clientSubmitTime : Time} {result : SubmitResult}
      {blockHash : String} :
      Moves config crypto s answer (.queryBlock req clientSubmitTime result) s
        (.queryTransaction req clientSubmitTime result blockHash)
  | queryTransaction {req : TransferRequest} {clientSubmitTime : Time} {result : SubmitResult}
      {blockHash : String} {queried : Except String TransactionInfo}
      (given : answer = .transaction queried) :
      Moves config crypto s answer (.queryTransaction req clientSubmitTime result blockHash) s
        (.build req
          (submitInput config crypto req clientSubmitTime result blockHash queried.toOption))
  | build {req : TransferRequest} {input : BuildInput} :
      Moves config crypto s answer (.build req input) s
        (.storeReceipt req (Kufi.Gateway.build crypto config.receiptBuilder s.now input))
  | storeReceipt {req : TransferRequest} {receipt : Receipt} :
      Moves config crypto s answer (.storeReceipt req receipt)
        { s with stores := s.stores.storeReceipt config.toStoreConfig receipt.txID receipt }
        (.storeKey req receipt)
  | storeKey {req : TransferRequest} {receipt : Receipt} :
      Moves config crypto s answer (.storeKey req receipt)
        { s with
          stores := s.stores.storeKey config.toStoreConfig s.now req.idempotencyKey receipt }
        (.answer req receipt)
  | answer {req : TransferRequest} {receipt : Receipt} :
      Moves config crypto s answer (.answer req receipt) s (respondSuccess s.now receipt)
  | unknown {txID : String} :
      Moves config crypto s answer (.lookup txID) s
        (respondError s.now 404 "NOT_FOUND" "Receipt not found" "")
  | lookup {txID : String} {receipt : Receipt}
      (found : s.stores.receipts.get txID = some receipt) :
      Moves config crypto s answer (.lookup txID) s (.found (receiptToDTO receipt))
  | unendorsed {txID : String} {receipt : Receipt}
      (found : s.stores.receipts.get txID = some receipt)
      (unendorsed : receipt.endorsements.items = []) :
      Moves config crypto s answer (.lookup txID) s (.queryLedger txID receipt)
  | unchanged {txID : String} {receipt : Receipt} :
      Moves config crypto s answer (.queryLedger txID receipt) s (.found (receiptToDTO receipt))
  | queryLedger {txID : String} {receipt : Receipt} {txInfo : TransactionInfo}
      (given : answer = .transaction (.ok txInfo)) :
      Moves config crypto s answer (.queryLedger txID receipt) s (.rebuild txID receipt txInfo)
  | rebuild {txID : String} {receipt : Receipt} {txInfo : TransactionInfo} :
      Moves config crypto s answer (.rebuild txID receipt txInfo) s
        (.storeRebuilt txID (rebuildReceipt config crypto s.now receipt txInfo))
  | storeRebuilt {txID : String} {receipt : Receipt} :
      Moves config crypto s answer (.storeRebuilt txID receipt)
        { s with stores := s.stores.storeReceipt config.toStoreConfig txID receipt }
        (.found (receiptToDTO receipt))

section

variable {config : Config} {crypto : Crypto} {s after : Node} {stage next : Stage} {answer : Answer}

theorem Stage.step_moves (stepped : stage.step config crypto s answer = some (after, next)) :
    Stage.Moves config crypto s answer stage after next := by
  cases stage with
  | arriving call =>
    cases answer with
    | proceed =>
      obtain ⟨rfl, rfl⟩ := Prod.mk.inj (Option.some.inj stepped)
      exact .begin
    | _ => cases stepped
  | checkKey req =>
    cases answer with
    | proceed =>
      simp only [Stage.step] at stepped
      split at stepped
      next receipt found =>
        obtain ⟨rfl, rfl⟩ := Prod.mk.inj (Option.some.inj stepped)
        exact .cached found
      next missing =>
        obtain ⟨rfl, rfl⟩ := Prod.mk.inj (Option.some.inj stepped)
        exact .missed missing
    | _ => cases stepped
  | checkNonce req =>
    cases answer with
    | proceed =>
      simp only [Stage.step] at stepped
      split at stepped
      next known =>
        obtain ⟨rfl, rfl⟩ := Prod.mk.inj (Option.some.inj stepped)
        exact .replayed known
      next unknown =>
        obtain ⟨rfl, rfl⟩ := Prod.mk.inj (Option.some.inj stepped)
        exact .fresh (Bool.not_eq_true _ ▸ unknown)
    | _ => cases stepped
  | checkTimestamp req =>
    cases answer with
    | proceed =>
      simp only [Stage.step] at stepped
      split at stepped
      next inside =>
        obtain ⟨rfl, rfl⟩ := Prod.mk.inj (Option.some.inj stepped)
        exact .inside inside
      next outside =>
        obtain ⟨rfl, rfl⟩ := Prod.mk.inj (Option.some.inj stepped)
        exact .outside (Bool.not_eq_true _ ▸ outside)
    | _ => cases stepped
  | recordNonce req =>
    cases answer with
    | proceed =>
      obtain ⟨rfl, rfl⟩ := Prod.mk.inj (Option.some.inj stepped)
      exact .recordNonce
    | _ => cases stepped
  | addNonce req timestamp =>
    cases answer with
    | proceed =>
      obtain ⟨rfl, rfl⟩ := Prod.mk.inj (Option.some.inj stepped)
      exact .addNonce
    | _ => cases stepped
  | prepare req =>
    cases answer with
    | proceed =>
      obtain ⟨rfl, rfl⟩ := Prod.mk.inj (Option.some.inj stepped)
      exact .prepare
    | _ => cases stepped
  | calling req clientSubmitTime round call =>
    cases answer with
    | proceed =>
      cases call with
      | returned result =>
        cases result with
        | ok result =>
          obtain ⟨rfl, rfl⟩ := Prod.mk.inj (Option.some.inj stepped)
          exact .committed
        | error err =>
          simp only [Stage.step] at stepped
          split at stepped
          next round' follows =>
            obtain ⟨rfl, rfl⟩ := Prod.mk.inj (Option.some.inj stepped)
            exact .again follows
          next last =>
            obtain ⟨rfl, rfl⟩ := Prod.mk.inj (Option.some.inj stepped)
            exact .refused last
      | _ => cases stepped
    | fabric outcome =>
      simp only [Stage.step, Option.map_eq_some_iff] at stepped
      obtain ⟨⟨fabric, call'⟩, moved, same⟩ := stepped
      obtain ⟨rfl, rfl⟩ := Prod.mk.inj same
      exact .call rfl moved
    | block queried => cases call <;> cases stepped
    | transaction queried => cases call <;> cases stepped
  | queryBlock req clientSubmitTime result =>
    cases answer with
    | block queried =>
      obtain ⟨rfl, rfl⟩ := Prod.mk.inj (Option.some.inj stepped)
      exact .queryBlock
    | _ => cases stepped
  | queryTransaction req clientSubmitTime result blockHash =>
    cases answer with
    | transaction queried =>
      obtain ⟨rfl, rfl⟩ := Prod.mk.inj (Option.some.inj stepped)
      exact .queryTransaction rfl
    | _ => cases stepped
  | build req input =>
    cases answer with
    | proceed =>
      obtain ⟨rfl, rfl⟩ := Prod.mk.inj (Option.some.inj stepped)
      exact .build
    | _ => cases stepped
  | storeReceipt req receipt =>
    cases answer with
    | proceed =>
      obtain ⟨rfl, rfl⟩ := Prod.mk.inj (Option.some.inj stepped)
      exact .storeReceipt
    | _ => cases stepped
  | storeKey req receipt =>
    cases answer with
    | proceed =>
      obtain ⟨rfl, rfl⟩ := Prod.mk.inj (Option.some.inj stepped)
      exact .storeKey
    | _ => cases stepped
  | answer req receipt =>
    cases answer with
    | proceed =>
      obtain ⟨rfl, rfl⟩ := Prod.mk.inj (Option.some.inj stepped)
      exact .answer
    | _ => cases stepped
  | lookup txID =>
    cases answer with
    | proceed =>
      simp only [Stage.step] at stepped
      split at stepped
      next =>
        obtain ⟨rfl, rfl⟩ := Prod.mk.inj (Option.some.inj stepped)
        exact .unknown
      next receipt found =>
        split at stepped
        next incomplete =>
          obtain ⟨rfl, rfl⟩ := Prod.mk.inj (Option.some.inj stepped)
          exact .unendorsed found incomplete.1
        next =>
          obtain ⟨rfl, rfl⟩ := Prod.mk.inj (Option.some.inj stepped)
          exact .lookup found
    | _ => cases stepped
  | queryLedger txID receipt =>
    cases answer with
    | transaction queried =>
      cases queried with
      | error err =>
        obtain ⟨rfl, rfl⟩ := Prod.mk.inj (Option.some.inj stepped)
        exact .unchanged
      | ok txInfo =>
        simp only [Stage.step] at stepped
        split at stepped
        next =>
          obtain ⟨rfl, rfl⟩ := Prod.mk.inj (Option.some.inj stepped)
          exact .unchanged
        next =>
          obtain ⟨rfl, rfl⟩ := Prod.mk.inj (Option.some.inj stepped)
          exact .queryLedger rfl
    | _ => cases stepped
  | rebuild txID receipt txInfo =>
    cases answer with
    | proceed =>
      obtain ⟨rfl, rfl⟩ := Prod.mk.inj (Option.some.inj stepped)
      exact .rebuild
    | _ => cases stepped
  | storeRebuilt txID receipt =>
    cases answer with
    | proceed =>
      obtain ⟨rfl, rfl⟩ := Prod.mk.inj (Option.some.inj stepped)
      exact .storeRebuilt
    | _ => cases stepped
  | finished reply => cases answer <;> cases stepped
  | found receipt => cases answer <;> cases stepped

theorem Stage.Moves.boot (moves : Stage.Moves config crypto s answer stage after next) :
    after.boot = s.boot := by
  cases moves <;> rfl

theorem Stage.Moves.now (moves : Stage.Moves config crypto s answer stage after next) :
    after.now = s.now := by
  cases moves <;> rfl

theorem Handler.step_moves {handler handler' : Handler}
    (stepped : handler.step config crypto s answer = some (after, handler')) :
    (handler.boot = s.boot ∨ ∃ call, handler.stage = .arriving call) ∧
      ∃ next, handler' = { boot := s.boot, stage := next } ∧
        Stage.Moves config crypto s answer handler.stage after next := by
  unfold Handler.step at stepped
  split at stepped
  next call arriving =>
    obtain ⟨⟨state, next⟩, moved, same⟩ := Option.map_eq_some_iff.mp stepped
    obtain ⟨rfl, rfl⟩ := Prod.mk.inj same
    have moves := Stage.step_moves moved
    rw [arriving, moves.boot]
    exact ⟨.inr ⟨call, rfl⟩, next, rfl, moves⟩
  next =>
    split at stepped
    next current =>
      obtain ⟨⟨state, next⟩, moved, same⟩ := Option.map_eq_some_iff.mp stepped
      obtain ⟨rfl, rfl⟩ := Prod.mk.inj same
      exact ⟨.inl current, next, by rw [current], Stage.step_moves moved⟩
    next => cases stepped

end

/-! ## What a run shows -/

inductive Observation where
  -- the request has passed the nonce check and the window check
  | passed (req : TransferRequest)
  | stored (req : TransferRequest) (time : Time)
  | answered (req : TransferRequest) (receipt : ReceiptDTO)
  | rebuilt (existing rebuilt : Receipt)
  deriving DecidableEq

def Stage.shows (now : Time) : Stage → Stage → List Observation
  | .checkTimestamp req, .recordNonce _ => [.passed req]
  | .storeKey req _, .answer _ _ => [.stored req now]
  | .checkKey req, .finished (.success _ receipt _) => [.answered req receipt]
  | .answer req _, .finished (.success _ receipt _) => [.answered req receipt]
  | .rebuild _ existing _, .storeRebuilt _ rebuilt => [.rebuilt existing rebuilt]
  | _, _ => []

def Process.shows (s : Node) : Process → Process → List Observation
  | .inl before, .inl after => before.stage.shows s.now after.stage
  | _, _ => []

def observedGateway (config : Config) (crypto : Crypto) :
    Machine (Observed Node Observation) Process (Answer ⊕ Event) :=
  (gateway config crypto).observed Process.shows

/-! ## Runs -/

section

variable {I : Type}

abbrev GatewayWorld (I : Type) := World I (Observed Node Observation) Process

section

variable {config : Config} {event : Event} {s state : Node}

theorem Event.apply_boot (running : event ≠ .restart) (applied : event.apply config s = some state) :
    state.boot = s.boot := by
  cases event with
  | commit i =>
    obtain ⟨_, _, rfl⟩ := Option.map_eq_some_iff.mp applied
    rfl
  | invalidate i code =>
    obtain ⟨_, _, rfl⟩ := Option.map_eq_some_iff.mp applied
    rfl
  | finishWrite i outcome =>
    obtain ⟨_, _, rfl⟩ := Option.map_eq_some_iff.mp applied
    rfl
  | restart => exact absurd rfl running
  | _ =>
    obtain rfl := Option.some.inj applied
    rfl

theorem Event.now_le (applied : event.apply config s = some state) : s.now ≤ state.now := by
  cases event with
  | tick elapsed =>
    obtain rfl := Option.some.inj applied
    exact Int.le_add_of_nonneg_right (Int.natCast_nonneg elapsed)
  | commit i =>
    obtain ⟨_, _, rfl⟩ := Option.map_eq_some_iff.mp applied
    exact Int.le_refl _
  | invalidate i code =>
    obtain ⟨_, _, rfl⟩ := Option.map_eq_some_iff.mp applied
    exact Int.le_refl _
  | finishWrite i outcome =>
    obtain ⟨_, _, rfl⟩ := Option.map_eq_some_iff.mp applied
    exact Int.le_refl _
  | _ =>
    obtain rfl := Option.some.inj applied
    exact Int.le_refl _

theorem Event.boot_le (applied : event.apply config s = some state) : s.boot ≤ state.boot := by
  by_cases restarted : event = .restart
  · subst restarted
    obtain rfl := Option.some.inj applied
    exact Nat.le_succ _
  · exact le_of_eq (Event.apply_boot restarted applied).symm

end

namespace GatewayWorld

/-- Handler `i` belongs to the running process and has come to this stage. -/
def Live (world : GatewayWorld I) (i : I) (stage : Stage) : Prop :=
  world.procs i = .inl { boot := world.shared.state.boot, stage }

/-- The stage of a handler of the running process. -/
def stage? (world : GatewayWorld I) (i : I) : Option Stage :=
  match world.procs i with
  | .inl handler => if handler.boot = world.shared.state.boot then some handler.stage else none
  | .inr _ => none

/-- The gateway as it is installed: empty stores, and only requests that arrive. -/
structure Installed (world : GatewayWorld I) : Prop where
  stores : world.shared.state.stores = Stores.empty
  fabric : world.shared.state.fabric = Fabric.empty
  history : world.shared.history = []
  arriving : ∀ i handler, world.procs i = .inl handler → ∃ call, handler.stage = .arriving call

-- A handler that has begun was not begun by a later process.
def Begun (world : GatewayWorld I) : Prop :=
  ∀ i handler, world.procs i = .inl handler →
    handler.boot ≤ world.shared.state.boot ∨ ∃ call, handler.stage = .arriving call

variable {config : Config} {crypto : Crypto} {world after : GatewayWorld I} {i j : I}
  {action : Answer ⊕ Event}

theorem stage?_eq_some {stage : Stage} : world.stage? i = some stage ↔ world.Live i stage := by
  unfold stage? Live
  cases proc : world.procs i with
  | inl handler =>
    obtain ⟨boot, stage'⟩ := handler
    simp
  | inr environment => simp

theorem Live.unique {stage stage' : Stage} (first : world.Live i stage)
    (second : world.Live i stage') : stage = stage' := by
  have same := Sum.inl.inj (first.symm.trans second)
  exact congrArg Handler.stage same

theorem Installed.begun (installed : world.Installed) : world.Begun :=
  fun i handler proc => .inr (installed.arriving i handler proc)

/-- The world after an event of the environment. -/
def happened (world : GatewayWorld I) (state : Node) : GatewayWorld I where
  shared := { state, history := world.shared.history }
  procs := world.procs

theorem Begun.live_happened {event : Event} {state : Node} {stage : Stage} (begun : world.Begun)
    (applied : event.apply config world.shared.state = some state)
    (live : (world.happened state).Live j stage) :
    (∃ call, stage = .arriving call) ∨ (event ≠ .restart ∧ world.Live j stage) := by
  unfold Live happened at live
  dsimp only at live
  by_cases restarted : event = .restart
  · subst restarted
    obtain rfl := Option.some.inj applied
    rcases begun j _ live with early | arriving
    · exact absurd early (by simp)
    · exact .inl arriving
  · rw [Event.apply_boot restarted applied] at live
    exact .inr ⟨restarted, live⟩

theorem Live.happened {event : Event} {state : Node} {stage : Stage} (live : world.Live j stage)
    (running : event ≠ .restart) (applied : event.apply config world.shared.state = some state) :
    (world.happened state).Live j stage := by
  unfold Live GatewayWorld.happened
  dsimp only
  rw [Event.apply_boot running applied]
  exact live

theorem Begun.happened {event : Event} {state : Node} (begun : world.Begun)
    (applied : event.apply config world.shared.state = some state) :
    (world.happened state).Begun := by
  intro j handler proc
  rcases begun j handler proc with early | arriving
  · exact .inl (early.trans (Event.boot_le applied))
  · exact .inr arriving

variable [DecidableEq I]

/-- The world after handler `i` has come to another stage. -/
def moved (world : GatewayWorld I) (i : I) (state : Node) (shown : List Observation)
    (next : Stage) : GatewayWorld I where
  shared := { state, history := world.shared.history ++ shown }
  procs := Function.update world.procs i (.inl { boot := world.shared.state.boot, stage := next })

inductive Moves (config : Config) (crypto : Crypto) (world : GatewayWorld I) (i : I) :
    Answer ⊕ Event → GatewayWorld I → Prop
  | handler {handler : Handler} {answer : Answer} {state : Node} {next : Stage}
      (own : world.procs i = .inl handler)
      (moves : Stage.Moves config crypto world.shared.state answer handler.stage state next)
      (live : world.Live i handler.stage ∨ ∃ call, handler.stage = .arriving call) :
      Moves config crypto world i (.inl answer)
        (world.moved i state (handler.stage.shows world.shared.state.now next) next)
  | event {event : Event} {state : Node}
      (applied : event.apply config world.shared.state = some state) :
      Moves config crypto world i (.inr event) (world.happened state)

theorem fire_moves (fired : (observedGateway config crypto).fire world i action = some after) :
    Moves config crypto world i action after := by
  obtain ⟨shared, proc, stepped, rfl⟩ := Machine.fire_eq_some.mp fired
  obtain ⟨moved, recorded⟩ := Machine.observed_step.mp stepped
  obtain ⟨state, history⟩ := shared
  dsimp only at moved recorded
  subst recorded
  cases own : world.procs i with
  | inl handler =>
    rw [own] at moved
    obtain ⟨answer, handler', rfl, rfl, handled⟩ := Machine.either_step_inl.mp moved
    obtain ⟨current, next, rfl, moves⟩ := Handler.step_moves handled
    refine .handler own moves (current.imp_left fun same => ?_)
    rw [Live, own, ← same]
  | inr environment =>
    rw [own] at moved
    obtain ⟨event, _, rfl, rfl, applied⟩ := Machine.either_step_inr.mp moved
    obtain ⟨state', applied', same⟩ := Option.map_eq_some_iff.mp applied
    obtain ⟨rfl, rfl⟩ := Prod.mk.inj same
    have unchanged : Function.update world.procs i (.inr ()) = world.procs := by
      rw [Function.update_eq_self_iff, own]
    rw [unchanged]
    simpa [Process.shows, happened] using Moves.event (i := i) applied'

theorem live_moved {shown : List Observation} {state : Node} {next stage : Stage}
    (boot : state.boot = world.shared.state.boot)
    (live : (world.moved i state shown next).Live j stage) :
    (j = i ∧ stage = next) ∨ (j ≠ i ∧ world.Live j stage) := by
  unfold Live moved at live
  dsimp only at live
  rw [boot] at live
  by_cases own : j = i
  · subst own
    rw [Function.update_self] at live
    obtain ⟨_, rfl⟩ := Handler.mk.inj (Sum.inl.inj live)
    exact .inl ⟨rfl, rfl⟩
  · rw [Function.update_of_ne own] at live
    exact .inr ⟨own, live⟩

theorem Live.moved {shown : List Observation} {state : Node} {next stage : Stage}
    (live : world.Live j stage) (other : j ≠ i) (boot : state.boot = world.shared.state.boot) :
    (world.moved i state shown next).Live j stage := by
  unfold Live GatewayWorld.moved
  dsimp only
  rw [Function.update_of_ne other, boot]
  exact live

theorem live_own {shown : List Observation} {state : Node} {next : Stage}
    (boot : state.boot = world.shared.state.boot) :
    (world.moved i state shown next).Live i next := by
  unfold Live GatewayWorld.moved
  dsimp only
  rw [Function.update_self, boot]

theorem Begun.moved {shown : List Observation} {state : Node} {next : Stage}
    (begun : world.Begun) (boot : state.boot = world.shared.state.boot) :
    (world.moved i state shown next).Begun := by
  intro j handler proc
  unfold GatewayWorld.moved at proc ⊢
  dsimp only at proc ⊢
  by_cases same : j = i
  · subst same
    rw [Function.update_self] at proc
    obtain rfl := Sum.inl.inj proc
    exact .inl (le_of_eq boot.symm)
  · rw [Function.update_of_ne same] at proc
    rw [boot]
    exact begun j handler proc

end GatewayWorld

end

/-! ## Two calls and the environment -/

def twoCalls (first second : Call) : GatewayWorld (Fin 3) where
  shared := { state := bankNode, history := [] }
  procs i :=
    if i = 0 then .inl { boot := 0, stage := .arriving first }
    else if i = 1 then .inl { boot := 0, stage := .arriving second }
    else .inr ()

theorem twoCalls_installed (first second : Call) : (twoCalls first second).Installed where
  stores := rfl
  fabric := rfl
  history := rfl
  arriving i handler proc := by
    unfold twoCalls at proc
    dsimp only at proc
    split at proc
    next =>
      obtain rfl := Sum.inl.inj proc
      exact ⟨first, rfl⟩
    next =>
      split at proc
      next =>
        obtain rfl := Sum.inl.inj proc
        exact ⟨second, rfl⟩
      next => cases proc

def proceeds {I : Type} (i : I) (n : Nat) : List (I × (Answer ⊕ Event)) :=
  List.replicate n (i, .inl .proceed)

/-- The steps of handler `i` from its arrival to its call of the ledger. -/
def callsLedger {I : Type} (i : I) : List (I × (Answer ⊕ Event)) :=
  proceeds i 7 ++
    [(i, .inl (.fabric (.acquired true))),
      (i, .inl (.fabric (.proposal (.ok "transaction-1")))),
      (i, .inl (.fabric (.endorsement (.ok []) 1700000000 0))),
      (i, .inl (.fabric (.submission none true)))]

/-- The steps of handler `i` with those of the environment that commit its transaction. -/
def carriedOut {I : Type} (i environment : I) : List (I × (Answer ⊕ Event)) :=
  callsLedger i ++
    [(environment, .inr (.commit 0)),
      (i, .inl (.fabric (.status (.ok 7)))),
      (i, .inl .proceed),
      (i, .inl (.block (.ok "block-hash"))),
      (i, .inl (.transaction (.error "not found")))] ++
    proceeds i 4

end Kufi.Gateway

import Kufi.ChainService.Adapter
import Kufi.Gateway.HandlerSteps

set_option autoImplicit false

/-!
# An adapter and a gateway

One call of `anchorTransfer`, a handler for each of its attempts that reaches
the gateway, and every other call of the gateway. A reply can be lost on its way.
-/

namespace Kufi.ChainService

open Shared Gateway

inductive Loss where
  -- the client's timeout, or a connection that is dropped
  | noResponse
  | badGateway
  | serviceUnavailable
  | gatewayTimeout
  deriving DecidableEq

def Loss.status : Loss → Option Nat
  | .noResponse => none
  | .badGateway => some 502
  | .serviceUnavailable => some 503
  | .gatewayTimeout => some 504

structure Exchange where
  node : Node
  adapter : AnchorTransfer
  -- what `SubmitTransfer` has answered to the attempts
  replies : List (Nat × Reply)

inductive Party where
  | adapter
  -- a call of the gateway, by an attempt of the adapter or by somebody else
  | call (attempt : Option Nat) (handler : Handler)
  | environment

inductive Act where
  | post
  | receive (confirmed : Nat)
  | lose (loss : Loss)
  | handle (answer : Answer)
  | happen (event : Event)

/-! ## Steps -/

def AnchorTransfer.step (config : AdapterConfig) (replies : List (Nat × Reply)) :
    AnchorTransfer → Act → Option AnchorTransfer
  | .posting attempt, .post => some (.waiting attempt)
  | .waiting attempt, .receive confirmed =>
    (replies.lookup attempt).map (AnchorTransfer.received config confirmed attempt)
  | .waiting attempt, .lose loss => some (AnchorTransfer.failed attempt none loss.status)
  | _, _ => none

-- The attempts that have been posted.
def AnchorTransfer.Posted (number : Nat) : AnchorTransfer → Prop
  | .posting attempt => number < attempt
  | .waiting attempt => number ≤ attempt
  | .finished attempt _ _ => number ≤ attempt

instance (number : Nat) (adapter : AnchorTransfer) : Decidable (adapter.Posted number) :=
  match adapter with
  | .posting attempt => inferInstanceAs (Decidable (number < attempt))
  | .waiting attempt | .finished attempt _ _ => inferInstanceAs (Decidable (number ≤ attempt))

def replied : Option Nat → Stage → List (Nat × Reply)
  | some attempt, .finished reply => [(attempt, reply)]
  | _, _ => []

variable (adapterConfig : AdapterConfig) (config : Config) (crypto : Crypto)

def Exchange.step (s : Exchange) : Party → Act → Option (Exchange × Party)
  | .adapter, act =>
    (s.adapter.step adapterConfig s.replies act).map fun adapter => ({ s with adapter }, .adapter)
  | .call attempt handler, .handle answer =>
    if ∀ number ∈ attempt, s.adapter.Posted number then
      (handler.step config crypto s.node answer).map fun (node, handler) =>
        ({ s with node, replies := s.replies ++ replied attempt handler.stage },
          .call attempt handler)
    else none
  | .environment, .happen event =>
    (event.apply config s.node).map fun node => ({ s with node }, .environment)
  | _, _ => none

def exchange : Machine Exchange Party Act where
  step := Exchange.step adapterConfig config crypto

/-! ## What a run shows -/

inductive Shown where
  -- the attempt did not find its key
  | missed (attempt : Nat)
  | recorded (attempt : Nat)
  | proposed (attempt : Nat) (txID : String)
  | stored (req : TransferRequest) (time : Time)

def attemptShows : Option Nat → Stage → Stage → List Shown
  | some attempt, .checkKey _, .checkNonce _ => [.missed attempt]
  | some attempt, .addNonce _ _, .prepare _ => [.recorded attempt]
  | some attempt, .calling _ _ _ (.proposing _), .calling _ _ _ (.endorsing _ txID) =>
    [.proposed attempt txID]
  | _, _, _ => []

def storeShows (now : Time) : Stage → Stage → List Shown
  | .storeKey req _, .answer _ _ => [.stored req now]
  | _, _ => []

def Party.shows (s : Exchange) : Party → Party → List Shown
  | .call attempt before, .call _ after =>
    attemptShows attempt before.stage after.stage ++
      storeShows s.node.now before.stage after.stage
  | _, _ => []

def observedExchange : Machine (Observed Exchange Shown) Party Act :=
  (exchange adapterConfig config crypto).observed Party.shows

/-! ## Worlds -/

abbrev ExchangeWorld (I : Type) := World I (Observed Exchange Shown) Party

namespace ExchangeWorld

variable {I : Type}

def Live (world : ExchangeWorld I) (i : I) (attempt : Option Nat) (stage : Stage) : Prop :=
  world.procs i = .call attempt { boot := world.shared.state.node.boot, stage }

/-- The attempt and the stage of a call that the running gateway is working on. -/
def live? (world : ExchangeWorld I) (i : I) : Option (Option Nat × Stage) :=
  match world.procs i with
  | .call attempt handler =>
    if handler.boot = world.shared.state.node.boot then some (attempt, handler.stage) else none
  | .adapter | .environment => none

def Begun (world : ExchangeWorld I) : Prop :=
  ∀ i attempt handler, world.procs i = .call attempt handler →
    handler.boot ≤ world.shared.state.node.boot ∨ ∃ call, handler.stage = .arriving call

variable {world : ExchangeWorld I} {i j : I} {attempt : Option Nat}

theorem live?_eq_some {stage : Stage} :
    world.live? i = some (attempt, stage) ↔ world.Live i attempt stage := by
  unfold live? Live
  cases proc : world.procs i with
  | call attempt' handler =>
    obtain ⟨boot, stage'⟩ := handler
    simp
    tauto
  | adapter => simp
  | environment => simp

/-- The world after an event of the environment. -/
def happened (world : ExchangeWorld I) (node : Node) : ExchangeWorld I where
  shared := { state := { world.shared.state with node }, history := world.shared.history }
  procs := world.procs

/-- The world after a step of the adapter. -/
def adapted (world : ExchangeWorld I) (adapter : AnchorTransfer) : ExchangeWorld I where
  shared := { state := { world.shared.state with adapter }, history := world.shared.history }
  procs := world.procs

variable [DecidableEq I]

/-- The world after call `i` has come to another stage. -/
def moved (world : ExchangeWorld I) (i : I) (attempt : Option Nat) (node : Node)
    (stage next : Stage) : ExchangeWorld I where
  shared :=
    { state :=
        { world.shared.state with
          node, replies := world.shared.state.replies ++ replied attempt next }
      history := world.shared.history ++ (attemptShows attempt stage next ++
        storeShows world.shared.state.node.now stage next) }
  procs := Function.update world.procs i
    (.call attempt { boot := world.shared.state.node.boot, stage := next })

inductive Moves (adapterConfig : AdapterConfig) (config : Config) (crypto : Crypto)
    (world : ExchangeWorld I) (i : I) : Act → ExchangeWorld I → Prop
  | adapter {act : Act} {adapter : AnchorTransfer}
      (stepped : world.shared.state.adapter.step adapterConfig world.shared.state.replies act =
        some adapter) : Moves adapterConfig config crypto world i act (world.adapted adapter)
  | call {attempt : Option Nat} {handler : Handler} {answer : Answer} {node : Node} {next : Stage}
      (own : world.procs i = .call attempt handler)
      (moves : Stage.Moves config crypto world.shared.state.node answer handler.stage node next)
      (live : world.Live i attempt handler.stage ∨ ∃ call, handler.stage = .arriving call) :
      Moves adapterConfig config crypto world i (.handle answer)
        (world.moved i attempt node handler.stage next)
  | environment {event : Event} {node : Node}
      (applied : event.apply config world.shared.state.node = some node) :
      Moves adapterConfig config crypto world i (.happen event) (world.happened node)

variable {adapterConfig : AdapterConfig} {config : Config} {crypto : Crypto}
  {after : ExchangeWorld I} {act : Act}

theorem fire_moves
    (fired : (observedExchange adapterConfig config crypto).fire world i act = some after) :
    Moves adapterConfig config crypto world i act after := by
  obtain ⟨shared, proc, stepped, rfl⟩ := Machine.fire_eq_some.mp fired
  obtain ⟨moved, recorded⟩ := Machine.observed_step.mp stepped
  obtain ⟨state, history⟩ := shared
  dsimp only at moved recorded
  subst recorded
  have unchanged (party : Party) (own : world.procs i = party) :
      Function.update world.procs i party = world.procs := by
    rw [Function.update_eq_self_iff, own]
  cases own : world.procs i with
  | adapter =>
    rw [own] at moved
    obtain ⟨adapter, goes, same⟩ := Option.map_eq_some_iff.mp moved
    obtain ⟨rfl, rfl⟩ := Prod.mk.inj same
    rw [unchanged _ own]
    simpa [Party.shows, adapted] using Moves.adapter (i := i) goes
  | call attempt handler =>
    rw [own] at moved
    cases act with
    | handle answer =>
      simp only [exchange, Exchange.step] at moved
      split at moved
      next =>
        obtain ⟨⟨node, handler'⟩, handled, same⟩ := Option.map_eq_some_iff.mp moved
        obtain ⟨rfl, rfl⟩ := Prod.mk.inj same
        obtain ⟨current, next, rfl, moves⟩ := Handler.step_moves handled
        refine .call own moves (current.imp_left fun same => ?_)
        rw [Live, own, ← same]
      next => cases moved
    | _ => cases moved
  | environment =>
    rw [own] at moved
    cases act with
    | happen event =>
      obtain ⟨node, applied, same⟩ := Option.map_eq_some_iff.mp moved
      obtain ⟨rfl, rfl⟩ := Prod.mk.inj same
      rw [unchanged _ own]
      simpa [Party.shows, happened] using Moves.environment (i := i) applied
    | _ => cases moved

theorem procs_moved {attempt attempt' : Option Nat} {node : Node} {stage next : Stage}
    {handler : Handler}
    (after : (world.moved i attempt node stage next).procs j = .call attempt' handler) :
    (j = i ∧ attempt' = attempt ∧ handler.stage = next) ∨
      (j ≠ i ∧ world.procs j = .call attempt' handler) := by
  unfold moved at after
  dsimp only at after
  by_cases own : j = i
  · subst own
    rw [Function.update_self] at after
    obtain ⟨rfl, rfl⟩ := Party.call.inj after
    exact .inl ⟨rfl, rfl, rfl⟩
  · rw [Function.update_of_ne own] at after
    exact .inr ⟨own, after⟩

theorem live_moved {attempt attempt' : Option Nat} {node : Node} {stage next stage' : Stage}
    (boot : node.boot = world.shared.state.node.boot)
    (live : (world.moved i attempt node stage next).Live j attempt' stage') :
    (j = i ∧ attempt' = attempt ∧ stage' = next) ∨ (j ≠ i ∧ world.Live j attempt' stage') := by
  refine (procs_moved live).imp_right fun ⟨other, before⟩ => ⟨other, ?_⟩
  rw [Live, ← boot]
  exact before

theorem Begun.moved {node : Node} {stage next : Stage} (begun : world.Begun)
    (boot : node.boot = world.shared.state.node.boot) :
    (world.moved i attempt node stage next).Begun := by
  intro j attempt' handler proc
  unfold ExchangeWorld.moved at proc ⊢
  dsimp only at proc ⊢
  by_cases same : j = i
  · subst same
    rw [Function.update_self] at proc
    obtain ⟨_, rfl⟩ := Party.call.inj proc
    exact .inl (le_of_eq boot.symm)
  · rw [Function.update_of_ne same] at proc
    rw [boot]
    exact begun j attempt' handler proc

omit [DecidableEq I] in
theorem Begun.happened {event : Event} {node : Node} (begun : world.Begun)
    (applied : event.apply config world.shared.state.node = some node) :
    (world.happened node).Begun := by
  intro j attempt' handler proc
  rcases begun j attempt' handler proc with early | arriving
  · exact .inl (early.trans (Event.boot_le applied))
  · exact .inr arriving

omit [DecidableEq I] in
theorem Begun.live_happened {event : Event} {node : Node} {stage : Stage} (begun : world.Begun)
    (applied : event.apply config world.shared.state.node = some node)
    (live : (world.happened node).Live j attempt stage) :
    (∃ call, stage = .arriving call) ∨ (event ≠ .restart ∧ world.Live j attempt stage) := by
  unfold Live ExchangeWorld.happened at live
  dsimp only at live
  by_cases restarted : event = .restart
  · subst restarted
    obtain rfl := Option.some.inj applied
    rcases begun j attempt _ live with early | arriving
    · exact absurd early (by simp)
    · exact .inl arriving
  · rw [Event.apply_boot restarted applied] at live
    exact .inr ⟨restarted, live⟩

end ExchangeWorld

end Kufi.ChainService

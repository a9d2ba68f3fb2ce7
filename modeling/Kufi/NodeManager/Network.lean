import Kufi.NodeManager.ApprovalFlow
import Kufi.NodeManager.Node

set_option autoImplicit false

/-!
# A network of nodes

Each node serves any number of calls at once, one operation of one of them at a
time. What a node gossips can reach the node at the address it is sent to, any
number of times and in any order, or never.
-/

namespace Kufi.NodeManager

open Shared

inductive Process where
  | idle
  | running (code : Handler Result)

inductive Move where
  | start (call : Call)
  | next (choice : Choice)

/-- A process of one node. -/
def Process.step (config : NodeConfig) (node : Node) : Process → Move → Option (Node × Process)
  | .idle, .start call =>
    (node.start call).map fun node => (node, .running (call.handler config))
  | .running code, .next choice =>
    ((Procedure.machine perform).step node code choice).map fun after =>
      (after.1, .running after.2)
  | _, _ => none

structure NodeProcess (N : Type) where
  node : N
  process : Process

/-- A move, and the node whose message it delivers if it delivers one. -/
structure NetworkMove (N : Type) where
  sender : N
  move : Move

def Move.delivers : Move → Option GossipMessage
  | .start (.receiveGossipedRequest req) => some (.request req)
  | .start (.receiveGossipedVote requestID vote) => some (.vote requestID vote)
  | .start (.handlePeerJoined peer) => some (.peerJoined peer)
  | _ => none

structure Network (N : Type) where
  config : N → NodeConfig
  mgmtAddr : N → String

variable {N : Type} [DecidableEq N]

def Network.machine (network : Network N) :
    Machine (N → Node) (NodeProcess N) (NetworkMove N) where
  step nodes proc action :=
    if ∀ message ∈ action.move.delivers,
        (network.mgmtAddr proc.node, message) ∈ (nodes action.sender).sent then
      (proc.process.step (network.config proc.node) (nodes proc.node) action.move).map fun after =>
        (Function.update nodes proc.node after.1, ⟨proc.node, after.2⟩)
    else none

theorem Network.step_eq_some {network : Network N} {nodes after : N → Node}
    {proc next : NodeProcess N} {action : NetworkMove N} :
    network.machine.step nodes proc action = some (after, next) ↔
      (∀ message ∈ action.move.delivers,
        (network.mgmtAddr proc.node, message) ∈ (nodes action.sender).sent) ∧
      ∃ node process, proc.process.step (network.config proc.node) (nodes proc.node) action.move =
          some (node, process) ∧
        after = Function.update nodes proc.node node ∧ next = ⟨proc.node, process⟩ := by
  simp only [Network.machine]
  split_ifs with sent
  · simp only [Option.map_eq_some_iff, Prod.exists, Prod.mk.injEq]
    constructor
    · rintro ⟨node, process, stepped, rfl, rfl⟩
      exact ⟨sent, node, process, stepped, rfl, rfl⟩
    · rintro ⟨_, node, process, stepped, rfl, rfl⟩
      exact ⟨node, process, stepped, rfl, rfl⟩
  · constructor
    · nofun
    · exact fun ⟨held, _⟩ => absurd held sent

/-- A process starts a call or performs one operation. -/
theorem Process.step_cases {config : NodeConfig} {node after : Node} {process next : Process}
    {move : Move} (stepped : process.step config node move = some (after, next)) :
    (∃ call, process = .idle ∧ move = .start call ∧ node.start call = some after ∧
        next = .running (call.handler config)) ∨
      ∃ op rest choice reply, process = .running (.perform op rest) ∧ move = .next choice ∧
        perform op choice node = some (reply, after) ∧ next = .running (rest reply) := by
  cases process with
  | idle =>
    cases move with
    | start call =>
      obtain ⟨started, starts, same⟩ := Option.map_eq_some_iff.mp stepped
      cases same
      exact .inl ⟨call, rfl, rfl, starts, rfl⟩
    | next choice => cases stepped
  | running code =>
    cases move with
    | start call => cases stepped
    | next choice =>
      obtain ⟨⟨started, code'⟩, advanced, same⟩ := Option.map_eq_some_iff.mp stepped
      cases same
      obtain ⟨op, rest, reply, rfl, performed, rfl⟩ := Procedure.step_eq_some.mp advanced
      exact .inr ⟨op, rest, choice, reply, rfl, rfl, performed, rfl⟩

end Kufi.NodeManager

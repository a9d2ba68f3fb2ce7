import Kufi.NodeManager.Network

set_option autoImplicit false

/-!
# Verdicts

Every node resolves a request on its own. A failed approval flow revises the
record of its own node, and no message says so.
-/

namespace Kufi.NodeManager

open Shared

/-- No request is approved on one node and rejected on another. -/
def VerdictsAgree {N : Type} (nodes : N → Node) : Prop :=
  ∀ n m id r r', (nodes n).request id = some r → (nodes m).request id = some r' →
    r.status = .approved → r'.status ≠ .rejected

/-- The operation is a step of the channel update that is told to fail. -/
def Fails : Op → Choice → Prop
  | .unpackMSPBundle _, .succeeds ok | .submitConfigUpdate, .succeeds ok => ok = false
  | .addOrgToChannel _, .builds update => update = none
  | .signConfigUpdate _ .configUpdateEnvelope, .signs signature => signature = none
  | _, _ => False

/-- No step of a channel update fails, and no request is submitted as rejected. -/
def Succeeding {I N : Type} (world : World I (N → Node) (NodeProcess N)) (i : I)
    (action : NetworkMove N) : Prop :=
  match (world.procs i).process, action.move with
  | _, .start (.submitJoinRequest _ _ req) => req.status ≠ .rejected
  | .running (.perform op _), .next choice => ¬ Fails op choice
  | _, _ => True

/-! ## Operations that reject nothing -/

def Unrejecting : Op → Prop
  | .saveJoinRequest r | .goExecuteApproval r | .broadcast (.request r) => r.status ≠ .rejected
  | _ => True

def UnrejectingReply : (op : Op) → op.Reply → Prop
  | .loadJoinRequest _, found => ∀ r, found = some r → r.status ≠ .rejected
  | .unpackMSPBundle _, ok | .addOrgToChannel _, ok | .submitConfigUpdate, ok => ok = true
  | .signConfigUpdate _ .configUpdateEnvelope, ok => ok = true
  | _, _ => True

structure Unrejected (node : Node) : Prop where
  stored : ∀ path r, node.store.files.get path = some (.request r) → r.status ≠ .rejected
  sent : ∀ addr r, (addr, .request r) ∈ node.sent → r.status ≠ .rejected
  flows : ∀ r ∈ node.flows, r.status ≠ .rejected

theorem Unrejected.request {node : Node} (unrejected : Unrejected node) {id : String}
    {r : JoinRequest} (found : node.request id = some r) : r.status ≠ .rejected := by
  obtain ⟨content, stored, read⟩ := Option.bind_eq_some_iff.mp found
  rcases Store.asRequest_eq_some read with rfl | ⟨_, status, _⟩
  · exact unrejected.stored _ r stored
  · rw [status]
    nofun

theorem Unrejected.write {node : Node} (unrejected : Unrejected node) (path : Path)
    (content : FileContent) (outcome : WriteOutcome)
    (clean : ∀ r, content = .request r → r.status ≠ .rejected) :
    Unrejected { node with store := (node.store.writeJSON path content outcome).2 } := by
  rcases Store.files_writeJSON node.store path content outcome with same | ⟨written, which, changed⟩
  · rw [same]
    exact unrejected
  · rw [changed]
    refine ⟨fun other r stored => ?_, unrejected.sent, unrejected.flows⟩
    simp only [Dict.get_set] at stored
    split_ifs at stored
    · rcases which with rfl | rfl
      · exact clean r (Option.some.inj stored)
      · cases stored
    · exact unrejected.stored other r stored

theorem Unrejected.perform {node after : Node} (unrejected : Unrejected node) {op : Op}
    {choice : Choice} {reply : op.Reply} (unrejecting : Unrejecting op)
    (succeeds : ¬ Fails op choice)
    (performed : NodeManager.perform op choice node = some (reply, after)) :
    Unrejected after ∧ UnrejectingReply op reply := by
  cases op with
  | loadJoinRequest id =>
    obtain ⟨rfl, rfl⟩ := perform_load performed
    exact ⟨unrejected, fun r found => unrejected.request found⟩
  | saveJoinRequest r =>
    cases choice <;> cases performed
    refine ⟨unrejected.write _ (.request r) _ fun other same => ?_, trivial⟩
    cases same
    exact unrejecting
  | addPeer peer =>
    cases choice <;> cases performed
    exact ⟨unrejected.write _ (.peers _) _ nofun, trivial⟩
  | broadcast message =>
    cases choice <;> cases performed
    refine ⟨⟨unrejected.stored, fun addr r member => ?_, unrejected.flows⟩, trivial⟩
    rcases List.mem_append.mp member with old | new
    · exact unrejected.sent addr r old
    · obtain ⟨target, _, same⟩ := List.mem_map.mp new
      cases same
      exact unrejecting
  | goExecuteApproval req =>
    cases choice <;> cases performed
    refine ⟨⟨unrejected.stored, unrejected.sent, fun r member => ?_⟩, trivial⟩
    rcases List.mem_append.mp member with old | new
    · exact unrejected.flows r old
    · obtain rfl := List.mem_singleton.mp new
      exact unrejecting
  | unpackMSPBundle bundle =>
    cases choice <;> cases performed
    exact ⟨unrejected, eq_true_of_ne_false succeeds⟩
  | submitConfigUpdate =>
    cases choice <;> cases performed
    exact ⟨⟨unrejected.stored, unrejected.sent, unrejected.flows⟩,
      eq_true_of_ne_false succeeds⟩
  | addOrgToChannel definition =>
    cases choice with
    | builds update =>
      cases update with
      | none => exact absurd rfl succeeds
      | some update =>
        cases performed
        exact ⟨⟨unrejected.stored, unrejected.sent, unrejected.flows⟩, rfl⟩
    | _ => cases performed
  | signConfigUpdate mspID file =>
    cases choice with
    | signs signature =>
      cases signature with
      | none =>
        cases performed
        cases file with
        | configUpdateEnvelope => exact absurd rfl succeeds
        | signTmp => exact ⟨unrejected, trivial⟩
      | some signature =>
        simp only [NodeManager.perform] at performed
        split at performed <;> cases performed
        refine ⟨⟨unrejected.stored, unrejected.sent, unrejected.flows⟩, ?_⟩
        cases file <;> trivial
    | _ => cases performed
  | writeFile file bytes =>
    cases choice with
    | write outcome =>
      cases outcome <;> cases performed <;>
        exact ⟨⟨unrejected.stored, unrejected.sent, unrejected.flows⟩, trivial⟩
    | _ => cases performed
  | _ =>
    cases choice <;> cases performed
    exact ⟨⟨unrejected.stored, unrejected.sent, unrejected.flows⟩, trivial⟩

/-! ## The handlers -/

section Handlers

variable (config : NodeConfig)

abbrev AsksUnrejecting {A : Type} (procedure : Handler A) : Prop :=
  procedure.Asks Unrejecting UnrejectingReply fun _ => True

theorem checkMajority_unrejecting (req : JoinRequest) :
    AsksUnrejecting (checkMajority config req) := by
  unfold checkMajority
  split
  · trivial
  · split
    · trivial
    · refine .ask trivial fun now _ => ?_
      refine .ask nofun fun saved _ => ?_
      refine .ask trivial fun _ _ => ?_
      split
      · exact ⟨nofun, fun _ _ => trivial⟩
      · trivial

theorem submitJoinRequest_unrejecting (generatedID : String) (now : Time) (req : JoinRequest)
    (unrejected : req.status ≠ .rejected) :
    AsksUnrejecting (submitJoinRequest generatedID now req) := by
  refine .ask trivial fun peers _ => ?_
  have completed : (req.completed generatedID now peers).status ≠ .rejected := by
    simp only [JoinRequest.completed]
    split_ifs
    · nofun
    · exact unrejected
  refine .ask completed fun saved _ => ?_
  cases saved with
  | false => trivial
  | true => exact .ask completed fun _ _ => trivial

theorem status_mergeVotes (existing : JoinRequest) (votes : List Vote) :
    (mergeVotes existing votes).1.status = existing.status := by
  induction votes generalizing existing with
  | nil => rfl
  | cons v rest ih =>
    unfold mergeVotes
    split
    · exact ih existing
    · exact ih (existing.withVote v)

theorem receiveGossipedRequest_unrejecting (req : JoinRequest)
    (unrejected : req.status ≠ .rejected) :
    AsksUnrejecting (receiveGossipedRequest config req) := by
  refine .ask trivial fun found heard => ?_
  cases found with
  | none =>
    refine .ask unrejected fun saved _ => ?_
    cases saved <;> trivial
  | some existing =>
    have merged : (mergeVotes existing req.votes).1.status ≠ .rejected :=
      status_mergeVotes existing req.votes ▸ heard existing rfl
    dsimp only
    split
    · refine .ask merged fun saved _ => ?_
      exact .bind (checkMajority_unrejecting config _) fun _ _ => trivial
    · trivial

theorem castVote_unrejecting (requestID : String) (approve : Bool) :
    AsksUnrejecting (castVote config requestID approve) := by
  refine .ask trivial fun found heard => ?_
  cases found with
  | none => trivial
  | some req =>
    dsimp only
    split
    · trivial
    · split
      · trivial
      · refine .ask trivial fun now _ => ?_
        refine .ask (heard req rfl) fun saved _ => ?_
        cases saved with
        | false => trivial
        | true =>
          refine .ask trivial fun _ _ => ?_
          exact .bind (checkMajority_unrejecting config _) fun _ _ => trivial

theorem receiveGossipedVote_unrejecting (requestID : String) (vote : Vote) :
    AsksUnrejecting (receiveGossipedVote config requestID vote) := by
  refine .ask trivial fun found heard => ?_
  cases found with
  | none => trivial
  | some req =>
    dsimp only
    split
    · trivial
    · refine .ask (heard req rfl) fun saved _ => ?_
      exact .bind (checkMajority_unrejecting config _) fun _ _ => trivial

theorem unrejecting_of_silent {op : Op} (silent : op.Silent) : Unrejecting op := by
  cases op with
  | broadcast message =>
    cases message with
    | request => exact silent.elim
    | vote | peerJoined => trivial
  | saveJoinRequest | goExecuteApproval => exact silent.elim
  | _ => trivial

theorem executeApproval_unrejecting (req : JoinRequest) :
    AsksUnrejecting (executeApproval config req) := by
  refine executeApproval_asks (fun _ => unrejecting_of_silent) (fun _ => trivial) config req ?_
  rintro (failed | failed | failed | failed) <;> cases failed

/-- What a call brings is not rejected. -/
def Call.Unrejecting : Call → Prop
  | .submitJoinRequest _ _ req | .receiveGossipedRequest req => req.status ≠ .rejected
  | _ => True

theorem handler_unrejecting (call : Call) (unrejecting : call.Unrejecting) :
    AsksUnrejecting (call.handler config) := by
  cases call with
  | submitJoinRequest generatedID now req =>
    refine .bind (submitJoinRequest_unrejecting generatedID now req unrejecting) fun result _ => ?_
    cases result <;> trivial
  | receiveGossipedRequest req =>
    exact .bind (receiveGossipedRequest_unrejecting config req unrejecting) fun _ _ => trivial
  | castVote requestID approve =>
    exact .bind (castVote_unrejecting config requestID approve) fun _ _ => trivial
  | receiveGossipedVote requestID vote =>
    exact .bind (receiveGossipedVote_unrejecting config requestID vote) fun _ _ => trivial
  | handlePeerJoined peer => exact .ask trivial fun _ _ => trivial
  | handleSignConfigUpdate req =>
    have asks : AsksUnrejecting (NodeManager.handleSignConfigUpdate config req) :=
      handleSignConfigUpdate_asks (fun _ => unrejecting_of_silent) config req
    exact .bind asks fun _ _ => trivial
  | executeApproval req =>
    exact .bind (executeApproval_unrejecting config req) fun _ _ => trivial

end Handlers

/-! ## Runs -/

def Process.Unrejecting : Process → Prop
  | .idle => True
  | .running code => AsksUnrejecting code

theorem unrejected_step {I N : Type} [DecidableEq N] {network : Network N}
    {world : World I (N → Node) (NodeProcess N)} {i : I}
    {action : NetworkMove N} {after : N → Node} {next : NodeProcess N}
    (nodes : ∀ n, Unrejected (world.shared n))
    (procs : ∀ j, (world.procs j).process.Unrejecting) (succeeding : Succeeding world i action)
    (stepped : network.machine.step world.shared (world.procs i) action = some (after, next)) :
    (∀ n, Unrejected (after n)) ∧ next.process.Unrejecting := by
  obtain ⟨delivered, node, process, moved, rfl, rfl⟩ := Network.step_eq_some.mp stepped
  have own : Unrejected node ∧ process.Unrejecting := by
    rcases Process.step_cases moved with ⟨call, _, starts, started, rfl⟩ |
      ⟨op, rest, choice, reply, running, advances, performed, rfl⟩
    · have unrejecting : call.Unrejecting := by
        unfold Succeeding at succeeding
        rw [starts] at succeeding delivered
        cases call with
        | submitJoinRequest generatedID now req =>
          change req.status ≠ .rejected
          simpa using succeeding
        | receiveGossipedRequest req =>
          exact (nodes action.sender).sent _ req (delivered (.request req) rfl)
        | _ => trivial
      refine ⟨?_, handler_unrejecting _ call unrejecting⟩
      have before := nodes (world.procs i).node
      cases call with
      | executeApproval req =>
        simp only [Node.start] at started
        split_ifs at started
        cases started
        exact ⟨before.stored, before.sent, fun r member =>
          before.flows r (List.mem_of_mem_erase member)⟩
      | _ =>
        cases started
        exact before
    · have asks := procs i
      unfold Succeeding at succeeding
      rw [running] at asks succeeding
      rw [advances] at succeeding
      obtain ⟨kept, heard⟩ := (nodes (world.procs i).node).perform asks.1 succeeding performed
      exact ⟨kept, asks.2 reply heard⟩
  refine ⟨fun n => ?_, own.2⟩
  by_cases same : n = (world.procs i).node
  · subst same
    simpa using own.1
  · simpa [Function.update_of_ne same] using nodes n

/-- As long as no channel update fails, no request is approved on one node and rejected on
another. -/
theorem verdicts_agree {I N : Type} [DecidableEq I] [DecidableEq N] {network : Network N}
    {start world : World I (N → Node) (NodeProcess N)}
    (unrejected : ∀ n, Unrejected (start.shared n))
    (idle : ∀ i, (start.procs i).process = .idle)
    (reached : network.machine.Reaches Succeeding start world) : VerdictsAgree world.shared := by
  have kept := reached.assertions (fun nodes => ∀ n, Unrejected (nodes n))
    (fun _ _ proc => proc.process.Unrejecting)
    ⟨unrejected, fun i => by rw [idle i]; trivial⟩ (by
      intro world i action nodes proc inv procs succeeding stepped
      obtain ⟨unrejected, unrejecting⟩ := unrejected_step inv procs succeeding stepped
      exact ⟨unrejected, unrejecting, fun j _ => procs j⟩)
  intro n m id r r' _ found' _
  exact (kept.1 m).request found'

/-! ## An orderer and a peer -/

def ordererNode : NodeConfig where
  role := .orderer
  orgName := "Orderer"
  mspID := ordererMSPID
  domain := "kufichain.network"
  ordererMgmtAddr := ""

def peerBesideOrderer : NodeConfig :=
  { peerOne with ordererMgmtAddr := "http://orderer:9500" }

def ordererAndPeer : Network Bool where
  config isOrderer := if isOrderer then ordererNode else peerBesideOrderer
  mgmtAddr isOrderer := if isOrderer then "http://orderer:9500" else "http://one:9500"

-- Five calls on the two nodes; the first, fourth and fifth are the orderer's.
def ordererAndPeerStart : World (Fin 5) (Bool → Node) (NodeProcess Bool) where
  shared isOrderer := .idle (ordererAndPeer.config isOrderer)
    [samplePeer "PeerOneMSP" "http://one:9500"]
  procs i := ⟨i.val ∉ [1, 2], .idle⟩

def submittedJoiner : JoinRequest :=
  { joiner with status := .pending, totalPeers := 1, createdAt := 1 }

def approvedJoiner : JoinRequest :=
  (submittedJoiner.withVote (ownVote peerOne true 2)).resolved .approved 4

/-- A call and the operations it performs. -/
def serve (i : Fin 5) (sender : Bool) (call : Call) (choices : List Choice) :
    List (Fin 5 × NetworkMove Bool) :=
  (i, ⟨sender, .start call⟩) :: choices.map fun choice => (i, ⟨sender, .next choice⟩)

-- The peer approves the request and tells the orderer, which starts the approval flow.
def approvedByBoth : List (Fin 5 × NetworkMove Bool) :=
  serve 0 true (.submitJoinRequest "" 1 joiner) [.nothing, .write .written, .nothing] ++
    serve 1 true (.receiveGossipedRequest submittedJoiner) [.nothing, .write .written] ++
    serve 2 true (.castVote "r1" true) [.nothing, .time 2, .write .written, .nothing, .time 3,
      .write .written, .nothing] ++
    serve 3 false (.receiveGossipedVote "r1" (ownVote peerOne true 2)) [.nothing, .write .written,
      .time 4, .write .written, .nothing, .nothing]

def orderFails : List (Fin 5 × NetworkMove Bool) :=
  approvedByBoth ++ serve 4 true (.executeApproval approvedJoiner) [.builds none, .time 5,
    .write .written, .nothing]

theorem verdicts_disagree :
    ¬ ∀ world, ordererAndPeer.machine.Reaches (fun _ _ _ => True) ordererAndPeerStart world →
      VerdictsAgree world.shared := by
  intro agree
  have ends : (ordererAndPeer.machine.run ordererAndPeerStart orderFails).map (fun world =>
      (((world.shared false).request "r1").map JoinRequest.status,
        ((world.shared true).request "r1").map JoinRequest.status)) =
      some (some .approved, some .rejected) := by decide +kernel
  obtain ⟨world, ran, statuses⟩ := Option.map_eq_some_iff.mp ends
  obtain ⟨approved, rejected⟩ := Prod.mk.inj statuses
  obtain ⟨r, found, status⟩ := Option.map_eq_some_iff.mp approved
  obtain ⟨r', found', status'⟩ := Option.map_eq_some_iff.mp rejected
  exact agree world (.run .refl ran) false true "r1" r r' found found' status status'

instance (op : Op) (choice : Choice) : Decidable (Fails op choice) := by
  unfold Fails
  split <;> infer_instance

instance {I : Type} (world : World I (Bool → Node) (NodeProcess Bool)) (i : I)
    (action : NetworkMove Bool) : Decidable (Succeeding world i action) := by
  unfold Succeeding
  split <;> infer_instance

theorem idle_unrejected (config : NodeConfig) (peers : List PeerInfo) :
    Unrejected (.idle config peers) where
  stored path r stored := by
    simp only [Node.idle, Dict.get_set] at stored
    split_ifs at stored <;> cases stored
  sent _ _ := nofun
  flows _ := nofun

-- The channel update goes through.
theorem verdicts_agree_orderSucceeds :
    ∃ world, ordererAndPeer.machine.run ordererAndPeerStart (approvedByBoth ++
        serve 4 true (.executeApproval approvedJoiner) [.builds (some "add PeerFour"),
          .signs (some "s"), .nothing, .nothing, .answers none, .succeeds true]) = some world ∧
      ((world.shared true).request "r1").map JoinRequest.status = some .approved ∧
      VerdictsAgree world.shared := by
  have reached : (ordererAndPeer.machine.checkedRun Succeeding ordererAndPeerStart
      (approvedByBoth ++ serve 4 true (.executeApproval approvedJoiner)
        [.builds (some "add PeerFour"), .signs (some "s"), .nothing, .nothing, .answers none,
          .succeeds true])).map
      (fun world => ((world.shared true).request "r1").map JoinRequest.status) =
      some (some .approved) := by decide +kernel
  obtain ⟨world, ran, status⟩ := Option.map_eq_some_iff.mp reached
  have runs := Machine.Runs.checked .nil ran
  exact ⟨world, runs.run, status,
    verdicts_agree (fun _ => idle_unrejected _ _) (fun _ => rfl) runs.reaches⟩

end Kufi.NodeManager

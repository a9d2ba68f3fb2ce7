import Kufi.NodeManager.ApprovalFlow
import Kufi.NodeManager.Node

set_option autoImplicit false

/-!
# Handlers side by side

The store locks a load and a save, but not what a handler does between them.
The handlers that concern one request run here interleaved, with a record of
the votes they add and of the approval flows they start.
-/

namespace Kufi.NodeManager

open Shared

/-- The node with the votes its handlers have accepted and the flows they have started. -/
structure Tracked where
  node : Node
  accepted : List Vote
  started : Nat

/-- The version of the request that a handler has loaded or saved last, and whether it has saved
an approval whose flow it has yet to start. -/
structure Copy where
  seen : Option JoinRequest
  owes : Bool

inductive VoteProcess where
  | idle
  | running (copy : Copy) (code : Handler Result)
  deriving Inhabited

inductive VoteMove where
  | start (call : Call)
  | next (choice : Choice)

/-- The saved version approves what the one before it left pending. -/
def approves (seen : Option JoinRequest) (r : JoinRequest) : Bool :=
  (seen.map JoinRequest.status) == some .pending && r.status == .approved

def Copy.advance (copy : Copy) : (op : Op) → op.Reply → Copy
  | .loadJoinRequest _, found => { seen := found, owes := false }
  | .saveJoinRequest r, _ => { seen := some r, owes := approves copy.seen r }
  | .goExecuteApproval _, _ => { copy with owes := false }
  | _, _ => copy

/-- The votes that a save adds to the version its handler had. -/
def Copy.adds (copy : Copy) : Op → List Vote
  | .saveJoinRequest r => r.votes.filter fun v => v ∉ (copy.seen.map JoinRequest.votes).getD []
  | _ => []

def Op.starts : Op → Nat
  | .goExecuteApproval _ => 1
  | _ => 0

/-- What a call holds of the request from the start: an approval flow has the approved version. -/
def Call.copy : Call → Copy
  | .executeApproval req => { seen := some req, owes := false }
  | _ => { seen := none, owes := false }

def voteHandlers (config : NodeConfig) : Machine Tracked VoteProcess VoteMove where
  step s
    | .idle, .start call =>
      (s.node.start call).map fun node =>
        ({ s with node := node }, .running call.copy (call.handler config))
    | .running copy (.perform op next), .next choice =>
      (perform op choice s.node).map fun result =>
        ({ node := result.2
           accepted := s.accepted ++ copy.adds op
           started := s.started + op.starts },
          .running (copy.advance op result.1) (next result.1))
    | _, _ => none

def VoteProcess.Finished : VoteProcess → Prop
  | .idle | .running _ (.done _) => True
  | _ => False

/-- One vote of an MSP. -/
def JoinRequest.DistinctVoters (r : JoinRequest) : Prop :=
  (r.votes.map Vote.voterMSP).Nodup

variable {I : Type}

structure NothingLost (id : String) (world : World I Tracked VoteProcess) : Prop where
  kept : (∀ i, (world.procs i).Finished) → ∀ v ∈ world.shared.accepted,
    ∃ r, world.shared.node.request id = some r ∧ v ∈ r.votes
  distinct : ∀ r, world.shared.node.request id = some r → r.DistinctVoters
  once : world.shared.started ≤ 1

/-- The calls on one request that this is about. -/
def Call.Concerns (id : String) : Call → Prop
  | .receiveGossipedRequest req | .executeApproval req => req.id = id
  | .castVote requestID _ | .receiveGossipedVote requestID _ => requestID = id
  | _ => False

/-- The calls are on the request, and every write goes through. -/
def Concerning (id : String) (world : World I Tracked VoteProcess) (i : I) (move : VoteMove) :
    Prop :=
  match world.procs i, move with
  | _, .start call => call.Concerns id
  | .running _ (.perform (.saveJoinRequest _) _), .next choice => choice = .write .written
  | _, _ => True

/-- A save finds the version that its handler has, and what it stores as new has one vote an
MSP. -/
def UpToDate (id : String) (world : World I Tracked VoteProcess) (i : I) (_ : VoteMove) : Prop :=
  match world.procs i with
  | .running copy (.perform (.saveJoinRequest r) _) =>
    world.shared.node.request id = copy.seen ∧ (copy.seen = none → r.DistinctVoters)
  | _ => True

/-! ## What a handler does to its copy -/

/-- A version that may be saved over `s`: nothing is lost and no resolution taken back. -/
structure JoinRequest.Follows (s r : JoinRequest) : Prop where
  votes : ∀ v ∈ s.votes, v ∈ r.votes
  distinct : s.DistinctVoters → r.DistinctVoters
  status : r.status = s.status ∨ s.status = .pending ∧ r.status = .approved ∨
    s.status = .approved ∧ r.status = .rejected

def Permitted (id : String) (copy : Copy) : Op → Prop
  | .loadJoinRequest requestID => requestID = id
  | .saveJoinRequest r => r.id = id ∧ ∀ s, copy.seen = some s → s.Follows r
  | .goExecuteApproval r => copy.owes = true ∧ r.id = id ∧ r.status = .approved
  | _ => True

def Named (id : String) : (op : Op) → op.Reply → Prop
  | .loadJoinRequest _, found => ∀ r, found = some r → r.id = id
  | _, _ => True

def Copy.Becomes (id : String) (copy : Copy) (op : Op) (reply : op.Reply) (after : Copy) : Prop :=
  Named id op reply ∧ after = copy.advance op reply

abbrev TracksCopy {A : Type} (id : String) (copy : Copy) (procedure : Handler A) : Prop :=
  procedure.Tracks (Permitted id) (Copy.Becomes id) (fun _ _ => True) copy

theorem TracksCopy.ask {A : Type} {id : String} {copy : Copy} {op : Op}
    {rest : op.Reply → Handler A} (permitted : Permitted id copy op)
    (later : ∀ reply, Named id op reply → TracksCopy id (copy.advance op reply) (rest reply)) :
    TracksCopy id copy (NodeManager.ask op >>= rest) := by
  refine ⟨permitted, ?_⟩
  rintro reply _ ⟨named, rfl⟩
  exact later reply named

section Handlers

variable {id : String} {r : JoinRequest} {v : Vote} {copy : Copy}

theorem JoinRequest.Follows.withVote (new : r.hasVoted v.voterMSP = false) :
    r.Follows (r.withVote v) where
  votes _ member := List.mem_append_left _ member
  distinct distinct := by
    unfold DistinctVoters
    rw [votes_withVote, List.map_append, List.nodup_append]
    refine ⟨distinct, List.nodup_singleton _, ?_⟩
    intro mspID member other single equal
    obtain ⟨w, voted, rfl⟩ := List.mem_map.mp member
    obtain rfl := List.mem_singleton.mp single
    rw [hasVoted_iff.mpr ⟨w, voted, equal⟩] at new
    cases new
  status := .inl rfl

theorem JoinRequest.Follows.trans {s t : JoinRequest} (first : r.Follows s) (second : s.Follows t)
    (same : s.status = r.status) : r.Follows t where
  votes v member := second.votes v (first.votes v member)
  distinct distinct := second.distinct (first.distinct distinct)
  status := same ▸ second.status

theorem JoinRequest.Follows.refl (r : JoinRequest) : r.Follows r :=
  ⟨fun _ member => member, fun distinct => distinct, .inl rfl⟩

theorem follows_mergeVotes (r : JoinRequest) (votes : List Vote) :
    r.Follows (mergeVotes r votes).1 ∧ (mergeVotes r votes).1.id = r.id ∧
      (mergeVotes r votes).1.status = r.status := by
  induction votes generalizing r with
  | nil => exact ⟨.refl r, rfl, rfl⟩
  | cons v rest ih =>
    unfold mergeVotes
    split
    · exact ih r
    next new =>
      obtain ⟨follows, id, status⟩ := ih (r.withVote v)
      exact ⟨.trans (.withVote (Bool.eq_false_iff.mpr new)) follows rfl, id, status⟩

variable (config : NodeConfig)

theorem checkMajority_tracks (named : r.id = id) (seen : copy.seen = some r) :
    TracksCopy id copy (checkMajority config r) := by
  unfold checkMajority
  split
  · trivial
  next pending =>
    have pending : r.status = .pending := not_not.mp pending
    split
    · trivial
    · refine .ask trivial fun now _ => ?_
      have follows : r.Follows (r.resolved .approved now) :=
        ⟨fun _ member => member, fun distinct => distinct, .inr (.inl ⟨pending, rfl⟩)⟩
      refine .ask ⟨named, fun s same => ?_⟩ fun saved _ => ?_
      · obtain rfl := Option.some.inj (seen.symm.trans same)
        exact follows
      · refine .ask trivial fun _ _ => ?_
        split
        · refine ⟨⟨?_, named, rfl⟩, fun _ _ _ => trivial⟩
          simp [Copy.advance, approves, seen, pending]
        · trivial

theorem castVote_tracks (approve : Bool) : TracksCopy id copy (castVote config id approve) := by
  refine .ask rfl fun found named => ?_
  cases found with
  | none => trivial
  | some r =>
    dsimp only
    split
    · trivial
    · split
      · trivial
      next new =>
        refine .ask trivial fun now _ => ?_
        refine .ask ⟨named r rfl, fun s same => ?_⟩ fun saved _ => ?_
        · obtain rfl := Option.some.inj same
          exact .withVote (Bool.eq_false_iff.mpr new)
        · cases saved with
          | false => trivial
          | true =>
            refine .ask trivial fun _ _ => ?_
            exact .bind (checkMajority_tracks config (named r rfl) rfl) fun _ _ _ => trivial

theorem receiveGossipedVote_tracks (vote : Vote) :
    TracksCopy id copy (receiveGossipedVote config id vote) := by
  refine .ask rfl fun found named => ?_
  cases found with
  | none => trivial
  | some r =>
    dsimp only
    split
    · trivial
    next new =>
      refine .ask ⟨named r rfl, fun s same => ?_⟩ fun saved _ => ?_
      · obtain rfl := Option.some.inj same
        exact .withVote (Bool.eq_false_iff.mpr new)
      · exact .bind (checkMajority_tracks config (named r rfl) rfl) fun _ _ _ => trivial

theorem receiveGossipedRequest_tracks {req : JoinRequest} (named : req.id = id) :
    TracksCopy id copy (receiveGossipedRequest config req) := by
  refine .ask named fun found stored => ?_
  cases found with
  | none =>
    refine .ask ⟨named, nofun⟩ fun saved _ => ?_
    cases saved <;> trivial
  | some r =>
    obtain ⟨follows, same, _⟩ := follows_mergeVotes r req.votes
    have named := same.trans (stored r rfl)
    dsimp only
    split
    · refine .ask ⟨named, fun s same => ?_⟩ fun saved _ => ?_
      · obtain rfl := Option.some.inj same
        exact follows
      · exact .bind (checkMajority_tracks config named rfl) fun _ _ _ => trivial
    · trivial

theorem failApproval_tracks {req : JoinRequest} (named : req.id = id)
    (approved : req.status = .approved) (seen : copy.seen = some req) :
    TracksCopy id copy (failApproval req) := by
  refine .ask trivial fun now _ => ?_
  refine .ask ⟨named, fun s same => ?_⟩ fun saved _ => ?_
  · obtain rfl := Option.some.inj (seen.symm.trans same)
    exact ⟨fun _ member => member, fun distinct => distinct, .inr (.inr ⟨approved, rfl⟩)⟩
  · exact ⟨trivial, fun _ _ _ => trivial⟩

theorem permitted_of_silent {op : Op} (silent : op.Silent) (copy : Copy) :
    Permitted id copy op ∧
      ∀ reply after, copy.Becomes id op reply after → after = copy ∧ Named id op reply := by
  cases op with
  | loadJoinRequest | saveJoinRequest | goExecuteApproval => exact silent.elim
  | _ => exact ⟨trivial, fun _ _ moved => ⟨moved.2, moved.1⟩⟩

theorem executeApproval_tracks {req : JoinRequest} (named : req.id = id)
    (approved : req.status = .approved) (seen : copy.seen = some req) :
    TracksCopy id copy (executeApproval config req) := by
  have update : (updateChannel config req).Asks Op.Silent (Named id) _ :=
    updateChannel_asks (fun _ silent => silent) config req
  refine .bind (update.tracks fun _ silent => permitted_of_silent silent copy) ?_
  rintro updated _ ⟨rfl, _⟩
  cases updated with
  | false => exact failApproval_tracks named approved seen
  | true =>
    refine TracksCopy.ask trivial fun now _ => ?_
    refine TracksCopy.ask trivial fun _ _ => ?_
    exact TracksCopy.ask trivial fun _ _ => ⟨trivial, fun _ _ _ => trivial⟩

theorem handler_tracks {call : Call} (concerns : call.Concerns id)
    (approved : ∀ req, call = .executeApproval req → req.status = .approved) :
    TracksCopy id call.copy (call.handler config) := by
  cases call with
  | receiveGossipedRequest req =>
    exact .bind (receiveGossipedRequest_tracks config concerns) fun _ _ _ => trivial
  | castVote requestID approve =>
    obtain rfl : requestID = id := concerns
    exact .bind (castVote_tracks config approve) fun _ _ _ => trivial
  | receiveGossipedVote requestID vote =>
    obtain rfl : requestID = id := concerns
    exact .bind (receiveGossipedVote_tracks config vote) fun _ _ _ => trivial
  | executeApproval req =>
    exact .bind (executeApproval_tracks config concerns (approved req rfl) rfl) fun _ _ _ => trivial
  | submitJoinRequest | handlePeerJoined | handleSignConfigUpdate => exact concerns.elim

end Handlers

/-! ## The invariant of all handlers -/

def VoteProcess.Owes : VoteProcess → Prop
  | .idle => False
  | .running copy _ => copy.owes = true

def VoteProcess.Tracks (id : String) : VoteProcess → Prop
  | .idle => True
  | .running copy code => TracksCopy id copy code

structure Orderly (id : String) (world : World I Tracked VoteProcess) : Prop where
  apart : world.shared.node.store.requestPath id ≠ world.shared.node.store.peersPath
  named : ∀ r, world.shared.node.request id = some r → r.id = id ∧ r.DistinctVoters
  kept : ∀ v ∈ world.shared.accepted, ∃ r, world.shared.node.request id = some r ∧ v ∈ r.votes
  flows : ∀ r ∈ world.shared.node.flows, r.status = .approved
  once : world.shared.started ≤ 1
  owing : ∀ i, (world.procs i).Owes → world.shared.started = 0
  single : ∀ i j, (world.procs i).Owes → (world.procs j).Owes → i = j
  unresolved : (∀ r, world.shared.node.request id = some r → r.status = .pending) →
    world.shared.started = 0 ∧ ∀ i, ¬ (world.procs i).Owes
  tracks : ∀ i, (world.procs i).Tracks id

theorem Orderly.nothingLost {id : String} {world : World I Tracked VoteProcess}
    (orderly : Orderly id world) : NothingLost id world where
  kept _ := orderly.kept
  distinct r found := (orderly.named r found).2
  once := orderly.once

section Step

variable [DecidableEq I] {id : String} {world : World I Tracked VoteProcess} {i : I} {node : Node}
  {next : VoteProcess}

theorem owes_update (owes : next.Owes → (world.procs i).Owes) (j : I)
    (later : (Function.update world.procs i next j).Owes) : (world.procs j).Owes := by
  rcases update_cases VoteProcess.Owes later with ⟨rfl, own⟩ | ⟨_, before⟩
  · exact owes own
  · exact before

variable (next) in
/-- A step that leaves the stored request alone and starts no flow. -/
theorem Orderly.quiet (orderly : Orderly id world)
    (base : node.store.baseDir = world.shared.node.store.baseDir)
    (same : node.request id = world.shared.node.request id)
    (flows : ∀ r ∈ node.flows, r ∈ world.shared.node.flows)
    (owes : next.Owes → (world.procs i).Owes) (tracks : next.Tracks id) :
    Orderly id
      { shared := { world.shared with node := node }
        procs := Function.update world.procs i next } where
  apart := by
    simpa only [Store.requestPath, Store.peersPath, base] using orderly.apart
  named r found := orderly.named r (same ▸ found)
  kept v member := same ▸ orderly.kept v member
  flows r member := orderly.flows r (flows r member)
  once := orderly.once
  owing j later := orderly.owing j (owes_update owes j later)
  single j k first second :=
    orderly.single j k (owes_update owes j first) (owes_update owes k second)
  unresolved pending := by
    obtain ⟨unstarted, unowed⟩ := orderly.unresolved fun r found => pending r (same ▸ found)
    exact ⟨unstarted, fun j later => unowed j (owes_update owes j later)⟩
  tracks := forall_update (VoteProcess.Tracks id) tracks orderly.tracks

variable (next) in
theorem Orderly.go (orderly : Orderly id world) {r : JoinRequest}
    (owed : (world.procs i).Owes) (paid : ¬ next.Owes) (approved : r.status = .approved)
    (tracks : next.Tracks id) :
    Orderly id
      { shared :=
          { world.shared with
            node := { world.shared.node with flows := world.shared.node.flows ++ [r] }
            started := world.shared.started + 1 }
        procs := Function.update world.procs i next } := by
  have nobody (j : I) : ¬ (Function.update world.procs i next j).Owes := by
    intro later
    rcases update_cases VoteProcess.Owes later with ⟨_, own⟩ | ⟨other, before⟩
    · exact paid own
    · exact other (orderly.single j i before owed)
  have unstarted := orderly.owing i owed
  refine ⟨orderly.apart, orderly.named, orderly.kept, ?_, ?_, ?_, ?_, ?_, ?_⟩
  · intro other member
    rcases List.mem_append.mp member with old | new
    · exact orderly.flows other old
    · obtain rfl := List.mem_singleton.mp new
      exact approved
  · simp [unstarted]
  · exact fun j later => absurd later (nobody j)
  · exact fun j k later => absurd later (nobody j)
  · exact fun pending => absurd owed ((orderly.unresolved pending).2 i)
  · exact forall_update (VoteProcess.Tracks id) tracks orderly.tracks

/-- A save of a version that follows the stored one. -/
theorem Orderly.save (orderly : Orderly id world) {copy : Copy} {r : JoinRequest}
    {code : Handler Result} (upToDate : world.shared.node.request id = copy.seen)
    (named : r.id = id) (new : copy.seen = none → r.DistinctVoters)
    (follows : ∀ s, copy.seen = some s → s.Follows r)
    (tracks : TracksCopy id { seen := some r, owes := approves copy.seen r } code) :
    Orderly id
      { shared :=
          { world.shared with
            node := (world.shared.node.save r .written).2
            accepted := world.shared.accepted ++ copy.adds (.saveJoinRequest r) }
        procs := Function.update world.procs i
          (.running { seen := some r, owes := approves copy.seen r } code) } := by
  have stored : (world.shared.node.save r .written).2.request id = some r :=
    named ▸ request_written world.shared.node r
  have unresolved (approved : approves copy.seen r = true) :
      world.shared.started = 0 ∧ ∀ i, ¬ (world.procs i).Owes := by
    refine orderly.unresolved fun s found => ?_
    simp only [approves, Bool.and_eq_true, beq_iff_eq] at approved
    rw [upToDate] at found
    rw [found] at approved
    exact Option.some.inj approved.1
  have owing (j : I) (later : (Function.update world.procs i
      (.running { seen := some r, owes := approves copy.seen r } code) j).Owes) :
      j = i ∧ approves copy.seen r = true ∨ (world.procs j).Owes :=
    (update_cases VoteProcess.Owes later).imp_right And.right
  refine ⟨orderly.apart, ?_, ?_, orderly.flows, orderly.once, ?_, ?_, ?_, ?_⟩
  · intro other found
    obtain rfl := Option.some.inj (stored.symm.trans found)
    refine ⟨named, ?_⟩
    cases seen : copy.seen with
    | none => exact new seen
    | some s =>
      exact (follows s seen).distinct (orderly.named s (upToDate.trans seen)).2
  · intro v member
    refine ⟨r, stored, ?_⟩
    rcases List.mem_append.mp member with old | added
    · obtain ⟨s, found, voted⟩ := orderly.kept v old
      exact (follows s (upToDate.symm.trans found)).votes v voted
    · exact List.mem_of_mem_filter added
  · intro j later
    rcases owing j later with ⟨_, approved⟩ | owed
    · exact (unresolved approved).1
    · exact orderly.owing j owed
  · intro j k first second
    rcases owing j first with ⟨rfl, approved⟩ | owed
    · rcases owing k second with ⟨rfl, _⟩ | other
      · rfl
      · exact absurd other ((unresolved approved).2 k)
    · rcases owing k second with ⟨rfl, approved⟩ | other
      · exact absurd owed ((unresolved approved).2 j)
      · exact orderly.single j k owed other
  · intro pending
    have pending : r.status = .pending := pending r stored
    have before : ∀ s, world.shared.node.request id = some s → s.status = .pending := by
      intro s found
      rcases (follows s (upToDate.symm.trans found)).status with same | ⟨_, other⟩ | ⟨_, other⟩
      · exact same.symm.trans pending
      · rw [pending] at other
        cases other
      · rw [pending] at other
        cases other
    obtain ⟨unstarted, unowed⟩ := orderly.unresolved before
    refine ⟨unstarted, fun j later => ?_⟩
    rcases owing j later with ⟨_, approved⟩ | owed
    · simp [approves, pending] at approved
    · exact unowed j owed
  · exact forall_update (VoteProcess.Tracks id) tracks orderly.tracks

theorem request_addPeer (peer : PeerInfo) (outcome : WriteOutcome)
    (apart : node.store.requestPath id ≠ node.store.peersPath) :
    ({ node with store := node.store.addPeer peer outcome } : Node).request id =
        node.request id ∧ (node.store.addPeer peer outcome).baseDir = node.store.baseDir := by
  rcases Store.files_writeJSON node.store node.store.peersPath
    (.peers (node.store.peersWith peer)) outcome with same | ⟨written, _, same⟩
  · have same : node.store.addPeer peer outcome = node.store := same
    rw [same]
    exact ⟨rfl, rfl⟩
  · have same : node.store.addPeer peer outcome =
        { node.store with files := node.store.files.set node.store.peersPath written } := same
    rw [same]
    refine ⟨?_, rfl⟩
    exact (Store.loadJoinRequest_set _ _ _ id).trans (if_neg apart)

theorem start_eq_some {call : Call} {after : Node} (starts : node.start call = some after) :
    after.store = node.store ∧ (∀ r ∈ after.flows, r ∈ node.flows) ∧
      ∀ req, call = .executeApproval req → req ∈ node.flows := by
  cases call with
  | executeApproval req =>
    simp only [Node.start] at starts
    split at starts
    next started =>
      obtain rfl := Option.some.inj starts
      refine ⟨rfl, fun r member => List.mem_of_mem_erase member, fun other same => ?_⟩
      cases same
      exact started
    · cases starts
  | _ =>
    obtain rfl := Option.some.inj starts
    exact ⟨rfl, fun _ member => member, nofun⟩

theorem voteHandlers_step_cases {config : NodeConfig} {s after : Tracked} {proc : VoteProcess}
    {move : VoteMove} (stepped : (voteHandlers config).step s proc move = some (after, next)) :
    (∃ call node, proc = .idle ∧ move = .start call ∧ s.node.start call = some node ∧
        after = { s with node := node } ∧ next = .running call.copy (call.handler config)) ∨
      ∃ copy op rest choice reply node, proc = .running copy (.perform op rest) ∧
        move = .next choice ∧ perform op choice s.node = some (reply, node) ∧
        after = { node := node, accepted := s.accepted ++ copy.adds op,
                  started := s.started + op.starts } ∧
        next = .running (copy.advance op reply) (rest reply) := by
  cases proc with
  | idle =>
    cases move with
    | start call =>
      obtain ⟨node, starts, same⟩ := Option.map_eq_some_iff.mp stepped
      cases same
      exact .inl ⟨call, node, rfl, rfl, starts, rfl, rfl⟩
    | next choice => cases stepped
  | running copy code =>
    cases code with
    | done value => cases stepped
    | perform op rest =>
      cases move with
      | start call => cases stepped
      | next choice =>
        obtain ⟨⟨reply, node⟩, performed, same⟩ := Option.map_eq_some_iff.mp stepped
        cases same
        exact .inr ⟨copy, op, rest, choice, reply, node, rfl, rfl, performed, rfl, rfl⟩

variable {config : NodeConfig}

theorem Orderly.perform (orderly : Orderly id world) {copy : Copy} {op : Op}
    {rest : op.Reply → Handler Result} {choice : Choice} {reply : op.Reply}
    (running : world.procs i = .running copy (.perform op rest))
    (concerning : Concerning id world i (.next choice))
    (upToDate : UpToDate id world i (.next choice))
    (performed : NodeManager.perform op choice world.shared.node = some (reply, node)) :
    Orderly id
      { shared :=
          { node := node
            accepted := world.shared.accepted ++ copy.adds op
            started := world.shared.started + op.starts }
        procs := Function.update world.procs i
          (.running (copy.advance op reply) (rest reply)) } := by
  have tracks := orderly.tracks i
  rw [running] at tracks
  obtain ⟨permitted, later⟩ := tracks
  simp only [Concerning, running] at concerning
  simp only [UpToDate, running] at upToDate
  have owes : (VoteProcess.running copy (.perform op rest)).Owes → (world.procs i).Owes :=
    fun owed => running ▸ owed
  -- an operation that neither saves nor registers a peer nor starts a flow
  have silent (adds : copy.adds op = []) (starts : op.starts = 0)
      (unsaved : ∀ req, op ≠ .saveJoinRequest req) (unregistered : ∀ peer, op ≠ .addPeer peer)
      (unstarted : ∀ req, op ≠ .goExecuteApproval req) (told : Named id op reply)
      (owes : (VoteProcess.running (copy.advance op reply) (rest reply)).Owes →
        (world.procs i).Owes) :
      Orderly id
        { shared :=
            { node := node
              accepted := world.shared.accepted ++ copy.adds op
              started := world.shared.started + op.starts }
          procs := Function.update world.procs i
            (.running (copy.advance op reply) (rest reply)) } := by
    rw [adds, starts, List.append_nil]
    obtain ⟨store, flows⟩ := perform_frame performed unsaved unregistered
    refine orderly.quiet _ (by rw [store]) (by unfold Node.request; rw [store]) ?_ owes
      (later reply _ ⟨told, rfl⟩)
    rcases flows with same | ⟨req, same, _⟩
    · rw [same]
      exact fun _ member => member
    · exact absurd same (unstarted req)
  cases op with
  | saveJoinRequest r =>
    obtain rfl : choice = .write .written := concerning
    cases performed
    exact orderly.save upToDate.1 permitted.1 upToDate.2 permitted.2 (later _ _ ⟨trivial, rfl⟩)
  | loadJoinRequest requestID =>
    obtain rfl : requestID = id := permitted
    obtain ⟨found, _⟩ := perform_load performed
    have told : Named requestID (.loadJoinRequest requestID) reply :=
      fun r same => (orderly.named r (found.trans same)).1
    exact silent rfl rfl nofun nofun nofun told nofun
  | goExecuteApproval r =>
    obtain ⟨owed, named, approved⟩ := permitted
    cases choice <;> cases performed
    simpa only [Copy.adds, Op.starts, List.append_nil] using
      orderly.go (.running (copy.advance (.goExecuteApproval r) ()) (rest ())) (owes owed)
        nofun approved (later () _ ⟨trivial, rfl⟩)
  | addPeer peer =>
    cases choice with
    | write outcome =>
      cases performed
      obtain ⟨same, base⟩ := request_addPeer peer outcome orderly.apart
      simpa only [Copy.adds, Op.starts, List.append_nil, Nat.add_zero] using
        orderly.quiet (.running (copy.advance (.addPeer peer) ()) (rest ())) base same
          (fun _ member => member) owes (later () _ ⟨trivial, rfl⟩)
    | _ => cases performed
  | _ =>
    exact silent rfl rfl (fun _ same => nomatch same) (fun _ same => nomatch same)
      (fun _ same => nomatch same) trivial owes

theorem Orderly.step {move : VoteMove} {after : World I Tracked VoteProcess}
    (orderly : Orderly id world) (concerning : Concerning id world i move)
    (upToDate : UpToDate id world i move)
    (fired : (voteHandlers config).fire world i move = some after) : Orderly id after := by
  obtain ⟨shared, next, stepped, rfl⟩ := Machine.fire_eq_some.mp fired
  rcases voteHandlers_step_cases stepped with
    ⟨call, node, idle, rfl, starts, rfl, rfl⟩ |
    ⟨copy, op, rest, choice, reply, node, running, rfl, performed, rfl, rfl⟩
  · obtain ⟨store, flows, started⟩ := start_eq_some starts
    have concerns : call.Concerns id := by
      simpa only [Concerning, idle] using concerning
    refine orderly.quiet _ (by rw [store]) (by unfold Node.request; rw [store]) flows ?_
      (handler_tracks config concerns fun req same => orderly.flows req (started req same))
    intro owed
    cases call <;> cases owed
  · exact orderly.perform running concerning upToDate performed

end Step

/-- No handler is at work; the stored request has one vote an MSP and no flow is started. -/
structure Starts (id : String) (world : World I Tracked VoteProcess) : Prop where
  apart : world.shared.node.store.requestPath id ≠ world.shared.node.store.peersPath
  stored : ∀ r, world.shared.node.request id = some r → r.id = id ∧ r.DistinctVoters
  idle : ∀ i, world.procs i = .idle
  flows : world.shared.node.flows = []
  accepted : world.shared.accepted = []
  started : world.shared.started = 0

theorem Starts.orderly {id : String} {world : World I Tracked VoteProcess}
    (starts : Starts id world) : Orderly id world where
  apart := starts.apart
  named := starts.stored
  kept := by simp [starts.accepted]
  flows := by simp [starts.flows]
  once := by simp [starts.started]
  owing _ _ := starts.started
  single i _ owed := by simp [starts.idle i, VoteProcess.Owes] at owed
  unresolved _ := ⟨starts.started, fun i => by simp [starts.idle i, VoteProcess.Owes]⟩
  tracks i := by simp [starts.idle i, VoteProcess.Tracks]

theorem nothing_lost [DecidableEq I] {id : String} {config : NodeConfig}
    {start world : World I Tracked VoteProcess} (starts : Starts id start)
    (reached : (voteHandlers config).Reaches
      (fun world i move => Concerning id world i move ∧ UpToDate id world i move) start world) :
    NothingLost id world := by
  have orderly : Orderly id world :=
    reached.invariant (Orderly id) starts.orderly fun world i move after orderly met fired =>
      orderly.step met.1 met.2 fired
  exact orderly.nothingLost

/-! ## Sample runs -/

def pendingJoiner : JoinRequest := { joiner with status := .pending, totalPeers := 3 }

def threeHandlers : World (Fin 3) Tracked VoteProcess where
  shared :=
    { node := ((Node.idle ordererConfig threePeers).save pendingJoiner .written).2
      accepted := []
      started := 0 }
  procs _ := .idle

def handled (i : Fin 3) (call : Call) (choices : List Choice) : List (Fin 3 × VoteMove) :=
  (i, .start call) :: choices.map fun choice => (i, .next choice)

def voteOfOne : Vote := sampleVote "PeerOneMSP" true
def voteOfTwo : Vote := sampleVote "PeerTwoMSP" true

-- Both handlers load the request before either saves it.
def savedOver : List (Fin 3 × VoteMove) :=
  handled 0 (.receiveGossipedVote "r1" voteOfOne) [.nothing] ++
    handled 1 (.receiveGossipedVote "r1" voteOfTwo) [.nothing] ++
    [(0, .next (.write .written)), (1, .next (.write .written))]

instance (process : VoteProcess) : Decidable process.Finished := by
  unfold VoteProcess.Finished
  split <;> infer_instance

instance (id : String) (call : Call) : Decidable (call.Concerns id) := by
  unfold Call.Concerns
  split <;> infer_instance

instance (id : String) (world : World I Tracked VoteProcess) (i : I) (move : VoteMove) :
    Decidable (Concerning id world i move) := by
  unfold Concerning
  split <;> infer_instance

instance (r : JoinRequest) : Decidable r.DistinctVoters :=
  inferInstanceAs (Decidable (List.Nodup _))

instance (id : String) (world : World I Tracked VoteProcess) (i : I) (move : VoteMove) :
    Decidable (UpToDate id world i move) := by
  unfold UpToDate
  split <;> infer_instance

theorem vote_lost :
    ¬ ∀ world, (voteHandlers ordererConfig).Reaches (Concerning "r1") threeHandlers world →
      NothingLost "r1" world := by
  intro lossless
  have ends : ((voteHandlers ordererConfig).checkedRun (Concerning "r1") threeHandlers
      savedOver).map (fun world =>
        (decide (∀ i, (world.procs i).Finished), decide (voteOfOne ∈ world.shared.accepted),
          (world.shared.node.request "r1").map JoinRequest.votes)) =
      some (true, true, some [voteOfTwo]) := by decide +kernel
  obtain ⟨world, ran, result⟩ := Option.map_eq_some_iff.mp ends
  simp only [Prod.mk.injEq, decide_eq_true_eq, Option.map_eq_some_iff] at result
  obtain ⟨finished, accepted, r, found, votes⟩ := result
  have runs := Machine.Runs.checked .nil ran
  obtain ⟨r', found', voted⟩ := (lossless world runs.reaches).kept finished voteOfOne accepted
  obtain rfl := Option.some.inj (found.symm.trans found')
  rw [votes] at voted
  revert voted
  decide

-- Two votes in turn approve the request, and the flow that this starts fails.
theorem nothing_lost_inTurn :
    ∃ world, (voteHandlers ordererConfig).run threeHandlers
        (handled 0 (.receiveGossipedVote "r1" voteOfOne) [.nothing, .write .written] ++
          handled 1 (.receiveGossipedVote "r1" voteOfTwo) [.nothing, .write .written, .time 3,
            .write .written, .nothing, .nothing] ++
          handled 2 (.executeApproval
            (((pendingJoiner.withVote voteOfOne).withVote voteOfTwo).resolved .approved 3))
            [.builds none, .time 4, .write .written, .nothing]) = some world ∧
      (world.shared.node.request "r1").map JoinRequest.votes = some [voteOfOne, voteOfTwo] ∧
      NothingLost "r1" world := by
  have reached : ((voteHandlers ordererConfig).checkedRun
      (fun world i move => Concerning "r1" world i move ∧ UpToDate "r1" world i move)
      threeHandlers
      (handled 0 (.receiveGossipedVote "r1" voteOfOne) [.nothing, .write .written] ++
        handled 1 (.receiveGossipedVote "r1" voteOfTwo) [.nothing, .write .written, .time 3,
          .write .written, .nothing, .nothing] ++
        handled 2 (.executeApproval
          (((pendingJoiner.withVote voteOfOne).withVote voteOfTwo).resolved .approved 3))
          [.builds none, .time 4, .write .written, .nothing])).map
      (fun world => (world.shared.node.request "r1").map JoinRequest.votes) =
      some (some [voteOfOne, voteOfTwo]) := by decide +kernel
  obtain ⟨world, ran, votes⟩ := Option.map_eq_some_iff.mp reached
  have runs := Machine.Runs.checked .nil ran
  have starts : Starts "r1" threeHandlers :=
    { apart := by decide
      stored := by
        intro r found
        obtain rfl : pendingJoiner = r :=
          Option.some.inj ((request_written (.idle ordererConfig threePeers) _).symm.trans found)
        exact ⟨rfl, List.nodup_nil⟩
      idle := fun _ => rfl
      flows := rfl
      accepted := rfl
      started := rfl }
  exact ⟨world, runs.run, votes, nothing_lost starts runs.reaches⟩

end Kufi.NodeManager

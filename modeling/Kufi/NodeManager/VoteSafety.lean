import Kufi.NodeManager.ApprovalFlow
import Kufi.NodeManager.Node
import Kufi.Shared.Serial

set_option autoImplicit false

/-!
# Vote safety

Calls come to a node one after the other. Beside the node's state the run keeps
what happened in the network: which peers were registered when a request was
submitted, and which organisations approved it.
-/

namespace Kufi.NodeManager

open Shared

/-! ## What happened -/

structure Registry where
  -- MSPs of the peers registered on the node
  peers : List String
  -- MSPs of the peers registered when a request was submitted, by request
  registered : Dict String (List String)
  -- requests with the MSPs that cast an approving vote on them
  approvals : List (String × String)

namespace Registry

/-- Of the peers registered at request time, or any when there were none. -/
def Eligible (registry : Registry) (id mspID : String) : Prop :=
  ∃ peers ∈ registry.registered.get id, mspID ∈ peers ∨ peers = []

def Entitled (registry : Registry) (id mspID : String) : Prop :=
  (id, mspID) ∈ registry.approvals ∧ registry.Eligible id mspID

instance (registry : Registry) (id mspID : String) : Decidable (registry.Eligible id mspID) := by
  unfold Eligible
  infer_instance

instance (registry : Registry) (id mspID : String) : Decidable (registry.Entitled id mspID) := by
  unfold Entitled
  infer_instance

/-- More than half of the peers registered at request time approved, or someone when there were
none. -/
def Majority (registry : Registry) (id : String) : Prop :=
  ∃ peers ∈ registry.registered.get id, ∃ voters : List String,
    voters.Nodup ∧ peers.length / 2 + 1 ≤ voters.length ∧
      ∀ mspID ∈ voters, (id, mspID) ∈ registry.approvals ∧ (mspID ∈ peers ∨ peers = [])

def submitted (registry : Registry) (id : String) (peers : List String) : Registry :=
  { registry with registered := registry.registered.set id peers }

def approved (registry : Registry) (id mspID : String) : Registry :=
  { registry with approvals := (id, mspID) :: registry.approvals }

/-- A vote is on the request that its id names in the store. -/
def voted (registry : Registry) (config : NodeConfig) (before : Node) (requestID : String)
    (approve : Bool) : Registry :=
  match before.request requestID, approve with
  | some req, true => registry.approved req.id config.mspID
  | _, _ => registry

/-- What a call adds. -/
def after (registry : Registry) (config : NodeConfig) (before : Node) (call : Call)
    (result : Result) (node : Node) : Registry :=
  match call, result with
  | .submitJoinRequest _ _ _, .submitted req => registry.submitted req.id registry.peers
  | .castVote requestID approve, .ok => registry.voted config before requestID approve
  | .handlePeerJoined _, _ | .executeApproval _, _ =>
    { registry with peers := node.store.loadPeers.map PeerInfo.mspID }
  | _, _ => registry

end Registry

structure Polling where
  node : Node
  registry : Registry

inductive Event where
  | call (call : Call) (choices : List Choice)
  | submittedElsewhere (id : String) (peers : List String)
  | castElsewhere (id mspID : String)

def Polling.step (config : NodeConfig) (s : Polling) : Event → Polling
  | .call call choices =>
    match (s.node.start call).bind ((call.handler config).run perform choices) with
    | some (result, node) => ⟨node, s.registry.after config s.node call result node⟩
    | none => s
  | .submittedElsewhere id peers =>
    { s with registry := s.registry.submitted id peers }
  | .castElsewhere id mspID =>
    { s with registry := s.registry.approved id mspID }

def VoteSafe (s : Polling) : Prop :=
  ∀ id req, s.node.request id = some req → req.status = .approved → s.registry.Majority req.id

/-! ## Genuine requests -/

/-- The peer count is that of the request's submission, and what counts was cast, once an MSP. -/
structure Genuine (registry : Registry) (r : JoinRequest) : Prop where
  total : ∃ peers ∈ registry.registered.get r.id, r.totalPeers = peers.length
  cast : ∀ v ∈ r.votes, r.counts v = true → registry.Entitled r.id v.voterMSP
  distinct : ((r.votes.filter r.counts).map Vote.voterMSP).Nodup

structure Sound (registry : Registry) (r : JoinRequest) : Prop where
  pending : r.status = .pending → Genuine registry r
  approved : r.status = .approved → registry.Majority r.id

theorem Sound.mono {registry grown : Registry} {r : JoinRequest} (sound : Sound registry r)
    (submissions : ∀ id, ∀ peers ∈ registry.registered.get id, grown.registered.get id = some peers)
    (approvals : ∀ approval ∈ registry.approvals, approval ∈ grown.approvals) : Sound grown r where
  pending pending := by
    obtain ⟨⟨peers, registered, total⟩, cast, distinct⟩ := sound.pending pending
    refine ⟨⟨peers, submissions _ peers registered, total⟩, ?_, distinct⟩
    intro v member counted
    obtain ⟨approved, peers, registered, among⟩ := cast v member counted
    exact ⟨approvals _ approved, peers, submissions _ peers registered, among⟩
  approved approved := by
    obtain ⟨peers, registered, voters, distinct, enough, entitled⟩ := sound.approved approved
    refine ⟨peers, submissions _ peers registered, voters, distinct, enough, ?_⟩
    exact fun mspID member => (entitled mspID member).imp_left (approvals _)

theorem Sound.voted {registry : Registry} {r : JoinRequest} (sound : Sound registry r)
    (id mspID : String) : Sound (registry.approved id mspID) r :=
  sound.mono (fun _ _ registered => registered) fun _ => List.mem_cons_of_mem _

theorem Sound.submitted {registry : Registry} {r : JoinRequest} (sound : Sound registry r)
    {id : String} (fresh : registry.registered.get id = none) (peers : List String) :
    Sound (registry.submitted id peers) r := by
  refine sound.mono (fun other found registered => ?_) fun _ member => member
  have different : other ≠ id := by
    rintro rfl
    rw [fresh] at registered
    cases registered
  change (registry.registered.set id peers).get other = some found
  rw [Dict.get_set, if_neg different]
  exact registered

theorem Genuine.withVote {registry : Registry} {r : JoinRequest} {v : Vote}
    (genuine : Genuine registry r) (new : r.hasVoted v.voterMSP = false)
    (entitled : r.counts v = true → registry.Entitled r.id v.voterMSP) :
    Genuine registry (r.withVote v) where
  total := genuine.total
  cast := by
    intro vote member counted
    rcases List.mem_append.mp member with old | added
    · exact genuine.cast vote old counted
    · obtain rfl := List.mem_singleton.mp added
      exact entitled counted
  distinct := by
    have same : (r.withVote v).counts = r.counts := rfl
    rw [same, JoinRequest.votes_withVote, List.filter_append, List.map_append, List.nodup_append]
    refine ⟨genuine.distinct, ?_, ?_⟩
    · by_cases counted : r.counts v = true <;> simp [counted]
    · intro mspID member mspID' member' equal
      obtain ⟨vote, voted, rfl⟩ := List.mem_map.mp member
      obtain ⟨vote', voted', rfl⟩ := List.mem_map.mp member'
      obtain rfl := List.mem_singleton.mp (List.mem_filter.mp voted').1
      have has : r.hasVoted vote'.voterMSP = true :=
        JoinRequest.hasVoted_iff.mpr ⟨vote, (List.mem_filter.mp voted).1, equal⟩
      rw [new] at has
      cases has

theorem Sound.withVote {registry : Registry} {r : JoinRequest} {v : Vote} (sound : Sound registry r)
    (new : r.hasVoted v.voterMSP = false)
    (entitled : r.status = .pending → r.counts v = true → registry.Entitled r.id v.voterMSP) :
    Sound registry (r.withVote v) where
  pending pending := (sound.pending pending).withVote new (entitled pending)
  approved approved := sound.approved approved

theorem id_mergeVotes (existing : JoinRequest) (votes : List Vote) :
    (mergeVotes existing votes).1.id = existing.id := by
  induction votes generalizing existing with
  | nil => rfl
  | cons v rest ih =>
    unfold mergeVotes
    split
    · exact ih existing
    · exact ih (existing.withVote v)

theorem Sound.mergeVotes {registry : Registry} {existing : JoinRequest}
    (sound : Sound registry existing) {votes : List Vote}
    (entitled : ∀ v ∈ votes, existing.status = .pending → existing.hasVoted v.voterMSP = false →
      existing.counts v = true → registry.Entitled existing.id v.voterMSP) :
    Sound registry (mergeVotes existing votes).1 := by
  induction votes generalizing existing with
  | nil => exact sound
  | cons v rest ih =>
    unfold NodeManager.mergeVotes
    split
    · exact ih sound fun w member => entitled w (List.mem_cons_of_mem v member)
    next new =>
      have new : existing.hasVoted v.voterMSP = false := Bool.eq_false_iff.mpr new
      refine ih (sound.withVote new fun pending => entitled v List.mem_cons_self pending new) ?_
      intro w member pending unvoted
      refine entitled w (List.mem_cons_of_mem v member) pending ?_
      simp only [JoinRequest.hasVoted, JoinRequest.votes_withVote, List.any_append,
        Bool.or_eq_false_iff] at unvoted
      exact unvoted.1

theorem Genuine.majority {registry : Registry} {r : JoinRequest} (genuine : Genuine registry r)
    (reached : r.majorityReached = true) : registry.Majority r.id := by
  obtain ⟨peers, registered, total⟩ := genuine.total
  refine ⟨peers, registered, (r.votes.filter r.counts).map Vote.voterMSP, genuine.distinct, ?_, ?_⟩
  · have enough := JoinRequest.majorityReached_iff.mp reached
    rw [JoinRequest.requiredVotes_of_totalPeers total] at enough
    rw [List.length_map, ← List.countP_eq_length_filter]
    exact Int.ofNat_le.mp enough
  · intro mspID member
    obtain ⟨vote, voted, rfl⟩ := List.mem_map.mp member
    obtain ⟨cast, counted⟩ := List.mem_filter.mp voted
    obtain ⟨approved, eligible⟩ := genuine.cast vote cast counted
    obtain ⟨peers', registered', among⟩ := eligible
    obtain rfl := Option.some.inj (registered.symm.trans registered')
    exact ⟨approved, among⟩

/-! ## Files and flows -/

/-- Requests are stored beside the list of peers and are sound. -/
structure Kept (registry : Registry) (node : Node) : Prop where
  peers : registry.peers = node.store.loadPeers.map PeerInfo.mspID
  stored : ∀ path r, node.store.files.get path = some (.request r) →
    node.store.requestPath r.id ≠ node.store.peersPath ∧ Sound registry r
  flows : ∀ r ∈ node.flows, node.store.requestPath r.id ≠ node.store.peersPath

section Kept

variable {registry : Registry} {node after : Node} {r : JoinRequest} {choice : Choice}

theorem requestPath_empty (s : Store) : s.requestPath "" ≠ s.peersPath := by
  intro same
  have name : s.requestPath "" = s.baseDir ++ ["requests", ".json"] := by
    change [".json"].foldl Path.enter (s.baseDir ++ ["requests"]) = _
    simp [Path.enter]
  rw [name, Store.peersPath, List.append_right_inj] at same
  exact absurd same (by decide)

theorem Kept.request (kept : Kept registry node) {id : String} (found : node.request id = some r) :
    node.store.requestPath r.id ≠ node.store.peersPath ∧ Sound registry r := by
  obtain ⟨content, stored, read⟩ := Option.bind_eq_some_iff.mp found
  rcases Store.asRequest_eq_some read with rfl | ⟨unnamed, status, _⟩
  · exact kept.stored _ r stored
  · refine ⟨unnamed ▸ requestPath_empty node.store, ?_, ?_⟩
    all_goals
      intro resolved
      rw [status] at resolved
      cases resolved

theorem Kept.write (kept : Kept registry node) {path : Path} {content : FileContent}
    (apart : path ≠ node.store.peersPath)
    (sound : ∀ r, content = .request r →
      node.store.requestPath r.id ≠ node.store.peersPath ∧ Sound registry r) :
    Kept registry { node with store.files := node.store.files.set path content } where
  peers := kept.peers.trans (congrArg _ (Store.loadPeers_set apart).symm)
  stored other r stored := by
    simp only [Dict.get_set] at stored
    split_ifs at stored with same
    · exact sound r (Option.some.inj stored)
    · exact kept.stored other r stored
  flows := kept.flows

theorem Kept.save (kept : Kept registry node)
    (apart : node.store.requestPath r.id ≠ node.store.peersPath) {saved : Bool}
    (sound : saved = true → Sound registry r)
    (performed : perform (.saveJoinRequest r) choice node = some (saved, after)) :
    Kept registry after ∧ after.store.baseDir = node.store.baseDir := by
  obtain ⟨outcome, write⟩ := perform_save performed
  cases outcome with
  | written =>
    cases write
    refine ⟨kept.write apart fun other same => ?_, rfl⟩
    cases same
    exact ⟨apart, sound rfl⟩
  | failed =>
    cases write
    exact ⟨kept, rfl⟩
  | torn =>
    cases write
    exact ⟨kept.write apart nofun, rfl⟩

theorem Kept.frame (kept : Kept registry node) {op : Op} {reply : op.Reply}
    (performed : perform op choice node = some (reply, after))
    (unsaved : ∀ req, op ≠ .saveJoinRequest req) (unregistered : ∀ peer, op ≠ .addPeer peer)
    (started : ∀ req, op = .goExecuteApproval req →
      node.store.requestPath req.id ≠ node.store.peersPath) : Kept registry after := by
  obtain ⟨store, flows⟩ := perform_frame performed unsaved unregistered
  refine ⟨by rw [store]; exact kept.peers, by rw [store]; exact kept.stored, ?_⟩
  rw [store]
  rcases flows with same | ⟨req, rfl, added⟩
  · rw [same]
    exact kept.flows
  · intro r member
    rw [added] at member
    rcases List.mem_append.mp member with old | new
    · exact kept.flows r old
    · obtain rfl := List.mem_singleton.mp new
      exact started r rfl

/-! ## The handlers -/

variable (config : NodeConfig)

theorem checkMajority_kept (kept : Kept registry node)
    (apart : node.store.requestPath r.id ≠ node.store.peersPath) (sound : Sound registry r) :
    (checkMajority config r).Wp perform (fun _ after => Kept registry after) node := by
  unfold checkMajority
  split
  · exact kept
  next pending =>
    split
    · exact kept
    next reached =>
      have majority : registry.Majority r.id :=
        (sound.pending (not_not.mp pending)).majority (by simpa using reached)
      refine .ask fun choice now middle timed => ?_
      obtain rfl := perform_now timed
      refine .ask fun choice saved stored write => ?_
      have resolved : Sound registry (r.resolved .approved now) := ⟨by rintro ⟨⟩, fun _ => majority⟩
      obtain ⟨kept, base⟩ := kept.save (r := r.resolved .approved now) apart (fun _ => resolved) write
      have apartStored : stored.store.requestPath r.id ≠ stored.store.peersPath := by
        simpa only [Store.requestPath, Store.peersPath, base] using apart
      refine .ask fun choice _ signalled performed => ?_
      have kept := kept.frame performed (by rintro _ ⟨⟩) (by rintro _ ⟨⟩) (by rintro _ ⟨⟩)
      split
      · intro choice _ started performed'
        refine kept.frame performed' (by rintro _ ⟨⟩) (by rintro _ ⟨⟩) fun req same => ?_
        cases same
        rw [(perform_frame performed (by rintro _ ⟨⟩) (by rintro _ ⟨⟩)).1]
        exact apartStored
      · exact kept

theorem Kept.voted (kept : Kept registry node) (id mspID : String) :
    Kept (registry.approved id mspID) node where
  peers := kept.peers
  stored path r found := (kept.stored path r found).imp_right fun sound => sound.voted id mspID
  flows := kept.flows

theorem castVote_kept (kept : Kept registry node) (requestID : String) (approve : Bool)
    (eligible : ∀ r, node.request requestID = some r → r.status = .pending → ∀ now,
      r.counts (ownVote config approve now) = true → registry.Eligible r.id config.mspID) :
    (castVote config requestID approve).Wp perform
      (fun result after => Kept (match result with
        | .ok _ => registry.voted config node requestID approve
        | .error _ => registry) after) node := by
  unfold castVote
  refine .ask fun choice found middle loaded => ?_
  obtain ⟨rfl, rfl⟩ := perform_load loaded
  cases found : node.request requestID with
  | none => exact kept
  | some r =>
    obtain ⟨apart, sound⟩ := kept.request found
    dsimp only
    split
    · exact kept
    next unresolved =>
      have pending : r.status = .pending := not_not.mp unresolved
      split
      · exact kept
      next new =>
        refine .ask fun choice now middle timed => ?_
        obtain rfl := perform_now timed
        refine .ask fun choice saved stored write => ?_
        have voted : registry.voted config node requestID approve =
            if approve then registry.approved r.id config.mspID else registry := by
          unfold Registry.voted
          rw [found]
          cases approve <;> rfl
        have grown : Kept (registry.voted config node requestID approve) node := by
          rw [voted]
          split
          · exact kept.voted r.id config.mspID
          · exact kept
        have entitled (counted : r.counts (ownVote config approve now) = true) :
            (registry.voted config node requestID approve).Entitled r.id config.mspID := by
          have approves : approve = true := (Bool.and_eq_true _ _ ▸ counted).1
          rw [voted, if_pos approves]
          exact ⟨List.mem_cons_self, eligible r found pending now counted⟩
        have sound' : Sound (registry.voted config node requestID approve)
            (r.withVote (ownVote config approve now)) :=
          (grown.request found).2.withVote (Bool.eq_false_iff.mpr new) fun _ => entitled
        cases saved with
        | false => exact (kept.save (r := r.withVote _) apart (by rintro ⟨⟩) write).1
        | true =>
          obtain ⟨kept, base⟩ := grown.save (r := r.withVote _) apart (fun _ => sound') write
          refine .ask fun choice _ sent broadcast => ?_
          obtain ⟨store, _⟩ := perform_frame broadcast (by rintro _ ⟨⟩) (by rintro _ ⟨⟩)
          have apart' : sent.store.requestPath r.id ≠ sent.store.peersPath := by
            simpa only [store, Store.requestPath, Store.peersPath, base] using apart
          have kept' := kept.frame broadcast (by rintro _ ⟨⟩) (by rintro _ ⟨⟩) (by rintro _ ⟨⟩)
          exact .bind (checkMajority_kept config kept' apart' sound')

theorem receiveGossipedVote_kept (kept : Kept registry node) (requestID : String) (vote : Vote)
    (entitled : ∀ r, node.request requestID = some r → r.status = .pending →
      r.hasVoted vote.voterMSP = false → r.counts vote = true →
      registry.Entitled r.id vote.voterMSP) :
    (receiveGossipedVote config requestID vote).Wp perform
      (fun _ after => Kept registry after) node := by
  unfold receiveGossipedVote
  refine .ask fun choice found middle loaded => ?_
  obtain ⟨rfl, rfl⟩ := perform_load loaded
  cases found : node.request requestID with
  | none => exact kept
  | some r =>
    obtain ⟨apart, sound⟩ := kept.request found
    dsimp only
    split
    · exact kept
    next new =>
      have new : r.hasVoted vote.voterMSP = false := Bool.eq_false_iff.mpr new
      have sound' : Sound registry (r.withVote vote) :=
        sound.withVote new fun pending => entitled r found pending new
      refine .ask fun choice saved stored write => ?_
      obtain ⟨kept, base⟩ := kept.save (r := r.withVote vote) apart (fun _ => sound') write
      have apart' : stored.store.requestPath r.id ≠ stored.store.peersPath := by
        simpa only [Store.requestPath, Store.peersPath, base] using apart
      exact .bind (checkMajority_kept config kept apart' sound')

theorem submitJoinRequest_kept (kept : Kept registry node) (generatedID : String) (now : Time)
    (req : JoinRequest)
    (apart : node.store.requestPath (req.completed generatedID now node.store.loadPeers).id ≠
      node.store.peersPath)
    (fresh : registry.registered.get (req.completed generatedID now node.store.loadPeers).id = none)
    (unapproved : (req.completed generatedID now node.store.loadPeers).status ≠ .approved)
    (unvoted : ∀ v ∈ req.votes,
      (req.completed generatedID now node.store.loadPeers).counts v = false) :
    (submitJoinRequest generatedID now req).Wp perform
      (fun result after => Kept (match result with
        | .ok r => registry.submitted r.id registry.peers
        | .error _ => registry) after) node := by
  unfold submitJoinRequest
  refine .ask fun choice peers middle loaded => ?_
  obtain ⟨rfl, rfl⟩ := perform_loadPeers loaded
  dsimp only
  generalize completed : req.completed generatedID now node.store.loadPeers = r at *
  have votes : r.votes = req.votes := completed ▸ rfl
  have total : r.totalPeers = registry.peers.length := by
    rw [kept.peers, List.length_map, ← completed]
    rfl
  have grown : Kept (registry.submitted r.id registry.peers) node :=
    { peers := kept.peers
      stored := fun path other stored =>
        (kept.stored path other stored).imp_right fun sound => sound.submitted fresh _
      flows := kept.flows }
  have sound : Sound (registry.submitted r.id registry.peers) r := by
    refine ⟨fun _ => ⟨⟨registry.peers, ?_, total⟩, ?_, ?_⟩, fun approved => absurd approved unapproved⟩
    · change (registry.registered.set r.id registry.peers).get r.id = _
      rw [Dict.get_set, if_pos rfl]
    · intro v member counted
      rw [unvoted v (votes ▸ member)] at counted
      cases counted
    · have none : r.votes.filter r.counts = [] :=
        List.filter_eq_nil_iff.mpr fun v member => by simp [unvoted v (votes ▸ member)]
      rw [none]
      exact List.nodup_nil
  refine .ask fun choice saved stored write => ?_
  cases saved with
  | false => exact (kept.save apart (by nofun) write).1
  | true =>
    obtain ⟨kept, _⟩ := grown.save apart (fun _ => sound) write
    refine .ask fun choice _ sent broadcast => ?_
    exact kept.frame broadcast nofun nofun nofun

theorem receiveGossipedRequest_kept (kept : Kept registry node) (req : JoinRequest)
    (merged : ∀ r, node.request req.id = some r → ∀ v ∈ req.votes, r.status = .pending →
      r.hasVoted v.voterMSP = false → r.counts v = true → registry.Entitled r.id v.voterMSP)
    (new : node.request req.id = none →
      node.store.requestPath req.id ≠ node.store.peersPath ∧ Sound registry req) :
    (receiveGossipedRequest config req).Wp perform (fun _ after => Kept registry after) node := by
  unfold receiveGossipedRequest
  refine .ask fun choice found middle loaded => ?_
  obtain ⟨rfl, rfl⟩ := perform_load loaded
  cases found : node.request req.id with
  | none =>
    obtain ⟨apart, sound⟩ := new found
    refine .ask fun choice saved stored write => ?_
    have kept := (kept.save apart (fun _ => sound) write).1
    cases saved <;> exact kept
  | some r =>
    obtain ⟨apart, sound⟩ := kept.request found
    have sound' : Sound registry (mergeVotes r req.votes).1 := sound.mergeVotes (merged r found)
    rw [← id_mergeVotes r req.votes] at apart
    dsimp only
    split
    · refine .ask fun choice saved stored write => ?_
      obtain ⟨kept, base⟩ := kept.save apart (fun _ => sound') write
      have apart' : stored.store.requestPath (mergeVotes r req.votes).1.id ≠
          stored.store.peersPath := by
        simpa only [Store.requestPath, Store.peersPath, base] using apart
      exact .bind (checkMajority_kept config kept apart' sound')
    · exact kept

/-! ## Calls that register peers -/

/-- The registry with the peers the node has now. -/
def Registry.recounted (registry : Registry) (node : Node) : Registry :=
  { registry with peers := node.store.loadPeers.map PeerInfo.mspID }

theorem Kept.recounted (kept : Kept registry node) : Kept (registry.recounted node) node where
  peers := rfl
  stored path r stored := by
    obtain ⟨apart, sound⟩ := kept.stored path r stored
    exact ⟨apart, sound.mono (fun _ _ registered => registered) fun _ member => member⟩
  flows := kept.flows

theorem Kept.addPeer (kept : Kept registry node) {peer : PeerInfo}
    (performed : perform (.addPeer peer) choice node = some ((), after)) :
    Kept (registry.recounted after) after ∧ after.store.baseDir = node.store.baseDir := by
  cases choice <;> cases performed
  next outcome =>
    unfold Store.addPeer
    rcases Store.files_writeJSON node.store node.store.peersPath
      (.peers (node.store.peersWith peer)) outcome with same | ⟨content, which, changed⟩
    · rw [same]
      exact ⟨kept.recounted, rfl⟩
    · rw [changed]
      refine ⟨⟨rfl, ?_, kept.flows⟩, rfl⟩
      intro path r stored
      simp only [Dict.get_set] at stored
      split_ifs at stored
      · rcases which with rfl | rfl <;> cases stored
      · obtain ⟨apart, sound⟩ := kept.stored path r stored
        exact ⟨apart, sound.mono (fun _ _ registered => registered) fun _ member => member⟩

/-- An approval flow saves nothing but its request, rejected. -/
def FlowOp (id : String) (op : Op) : Prop :=
  (∀ r, op = .saveJoinRequest r → r.id = id ∧ r.status = .rejected) ∧
    ∀ r, op ≠ .goExecuteApproval r

/-- What an approval flow keeps while it registers peers. -/
def FlowKept (registry : Registry) (id : String) (node : Node) : Prop :=
  Kept (registry.recounted node) node ∧ node.store.requestPath id ≠ node.store.peersPath

theorem FlowKept.step {id : String} (kept : FlowKept registry id node) {op : Op} {reply : op.Reply}
    (flow : FlowOp id op) (performed : perform op choice node = some (reply, after)) :
    FlowKept registry id after := by
  obtain ⟨kept, apart⟩ := kept
  have moved (base : after.store.baseDir = node.store.baseDir) :
      after.store.requestPath id ≠ after.store.peersPath := by
    simpa only [Store.requestPath, Store.peersPath, base] using apart
  by_cases saves : ∃ r, op = .saveJoinRequest r
  · obtain ⟨r, rfl⟩ := saves
    obtain ⟨rfl, rejected⟩ := flow.1 r rfl
    have sound : Sound (registry.recounted node) r := by
      constructor
      all_goals
        intro status
        rw [rejected] at status
        cases status
    obtain ⟨kept, base⟩ := kept.save apart (fun _ => sound) performed
    exact ⟨kept.recounted, moved base⟩
  by_cases registers : ∃ peer, op = .addPeer peer
  · obtain ⟨peer, rfl⟩ := registers
    obtain ⟨kept, base⟩ := kept.addPeer performed
    exact ⟨kept, moved base⟩
  have kept := kept.frame performed (fun r same => saves ⟨r, same⟩)
    (fun peer same => registers ⟨peer, same⟩) fun r same => absurd same (flow.2 r)
  obtain ⟨store, _⟩ := perform_frame performed (fun r same => saves ⟨r, same⟩)
    fun peer same => registers ⟨peer, same⟩
  exact ⟨kept.recounted, moved (congrArg Store.baseDir store)⟩

theorem flow_kept {procedure : Handler Unit} {id : String} (kept : Kept registry node)
    (apart : node.store.requestPath id ≠ node.store.peersPath)
    (asks : procedure.Asks (FlowOp id) (fun _ _ => True) fun _ => True) :
    procedure.Wp perform (fun _ after => Kept (registry.recounted after) after) node := by
  have flow : procedure.Wp perform (fun _ after => FlowKept registry id after) node :=
    asks.wp (fun _ _ _ _ _ kept flow performed => ⟨kept.step flow performed, trivial⟩)
      ⟨kept.recounted, apart⟩
  exact flow.mono fun _ _ kept => kept.1

theorem failApproval_flow (req : JoinRequest) :
    (failApproval req).Asks (FlowOp req.id) (fun _ _ => True) fun _ => True := by
  have other {op : Op} (unsaved : ∀ r, op ≠ .saveJoinRequest r)
      (unstarted : ∀ r, op ≠ .goExecuteApproval r) : FlowOp req.id op :=
    ⟨fun r same => absurd same (unsaved r), unstarted⟩
  refine .ask (other nofun nofun) fun now _ => ?_
  refine .ask ⟨fun r same => ?_, nofun⟩ fun saved _ => ⟨other nofun nofun, fun _ _ => trivial⟩
  cases same
  exact ⟨rfl, rfl⟩

theorem executeApproval_kept (kept : Kept registry node) (req : JoinRequest)
    (apart : node.store.requestPath req.id ≠ node.store.peersPath) :
    (executeApproval config req).Wp perform
      (fun _ after => Kept (registry.recounted after) after) node := by
  refine flow_kept kept apart (executeApproval_asks (fun op silent => ?_)
    (fun peer => ⟨nofun, nofun⟩) config req fun _ => failApproval_flow req)
  refine ⟨fun r same => ?_, fun r same => ?_⟩
  all_goals
    subst same
    exact silent.elim

theorem handleSignConfigUpdate_kept (kept : Kept registry node) (req : SignRequest) :
    (handleSignConfigUpdate config req).Wp perform (fun _ after => Kept registry after) node := by
  have asks : (handleSignConfigUpdate config req).Asks Op.Silent (fun _ _ => True) fun _ => True :=
    handleSignConfigUpdate_asks (fun _ silent => silent) config req
  refine asks.wp (fun op choice node reply after kept silent performed => ⟨?_, trivial⟩) kept
  refine kept.frame performed (fun r same => ?_) (fun peer same => ?_) fun r same => ?_
  all_goals
    subst same
    exact silent.elim

end Kept

/-! ## Runs -/

/-- What a call brings was cast, once an MSP, by peers registered at request time, and comes
under an id of its own. -/
def Honest (config : NodeConfig) (s : Polling) : Event → Prop
  | .call (.submitJoinRequest generatedID now req) _ =>
    let stored := req.completed generatedID now s.node.store.loadPeers
    s.node.store.requestPath stored.id ≠ s.node.store.peersPath ∧
      s.registry.registered.get stored.id = none ∧ stored.status ≠ .approved ∧
        ∀ v ∈ req.votes, stored.counts v = false
  | .call (.receiveGossipedRequest req) _ =>
    match s.node.request req.id with
    | some r => ∀ v ∈ req.votes, r.status = .pending → r.hasVoted v.voterMSP = false →
        r.counts v = true → s.registry.Entitled r.id v.voterMSP
    | none => s.node.store.requestPath req.id ≠ s.node.store.peersPath ∧ Sound s.registry req
  | .call (.castVote requestID approve) _ =>
    ∀ r ∈ s.node.request requestID, r.status = .pending →
      r.counts (ownVote config approve Time.zero) = true → s.registry.Eligible r.id config.mspID
  | .call (.receiveGossipedVote requestID vote) _ =>
    ∀ r ∈ s.node.request requestID, r.status = .pending → r.hasVoted vote.voterMSP = false →
      r.counts vote = true → s.registry.Entitled r.id vote.voterMSP
  | .call _ _ => True
  | .submittedElsewhere id _ => s.registry.registered.get id = none
  | .castElsewhere _ _ => True

/-- No request is stored yet. -/
structure Polling.Fresh (s : Polling) : Prop where
  peers : s.registry.peers = s.node.store.loadPeers.map PeerInfo.mspID
  unasked : ∀ path r, s.node.store.files.get path ≠ some (.request r)
  idle : s.node.flows = []

theorem Polling.Fresh.kept {s : Polling} (fresh : s.Fresh) : Kept s.registry s.node where
  peers := fresh.peers
  stored path r stored := absurd stored (fresh.unasked path r)
  flows r member := by
    rw [fresh.idle] at member
    cases member

section Runs

variable {config : NodeConfig} {s : Polling}

theorem Kept.start {node started : Node} {registry : Registry} (kept : Kept registry node)
    {call : Call} (starts : node.start call = some started) :
    Kept registry started ∧ started.store = node.store ∧
      ∀ req, call = .executeApproval req →
        node.store.requestPath req.id ≠ node.store.peersPath := by
  cases call with
  | executeApproval req =>
    simp only [Node.start] at starts
    split_ifs at starts with member
    cases starts
    refine ⟨⟨kept.peers, kept.stored, fun r running => ?_⟩, rfl, fun req' same => ?_⟩
    · exact kept.flows r (List.mem_of_mem_erase running)
    · cases same
      exact kept.flows req member
  | _ =>
    cases starts
    exact ⟨kept, rfl, nofun⟩

theorem handler_kept (kept : Kept s.registry s.node) {call : Call} {choices : List Choice}
    (honest : Honest config s (.call call choices)) {started : Node}
    (starts : s.node.start call = some started) :
    (call.handler config).Wp perform
      (fun result after => Kept (s.registry.after config s.node call result after) after)
      started := by
  obtain ⟨kept, store, apart⟩ := kept.start starts
  cases call with
  | submitJoinRequest generatedID now req =>
    cases starts
    obtain ⟨apart, fresh, unapproved, unvoted⟩ := honest
    refine .bind ((submitJoinRequest_kept kept generatedID now req apart fresh unapproved
      unvoted).mono fun result after kept => ?_)
    cases result <;> exact kept
  | receiveGossipedRequest req =>
    cases starts
    refine .bind ((receiveGossipedRequest_kept config kept req ?_ ?_).mono
      fun result after kept => ?_)
    · intro r found
      simpa only [Honest, found] using honest
    · intro found
      simpa only [Honest, found] using honest
    · cases result <;> exact kept
  | castVote requestID approve =>
    cases starts
    refine .bind ((castVote_kept config kept requestID approve fun r found pending now counted =>
      honest r found pending counted).mono fun result after kept => ?_)
    cases result <;> exact kept
  | receiveGossipedVote requestID vote =>
    cases starts
    refine .bind ((receiveGossipedVote_kept config kept requestID vote honest).mono
      fun result after kept => ?_)
    cases result <;> exact kept
  | handlePeerJoined peer =>
    cases starts
    intro choice reply after performed
    exact (kept.addPeer performed).1
  | handleSignConfigUpdate req =>
    cases starts
    exact .bind (handleSignConfigUpdate_kept config kept req)
  | executeApproval req =>
    have apart := apart req rfl
    rw [← store] at apart
    exact .bind (executeApproval_kept config kept req apart)

theorem kept_step (kept : Kept s.registry s.node) {event : Event} (honest : Honest config s event) :
    Kept (s.step config event).registry (s.step config event).node := by
  cases event with
  | call call choices =>
    simp only [Polling.step]
    split
    next result node ran =>
      obtain ⟨started, starts, ran⟩ := Option.bind_eq_some_iff.mp ran
      exact (handler_kept kept honest starts).run ran
    next => exact kept
  | submittedElsewhere id peers =>
    exact ⟨kept.peers, fun path r stored => (kept.stored path r stored).imp_right
      fun sound => sound.submitted honest peers, kept.flows⟩
  | castElsewhere id mspID => exact kept.voted id mspID

end Runs

/-- When what the calls bring is genuine, only a majority of the peers registered at request time
approves a request. -/
theorem vote_safety {config : NodeConfig} {start s : Polling} (fresh : start.Fresh)
    (reached : Reach (Polling.step config) (Honest config) start s) : VoteSafe s := by
  have kept : Kept s.registry s.node := reached.invariant (fun s => Kept s.registry s.node)
    fresh.kept fun s event kept honest => kept_step kept honest
  intro id req found approved
  exact (kept.request found).2.approved approved

/-! ## Three registered peers -/

def threePeersStart : Polling where
  node := .idle peerOne threePeers
  registry :=
    { peers := ["PeerOneMSP", "PeerTwoMSP", "PeerThreeMSP"]
      registered := ∅
      approvals := [] }

theorem threePeersStart_fresh : threePeersStart.Fresh where
  peers := by decide
  unasked path r stored := by
    simp only [threePeersStart, Node.idle, Dict.get_set] at stored
    split_ifs at stored <;> cases stored
  idle := rfl

-- The request comes with two votes of one unknown MSP; a rejecting vote then approves it.
def stuffedBallot : List Event :=
  [.call (.submitJoinRequest "" 1
      { joiner with votes := [sampleVote "EveMSP" true, sampleVote "EveMSP" true] })
      [.nothing, .write .written, .nothing],
    .call (.receiveGossipedVote "r1" (sampleVote "PeerTwoMSP" false))
      [.nothing, .write .written, .time 3, .write .written, .nothing]]

theorem approved_without_majority :
    ¬ ∀ s, Reach (Polling.step peerOne) Free threePeersStart s → VoteSafe s := by
  intro safe
  have stuffed := safe _ (reach_free (Polling.step peerOne) threePeersStart stuffedBallot)
  have approved : ((stuffedBallot.foldl (Polling.step peerOne) threePeersStart).node.request
      "r1").map JoinRequest.status = some .approved := by decide
  have uncast : (stuffedBallot.foldl (Polling.step peerOne) threePeersStart).registry.approvals =
      [] := by decide
  obtain ⟨req, found, status⟩ := Option.map_eq_some_iff.mp approved
  obtain ⟨peers, _, voters, _, enough, cast⟩ := stuffed "r1" req found status
  obtain ⟨voter, member⟩ := List.exists_mem_of_length_pos (Nat.lt_of_lt_of_le (Nat.succ_pos _) enough)
  rw [uncast] at cast
  exact List.not_mem_nil (cast voter member).1

def honestBallot : List Event :=
  [.call (.submitJoinRequest "" 1 joiner) [.nothing, .write .written, .nothing],
    .call (.castVote "r1" true) [.nothing, .time 2, .write .written, .nothing],
    .castElsewhere "r1" "PeerTwoMSP",
    .call (.receiveGossipedVote "r1" (sampleVote "PeerTwoMSP" true))
      [.nothing, .write .written, .time 3, .write .written, .nothing]]

theorem vote_safety_twoOfThree :
    ((honestBallot.foldl (Polling.step peerOne) threePeersStart).node.request "r1").map
        JoinRequest.status = some .approved ∧
      VoteSafe (honestBallot.foldl (Polling.step peerOne) threePeersStart) := by
  refine ⟨by decide, vote_safety threePeersStart_fresh (reach_foldl ⟨?_, ?_, ?_, ?_, trivial⟩)⟩
  · simp only [Honest]
    decide
  · simp only [Honest]
    decide
  · trivial
  · simp only [Honest]
    decide

end Kufi.NodeManager

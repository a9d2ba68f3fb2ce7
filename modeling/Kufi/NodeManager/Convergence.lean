import Kufi.NodeManager.Node

set_option autoImplicit false

/-!
# Convergence

One join request and the votes on it reach a node in some order, each any
number of times. What the node stores in the end depends on the votes that
reach it after the request, and on nothing else.
-/

namespace Kufi.NodeManager

open Shared

inductive Delivery where
  | request
  | vote (vote : Vote)
  deriving DecidableEq

def Delivery.call (req : JoinRequest) : Delivery → Call
  | .request => .receiveGossipedRequest req
  | .vote v => .receiveGossipedVote req.id v

/-- Every write goes through and every tool succeeds. -/
def obliging (now : Time) : Op → Choice
  | .now => .time now
  | .saveJoinRequest _ | .addPeer _ | .writeFile _ _ => .write .written
  | .unpackMSPBundle _ | .submitConfigUpdate => .succeeds true
  | .addOrgToChannel _ => .builds (some "{}")
  | .signConfigUpdate _ _ => .signs (some "")
  | .post _ _ => .answers none
  | _ => .nothing

/-- A message handled on its own. -/
def deliver (config : NodeConfig) (req : JoinRequest) (node : Node) (delivery : Time × Delivery) :
    Node :=
  match ((delivery.2.call req).handler config).answered perform (obliging delivery.1) node with
  | some (_, after) => after
  | none => node

/-! ## What becomes of the stored request -/

namespace JoinRequest

def settled (r : JoinRequest) (now : Time) : JoinRequest :=
  if r.status = .pending ∧ r.majorityReached = true then r.resolved .approved now else r

def record (r : JoinRequest) (v : Vote) (now : Time) : JoinRequest :=
  if r.hasVoted v.voterMSP then r else (r.withVote v).settled now

@[simp] theorem id_settled (r : JoinRequest) (now : Time) : (r.settled now).id = r.id := by
  unfold settled
  split <;> rfl

@[simp] theorem votes_settled (r : JoinRequest) (now : Time) :
    (r.settled now).votes = r.votes := by
  unfold settled
  split <;> rfl

@[simp] theorem totalPeers_settled (r : JoinRequest) (now : Time) :
    (r.settled now).totalPeers = r.totalPeers := by
  unfold settled
  split <;> rfl

@[simp] theorem id_record (r : JoinRequest) (v : Vote) (now : Time) : (r.record v now).id = r.id := by
  unfold record
  split <;> simp

end JoinRequest

/-- The stored request after a message. -/
def receive (req : JoinRequest) : Option JoinRequest → Time × Delivery → Option JoinRequest
  | none, (_, .request) => some req
  | none, (_, .vote _) => none
  | some r, (_, .request) => some r
  | some r, (now, .vote v) => some (r.record v now)

section Deliver

variable {config : NodeConfig} {req r : JoinRequest} {node : Node}

theorem checkMajority_answered (config : NodeConfig) (r : JoinRequest) (now : Time) (node : Node) :
    ∃ after, (checkMajority config r).answered perform (obliging now) node = some ((), after) ∧
      after.store = if r.status = .pending ∧ r.majorityReached = true then
        (node.save (r.resolved .approved now) .written).2.store else node.store := by
  unfold checkMajority
  by_cases pending : r.status = .pending
  · by_cases reached : r.majorityReached = true
    · simp only [pending, reached, ne_eq, not_true_eq_false, if_false, Bool.not_true,
        Bool.false_eq_true, and_self, if_true]
      by_cases executes : config.role = .bootstrap ∨ config.role = .orderer
      · simp only [executes, if_true]
        exact ⟨_, rfl, rfl⟩
      · simp only [executes, if_false]
        exact ⟨_, rfl, rfl⟩
    · simp only [pending, reached, ne_eq, not_true_eq_false, if_false, Bool.not_false, if_true]
      exact ⟨node, rfl, rfl⟩
  · simp only [pending, ne_eq, not_false_eq_true, if_true, false_and, if_false]
    exact ⟨node, rfl, rfl⟩

theorem request_settled {after : Node} {now : Time}
    (store : after.store = if r.status = .pending ∧ r.majorityReached = true then
      ((node.save r .written).2.save (r.resolved .approved now) .written).2.store
      else (node.save r .written).2.store) :
    after.request r.id = some (r.settled now) := by
  unfold Node.request JoinRequest.settled
  rw [store]
  split
  · exact request_written (node.save r .written).2 (r.resolved .approved now)
  · exact request_written node r

theorem mergeVotes_known {existing : JoinRequest} {votes : List Vote}
    (known : ∀ v ∈ votes, existing.hasVoted v.voterMSP = true) :
    mergeVotes existing votes = (existing, false) := by
  induction votes with
  | nil => rfl
  | cons v rest ih =>
    unfold mergeVotes
    rw [if_pos (known v List.mem_cons_self)]
    exact ih fun w member => known w (List.mem_cons_of_mem v member)

/-- A node that knows the request has every vote that came with it. -/
def Knows (req : JoinRequest) : Option JoinRequest → Prop
  | none => True
  | some r => r.id = req.id ∧ ∀ v ∈ req.votes, r.hasVoted v.voterMSP = true

theorem receiveGossipedVote_answered (config : NodeConfig) (known : Knows req (node.request req.id))
    (v : Vote) (now : Time) :
    ∃ result after, (receiveGossipedVote config req.id v).answered perform (obliging now) node =
        some (result, after) ∧
      after.request req.id = receive req (node.request req.id) (now, .vote v) := by
  have loaded : perform (.loadJoinRequest req.id) .nothing node =
      some (node.request req.id, node) := rfl
  unfold receiveGossipedVote
  rw [Procedure.answered_ask loaded]
  cases found : node.request req.id with
  | none => exact ⟨.ok (), node, rfl, found⟩
  | some r =>
    obtain ⟨same, _⟩ : r.id = req.id ∧ _ := found ▸ known
    by_cases voted : r.hasVoted v.voterMSP = true
    · simp only [voted, if_true, receive, JoinRequest.record]
      exact ⟨.ok (), node, rfl, found⟩
    · simp only [voted, receive, JoinRequest.record]
      have saved : perform (.saveJoinRequest (r.withVote v)) (.write .written) node =
          some (true, (node.save (r.withVote v) .written).2) := rfl
      obtain ⟨after, checked, store⟩ := checkMajority_answered config (r.withVote v) now
        (node.save (r.withVote v) .written).2
      refine ⟨.ok (), after, ?_, ?_⟩
      · simp only [Bool.false_eq_true, if_false]
        rw [Procedure.answered_ask saved, Procedure.answered_bind, checked]
        rfl
      · rw [← same]
        exact request_settled store

theorem receiveGossipedRequest_answered (config : NodeConfig)
    (known : Knows req (node.request req.id)) (now : Time) :
    ∃ result after, (receiveGossipedRequest config req).answered perform (obliging now) node =
        some (result, after) ∧
      after.request req.id = receive req (node.request req.id) (now, .request) := by
  have loaded : perform (.loadJoinRequest req.id) .nothing node =
      some (node.request req.id, node) := rfl
  unfold receiveGossipedRequest
  rw [Procedure.answered_ask loaded]
  cases found : node.request req.id with
  | none => exact ⟨.ok (), (node.save req .written).2, rfl, request_written node req⟩
  | some r =>
    obtain ⟨_, carried⟩ : r.id = req.id ∧ _ := found ▸ known
    simp only [mergeVotes_known carried, Bool.false_eq_true, if_false, receive]
    exact ⟨.ok (), node, rfl, found⟩

/-- Through the files, the handlers do to the stored request what `receive` does. -/
theorem request_deliver (config : NodeConfig) (known : Knows req (node.request req.id))
    (delivery : Time × Delivery) :
    (deliver config req node delivery).request req.id =
      receive req (node.request req.id) delivery := by
  obtain ⟨now, message⟩ := delivery
  unfold deliver
  cases message with
  | request =>
    obtain ⟨result, after, ran, stored⟩ := receiveGossipedRequest_answered config known now
    simp only [Delivery.call, Call.handler, Procedure.answered_bind, ran, Option.bind_some]
    exact stored
  | vote v =>
    obtain ⟨result, after, ran, stored⟩ := receiveGossipedVote_answered config known v now
    simp only [Delivery.call, Call.handler, Procedure.answered_bind, ran, Option.bind_some]
    exact stored

end Deliver

/-! ## A sequence of messages -/

def Delivery.vote? : Delivery → Option Vote
  | .request => none
  | .vote v => some v

/-- The votes that come after the first delivery of the request. -/
def votesAfterRequest : List Delivery → List Vote
  | [] => []
  | .request :: rest => rest.filterMap Delivery.vote?
  | .vote _ :: rest => votesAfterRequest rest

/-- One vote of an MSP. -/
def OneVoteEach (votes : List Vote) : Prop :=
  ∀ v ∈ votes, ∀ w ∈ votes, v.voterMSP = w.voterMSP → v = w

theorem majorityReached_congr {r s : JoinRequest} (votes : r.votes = s.votes)
    (total : r.totalPeers = s.totalPeers) : r.majorityReached = s.majorityReached := by
  have counts : r.counts = s.counts := by
    funext v
    simp only [JoinRequest.counts, total]
  rw [Bool.eq_iff_iff, JoinRequest.majorityReached_iff, JoinRequest.majorityReached_iff]
  simp only [JoinRequest.requiredVotes, JoinRequest.approvalCount, votes, total, counts]

theorem majorityReached_withVote {r : JoinRequest} (reached : r.majorityReached = true) (v : Vote) :
    (r.withVote v).majorityReached = true := by
  rw [JoinRequest.majorityReached_iff] at reached ⊢
  have more : r.approvalCount ≤ (r.withVote v).approvalCount :=
    (List.sublist_append_left r.votes [v]).countP_le
  have required : (r.withVote v).requiredVotes = r.requiredVotes := rfl
  omega

/-- What a node has stored once it has the request and these votes after it. -/
structure Collected (req r : JoinRequest) (later added : List Vote) : Prop where
  id : r.id = req.id
  total : r.totalPeers = req.totalPeers
  votes : r.votes = req.votes ++ added
  nodup : added.Nodup
  mem_added : ∀ v, v ∈ added ↔ v ∈ later ∧ req.hasVoted v.voterMSP = false
  status : r.status =
    if req.status = .pending ∧ added ≠ [] ∧ r.majorityReached = true then .approved else req.status

section Collected

variable {req r : JoinRequest} {later added : List Vote} {v : Vote}

theorem Collected.hasVoted (collected : Collected req r later added) (mspID : String) :
    r.hasVoted mspID = true ↔
      req.hasVoted mspID = true ∨ ∃ w ∈ added, w.voterMSP = mspID := by
  simp only [JoinRequest.hasVoted_iff, collected.votes, List.mem_append]
  constructor
  · rintro ⟨w, old | new, same⟩
    · exact .inl ⟨w, old, same⟩
    · exact .inr ⟨w, new, same⟩
  · rintro (⟨w, old, same⟩ | ⟨w, new, same⟩)
    · exact ⟨w, .inl old, same⟩
    · exact ⟨w, .inr new, same⟩

theorem Collected.again (collected : Collected req r later added)
    (each : OneVoteEach (later ++ [v])) (voted : r.hasVoted v.voterMSP = true) :
    Collected req r (later ++ [v]) added :=
  { collected with
    mem_added := by
      intro w
      rw [collected.mem_added, List.mem_append, List.mem_singleton]
      constructor
      · exact fun ⟨old, uncarried⟩ => ⟨.inl old, uncarried⟩
      · rintro ⟨old | rfl, uncarried⟩
        · exact ⟨old, uncarried⟩
        · rcases (collected.hasVoted w.voterMSP).mp voted with carried | ⟨u, member, same⟩
          · rw [uncarried] at carried
            cases carried
          · have old := ((collected.mem_added u).mp member).1
            obtain rfl := each u (List.mem_append_left _ old) w (by simp) same
            exact ⟨old, uncarried⟩ }

theorem Collected.vote (collected : Collected req r later added)
    (new : r.hasVoted v.voterMSP = false) (now : Time) :
    Collected req ((r.withVote v).settled now) (later ++ [v]) (added ++ [v]) := by
  have uncarried : req.hasVoted v.voterMSP = false := by
    refine Bool.eq_false_iff.mpr fun carried => ?_
    rw [(collected.hasVoted _).mpr (.inl carried)] at new
    cases new
  have unadded : v ∉ added := by
    intro member
    rw [(collected.hasVoted _).mpr (.inr ⟨v, member, rfl⟩)] at new
    cases new
  have majority : ((r.withVote v).settled now).majorityReached = (r.withVote v).majorityReached :=
    majorityReached_congr (by simp) (by simp)
  refine ⟨by simp [collected.id], by simp [collected.total], by simp [collected.votes], ?_, ?_, ?_⟩
  · exact List.nodup_append.mpr ⟨collected.nodup, List.nodup_singleton v, by grind⟩
  · intro w
    simp only [List.mem_append, List.mem_singleton, collected.mem_added]
    constructor
    · rintro (⟨old, free⟩ | rfl)
      · exact ⟨.inl old, free⟩
      · exact ⟨.inr rfl, uncarried⟩
    · rintro ⟨old | rfl, free⟩
      · exact .inl ⟨old, free⟩
      · exact .inr rfl
  · rw [majority]
    unfold JoinRequest.settled
    by_cases pending : req.status = .pending
    · by_cases reached : (r.withVote v).majorityReached = true
      · by_cases before : added ≠ [] ∧ r.majorityReached = true
        · have status : r.status = .approved := by
            rw [collected.status, if_pos ⟨pending, before⟩]
          simp [pending, reached, status]
        · have status : r.status = .pending := by
            rw [collected.status, if_neg fun held => before held.2, pending]
          simp [pending, reached, status]
      · have before : ¬ r.majorityReached = true := fun held =>
          reached (majorityReached_withVote held v)
        have status : r.status = req.status := by
          rw [collected.status, if_neg fun held => before held.2.2]
        simp [reached, status]
    · have status : r.status = req.status := by
        rw [collected.status, if_neg fun held => pending held.1]
      simp [pending, status]

end Collected

theorem Knows.receive {req : JoinRequest} {stored : Option JoinRequest} (known : Knows req stored)
    (delivery : Time × Delivery) : Knows req (receive req stored delivery) := by
  obtain ⟨now, message⟩ := delivery
  cases stored with
  | none =>
    cases message with
    | request => exact ⟨rfl, fun v member => JoinRequest.hasVoted_iff.mpr ⟨v, member, rfl⟩⟩
    | vote v => trivial
  | some r =>
    cases message with
    | request => exact known
    | vote v =>
      refine ⟨(JoinRequest.id_record r v now).trans known.1, fun w member => ?_⟩
      have before := known.2 w member
      unfold JoinRequest.record
      split
      · exact before
      · rw [JoinRequest.hasVoted_iff] at before ⊢
        obtain ⟨u, voted, same⟩ := before
        exact ⟨u, by simp [voted], same⟩

theorem request_delivered (config : NodeConfig) {req : JoinRequest} {node : Node}
    (known : Knows req (node.request req.id)) (deliveries : List (Time × Delivery)) :
    (deliveries.foldl (deliver config req) node).request req.id =
      deliveries.foldl (receive req) (node.request req.id) := by
  induction deliveries generalizing node with
  | nil => rfl
  | cons delivery rest ih =>
    have stored := request_deliver config known delivery
    rw [List.foldl_cons, List.foldl_cons, ih (stored ▸ known.receive delivery), stored]

theorem collected_receive {req r : JoinRequest} {later added : List Vote}
    (collected : Collected req r later added) (deliveries : List (Time × Delivery))
    (each : OneVoteEach (later ++ (deliveries.map Prod.snd).filterMap Delivery.vote?)) :
    ∃ r' added', deliveries.foldl (receive req) (some r) = some r' ∧
      Collected req r' (later ++ (deliveries.map Prod.snd).filterMap Delivery.vote?) added' := by
  induction deliveries generalizing r later added with
  | nil => exact ⟨r, added, rfl, by simpa using collected⟩
  | cons delivery rest ih =>
    obtain ⟨now, message⟩ := delivery
    cases message with
    | request => exact ih collected each
    | vote v =>
      simp only [List.map_cons, List.filterMap_cons, Delivery.vote?] at each ⊢
      rw [List.append_cons] at each ⊢
      have now_each : OneVoteEach (later ++ [v]) := fun u member w member' =>
        each u (List.mem_append_left _ member) w (List.mem_append_left _ member')
      simp only [List.foldl_cons, receive, JoinRequest.record]
      by_cases voted : r.hasVoted v.voterMSP = true
      · rw [if_pos voted]
        exact ih (collected.again now_each voted) each
      · rw [if_neg voted]
        exact ih (collected.vote (Bool.eq_false_iff.mpr voted) now) each

theorem collected_of_unknown (req : JoinRequest) (deliveries : List (Time × Delivery))
    (requested : Delivery.request ∈ deliveries.map Prod.snd)
    (each : OneVoteEach (votesAfterRequest (deliveries.map Prod.snd))) :
    ∃ r added, deliveries.foldl (receive req) none = some r ∧
      Collected req r (votesAfterRequest (deliveries.map Prod.snd)) added := by
  induction deliveries with
  | nil => cases requested
  | cons delivery rest ih =>
    obtain ⟨now, message⟩ := delivery
    cases message with
    | request =>
      have first : Collected req req [] [] :=
        ⟨rfl, rfl, by simp, List.nodup_nil, by simp, by simp⟩
      exact collected_receive first rest each
    | vote v =>
      rcases List.mem_cons.mp requested with same | later
      · cases same
      · exact ih later each

/-! ## Two nodes -/

/-- Each message at least once, in any order, and no others. -/
def Complete (votes : List Vote) (deliveries : List (Time × Delivery)) : Prop :=
  ∀ message, message ∈ deliveries.map Prod.snd ↔
    message = .request ∨ ∃ v ∈ votes, message = .vote v

/-- The same votes and the same status under an id. -/
def Agree (id : String) (node node' : Node) : Prop :=
  ∃ r ∈ node.request id, ∃ r' ∈ node'.request id,
    (∀ v, v ∈ r.votes ↔ v ∈ r'.votes) ∧ r.status = r'.status

def Converge (config config' : NodeConfig) (req : JoinRequest) (node node' : Node)
    (deliveries deliveries' : List (Time × Delivery)) : Prop :=
  Agree req.id (deliveries.foldl (deliver config req) node)
    (deliveries'.foldl (deliver config' req) node')

theorem mem_votesAfterRequest {messages : List Delivery} {v : Vote}
    (member : v ∈ votesAfterRequest messages) : .vote v ∈ messages := by
  induction messages with
  | nil => cases member
  | cons message rest ih =>
    cases message with
    | request =>
      obtain ⟨message, found, same⟩ := List.mem_filterMap.mp member
      cases message with
      | request => cases same
      | vote w =>
        obtain rfl := Option.some.inj same
        exact List.mem_cons_of_mem _ found
    | vote w => exact List.mem_cons_of_mem _ (ih member)

theorem Complete.collected (config : NodeConfig) {req : JoinRequest} {node : Node}
    {votes : List Vote} {deliveries : List (Time × Delivery)} (complete : Complete votes deliveries)
    (each : OneVoteEach votes) (unknown : node.request req.id = none) :
    ∃ r added, (deliveries.foldl (deliver config req) node).request req.id = some r ∧
      Collected req r (votesAfterRequest (deliveries.map Prod.snd)) added ∧
      ∀ v ∈ votesAfterRequest (deliveries.map Prod.snd), v ∈ votes := by
  have known : Knows req (node.request req.id) := by
    rw [unknown]
    trivial
  have among : ∀ v ∈ votesAfterRequest (deliveries.map Prod.snd), v ∈ votes := by
    intro v member
    rcases (complete (.vote v)).mp (mem_votesAfterRequest member) with same | ⟨w, voted, same⟩
    · cases same
    · cases same
      exact voted
  obtain ⟨r, added, reached, collected⟩ := collected_of_unknown req deliveries
    ((complete .request).mpr (.inl rfl))
    fun v member w member' => each v (among v member) w (among w member')
  refine ⟨r, added, ?_, collected, among⟩
  rw [request_delivered config known, unknown, reached]

section Collected

variable {req r r' : JoinRequest} {later later' added added' : List Vote}

theorem Collected.mem_votes (collected : Collected req r later added) {v : Vote}
    (uncarried : req.hasVoted v.voterMSP = false) : v ∈ r.votes ↔ v ∈ later := by
  have notCarried : v ∉ req.votes := by
    intro member
    rw [JoinRequest.hasVoted_iff.mpr ⟨v, member, rfl⟩] at uncarried
    cases uncarried
  simp [collected.votes, collected.mem_added, notCarried, uncarried]

theorem Collected.perm (collected : Collected req r later added)
    (collected' : Collected req r' later' added')
    (same : ∀ v, v ∈ added ↔ v ∈ added') : r.votes.Perm r'.votes := by
  rw [collected.votes, collected'.votes]
  exact ((List.perm_ext_iff_of_nodup collected.nodup collected'.nodup).mpr same).append_left _

theorem Collected.status_eq (collected : Collected req r later added)
    (collected' : Collected req r' later' added')
    (same : ∀ v, v ∈ added ↔ v ∈ added') : r.status = r'.status := by
  have total : r.totalPeers = r'.totalPeers := collected.total.trans collected'.total.symm
  have majority : r.majorityReached = r'.majorityReached := by
    have counts : r.counts = r'.counts := by
      funext v
      simp only [JoinRequest.counts, total]
    rw [Bool.eq_iff_iff, JoinRequest.majorityReached_iff, JoinRequest.majorityReached_iff]
    simp only [JoinRequest.requiredVotes, JoinRequest.approvalCount, total, counts,
      (collected.perm collected' same).countP_eq]
  have empty : added = [] ↔ added' = [] := by
    simp only [List.eq_nil_iff_forall_not_mem, same]
  rw [collected.status, collected'.status, majority]
  simp only [ne_eq, empty]

end Collected

/-- Two nodes end with the same votes and status just when each vote that did not come with the
request reaches both after it, or neither. -/
theorem converge_iff {config config' : NodeConfig} {req : JoinRequest} {node node' : Node}
    {votes : List Vote} {deliveries deliveries' : List (Time × Delivery)}
    (each : OneVoteEach votes) (unknown : node.request req.id = none)
    (unknown' : node'.request req.id = none) (complete : Complete votes deliveries)
    (complete' : Complete votes deliveries') :
    Converge config config' req node node' deliveries deliveries' ↔
      ∀ v ∈ votes, req.hasVoted v.voterMSP = false →
        (v ∈ votesAfterRequest (deliveries.map Prod.snd) ↔
          v ∈ votesAfterRequest (deliveries'.map Prod.snd)) := by
  obtain ⟨r, added, stored, collected, among⟩ :=
    complete.collected config each unknown
  obtain ⟨r', added', stored', collected', among'⟩ :=
    complete'.collected config' each unknown'
  unfold Converge Agree
  simp only [stored, stored', Option.mem_some, exists_eq_left']
  constructor
  · rintro ⟨same, _⟩ v _ uncarried
    rw [← collected.mem_votes uncarried, ← collected'.mem_votes uncarried]
    exact same v
  · intro together
    have same (v : Vote) : v ∈ added ↔ v ∈ added' := by
      rw [collected.mem_added, collected'.mem_added]
      constructor
      · exact fun ⟨after, free⟩ => ⟨(together v (among v after) free).mp after, free⟩
      · exact fun ⟨after, free⟩ => ⟨(together v (among' v after) free).mpr after, free⟩
    exact ⟨fun v => (collected.perm collected' same).mem_iff, collected.status_eq collected' same⟩

def peerTwo : NodeConfig := { peerOne with orgName := "PeerTwo", mspID := "PeerTwoMSP" }

def gossipedJoiner : JoinRequest := { joiner with status := .pending, totalPeers := 3 }

def bothVotes : List Vote := [sampleVote "PeerOneMSP" true, sampleVote "PeerThreeMSP" true]

def requestFirst : List (Time × Delivery) :=
  [(1, .request), (2, .vote (sampleVote "PeerOneMSP" true)),
    (3, .vote (sampleVote "PeerThreeMSP" true))]

-- The first vote is here before the request.
def voteFirst : List (Time × Delivery) :=
  [(1, .vote (sampleVote "PeerOneMSP" true)), (2, .request),
    (3, .vote (sampleVote "PeerThreeMSP" true))]

-- It comes once more.
def voteAgain : List (Time × Delivery) :=
  voteFirst ++ [(4, .request), (5, .vote (sampleVote "PeerOneMSP" true))]

theorem bothVotes_each : OneVoteEach bothVotes := by
  simp [OneVoteEach, bothVotes, sampleVote]

theorem requestFirst_complete : Complete bothVotes requestFirst := by
  intro message
  simp [requestFirst, bothVotes]

theorem voteAgain_complete : Complete bothVotes voteAgain := by
  intro message
  simp [voteAgain, voteFirst, bothVotes]
  grind

theorem early_vote_lost :
    OneVoteEach bothVotes ∧ Complete bothVotes requestFirst ∧ Complete bothVotes voteFirst ∧
      (Node.idle peerOne threePeers).request gossipedJoiner.id = none ∧
      (Node.idle peerTwo threePeers).request gossipedJoiner.id = none ∧
      ¬ Converge peerOne peerTwo gossipedJoiner (.idle peerOne threePeers)
        (.idle peerTwo threePeers) requestFirst voteFirst := by
  refine ⟨bothVotes_each, requestFirst_complete, ?_, by decide, by decide, ?_⟩
  · intro message
    simp [voteFirst, bothVotes]
    grind
  · rintro ⟨r, found, r', found', _, status⟩
    have approved : ((requestFirst.foldl (deliver peerOne gossipedJoiner)
        (.idle peerOne threePeers)).request "r1").map JoinRequest.status = some .approved := by
      decide
    have pending : ((voteFirst.foldl (deliver peerTwo gossipedJoiner)
        (.idle peerTwo threePeers)).request "r1").map JoinRequest.status = some .pending := by
      decide
    rw [show gossipedJoiner.id = "r1" from rfl] at found found'
    rw [found] at approved
    rw [found'] at pending
    simp_all

theorem converge_iff_repeated :
    Converge peerOne peerTwo gossipedJoiner (.idle peerOne threePeers) (.idle peerTwo threePeers)
      requestFirst voteAgain := by
  refine (converge_iff bothVotes_each (by decide) (by decide) requestFirst_complete
    voteAgain_complete).mpr ?_
  decide

end Kufi.NodeManager

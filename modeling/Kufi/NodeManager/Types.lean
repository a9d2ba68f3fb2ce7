import Kufi.Shared.Time
import Mathlib.Tactic.SplitIfs

set_option autoImplicit false

/-!
# Join requests and votes

The messages of the node manager. The addresses at which Fabric reaches a peer
are left out: no vote depends on them.
-/

namespace Kufi.NodeManager

open Shared

inductive NodeRole where
  -- (legacy) runs orderer + first peer
  | bootstrap
  | orderer
  | peer
  | other (text : String)
  deriving DecidableEq

def ordererMSPID : String := "OrdererMSP"

/-- The three statuses of the source, and whatever else a message may carry. -/
inductive RequestStatus where
  | pending
  | approved
  | rejected
  | other (text : String)
  deriving DecidableEq

/-- The status a message without one has. -/
def RequestStatus.empty : RequestStatus := .other ""

structure NodeConfig where
  role : NodeRole
  orgName : String
  mspID : String
  domain : String
  -- orderer mgmt API for gossip routing
  ordererMgmtAddr : String
  deriving DecidableEq

structure PeerInfo where
  orgName : String
  mspID : String
  domain : String
  mgmtAddr : String
  joinedAt : Time
  deriving DecidableEq

structure Vote where
  voterOrg : String
  voterMSP : String
  approve : Bool
  timestamp : Time
  deriving DecidableEq

structure JoinRequest where
  id : String
  orgName : String
  mspID : String
  domain : String
  -- new node's management address
  mgmtAddr : String
  -- JSON from configtxgen -printOrg
  orgDefinition : String
  -- base64 tar.gz of org MSP dir
  orgMSPBundle : String
  status : RequestStatus
  votes : List Vote
  -- number of existing peers at request time
  totalPeers : Int
  createdAt : Time
  resolvedAt : Option Time
  deriving DecidableEq

/-- Sent to the joining node; what else it is told about the network is left out. -/
structure ApprovalNotification where
  requestID : String
  approved : Bool
  deriving DecidableEq

inductive GossipMessage where
  | request (req : JoinRequest)
  | vote (requestID : String) (vote : Vote)
  | peerJoined (peer : PeerInfo)
  deriving DecidableEq

namespace JoinRequest

def requiredVotes (r : JoinRequest) : Int :=
  if r.totalPeers ≤ 0 then 1 else r.totalPeers.tdiv 2 + 1

-- when no peer org exists yet, the orderer vote admits the first peer
def counts (r : JoinRequest) (v : Vote) : Bool :=
  v.approve && (r.totalPeers == 0 || v.voterMSP != ordererMSPID)

def approvalCount (r : JoinRequest) : Nat :=
  r.votes.countP r.counts

def majorityReached (r : JoinRequest) : Bool :=
  r.requiredVotes ≤ r.approvalCount

def hasVoted (r : JoinRequest) (mspID : String) : Bool :=
  r.votes.any fun v => v.voterMSP == mspID

def withVote (r : JoinRequest) (v : Vote) : JoinRequest :=
  { r with votes := r.votes ++ [v] }

def resolved (r : JoinRequest) (status : RequestStatus) (now : Time) : JoinRequest :=
  { r with status := status, resolvedAt := some now }

theorem hasVoted_iff {r : JoinRequest} {mspID : String} :
    r.hasVoted mspID = true ↔ ∃ v ∈ r.votes, v.voterMSP = mspID := by
  simp [hasVoted]

theorem majorityReached_iff {r : JoinRequest} :
    r.majorityReached = true ↔ r.requiredVotes ≤ r.approvalCount := by
  simp [majorityReached]

theorem requiredVotes_of_totalPeers {r : JoinRequest} {n : Nat} (total : r.totalPeers = n) :
    r.requiredVotes = (n / 2 + 1 : Nat) := by
  unfold requiredVotes
  rw [total]
  split_ifs with none
  · obtain rfl : n = 0 := by omega
    rfl
  · rw [Int.tdiv_eq_ediv_of_nonneg (Int.natCast_nonneg n)]
    rfl

@[simp] theorem votes_withVote (r : JoinRequest) (v : Vote) :
    (r.withVote v).votes = r.votes ++ [v] := rfl
@[simp] theorem id_withVote (r : JoinRequest) (v : Vote) : (r.withVote v).id = r.id := rfl
@[simp] theorem status_withVote (r : JoinRequest) (v : Vote) :
    (r.withVote v).status = r.status := rfl
@[simp] theorem totalPeers_withVote (r : JoinRequest) (v : Vote) :
    (r.withVote v).totalPeers = r.totalPeers := rfl

variable (r : JoinRequest) (status : RequestStatus) (now : Time)

@[simp] theorem id_resolved : (r.resolved status now).id = r.id := rfl
@[simp] theorem status_resolved : (r.resolved status now).status = status := rfl
@[simp] theorem votes_resolved : (r.resolved status now).votes = r.votes := rfl
@[simp] theorem totalPeers_resolved : (r.resolved status now).totalPeers = r.totalPeers := rfl

end JoinRequest

end Kufi.NodeManager

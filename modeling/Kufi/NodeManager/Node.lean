import Kufi.NodeManager.Manager

set_option autoImplicit false

/-!
# A node

The state the handlers of one node share, and what each operation does to it.
The clock, the file system, the Fabric tools and the answers of other nodes are
choices of the environment.
-/

namespace Kufi.NodeManager

open Shared

structure Node where
  store : Store
  -- what gossip has handed to the network, with the address it is sent to
  sent : List (String × GossipMessage)
  approvalCh : List String
  -- approval flows started and not yet picked up by a goroutine
  flows : List JoinRequest
  work : WorkFile → Bytes
  submitted : List Bytes
  notified : List (String × ApprovalNotification)
  responses : List (SignRequest × SignResponse)

inductive Choice where
  | nothing
  | time (now : Time)
  | write (outcome : WriteOutcome)
  | succeeds (ok : Bool)
  | builds (update : Option String)
  | signs (signature : Option String)
  | answers (response : Option SignResponse)
  deriving DecidableEq

def Envelope.sign (envelope : Envelope) (mspID signature : String) : Envelope :=
  { envelope with signatures := envelope.signatures ++ [⟨mspID, signature⟩] }

namespace Node

variable (node : Node)

/-- The addresses of the known peers and of the orderer. -/
def gossipTargets : List String :=
  let addrs := node.store.loadPeers.map PeerInfo.mgmtAddr
  match node.store.loadNodeConfig with
  | some config =>
    if config.ordererMgmtAddr ≠ "" ∧ config.ordererMgmtAddr ∉ addrs then
      addrs ++ [config.ordererMgmtAddr]
    else addrs
  | none => addrs

def write (file : WorkFile) (bytes : Bytes) : Node :=
  { node with work := Function.update node.work file bytes }

/-- The request stored under an id. -/
def request (id : String) : Option JoinRequest := node.store.loadJoinRequest id

def save (req : JoinRequest) (outcome : WriteOutcome) : Bool × Node :=
  let saved := node.store.saveJoinRequest req outcome
  (saved.1, { node with store := saved.2 })

/-- The state a call finds; an approval flow runs only when it was started. -/
def start : Call → Option Node
  | .executeApproval req =>
    if req ∈ node.flows then some { node with flows := node.flows.erase req } else none
  | _ => some node

end Node

def perform : Performer Op Op.Reply Choice Node
  | .now, .time now, node => some (now, node)
  | .loadPeers, .nothing, node => some (node.store.loadPeers, node)
  | .addPeer peer, .write outcome, node =>
    some ((), { node with store := node.store.addPeer peer outcome })
  | .loadJoinRequest id, .nothing, node => some (node.request id, node)
  | .saveJoinRequest req, .write outcome, node => some (node.save req outcome)
  | .broadcast message, .nothing, node =>
    some ((), { node with sent := node.sent ++ node.gossipTargets.map (·, message) })
  -- the channel holds ten ids; a send that would block is dropped
  | .signalApproval id, .nothing, node =>
    some ((), { node with
      approvalCh := if node.approvalCh.length < 10 then node.approvalCh ++ [id]
        else node.approvalCh })
  | .goExecuteApproval req, .nothing, node =>
    some ((), { node with flows := node.flows ++ [req] })
  | .notifyApproval mgmtAddr notification, .nothing, node =>
    some ((), { node with notified := node.notified ++ [(mgmtAddr, notification)] })
  | .unpackMSPBundle _, .succeeds ok, node => some (ok, node)
  | .addOrgToChannel _, .builds none, node => some (false, node)
  | .addOrgToChannel _, .builds (some update), node =>
    some (true, node.write .configUpdateEnvelope (.envelope { update := update, signatures := [] }))
  | .signConfigUpdate _ _, .signs none, node => some (false, node)
  -- signing appends a signature to the envelope and leaves the rest as it is
  | .signConfigUpdate mspID file, .signs (some signature), node =>
    match node.work file with
    | .envelope envelope => some (true, node.write file (.envelope (envelope.sign mspID signature)))
    | .other _ => none
  | .submitConfigUpdate, .succeeds ok, node =>
    some (ok, { node with submitted := node.submitted ++ [node.work .configUpdateEnvelope] })
  | .readFile file, .nothing, node => some (node.work file, node)
  | .writeFile file bytes, .write .written, node => some (true, node.write file bytes)
  | .writeFile _ _, .write .failed, node => some (false, node)
  -- an interrupted write leaves no envelope
  | .writeFile file _, .write .torn, node => some (false, node.write file (.other ""))
  | .post _ _, .answers response, node => some (response, node)
  | .respond request response, .nothing, node =>
    some ((), { node with responses := node.responses ++ [(request, response)] })
  | _, _, _ => none

/-! ## What the operations do -/

section Operations

variable {node after : Node} {choice : Choice}

theorem perform_now {now : Time} (performed : perform .now choice node = some (now, after)) :
    node = after := by
  cases choice <;> cases performed
  rfl

theorem perform_loadPeers {peers : List PeerInfo}
    (performed : perform .loadPeers choice node = some (peers, after)) :
    node.store.loadPeers = peers ∧ node = after := by
  cases choice <;> cases performed
  exact ⟨rfl, rfl⟩

theorem perform_load {id : String} {found : Option JoinRequest}
    (performed : perform (.loadJoinRequest id) choice node = some (found, after)) :
    node.request id = found ∧ node = after := by
  cases choice <;> cases performed
  exact ⟨rfl, rfl⟩

theorem perform_save {req : JoinRequest} {saved : Bool}
    (performed : perform (.saveJoinRequest req) choice node = some (saved, after)) :
    ∃ outcome, node.save req outcome = (saved, after) := by
  cases choice with
  | write outcome => exact ⟨outcome, Option.some.inj performed⟩
  | _ => cases performed

/-- The store is written by the operations that save to it, and a flow is started by its own. -/
theorem perform_frame {op : Op} {reply : op.Reply}
    (performed : perform op choice node = some (reply, after))
    (unsaved : ∀ req, op ≠ .saveJoinRequest req) (unregistered : ∀ peer, op ≠ .addPeer peer) :
    after.store = node.store ∧
      (after.flows = node.flows ∨
        ∃ req, op = .goExecuteApproval req ∧ after.flows = node.flows ++ [req]) := by
  cases op with
  | saveJoinRequest req => exact absurd rfl (unsaved req)
  | addPeer peer => exact absurd rfl (unregistered peer)
  | goExecuteApproval req =>
    cases choice <;> cases performed
    exact ⟨rfl, .inr ⟨req, rfl, rfl⟩⟩
  | addOrgToChannel =>
    cases choice with
    | builds update => cases update <;> cases performed <;> exact ⟨rfl, .inl rfl⟩
    | _ => cases performed
  | signConfigUpdate mspID file =>
    cases choice with
    | signs signature =>
      cases signature with
      | none => cases performed; exact ⟨rfl, .inl rfl⟩
      | some signature =>
        simp only [perform] at performed
        split at performed <;> cases performed
        exact ⟨rfl, .inl rfl⟩
    | _ => cases performed
  | writeFile =>
    cases choice with
    | write outcome => cases outcome <;> cases performed <;> exact ⟨rfl, .inl rfl⟩
    | _ => cases performed
  | _ =>
    cases choice <;> cases performed
    exact ⟨rfl, .inl rfl⟩

end Operations

/-! ## What is in the files -/

namespace Store

theorem files_writeJSON (s : Store) (path : Path) (content : FileContent) (outcome : WriteOutcome) :
    (s.writeJSON path content outcome).2 = s ∨
      ∃ written, (written = content ∨ written = .torn) ∧
        (s.writeJSON path content outcome).2 = { s with files := s.files.set path written } := by
  cases outcome with
  | written => exact .inr ⟨content, .inl rfl, rfl⟩
  | failed => exact .inl rfl
  | torn => exact .inr ⟨.torn, .inr rfl, rfl⟩

theorem loadPeers_set {s : Store} {path : Path} {content : FileContent}
    (apart : path ≠ s.peersPath) :
    ({ s with files := s.files.set path content } : Store).loadPeers = s.loadPeers := by
  change (((s.files.set path content).get s.peersPath).bind FileContent.asPeers).getD [] = _
  rw [Dict.get_set, if_neg (Ne.symm apart)]
  rfl

theorem loadJoinRequest_set (s : Store) (path : Path) (content : FileContent) (id : String) :
    ({ s with files := s.files.set path content } : Store).loadJoinRequest id =
      if s.requestPath id = path then content.asRequest else s.loadJoinRequest id := by
  unfold loadJoinRequest
  rw [Dict.get_set]
  split_ifs with same <;> simp_all [requestPath]

/-- What is loaded as a request is one, or the configuration read as one. -/
theorem asRequest_eq_some {content : FileContent} {r : JoinRequest}
    (read : content.asRequest = some r) :
    content = .request r ∨ (r.id = "" ∧ r.status = .empty ∧ r.votes = []) := by
  cases content with
  | request stored =>
    obtain rfl := Option.some.inj read
    exact .inl rfl
  | config stored =>
    obtain rfl := Option.some.inj read
    exact .inr ⟨rfl, rfl, rfl⟩
  | peers | torn => cases read

end Store

theorem request_written (node : Node) (r : JoinRequest) :
    (node.save r .written).2.request r.id = some r :=
  (Store.loadJoinRequest_set node.store (node.store.requestPath r.id) (.request r) r.id).trans
    (if_pos rfl)

/-! ## A sample node -/

def peerOne : NodeConfig where
  role := .peer
  orgName := "PeerOne"
  mspID := "PeerOneMSP"
  domain := "peerone.kufichain.network"
  ordererMgmtAddr := ""

def ordererConfig : NodeConfig where
  role := .orderer
  orgName := "Orderer"
  mspID := "OrdererMSP"
  domain := "kufichain.network"
  ordererMgmtAddr := ""

def samplePeer (mspID mgmtAddr : String) : PeerInfo where
  orgName := mspID
  mspID := mspID
  domain := "kufichain.network"
  mgmtAddr := mgmtAddr
  joinedAt := 1

def threePeers : List PeerInfo :=
  [samplePeer "PeerOneMSP" "http://one:9500", samplePeer "PeerTwoMSP" "http://two:9500",
    samplePeer "PeerThreeMSP" "http://three:9500"]

/-- A node that has heard of no request. -/
def Node.idle (config : NodeConfig) (peers : List PeerInfo) : Node where
  store :=
    { baseDir := ["var", ".kufichain"]
      files := ((∅ : Dict Path FileContent).set ["var", ".kufichain", "node.json"]
        (.config config)).set ["var", ".kufichain", "peers.json"] (.peers peers) }
  sent := []
  approvalCh := []
  flows := []
  work := fun _ => .other ""
  submitted := []
  notified := []
  responses := []

def joiner : JoinRequest where
  id := "r1"
  orgName := "PeerFour"
  mspID := "PeerFourMSP"
  domain := "peerfour.kufichain.network"
  mgmtAddr := "http://four:9500"
  orgDefinition := "{}"
  orgMSPBundle := ""
  status := .empty
  votes := []
  totalPeers := 0
  createdAt := Time.zero
  resolvedAt := none

def sampleVote (mspID : String) (approve : Bool) : Vote := ⟨mspID, mspID, approve, 2⟩

end Kufi.NodeManager

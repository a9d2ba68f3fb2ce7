import Kufi.NodeManager.Store
import Kufi.Shared.Procedure

set_option autoImplicit false

/-!
# The node manager

The handlers of the management API and the approval flow, as procedures over
the operations that other handlers can come between: a load or a save of the
store, a run of a Fabric tool, a message.
-/

namespace Kufi.NodeManager

open Shared

/-! ## Config update envelopes -/

structure Signature where
  mspID : String
  value : String
  deriving DecidableEq

structure Envelope where
  -- the JSON of the config update
  update : String
  signatures : List Signature
  deriving DecidableEq

/-- A file as the Fabric tools read it. -/
inductive Bytes where
  | envelope (envelope : Envelope)
  | other (text : String)
  deriving DecidableEq

/-- A base64 text: what `DecodeString` returns of it, and whether without an error. -/
structure Base64 where
  bytes : Bytes
  valid : Bool
  deriving DecidableEq

def Base64.encode (bytes : Bytes) : Base64 := ⟨bytes, true⟩

structure SignRequest where
  requestID : String
  envelopePB : Base64
  deriving DecidableEq

structure SignResponse where
  envelopePB : Base64
  error : String
  deriving DecidableEq

/-- The files in `config-update-work` that outlive one run of a tool. -/
inductive WorkFile where
  | configUpdateEnvelope
  | signTmp
  deriving DecidableEq

/-! ## Operations -/

inductive Op where
  | now
  | loadPeers
  | addPeer (peer : PeerInfo)
  | loadJoinRequest (id : String)
  | saveJoinRequest (req : JoinRequest)
  | broadcast (message : GossipMessage)
  | signalApproval (id : String)
  | goExecuteApproval (req : JoinRequest)
  | notifyApproval (mgmtAddr : String) (notification : ApprovalNotification)
  | unpackMSPBundle (bundle : String)
  | addOrgToChannel (orgDefinition : String)
  | signConfigUpdate (mspID : String) (file : WorkFile)
  | submitConfigUpdate
  | readFile (file : WorkFile)
  | writeFile (file : WorkFile) (bytes : Bytes)
  | post (mgmtAddr : String) (request : SignRequest)
  | respond (request : SignRequest) (response : SignResponse)

abbrev Op.Reply : Op → Type
  | .now => Time
  | .loadPeers => List PeerInfo
  | .loadJoinRequest _ => Option JoinRequest
  | .saveJoinRequest _ | .unpackMSPBundle _ | .addOrgToChannel _ | .signConfigUpdate _ _
  | .submitConfigUpdate | .writeFile _ _ => Bool
  | .readFile _ => Bytes
  | .post _ _ => Option SignResponse
  | .addPeer _ | .broadcast _ | .signalApproval _ | .goExecuteApproval _ | .notifyApproval _ _
  | .respond _ _ => Unit

abbrev Handler := Procedure Op Op.Reply

abbrev ask (op : Op) : Handler op.Reply := Procedure.ask op

inductive ManagerError where
  -- "save join request: %w"
  | notSaved
  -- "request not found: %w"
  | notFound
  -- "request %s is already %s"
  | alreadyResolved (requestID : String) (status : RequestStatus)
  -- "already voted on request %s"
  | alreadyVoted (requestID : String)
  deriving DecidableEq

/-! ## Requests and votes -/

section Handlers

variable (config : NodeConfig)

def checkMajority (req : JoinRequest) : Handler Unit :=
  if req.status ≠ .pending then pure ()
  else if !req.majorityReached then pure ()
  else do
    let now ← ask .now
    let req := req.resolved .approved now
    let _ ← ask (.saveJoinRequest req)
    ask (.signalApproval req.id)
    if config.role = .bootstrap ∨ config.role = .orderer then
      ask (.goExecuteApproval req)
    else pure ()

/-- The request as `SubmitJoinRequest` completes it; `generatedID` is what `generateID` returns. -/
def JoinRequest.completed (req : JoinRequest) (generatedID : String) (now : Time)
    (peers : List PeerInfo) : JoinRequest :=
  { req with
    id := if req.id = "" then generatedID else req.id
    status := if req.status = .empty then .pending else req.status
    createdAt := if req.createdAt = Time.zero then now else req.createdAt
    totalPeers := peers.length }

def submitJoinRequest (generatedID : String) (now : Time) (req : JoinRequest) :
    Handler (Except ManagerError JoinRequest) := do
  let peers ← ask .loadPeers
  let req := req.completed generatedID now peers
  let saved ← ask (.saveJoinRequest req)
  if saved then
    ask (.broadcast (.request req))
    pure (.ok req)
  else pure (.error .notSaved)

/-- The request with the votes it does not have yet, and whether there was one. -/
def mergeVotes : JoinRequest → List Vote → JoinRequest × Bool
  | existing, [] => (existing, false)
  | existing, v :: rest =>
    if existing.hasVoted v.voterMSP then mergeVotes existing rest
    else ((mergeVotes (existing.withVote v) rest).1, true)

def receiveGossipedRequest (req : JoinRequest) : Handler (Except ManagerError Unit) := do
  let existing ← ask (.loadJoinRequest req.id)
  match existing with
  | some existing =>
    let merged := mergeVotes existing req.votes
    if merged.2 then
      let _ ← ask (.saveJoinRequest merged.1)
      checkMajority config merged.1
      pure (.ok ())
    else pure (.ok ())
  | none =>
    let saved ← ask (.saveJoinRequest req)
    if saved then pure (.ok ()) else pure (.error .notSaved)

def ownVote (approve : Bool) (now : Time) : Vote where
  voterOrg := config.orgName
  voterMSP := config.mspID
  approve := approve
  timestamp := now

def castVote (requestID : String) (approve : Bool) : Handler (Except ManagerError Unit) := do
  let found ← ask (.loadJoinRequest requestID)
  match found with
  | none => pure (.error .notFound)
  | some req =>
    if req.status ≠ .pending then pure (.error (.alreadyResolved requestID req.status))
    else if req.hasVoted config.mspID then pure (.error (.alreadyVoted requestID))
    else do
      let now ← ask .now
      let vote := ownVote config approve now
      let req := req.withVote vote
      let saved ← ask (.saveJoinRequest req)
      if saved then
        ask (.broadcast (.vote requestID vote))
        checkMajority config req
        pure (.ok ())
      else pure (.error .notSaved)

def receiveGossipedVote (requestID : String) (vote : Vote) : Handler (Except ManagerError Unit) := do
  let found ← ask (.loadJoinRequest requestID)
  match found with
  -- ignore votes for unknown requests
  | none => pure (.ok ())
  | some req =>
    if req.hasVoted vote.voterMSP then pure (.ok ())
    else do
      let req := req.withVote vote
      let _ ← ask (.saveJoinRequest req)
      checkMajority config req
      pure (.ok ())

end Handlers

/-! ## The approval flow -/

section Approval

variable (config : NodeConfig)

-- The dedicated orderer node signs as OrdererMSP admin.
def signingMSP : String :=
  if config.role = .orderer then ordererMSPID else config.mspID

def failApproval (req : JoinRequest) : Handler Unit := do
  let now ← ask .now
  let req := req.resolved .rejected now
  let _ ← ask (.saveJoinRequest req)
  ask (.notifyApproval req.mgmtAddr { requestID := req.id, approved := false })

def requestSignature (mgmtAddr : String) (request : SignRequest) : Handler (Option SignResponse) := do
  let response ← ask (.post mgmtAddr request)
  match response with
  | none => pure none
  | some response => pure (if response.error ≠ "" then none else some response)

/-- The inner loop: the peers of one voter are asked until one signs. -/
def askPeers (requestID voterMSP : String) (envelopeB64 : Base64) : List PeerInfo → Handler Base64
  | [] => pure envelopeB64
  | p :: peers =>
    if p.mspID = voterMSP then do
      let response ← requestSignature p.mgmtAddr ⟨requestID, envelopeB64⟩
      match response with
      | none => askPeers requestID voterMSP envelopeB64 peers
      | some response =>
        let _ ← ask (.writeFile .configUpdateEnvelope response.envelopePB.bytes)
        pure response.envelopePB
    else askPeers requestID voterMSP envelopeB64 peers

def collectSignatures (requestID : String) (peers : List PeerInfo) :
    Base64 → List Vote → Handler Unit
  | _, [] => pure ()
  | envelopeB64, vote :: votes =>
    if !vote.approve || vote.voterMSP == config.mspID then
      collectSignatures requestID peers envelopeB64 votes
    else do
      let envelopeB64 ← askPeers requestID vote.voterMSP envelopeB64 peers
      collectSignatures requestID peers envelopeB64 votes

def peerInfoFromJoinRequest (req : JoinRequest) (joinedAt : Time) : PeerInfo where
  orgName := req.orgName
  mspID := req.mspID
  domain := req.domain
  mgmtAddr := req.mgmtAddr
  joinedAt := joinedAt

def registerPeer (req : JoinRequest) : Handler Unit := do
  let now ← ask .now
  let newPeer := peerInfoFromJoinRequest req now
  ask (.addPeer newPeer)
  ask (.broadcast (.peerJoined newPeer))
  ask (.notifyApproval req.mgmtAddr { requestID := req.id, approved := true })

/-- The steps from the building of the envelope to its submission; the first that fails ends
them. -/
def submitUpdate (req : JoinRequest) : Handler Bool := do
  let built ← ask (.addOrgToChannel req.orgDefinition)
  if built then
    let signed ← ask (.signConfigUpdate (signingMSP config) .configUpdateEnvelope)
    if signed then
      let envelopeData ← ask (.readFile .configUpdateEnvelope)
      let peers ← ask .loadPeers
      collectSignatures config req.id peers (.encode envelopeData) req.votes
      ask .submitConfigUpdate
    else pure false
  else pure false

def updateChannel (req : JoinRequest) : Handler Bool :=
  if req.orgMSPBundle = "" then submitUpdate config req
  else do
    let unpacked ← ask (.unpackMSPBundle req.orgMSPBundle)
    if unpacked then submitUpdate config req else pure false

def executeApproval (req : JoinRequest) : Handler Unit := do
  let updated ← updateChannel config req
  if updated then registerPeer req else failApproval req

end Approval

/-! ## The other handlers -/

def handlePeerJoined (peer : PeerInfo) : Handler Unit := ask (.addPeer peer)

def signEnvelopeBytes (config : NodeConfig) (envelopeB64 : Base64) :
    Handler (Except String Base64) :=
  if envelopeB64.valid then do
    let written ← ask (.writeFile .signTmp envelopeB64.bytes)
    if written then
      let signed ← ask (.signConfigUpdate config.mspID .signTmp)
      if signed then
        let bytes ← ask (.readFile .signTmp)
        pure (.ok (.encode bytes))
      else pure (.error "sign")
    else pure (.error "write")
  else pure (.error "decode")

def handleSignConfigUpdate (config : NodeConfig) (req : SignRequest) : Handler Unit := do
  let signed ← signEnvelopeBytes config req.envelopePB
  match signed with
  | .ok signed => ask (.respond req { envelopePB := signed, error := "" })
  | .error err =>
    ask (.respond req { envelopePB := .encode (.other ""), error := err })

/-! ## Calls -/

inductive Call where
  | submitJoinRequest (generatedID : String) (now : Time) (req : JoinRequest)
  | receiveGossipedRequest (req : JoinRequest)
  | castVote (requestID : String) (approve : Bool)
  | receiveGossipedVote (requestID : String) (vote : Vote)
  | handlePeerJoined (peer : PeerInfo)
  | handleSignConfigUpdate (req : SignRequest)
  | executeApproval (req : JoinRequest)
  deriving DecidableEq

inductive Result where
  | submitted (req : JoinRequest)
  | ok
  | error (error : ManagerError)
  deriving DecidableEq

def Result.of : Except ManagerError Unit → Result
  | .ok () => .ok
  | .error err => .error err

def Call.handler (config : NodeConfig) : Call → Handler Result
  | .submitJoinRequest generatedID now req => do
    let result ← NodeManager.submitJoinRequest generatedID now req
    match result with
    | .ok req => pure (.submitted req)
    | .error err => pure (.error err)
  | .receiveGossipedRequest req => do
    let result ← NodeManager.receiveGossipedRequest config req
    pure (.of result)
  | .castVote requestID approve => do
    let result ← NodeManager.castVote config requestID approve
    pure (.of result)
  | .receiveGossipedVote requestID vote => do
    let result ← NodeManager.receiveGossipedVote config requestID vote
    pure (.of result)
  | .handlePeerJoined peer => do
    NodeManager.handlePeerJoined peer
    pure .ok
  | .handleSignConfigUpdate req => do
    NodeManager.handleSignConfigUpdate config req
    pure .ok
  | .executeApproval req => do
    NodeManager.executeApproval config req
    pure .ok

end Kufi.NodeManager

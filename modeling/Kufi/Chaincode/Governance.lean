import Kufi.Chaincode.Payment
import Kufi.Shared.Dict
import Kufi.Shared.Serial
import Kufi.Shared.Time
import Mathlib.Algebra.Group.Int.Defs
import Mathlib.Algebra.Group.Nat.Defs

set_option autoImplicit false

/-!
# Governance chaincode

Organisations that ask to join the network and the votes on their requests. An
invocation reads the committed state; its writes are committed together, and
only if it returns no error.
-/

namespace Kufi.Chaincode.Governance

open Shared

/-- An RFC 3339 text, kept as the whole seconds since the Unix epoch that it shows. -/
abbrev Stamp := Int

inductive Status where
  | pending
  | approved
  | rejected
  | expired
  deriving DecidableEq

def Status.text : Status → String
  | .pending => "PENDING"
  | .approved => "APPROVED"
  | .rejected => "REJECTED"
  | .expired => "EXPIRED"

inductive Decision where
  | approve
  | reject
  deriving DecidableEq

inductive PolicyType where
  | majority
  | unanimous
  | threshold
  deriving DecidableEq

def PolicyType.ofText? (text : String) : Option PolicyType :=
  if text = "MAJORITY" then some .majority
  else if text = "UNANIMOUS" then some .unanimous
  else if text = "THRESHOLD" then some .threshold
  else none

structure JoinRequest where
  docType : String
  requestID : String
  orgName : String
  mspID : String
  domain : String
  description : String
  anchorHost : String
  anchorPort : Int
  status : Status
  -- MSP ids with the times of their votes
  approvals : Dict String Stamp
  rejections : Dict String Stamp
  requiredAck : Nat
  totalOrgs : Nat
  createdAt : Stamp
  updatedAt : Stamp
  resolvedAt : Option Stamp
  creatorMSP : String

structure VoteRecord where
  docType : String
  requestID : String
  voterMSP : String
  decision : Decision
  reason : String
  timestamp : Stamp
  deriving DecidableEq

structure GovernancePolicy where
  docType : String
  policyID : String
  policyType : PolicyType
  thresholdPct : Int
  expiryHours : Int
  updatedAt : Option Stamp
  updatedByMSP : String
  deriving DecidableEq

structure OrgEntry where
  mspID : String
  name : String
  domain : String
  deriving DecidableEq

structure RegisteredOrg extends OrgEntry where
  registeredAt : Stamp
  deriving DecidableEq

/-- The public state, by the kinds of composite keys and the key of the policy. -/
structure Ledger where
  joinRequests : Dict String JoinRequest
  -- by the request and the voter
  votes : Dict (String × String) VoteRecord
  orgRegistry : Dict String RegisteredOrg
  policy : Option GovernancePolicy

def Ledger.empty : Ledger := ⟨∅, ∅, ∅, none⟩

inductive Write where
  | request (requestID : String) (request : JoinRequest)
  | vote (requestID voterMSP : String) (vote : VoteRecord)
  | org (mspID : String) (org : RegisteredOrg)
  | policy (policy : GovernancePolicy)

def Write.apply (ledger : Ledger) : Write → Ledger
  | .request requestID req => { ledger with joinRequests := ledger.joinRequests.set requestID req }
  | .vote requestID voterMSP cast =>
    { ledger with votes := ledger.votes.set (requestID, voterMSP) cast }
  | .org mspID entry => { ledger with orgRegistry := ledger.orgRegistry.set mspID entry }
  | .policy updated => { ledger with policy := some updated }

/-- What one invocation returns, writes and announces. -/
structure Execution where
  result : Except String Unit
  writes : List Write
  event : Option (String × JoinRequest)

def Execution.refused (err : String) : Execution := ⟨.error err, [], none⟩

/-! ## Helpers -/

end Governance

namespace TransactionContext

open Shared

def clientMSP (ctx : TransactionContext) : String :=
  match ctx.creatorMSP with
  | .ok msp => msp
  | .error _ => ""

def txTime (ctx : TransactionContext) : Time := ctx.seconds * 1000000000 + ctx.nanos

def txTimestamp (ctx : TransactionContext) : Governance.Stamp := ctx.txTime / 1000000000

end TransactionContext

namespace Governance

open Shared

def defaultPolicyID : String := "default-join-policy"
def defaultThreshold : Int := 51
def defaultExpiryHrs : Int := 168

def getPolicy (ledger : Ledger) : GovernancePolicy :=
  ledger.policy.getD
    { docType := ""
      policyID := ""
      policyType := .majority
      thresholdPct := defaultThreshold
      expiryHours := defaultExpiryHrs
      updatedAt := none
      updatedByMSP := "" }

-- A year without four digits does not parse; the product is that of 64-bit integers.
def isExpired (createdAt : Stamp) (expiryHours : Int) (now : Time) : Bool :=
  if createdAt < -62167219200 ∨ 253402300800 ≤ createdAt then false
  else
    decide (createdAt * 1000000000 + (expiryHours * 3600000000000).bmod (2 ^ 64) < now)

def countExistingOrgs (ledger : Ledger) : Nat := ledger.orgRegistry.size

/-- Which attributes `CreateCompositeKey` refuses, with its error. -/
abbrev AttributeError := String → Option String

variable (attributeError : AttributeError)

-- Without a key `PutState` fails, and its error is ignored.
def registerOrg (ctx : TransactionContext) (org : OrgEntry) : List Write :=
  if (attributeError org.mspID).isSome then []
  else [.org org.mspID { org with registeredAt := ctx.txTimestamp }]

/-! ## Invocations -/

def initLedger (ledger : Ledger) (ctx : TransactionContext) : Execution :=
  if ledger.policy.isSome then ⟨.ok (), [], none⟩
  else
    let policy : GovernancePolicy :=
      { docType := "governancePolicy"
        policyID := defaultPolicyID
        policyType := .majority
        thresholdPct := defaultThreshold
        expiryHours := defaultExpiryHrs
        updatedAt := some ctx.txTimestamp
        updatedByMSP := ctx.clientMSP }
    ⟨.ok (), [.policy policy], none⟩

structure JoinArguments where
  orgName : String
  mspID : String
  domain : String
  anchorHost : String
  anchorPort : Int
  description : String
  deriving DecidableEq

def newRequest (ctx : TransactionContext) (arguments : JoinArguments) (totalOrgs : Nat) :
    JoinRequest where
  docType := "joinRequest"
  requestID := ctx.txID
  orgName := arguments.orgName
  mspID := arguments.mspID
  domain := arguments.domain
  description := arguments.description
  anchorHost := arguments.anchorHost
  anchorPort := arguments.anchorPort
  status := .pending
  approvals := ∅
  rejections := ∅
  requiredAck :=
    let requiredAck := totalOrgs / 2 + 1
    if requiredAck < 1 then 1 else requiredAck
  totalOrgs := totalOrgs
  createdAt := ctx.txTimestamp
  updatedAt := ctx.txTimestamp
  resolvedAt := none
  creatorMSP := ctx.clientMSP

def pendingFor (mspID : String) (entry : (_ : String) × JoinRequest) : Bool :=
  entry.2.mspID = mspID && entry.2.status = .pending

def requestJoin (ledger : Ledger) (ctx : TransactionContext) (arguments : JoinArguments) :
    Execution :=
  if arguments.orgName = "" ∨ arguments.mspID = "" ∨ arguments.domain = "" then
    .refused "orgName, mspID, and domain are required"
  else if arguments.anchorPort ≤ 0 ∨ 65535 < arguments.anchorPort then
    .refused ("invalid anchor port: " ++ toString arguments.anchorPort)
  else
    match ledger.joinRequests.entries.find? (pendingFor arguments.mspID) with
    | some existing =>
      .refused ("pending request already exists for " ++ arguments.mspID ++ ": " ++
        existing.2.requestID)
    | none =>
      let request := newRequest ctx arguments (countExistingOrgs ledger)
      match attributeError ctx.txID with
      | some err => .refused ("create composite key: " ++ err)
      | none => ⟨.ok (), [.request ctx.txID request], some ("JoinRequested", request)⟩

namespace JoinRequest

/-- The vote in the tally. -/
def applyVote (req : JoinRequest) (voterMSP : String) (now : Stamp) : Decision → JoinRequest
  | .approve => { req with approvals := req.approvals.set voterMSP now, updatedAt := now }
  | .reject => { req with rejections := req.rejections.set voterMSP now, updatedAt := now }

def approvalReached (req : JoinRequest) : Bool := req.requiredAck ≤ req.approvals.size

-- So many rejections that approval is impossible.
def approvalImpossible (req : JoinRequest) : Bool :=
  (req.totalOrgs : Int) - req.rejections.size < req.requiredAck

/-- The two tests, one after the other. -/
def evaluateOutcome (req : JoinRequest) (now : Stamp) : JoinRequest :=
  let approved :=
    if req.approvalReached then { req with status := .approved, resolvedAt := some now } else req
  if approved.approvalImpossible then
    { approved with status := .rejected, resolvedAt := some now }
  else approved

end JoinRequest

def voteEvent : Status → String
  | .approved => "JoinApproved"
  | .rejected => "JoinRejected"
  | _ => "JoinVoteCast"

def voteRecord (ctx : TransactionContext) (requestID : String) (decision : Decision)
    (reason : String) : VoteRecord where
  docType := "voteRecord"
  requestID := requestID
  voterMSP := ctx.clientMSP
  decision := decision
  reason := reason
  timestamp := ctx.txTimestamp

-- As for an organisation, a vote without a key is not written.
def recordVote (ctx : TransactionContext) (requestID : String) (decision : Decision)
    (reason : String) : List Write :=
  if (attributeError ctx.clientMSP).isSome then []
  else [.vote requestID ctx.clientMSP (voteRecord ctx requestID decision reason)]

def castVote (ledger : Ledger) (ctx : TransactionContext) (requestID : String)
    (decision : Decision) (reason : String) : Execution :=
  match attributeError requestID with
  | some err => .refused ("create key: " ++ err)
  | none =>
    match ledger.joinRequests.get requestID with
    | none => .refused ("join request not found: " ++ requestID)
    | some req =>
      let now := ctx.txTimestamp
      if req.status ≠ .pending then
        .refused ("request " ++ requestID ++ " is no longer pending (status: " ++
          req.status.text ++ ")")
      else if isExpired req.createdAt (getPolicy ledger).expiryHours ctx.txTime then
        -- the write comes with an error
        ⟨.error ("request " ++ requestID ++ " has expired"),
          [.request requestID
            { req with status := .expired, updatedAt := now, resolvedAt := some now }],
          none⟩
      else if ctx.clientMSP = req.mspID then
        .refused "requesting org cannot vote on its own request"
      else if (req.approvals.get ctx.clientMSP).isSome ∨
          (req.rejections.get ctx.clientMSP).isSome then
        .refused (ctx.clientMSP ++ " has already voted on this request")
      else
        let counted := req.applyVote ctx.clientMSP now decision
        let updated := counted.evaluateOutcome now
        let registration :=
          if counted.approvalReached then
            registerOrg attributeError ctx ⟨req.mspID, req.orgName, req.domain⟩
          else []
        ⟨.ok (),
          recordVote attributeError ctx requestID decision reason ++ registration ++
            [.request requestID updated],
          some (voteEvent updated.status, updated)⟩

def approveJoin (ledger : Ledger) (ctx : TransactionContext) (requestID reason : String) :
    Execution :=
  castVote attributeError ledger ctx requestID .approve reason

def rejectJoin (ledger : Ledger) (ctx : TransactionContext) (requestID reason : String) :
    Execution :=
  castVote attributeError ledger ctx requestID .reject reason

def updatePolicy (ctx : TransactionContext) (policyType : String) (thresholdPct expiryHours : Int) :
    Execution :=
  match PolicyType.ofText? policyType with
  | none =>
    .refused ("invalid policy type: " ++ policyType ++
      " (allowed: MAJORITY, UNANIMOUS, THRESHOLD)")
  | some policyType =>
    if thresholdPct < 1 ∨ 100 < thresholdPct then .refused "threshold must be 1-100"
    else if expiryHours < 1 then .refused "expiry must be at least 1 hour"
    else
      let policy : GovernancePolicy :=
        { docType := "governancePolicy"
          policyID := defaultPolicyID
          policyType
          thresholdPct
          expiryHours
          updatedAt := some ctx.txTimestamp
          updatedByMSP := ctx.clientMSP }
      ⟨.ok (), [.policy policy], none⟩

-- The argument is what `json.Unmarshal` makes of the text.
def registerExistingOrgs (ctx : TransactionContext) (orgs : Except String (List OrgEntry)) :
    Execution :=
  match orgs with
  | .error err => .refused ("parse orgs JSON: " ++ err)
  | .ok orgs => ⟨.ok (), orgs.flatMap (registerOrg attributeError ctx), none⟩

/-! ## Queries -/

def getVotes (ledger : Ledger) (requestID : String) : List VoteRecord :=
  (ledger.votes.entries.filter fun entry => entry.1.1 = requestID).map fun entry => entry.2

/-! ## Runs -/

inductive Call where
  | initLedger
  | requestJoin (arguments : JoinArguments)
  | approveJoin (requestID reason : String)
  | rejectJoin (requestID reason : String)
  | updatePolicy (policyType : String) (thresholdPct expiryHours : Int)
  | registerExistingOrgs (orgs : Except String (List OrgEntry))

structure Transaction where
  ctx : TransactionContext
  call : Call

def execute (ledger : Ledger) (tx : Transaction) : Execution :=
  match tx.call with
  | .initLedger => initLedger ledger tx.ctx
  | .requestJoin arguments => requestJoin attributeError ledger tx.ctx arguments
  | .approveJoin requestID reason => approveJoin attributeError ledger tx.ctx requestID reason
  | .rejectJoin requestID reason => rejectJoin attributeError ledger tx.ctx requestID reason
  | .updatePolicy policyType thresholdPct expiryHours =>
    updatePolicy tx.ctx policyType thresholdPct expiryHours
  | .registerExistingOrgs orgs => registerExistingOrgs attributeError tx.ctx orgs

/-- The channel takes a transaction id once. -/
structure Channel where
  ledger : Ledger
  txIDs : List String

def Channel.genesis : Channel := ⟨.empty, []⟩

def Channel.step (s : Channel) (tx : Transaction) : Channel :=
  if tx.ctx.txID ∈ s.txIDs then s
  else
    match (execute attributeError s.ledger tx).result with
    | .error _ => s
    | .ok _ =>
      { ledger := (execute attributeError s.ledger tx).writes.foldl Write.apply s.ledger
        txIDs := tx.ctx.txID :: s.txIDs }

/-! ## A bank that asks to join -/

/-- The check of the shim: an attribute must not hold the first or the last code point. -/
def compositeKeyError : AttributeError := fun text =>
  if text.toList.any fun c => c.toNat = 0 || c.toNat = 0x10FFFF then
    some "input contains unicode U+0000 or U+10FFFF"
  else none

def invoked (txID msp : String) (seconds : Int) : TransactionContext where
  txID := txID
  creatorMSP := .ok msp
  seconds := seconds
  nanos := 0

def registerBank : Transaction :=
  ⟨invoked "t0" "BankMSP" 1700000000, .registerExistingOrgs (.ok [⟨"BankMSP", "Bank", "bank.vn"⟩])⟩

def newBank : JoinArguments := ⟨"New", "NewMSP", "new.vn", "peer0.new.vn", 7051, ""⟩

def joinNew : Transaction := ⟨invoked "t1" "NewMSP" 1700000001, .requestJoin newBank⟩

end Governance

end Kufi.Chaincode

import Kufi.Chaincode.Governance

set_option autoImplicit false

/-!
# What governance transactions commit

A transaction leaves the channel as it is, or changes the policy, the registry,
adds a request, or counts a vote.
-/

namespace Kufi.Chaincode.Governance

open Shared

variable {attributeError : AttributeError}

/-! ## Votes -/

/-- The vote of a call: the request, the decision and the reason. -/
def Call.ballot : Call → Option (String × Decision × String)
  | .approveJoin requestID reason => some (requestID, .approve, reason)
  | .rejectJoin requestID reason => some (requestID, .reject, reason)
  | _ => none

/-- A vote that is counted. -/
structure Votable (attributeError : AttributeError) (ledger : Ledger) (ctx : TransactionContext)
    (requestID : String) (req : JoinRequest) : Prop where
  key : attributeError requestID = none
  found : ledger.joinRequests.get requestID = some req
  pending : req.status = .pending
  unexpired : isExpired req.createdAt (getPolicy ledger).expiryHours ctx.txTime = false
  other : ctx.clientMSP ≠ req.mspID
  notApproved : req.approvals.get ctx.clientMSP = none
  notRejected : req.rejections.get ctx.clientMSP = none

def JoinRequest.voted (req : JoinRequest) (ctx : TransactionContext) (decision : Decision) :
    JoinRequest :=
  (req.applyVote ctx.clientMSP ctx.txTimestamp decision).evaluateOutcome ctx.txTimestamp

def JoinRequest.org (req : JoinRequest) : OrgEntry := ⟨req.mspID, req.orgName, req.domain⟩

/-- The ledger after the vote. -/
def votedLedger (attributeError : AttributeError) (ledger : Ledger) (ctx : TransactionContext)
    (requestID : String) (decision : Decision) (reason : String) (req : JoinRequest) : Ledger where
  joinRequests := ledger.joinRequests.set requestID (req.voted ctx decision)
  votes :=
    if (attributeError ctx.clientMSP).isSome then ledger.votes
    else ledger.votes.set (requestID, ctx.clientMSP) (voteRecord ctx requestID decision reason)
  orgRegistry :=
    if (req.applyVote ctx.clientMSP ctx.txTimestamp decision).approvalReached = true ∧
        attributeError req.mspID = none then
      ledger.orgRegistry.set req.mspID { req.org with registeredAt := ctx.txTimestamp }
    else ledger.orgRegistry
  policy := ledger.policy

theorem castVote_eq {ledger : Ledger} {ctx : TransactionContext} {requestID : String}
    {req : JoinRequest} (votable : Votable attributeError ledger ctx requestID req)
    (decision : Decision) (reason : String) :
    castVote attributeError ledger ctx requestID decision reason =
      ⟨.ok (),
        recordVote attributeError ctx requestID decision reason ++
          (if (req.applyVote ctx.clientMSP ctx.txTimestamp decision).approvalReached then
            registerOrg attributeError ctx req.org
          else []) ++
          [.request requestID (req.voted ctx decision)],
        some (voteEvent (req.voted ctx decision).status, req.voted ctx decision)⟩ := by
  unfold castVote
  simp only [votable.key, votable.found, votable.pending, votable.unexpired, votable.other,
    votable.notApproved, votable.notRejected]
  simp only [ne_eq, not_true_eq_false, if_false, Bool.false_eq_true, Option.isSome_none, or_self]
  rfl

theorem castVote_votable {ledger : Ledger} {ctx : TransactionContext} {requestID : String}
    {req : JoinRequest} (votable : Votable attributeError ledger ctx requestID req)
    (decision : Decision) (reason : String) :
    (castVote attributeError ledger ctx requestID decision reason).result = .ok () ∧
      (castVote attributeError ledger ctx requestID decision reason).writes.foldl Write.apply ledger =
        votedLedger attributeError ledger ctx requestID decision reason req := by
  rw [castVote_eq votable]
  refine ⟨rfl, ?_⟩
  unfold recordVote registerOrg votedLedger
  by_cases voter : (attributeError ctx.clientMSP).isSome <;>
    by_cases reached :
      (req.applyVote ctx.clientMSP ctx.txTimestamp decision).approvalReached = true <;>
    cases own : attributeError req.mspID <;>
    simp [voter, reached, Write.apply, JoinRequest.org, own]

theorem castVote_refused {ledger : Ledger} {ctx : TransactionContext} {requestID : String}
    (refused : ¬ ∃ req, Votable attributeError ledger ctx requestID req) (decision : Decision)
    (reason : String) :
    ∃ err, (castVote attributeError ledger ctx requestID decision reason).result = .error err := by
  unfold castVote
  cases key : attributeError requestID with
  | some err => exact ⟨_, rfl⟩
  | none =>
    cases found : ledger.joinRequests.get requestID with
    | none => exact ⟨_, rfl⟩
    | some req =>
      simp only
      split_ifs with closed expired own voted
      · exact ⟨_, rfl⟩
      · exact ⟨_, rfl⟩
      · exact ⟨_, rfl⟩
      · exact ⟨_, rfl⟩
      · simp only [not_or, Option.not_isSome_iff_eq_none] at voted
        exact absurd ⟨req, key, found, not_not.mp closed, by simpa using expired, own, voted.1, voted.2⟩
          refused

/-! ## Requests -/

/-- The organisation has no pending request. -/
def Unpending (ledger : Ledger) (mspID : String) : Prop :=
  ∀ requestID req, ledger.joinRequests.get requestID = some req → req.mspID = mspID →
    req.status ≠ .pending

theorem find_pending_none {ledger : Ledger} {mspID : String} :
    ledger.joinRequests.entries.find? (pendingFor mspID) = none ↔ Unpending ledger mspID := by
  rw [List.find?_eq_none]
  constructor
  · intro none requestID req found named pending
    exact none ⟨requestID, req⟩ (Dict.get_eq_some.mp found) (by simp [pendingFor, named, pending])
  · intro unpending entry listed
    have apart := unpending entry.1 entry.2 (Dict.get_eq_some.mpr listed)
    simpa [pendingFor] using apart

/-- A request that is accepted. -/
structure Joinable (attributeError : AttributeError) (ledger : Ledger) (ctx : TransactionContext)
    (arguments : JoinArguments) : Prop where
  named : arguments.orgName ≠ "" ∧ arguments.mspID ≠ "" ∧ arguments.domain ≠ ""
  port : 0 < arguments.anchorPort ∧ arguments.anchorPort ≤ 65535
  unpending : Unpending ledger arguments.mspID
  key : attributeError ctx.txID = none

theorem requestJoin_joinable {ledger : Ledger} {ctx : TransactionContext}
    {arguments : JoinArguments} (joinable : Joinable attributeError ledger ctx arguments) :
    requestJoin attributeError ledger ctx arguments =
      ⟨.ok (), [.request ctx.txID (newRequest ctx arguments (countExistingOrgs ledger))],
        some ("JoinRequested", newRequest ctx arguments (countExistingOrgs ledger))⟩ := by
  have valid : ¬ (arguments.anchorPort ≤ 0 ∨ 65535 < arguments.anchorPort) := by
    have := joinable.port
    omega
  have named : ¬ (arguments.orgName = "" ∨ arguments.mspID = "" ∨ arguments.domain = "") := by
    simpa using joinable.named
  unfold requestJoin
  rw [if_neg named, if_neg valid, find_pending_none.mpr joinable.unpending]
  simp only [joinable.key]

theorem requestJoin_refused {ledger : Ledger} {ctx : TransactionContext}
    {arguments : JoinArguments} (refused : ¬ Joinable attributeError ledger ctx arguments) :
    ∃ err, (requestJoin attributeError ledger ctx arguments).result = .error err := by
  unfold requestJoin
  split_ifs with unnamed invalid
  · exact ⟨_, rfl⟩
  · exact ⟨_, rfl⟩
  · split
    next => exact ⟨_, rfl⟩
    next unpending =>
      cases key : attributeError ctx.txID with
      | some err => exact ⟨_, rfl⟩
      | none =>
        refine absurd ⟨?_, by omega, find_pending_none.mp unpending, key⟩ refused
        simpa using unnamed

/-! ## Steps -/

/-- What a committed transaction does to the ledger. -/
inductive Change (attributeError : AttributeError) (ledger : Ledger) (tx : Transaction) :
    Ledger → Prop
  | policy (policy : Option GovernancePolicy) :
      Change attributeError ledger tx { ledger with policy }
  | registry (orgRegistry : Dict String RegisteredOrg) :
      Change attributeError ledger tx { ledger with orgRegistry }
  | request {arguments : JoinArguments} (called : tx.call = .requestJoin arguments)
      (joinable : Joinable attributeError ledger tx.ctx arguments) :
      Change attributeError ledger tx
        { ledger with
          joinRequests := ledger.joinRequests.set tx.ctx.txID
            (newRequest tx.ctx arguments (countExistingOrgs ledger)) }
  | vote {requestID : String} {decision : Decision} {reason : String} {req : JoinRequest}
      (ballot : tx.call.ballot = some (requestID, decision, reason))
      (votable : Votable attributeError ledger tx.ctx requestID req) :
      Change attributeError ledger tx
        (votedLedger attributeError ledger tx.ctx requestID decision reason req)

theorem registerOrgs_apply (ctx : TransactionContext) (orgs : List OrgEntry) (ledger : Ledger) :
    ∃ orgRegistry, (orgs.flatMap (registerOrg attributeError ctx)).foldl Write.apply ledger =
      { ledger with orgRegistry } := by
  induction orgs generalizing ledger with
  | nil => exact ⟨ledger.orgRegistry, rfl⟩
  | cons org rest ih =>
    rw [List.flatMap_cons, List.foldl_append]
    unfold registerOrg
    split
    next => exact ih ledger
    next => exact ih _

theorem vote_cases (attributeError : AttributeError) (ledger : Ledger) (ctx : TransactionContext)
    (requestID : String) (decision : Decision) (reason : String) :
    (∃ err, (castVote attributeError ledger ctx requestID decision reason).result = .error err) ∨
      ∃ req, Votable attributeError ledger ctx requestID req := by
  by_cases votable : ∃ req, Votable attributeError ledger ctx requestID req
  · exact .inr votable
  · exact .inl (castVote_refused votable decision reason)

theorem execute_cases (ledger : Ledger) (tx : Transaction) :
    (∃ err, (execute attributeError ledger tx).result = .error err) ∨
      (execute attributeError ledger tx).result = .ok () ∧
        Change attributeError ledger tx
          ((execute attributeError ledger tx).writes.foldl Write.apply ledger) := by
  obtain ⟨ctx, call⟩ := tx
  cases call with
  | initLedger =>
    right
    simp only [execute, initLedger]
    split_ifs
    · exact ⟨rfl, .policy ledger.policy⟩
    · exact ⟨rfl, .policy (some _)⟩
  | requestJoin arguments =>
    by_cases joinable : Joinable attributeError ledger ctx arguments
    · right
      have change : Change attributeError ledger ⟨ctx, .requestJoin arguments⟩ _ :=
        .request rfl joinable
      simp only [execute, requestJoin_joinable joinable]
      exact ⟨trivial, change⟩
    · exact .inl (requestJoin_refused joinable)
  | approveJoin requestID reason =>
    rcases vote_cases attributeError ledger ctx requestID .approve reason with refused | ⟨req, votable⟩
    · exact .inl refused
    · obtain ⟨accepted, writes⟩ := castVote_votable votable .approve reason
      exact .inr ⟨accepted, writes ▸ .vote rfl votable⟩
  | rejectJoin requestID reason =>
    rcases vote_cases attributeError ledger ctx requestID .reject reason with refused | ⟨req, votable⟩
    · exact .inl refused
    · obtain ⟨accepted, writes⟩ := castVote_votable votable .reject reason
      exact .inr ⟨accepted, writes ▸ .vote rfl votable⟩
  | updatePolicy policyType thresholdPct expiryHours =>
    simp only [execute, updatePolicy]
    cases PolicyType.ofText? policyType with
    | none => exact .inl ⟨_, rfl⟩
    | some policyType =>
      simp only
      split_ifs
      · exact .inl ⟨_, rfl⟩
      · exact .inl ⟨_, rfl⟩
      · exact .inr ⟨rfl, .policy (some _)⟩
  | registerExistingOrgs orgs =>
    cases orgs with
    | error err => exact .inl ⟨_, rfl⟩
    | ok orgs =>
      obtain ⟨orgRegistry, registered⟩ := registerOrgs_apply ctx orgs ledger
      exact .inr ⟨rfl, registered ▸ .registry orgRegistry⟩

theorem step_cases (attributeError : AttributeError) (s : Channel) (tx : Transaction) :
    s.step attributeError tx = s ∨
      tx.ctx.txID ∉ s.txIDs ∧ ∃ ledger, Change attributeError s.ledger tx ledger ∧
        s.step attributeError tx = ⟨ledger, tx.ctx.txID :: s.txIDs⟩ := by
  unfold Channel.step
  split_ifs with used
  · exact .inl rfl
  · rcases execute_cases s.ledger tx with ⟨err, refused⟩ | ⟨accepted, change⟩
    · rw [refused]
      exact .inl rfl
    · rw [accepted]
      exact .inr ⟨used, _, change, rfl⟩

end Kufi.Chaincode.Governance

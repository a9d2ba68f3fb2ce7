import Kufi.Chaincode.GovernanceSteps

set_option autoImplicit false

/-!
# Counting votes

What a counted vote does to a request, and how the status of a request follows
from its tally.
-/

namespace Kufi.Chaincode.Governance

open Shared

/-! ## One vote -/

namespace JoinRequest

variable (req : JoinRequest) (ctx : TransactionContext) (decision : Decision) (now : Stamp)

/-- The two tests write the status and the time of the resolution. -/
theorem evaluateOutcome_eq : ∃ status resolvedAt,
    req.evaluateOutcome now = { req with status, resolvedAt } := by
  simp only [evaluateOutcome]
  split_ifs <;> exact ⟨_, _, rfl⟩

@[simp] theorem evaluateOutcome_approvals :
    (req.evaluateOutcome now).approvals = req.approvals := by
  obtain ⟨status, resolvedAt, outcome⟩ := evaluateOutcome_eq req now
  rw [outcome]

@[simp] theorem evaluateOutcome_rejections :
    (req.evaluateOutcome now).rejections = req.rejections := by
  obtain ⟨status, resolvedAt, outcome⟩ := evaluateOutcome_eq req now
  rw [outcome]

theorem voted_eq : ∃ approvals rejections updatedAt status resolvedAt, req.voted ctx decision =
    { req with approvals, rejections, updatedAt, status, resolvedAt } := by
  obtain ⟨status, resolvedAt, outcome⟩ :=
    evaluateOutcome_eq (req.applyVote ctx.clientMSP ctx.txTimestamp decision) ctx.txTimestamp
  unfold voted
  rw [outcome]
  cases decision <;> exact ⟨_, _, _, _, _, rfl⟩

@[simp] theorem voted_requestID : (req.voted ctx decision).requestID = req.requestID := by
  obtain ⟨_, _, _, _, _, voted⟩ := voted_eq req ctx decision
  rw [voted]

@[simp] theorem voted_mspID : (req.voted ctx decision).mspID = req.mspID := by
  obtain ⟨_, _, _, _, _, voted⟩ := voted_eq req ctx decision
  rw [voted]

@[simp] theorem voted_totalOrgs : (req.voted ctx decision).totalOrgs = req.totalOrgs := by
  obtain ⟨_, _, _, _, _, voted⟩ := voted_eq req ctx decision
  rw [voted]

@[simp] theorem voted_requiredAck : (req.voted ctx decision).requiredAck = req.requiredAck := by
  obtain ⟨_, _, _, _, _, voted⟩ := voted_eq req ctx decision
  rw [voted]

@[simp] theorem voted_createdAt : (req.voted ctx decision).createdAt = req.createdAt := by
  obtain ⟨_, _, _, _, _, voted⟩ := voted_eq req ctx decision
  rw [voted]

theorem voted_approvals : (req.voted ctx decision).approvals =
    if decision = .approve then req.approvals.set ctx.clientMSP ctx.txTimestamp
    else req.approvals := by
  cases decision <;> simp [voted, applyVote]

theorem voted_rejections : (req.voted ctx decision).rejections =
    if decision = .reject then req.rejections.set ctx.clientMSP ctx.txTimestamp
    else req.rejections := by
  cases decision <;> simp [voted, applyVote]

@[simp] theorem approvalImpossible_status (status : Status) (resolvedAt : Option Stamp) :
    { req with status, resolvedAt }.approvalImpossible = req.approvalImpossible := rfl

@[simp] theorem applyVote_status (voter : String) :
    (req.applyVote voter now decision).status = req.status := by
  cases decision <;> rfl

theorem evaluateOutcome_status : (req.evaluateOutcome now).status =
    if req.approvalImpossible then .rejected
    else if req.approvalReached then .approved
    else req.status := by
  simp only [evaluateOutcome]
  by_cases reached : req.approvalReached = true <;>
    by_cases impossible : req.approvalImpossible = true <;>
    simp [reached, impossible]

end JoinRequest

/-! ## The tally -/

/-- The status follows from the tally. Without organisations the second test holds from the
beginning. -/
structure Tally (req : JoinRequest) : Prop where
  ack : req.requiredAck = req.totalOrgs / 2 + 1
  pending : req.status = .pending → req.approvals.size < req.requiredAck ∧
    (req.totalOrgs = 0 ∧ req.rejections.size = 0 ∨
      req.requiredAck + req.rejections.size ≤ req.totalOrgs)
  approved : req.status = .approved → req.requiredAck ≤ req.approvals.size
  reached : 0 < req.totalOrgs → req.requiredAck ≤ req.approvals.size → req.status = .approved
  rejected : req.status = .rejected → req.totalOrgs < req.requiredAck + req.rejections.size

theorem tally_newRequest (ctx : TransactionContext) (arguments : JoinArguments) (totalOrgs : Nat) :
    Tally (newRequest ctx arguments totalOrgs) where
  ack := by
    simp only [newRequest]
    split_ifs <;> omega
  pending _ := by
    simp only [newRequest]
    split_ifs <;> simp [Dict.size] <;> omega
  approved := by simp [newRequest]
  reached some := by
    simp only [newRequest]
    split_ifs <;> simp [Dict.size]
  rejected := by simp [newRequest]

variable {attributeError : AttributeError} {ledger : Ledger} {ctx : TransactionContext}
  {requestID : String} {req : JoinRequest}

/-- A counted vote adds one to its side of the tally. -/
theorem size_approvals (votable : Votable attributeError ledger ctx requestID req)
    (decision : Decision) : (req.voted ctx decision).approvals.size =
      req.approvals.size + if decision = .approve then 1 else 0 := by
  rw [JoinRequest.voted_approvals]
  cases decision
  · exact Dict.size_set_of_none votable.notApproved _
  · rfl

theorem size_rejections (votable : Votable attributeError ledger ctx requestID req)
    (decision : Decision) : (req.voted ctx decision).rejections.size =
      req.rejections.size + if decision = .reject then 1 else 0 := by
  rw [JoinRequest.voted_rejections]
  cases decision
  · rfl
  · exact Dict.size_set_of_none votable.notRejected _

theorem voted_status (pending : req.status = .pending) (ctx : TransactionContext)
    (decision : Decision) : (req.voted ctx decision).status =
      if (req.totalOrgs : Int) - (req.voted ctx decision).rejections.size < req.requiredAck then
        .rejected
      else if req.requiredAck ≤ (req.voted ctx decision).approvals.size then .approved
      else .pending := by
  have keeps : (req.applyVote ctx.clientMSP ctx.txTimestamp decision).totalOrgs = req.totalOrgs ∧
      (req.applyVote ctx.clientMSP ctx.txTimestamp decision).requiredAck = req.requiredAck := by
    cases decision <;> exact ⟨rfl, rfl⟩
  unfold JoinRequest.voted
  rw [JoinRequest.evaluateOutcome_status, JoinRequest.evaluateOutcome_approvals,
    JoinRequest.evaluateOutcome_rejections]
  simp [JoinRequest.approvalImpossible, JoinRequest.approvalReached, keeps, pending]

theorem tally_voted (votable : Votable attributeError ledger ctx requestID req)
    (decision : Decision) (tally : Tally req) : Tally (req.voted ctx decision) := by
  have status := voted_status votable.pending ctx decision
  have approvals := size_approvals votable decision
  have rejections := size_rejections votable decision
  have before := tally.pending votable.pending
  have ack := tally.ack
  generalize voted : req.voted ctx decision = after at *
  have totalOrgs : after.totalOrgs = req.totalOrgs := by simp [← voted]
  have requiredAck : after.requiredAck = req.requiredAck := by simp [← voted]
  constructor
  case ack => rw [requiredAck, totalOrgs, ack]
  case pending =>
    intro pending
    rw [pending] at status
    split_ifs at status with impossible reached
    omega
  case approved =>
    intro accepted
    rw [accepted] at status
    split_ifs at status with impossible reached
    rw [requiredAck]
    exact reached
  case reached =>
    intro some reached
    rw [status, if_neg ?_, if_pos (requiredAck ▸ reached)]
    cases decision <;> simp at approvals rejections <;> omega
  case rejected =>
    intro refused
    rw [refused] at status
    split_ifs at status with impossible reached
    omega

/-! ## Runs -/

/-- A request after a step was there before, is new, or has been voted on. -/
theorem request_step {s : Channel} {tx : Transaction} {requestID : String} {after : JoinRequest}
    (found : (s.step attributeError tx).ledger.joinRequests.get requestID = some after) :
    s.ledger.joinRequests.get requestID = some after ∨
      (∃ arguments, tx.call = .requestJoin arguments ∧ requestID = tx.ctx.txID ∧
        tx.ctx.txID ∉ s.txIDs ∧
        after = newRequest tx.ctx arguments (countExistingOrgs s.ledger)) ∨
      ∃ req decision reason, tx.call.ballot = some (requestID, decision, reason) ∧
        Votable attributeError s.ledger tx.ctx requestID req ∧ after = req.voted tx.ctx decision := by
  rcases step_cases attributeError s tx with same | ⟨unused, ledger, change, stepped⟩
  · rw [same] at found
    exact .inl found
  · rw [stepped] at found
    cases change with
    | policy | registry => exact .inl found
    | request called =>
      simp only [Dict.get_set] at found
      split_ifs at found with new
      · exact .inr (.inl ⟨_, called, new, unused, (Option.some.inj found).symm⟩)
      · exact .inl found
    | vote ballot votable =>
      simp only [votedLedger, Dict.get_set] at found
      split_ifs at found with voted
      · subst voted
        exact .inr (.inr ⟨_, _, _, ballot, votable, (Option.some.inj found).symm⟩)
      · exact .inl found

def Ledger.All (ledger : Ledger) (P : JoinRequest → Prop) : Prop :=
  ∀ requestID req, ledger.joinRequests.get requestID = some req → P req

/-- What holds of new requests and is kept by every counted vote holds of all requests. -/
theorem all_step {P : JoinRequest → Prop} {s : Channel} {tx : Transaction}
    (fresh : ∀ arguments, tx.call = .requestJoin arguments →
      P (newRequest tx.ctx arguments (countExistingOrgs s.ledger)))
    (voted : ∀ requestID req decision, Votable attributeError s.ledger tx.ctx requestID req →
      P req → P (req.voted tx.ctx decision))
    (holds : s.ledger.All P) : (s.step attributeError tx).ledger.All P := by
  intro requestID after found
  rcases request_step found with same | ⟨arguments, called, _, _, rfl⟩ |
    ⟨req, decision, _, _, votable, rfl⟩
  · exact holds _ _ same
  · exact fresh _ called
  · exact voted _ _ _ votable (holds _ _ votable.found)

theorem reach_tally {allowed : Channel → Transaction → Prop} {s : Channel}
    (reached : Reach (Channel.step attributeError) allowed .genesis s) : s.ledger.All Tally :=
  reached.invariant (fun s => s.ledger.All Tally) (fun _ _ found => by cases found)
    fun _ _ holds _ => all_step (fun _ _ => tally_newRequest _ _ _)
      (fun _ _ decision votable => tally_voted votable decision) holds

def Known (s : Channel) : Prop :=
  ∀ requestID req, s.ledger.joinRequests.get requestID = some req → requestID ∈ s.txIDs

theorem known_genesis : Known .genesis := fun _ _ found => by cases found

theorem txIDs_step (attributeError : AttributeError) (s : Channel) (tx : Transaction) :
    s.txIDs ⊆ (s.step attributeError tx).txIDs := by
  rcases step_cases attributeError s tx with same | ⟨_, ledger, _, stepped⟩
  · rw [same]
    exact List.Subset.refl _
  · rw [stepped]
    exact List.subset_cons_self _ _

theorem known_step {s : Channel} (known : Known s) (tx : Transaction) :
    Known (s.step attributeError tx) := by
  intro requestID after found
  rcases request_step found with same | ⟨arguments, called, rfl, unused, rfl⟩ |
    ⟨req, _, _, _, votable, rfl⟩
  · exact txIDs_step _ _ _ (known _ _ same)
  · rcases step_cases attributeError s tx with same | ⟨_, ledger, _, stepped⟩
    · rw [same] at found
      exact absurd (known _ _ found) unused
    · simp [stepped]
  · exact txIDs_step _ _ _ (known _ _ votable.found)

end Kufi.Chaincode.Governance

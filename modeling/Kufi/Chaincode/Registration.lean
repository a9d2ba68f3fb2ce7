import Kufi.Chaincode.Voting

set_option autoImplicit false

/-!
# Registration by votes

A vote registers the organisation by the first test and may then reject the
request by the second one.
-/

namespace Kufi.Chaincode.Governance

open Shared

/-- The vote writes the organisation into the registry. -/
def Execution.Registers (execution : Execution) (mspID : String) : Prop :=
  ∃ org, Write.org mspID org ∈ execution.writes

/-- The status of the request once the writes are committed. -/
def Execution.leaves (execution : Execution) (ledger : Ledger) (requestID : String) :
    Option Status :=
  ((execution.writes.foldl Write.apply ledger).joinRequests.get requestID).map JoinRequest.status

variable {attributeError : AttributeError} {ledger : Ledger} {ctx : TransactionContext}
  {requestID : String} {req : JoinRequest} {decision : Decision}

theorem votable_of_accepted {reason : String}
    (accepted : (castVote attributeError ledger ctx requestID decision reason).result = .ok ())
    (found : ledger.joinRequests.get requestID = some req) :
    Votable attributeError ledger ctx requestID req := by
  rcases vote_cases attributeError ledger ctx requestID decision reason with
    ⟨err, refused⟩ | ⟨other, votable⟩
  · rw [accepted] at refused
    cases refused
  · obtain rfl : other = req := Option.some.inj (votable.found.symm.trans found)
    exact votable

theorem leaves_vote (votable : Votable attributeError ledger ctx requestID req) (reason : String) :
    (castVote attributeError ledger ctx requestID decision reason).leaves ledger requestID =
      some (req.voted ctx decision).status := by
  simp [Execution.leaves, (castVote_votable votable decision reason).2, votedLedger, Dict.get_set]

theorem registers_vote (votable : Votable attributeError ledger ctx requestID req)
    (reason : String) :
    (castVote attributeError ledger ctx requestID decision reason).Registers req.mspID ↔
      req.requiredAck ≤ (req.voted ctx decision).approvals.size ∧
        attributeError req.mspID = none := by
  have reached : (req.applyVote ctx.clientMSP ctx.txTimestamp decision).approvalReached = true ↔
      req.requiredAck ≤ (req.voted ctx decision).approvals.size := by
    cases decision <;> simp only [JoinRequest.approvalReached, JoinRequest.voted,
      JoinRequest.applyVote, JoinRequest.evaluateOutcome_approvals] <;> exact decide_eq_true_iff
  rw [← reached]
  unfold Execution.Registers
  rw [castVote_eq votable]
  unfold recordVote registerOrg
  by_cases voter : (attributeError ctx.clientMSP).isSome <;>
    by_cases approved :
      (req.applyVote ctx.clientMSP ctx.txTimestamp decision).approvalReached = true <;>
    cases own : attributeError req.mspID <;>
    simp [voter, approved, JoinRequest.org, own]

/-- Approval and registration agree, and no rejected request is registered. -/
def FollowsApproval (execution : Execution) (ledger : Ledger) (requestID mspID : String) : Prop :=
  (execution.Registers mspID ↔ execution.leaves ledger requestID = some .approved) ∧
    ¬ (execution.Registers mspID ∧ execution.leaves ledger requestID = some .rejected)

/-- The vote is a rejection; or the request counts organisations, and the vote does not approve it
or its MSP id can stand in a key; or it counts none, and its MSP id cannot. -/
def Unmixed (attributeError : AttributeError) (req : JoinRequest) (decision : Decision) : Prop :=
  decision = .reject ∨
    if req.totalOrgs = 0 then attributeError req.mspID ≠ none
    else req.approvals.size + 1 < req.requiredAck ∨ attributeError req.mspID = none

theorem followsApproval_iff (votable : Votable attributeError ledger ctx requestID req)
    (tally : Tally req) (reason : String) :
    FollowsApproval (castVote attributeError ledger ctx requestID decision reason) ledger requestID
        req.mspID ↔ Unmixed attributeError req decision := by
  have approvals := size_approvals votable decision
  have rejections := size_rejections votable decision
  have before := tally.pending votable.pending
  have ack := tally.ack
  unfold FollowsApproval Unmixed
  rw [registers_vote votable, leaves_vote votable, voted_status votable.pending]
  cases decision with
  | reject =>
    -- the approvals stay below the bound, so nothing is registered or approved
    have unreached : ¬ req.requiredAck ≤ (req.voted ctx .reject).approvals.size := by
      simp only [reduceCtorEq, if_false] at approvals
      omega
    simp only [unreached, false_and, if_false]
    split_ifs <;> simp
  | approve =>
    simp only [if_true, reduceCtorEq, if_false] at approvals rejections
    by_cases empty : req.totalOrgs = 0
    · -- both tests hold, and the second one decides
      have reached : req.requiredAck ≤ (req.voted ctx .approve).approvals.size := by omega
      have impossible :
          (req.totalOrgs : Int) - (req.voted ctx .approve).rejections.size < req.requiredAck := by
        omega
      rw [if_pos impossible, if_pos empty]
      simp [reached]
    · -- the rejections are as before, so the second test fails
      have possible :
          ¬ (req.totalOrgs : Int) - (req.voted ctx .approve).rejections.size < req.requiredAck := by
        omega
      have reached : req.requiredAck ≤ (req.voted ctx .approve).approvals.size ↔
          ¬ req.approvals.size + 1 < req.requiredAck := by
        omega
      rw [if_neg possible, if_neg empty]
      by_cases below : req.approvals.size + 1 < req.requiredAck <;>
        simp [reached, below]

/-- In every reachable state, for every vote that is counted. -/
theorem registration_follows_approval_iff {s : Channel}
    (reached : Reach (Channel.step attributeError) Free .genesis s) (reason : String)
    (accepted : (castVote attributeError s.ledger ctx requestID decision reason).result = .ok ())
    (found : s.ledger.joinRequests.get requestID = some req) :
    FollowsApproval (castVote attributeError s.ledger ctx requestID decision reason) s.ledger
        requestID req.mspID ↔ Unmixed attributeError req decision :=
  followsApproval_iff (votable_of_accepted accepted found) (reach_tally reached requestID req found)
    reason

/-! ## With and without organisations -/

def joined (before : List Transaction) : Channel :=
  (before ++ [joinNew]).foldl (Channel.step compositeKeyError) .genesis

theorem joined_reached (before : List Transaction) :
    Reach (Channel.step compositeKeyError) Free .genesis (joined before) :=
  reach_free _ _ _

theorem registration_follows_approval_iff_oneBank :
    FollowsApproval (castVote compositeKeyError (joined [registerBank]).ledger
        (invoked "t2" "BankMSP" 1700000002) "t1" .approve "") (joined [registerBank]).ledger "t1"
        (newRequest joinNew.ctx newBank 1).mspID ↔
      Unmixed compositeKeyError (newRequest joinNew.ctx newBank 1) .approve :=
  registration_follows_approval_iff (joined_reached [registerBank]) "" rfl rfl

-- Without organisations one approval registers the request's and leaves it rejected.
theorem approval_rejects :
    ¬ ∀ (s : Channel) (ctx : TransactionContext) (requestID reason : String) (decision : Decision)
      (req : JoinRequest), Reach (Channel.step compositeKeyError) Free .genesis s →
      (castVote compositeKeyError s.ledger ctx requestID decision reason).result = .ok () →
      s.ledger.joinRequests.get requestID = some req →
      FollowsApproval (castVote compositeKeyError s.ledger ctx requestID decision reason) s.ledger
        requestID req.mspID := by
  intro follows
  have found : (joined []).ledger.joinRequests.get "t1" =
      some (newRequest joinNew.ctx newBank 0) := rfl
  have accepted : (castVote compositeKeyError (joined []).ledger
      (invoked "t2" "BankMSP" 1700000002) "t1" .approve "").result = .ok () := rfl
  have mixed := (followsApproval_iff (votable_of_accepted accepted found)
    (tally_newRequest _ _ _) "").mp (follows _ _ _ _ _ _ (joined_reached []) accepted found)
  rcases mixed with reject | refused
  · cases reject
  · exact refused rfl

end Kufi.Chaincode.Governance

import Kufi.Chaincode.VotingRuns

set_option autoImplicit false

/-!
# Expired requests

A vote past the expiry of a request writes EXPIRED and returns an error, so the
request stays pending and its organisation cannot ask again.
-/

namespace Kufi.Chaincode.Governance

open Shared

variable {attributeError : AttributeError}

def StoredExpired (ledger : Ledger) (requestID : String) : Prop :=
  ∃ req, ledger.joinRequests.get requestID = some req ∧ req.status = .expired

/-- The organisation can make a new request. -/
def CanAsk (attributeError : AttributeError) (ledger : Ledger) (mspID : String) : Prop :=
  ∃ ctx arguments, arguments.mspID = mspID ∧
    (requestJoin attributeError ledger ctx arguments).result = .ok ()

/-- A vote on the request comes past its expiry. -/
def LateVotes (requestID : String) (createdAt : Stamp) (s : Channel) (tx : Transaction) : Prop :=
  ∀ decision reason, tx.call.ballot = some (requestID, decision, reason) →
    isExpired createdAt (getPolicy s.ledger).expiryHours tx.ctx.txTime = true

theorem pending_blocks (attributeError : AttributeError) {ledger : Ledger} {requestID : String}
    {req : JoinRequest} (found : ledger.joinRequests.get requestID = some req)
    (pending : req.status = .pending) (ctx : TransactionContext) {arguments : JoinArguments}
    (same : arguments.mspID = req.mspID) :
    ∃ err, (requestJoin attributeError ledger ctx arguments).result = .error err :=
  requestJoin_refused fun joinable => joinable.unpending _ _ found same.symm pending

theorem late_votes_keep {s t : Channel} (known : Known s) {requestID : String} {req : JoinRequest}
    (found : s.ledger.joinRequests.get requestID = some req)
    (late : Reach (Channel.step attributeError) (LateVotes requestID req.createdAt) s t) :
    t.ledger.joinRequests.get requestID = some req := by
  refine late.stable Known (fun t => t.ledger.joinRequests.get requestID = some req) known found
    (fun _ tx known _ => known_step known tx) fun s tx known late found => ?_
  refine unvoted_step known found fun decision reason ballot votable => ?_
  have expired := late decision reason ballot
  rw [votable.unexpired] at expired
  cases expired

/-- However the run goes on after late votes on a pending request: as long as no vote on it comes
in time, it is neither expired nor out of the way. -/
theorem expiry_never_effective {s t : Channel}
    (reached : Reach (Channel.step attributeError) Free .genesis s) {requestID : String}
    {req : JoinRequest} (found : s.ledger.joinRequests.get requestID = some req)
    (pending : req.status = .pending)
    (late : Reach (Channel.step attributeError) (LateVotes requestID req.createdAt) s t) :
    ¬ StoredExpired t.ledger requestID ∧ ¬ CanAsk attributeError t.ledger req.mspID := by
  have known := reached.invariant Known known_genesis fun _ tx known _ => known_step known tx
  have kept := late_votes_keep known found late
  constructor
  · rintro ⟨stored, found', expired⟩
    obtain rfl := Option.some.inj (kept.symm.trans found')
    rw [pending] at expired
    cases expired
  · rintro ⟨ctx, arguments, same, accepted⟩
    obtain ⟨err, refused⟩ := pending_blocks attributeError kept pending ctx same
    rw [accepted] at refused
    cases refused

def lateVote : Transaction := ⟨invoked "t2" "BankMSP" 1700604802, .approveJoin "t1" ""⟩

theorem late_vote_late :
    LateVotes "t1" 1700000001 ([registerBank, joinNew].foldl (Channel.step compositeKeyError) .genesis)
      lateVote := by
  intro decision reason ballot
  decide

theorem expiry_never_effective_lateVote :
    ¬ StoredExpired ([registerBank, joinNew, lateVote].foldl (Channel.step compositeKeyError)
        .genesis).ledger "t1" ∧
      ¬ CanAsk compositeKeyError ([registerBank, joinNew, lateVote].foldl
        (Channel.step compositeKeyError) .genesis).ledger (newRequest joinNew.ctx newBank 1).mspID :=
  expiry_never_effective (reach_free _ _ [registerBank, joinNew]) rfl rfl
    (.next .refl late_vote_late)

-- The write of the late vote is not committed.
theorem late_vote_undone :
    ¬ ∀ (s : Channel) (tx : Transaction) (requestID reason : String) (decision : Decision)
      (req : JoinRequest), Reach (Channel.step compositeKeyError) Free .genesis s →
      s.ledger.joinRequests.get requestID = some req → req.status = .pending →
      tx.call.ballot = some (requestID, decision, reason) →
      isExpired req.createdAt (getPolicy s.ledger).expiryHours tx.ctx.txTime = true →
      StoredExpired (s.step compositeKeyError tx).ledger requestID ∧
        CanAsk compositeKeyError (s.step compositeKeyError tx).ledger req.mspID := by
  intro effective
  obtain ⟨⟨stored, found, expired⟩, _⟩ := effective _ lateVote "t1" "" .approve _
    (reach_free _ _ [registerBank, joinNew]) rfl rfl rfl (by decide)
  obtain rfl : newRequest joinNew.ctx newBank 1 = stored := Option.some.inj found
  cases expired

end Kufi.Chaincode.Governance

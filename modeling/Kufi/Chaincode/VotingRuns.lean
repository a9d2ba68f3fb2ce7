import Kufi.Chaincode.Voting

set_option autoImplicit false

/-!
# Requests and vote records

A request and the vote records of its voters tell the same, at most one request
of an organisation is pending, and a resolved request stays as it is.
-/

namespace Kufi.Chaincode.Governance

open Shared

variable {attributeError : AttributeError}

/-! ## Resolved requests -/

/-- Only a vote that is counted changes a request. -/
theorem unvoted_step {s : Channel} (known : Known s) {requestID : String} {req : JoinRequest}
    (found : s.ledger.joinRequests.get requestID = some req) {tx : Transaction}
    (unvoted : ∀ decision reason, tx.call.ballot = some (requestID, decision, reason) →
      ¬ Votable attributeError s.ledger tx.ctx requestID req) :
    (s.step attributeError tx).ledger.joinRequests.get requestID = some req := by
  rcases step_cases attributeError s tx with same | ⟨unused, ledger, change, stepped⟩
  · rw [same]
    exact found
  · rw [stepped]
    cases change with
    | policy | registry => exact found
    | request =>
      have other : requestID ≠ tx.ctx.txID := by
        rintro rfl
        exact unused (known _ _ found)
      simp [Dict.get_set, other, found]
    | @vote voted _ _ other ballot votable =>
      have different : requestID ≠ voted := by
        rintro rfl
        obtain rfl := Option.some.inj (found.symm.trans votable.found)
        exact unvoted _ _ ballot votable
      simp [votedLedger, Dict.get_set, different, found]

theorem resolved_stays {s t : Channel} (known : Known s) {requestID : String} {req : JoinRequest}
    (resolved : req.status ≠ .pending)
    (found : s.ledger.joinRequests.get requestID = some req)
    (later : Reach (Channel.step attributeError) Free s t) :
    t.ledger.joinRequests.get requestID = some req :=
  later.stable Known (fun t => t.ledger.joinRequests.get requestID = some req) known found
    (fun _ tx known _ => known_step known tx)
    fun _ _ known _ found => unvoted_step known found fun _ _ _ votable => resolved votable.pending

/-! ## Vote records -/

/-- The MSP id has a vote record of that decision for the request. -/
def HasVoted (ledger : Ledger) (requestID voterMSP : String) (decision : Decision) : Prop :=
  ∃ vote, ledger.votes.get (requestID, voterMSP) = some vote ∧ vote.decision = decision

/-- A request agrees with its vote records. -/
structure Recorded (ledger : Ledger) (requestID : String) (req : JoinRequest) : Prop where
  disjoint : ∀ voter, (req.approvals.get voter).isSome → req.rejections.get voter = none
  others : req.approvals.get req.mspID = none ∧ req.rejections.get req.mspID = none
  approvals : ∀ voter, (req.approvals.get voter).isSome ↔ HasVoted ledger requestID voter .approve
  rejections : ∀ voter, (req.rejections.get voter).isSome ↔ HasVoted ledger requestID voter .reject

theorem Recorded.congr {ledger ledger' : Ledger} {requestID : String} {req : JoinRequest}
    (recorded : Recorded ledger requestID req)
    (same : ∀ voter decision,
      HasVoted ledger' requestID voter decision ↔ HasVoted ledger requestID voter decision) :
    Recorded ledger' requestID req where
  disjoint := recorded.disjoint
  others := recorded.others
  approvals voter := (recorded.approvals voter).trans (same _ _).symm
  rejections voter := (recorded.rejections voter).trans (same _ _).symm

structure Consistent (s : Channel) : Prop where
  asked : ∀ requestID voter vote, s.ledger.votes.get (requestID, voter) = some vote →
    (s.ledger.joinRequests.get requestID).isSome ∧ vote.voterMSP = voter
  recorded : ∀ requestID req, s.ledger.joinRequests.get requestID = some req →
    Recorded s.ledger requestID req
  single : ∀ requestID requestID' req req', s.ledger.joinRequests.get requestID = some req →
    s.ledger.joinRequests.get requestID' = some req' → req.mspID = req'.mspID →
    req.status = .pending → req'.status = .pending → requestID = requestID'

/-- Every voter's MSP id can stand in a key. -/
def VotesWritten (attributeError : AttributeError) (_ : Channel) (tx : Transaction) : Prop :=
  tx.call.ballot.isSome → attributeError tx.ctx.clientMSP = none

theorem consistent_genesis : Consistent .genesis where
  asked _ _ _ found := by cases found
  recorded _ _ found := by cases found
  single _ _ _ _ found := by cases found

/-! ## New requests -/

theorem recorded_newRequest {s : Channel} (known : Known s) (consistent : Consistent s)
    {ctx : TransactionContext} (unused : ctx.txID ∉ s.txIDs) (arguments : JoinArguments)
    (totalOrgs : Nat) (ledger : Ledger) (votes : ledger.votes = s.ledger.votes) :
    Recorded ledger ctx.txID (newRequest ctx arguments totalOrgs) := by
  have unvoted (voter : String) (decision : Decision) :
      ¬ HasVoted ledger ctx.txID voter decision := by
    rintro ⟨vote, found, _⟩
    rw [votes] at found
    obtain ⟨req, requested⟩ := Option.isSome_iff_exists.mp (consistent.asked _ _ _ found).1
    exact unused (known _ _ requested)
  constructor <;> simp [newRequest, unvoted]

theorem consistent_request {s : Channel} (known : Known s) (consistent : Consistent s)
    {tx : Transaction} (unused : tx.ctx.txID ∉ s.txIDs) {arguments : JoinArguments}
    (unpending : Unpending s.ledger arguments.mspID) (totalOrgs : Nat) :
    Consistent
      ⟨{ s.ledger with
          joinRequests := s.ledger.joinRequests.set tx.ctx.txID
            (newRequest tx.ctx arguments totalOrgs) },
        tx.ctx.txID :: s.txIDs⟩ where
  asked requestID voter vote found := by
    obtain ⟨requested, named⟩ := consistent.asked _ _ _ found
    simp only [Dict.get_set]
    split_ifs
    · exact ⟨rfl, named⟩
    · exact ⟨requested, named⟩
  recorded requestID req found := by
    simp only [Dict.get_set] at found
    split_ifs at found with same
    · cases found
      subst same
      exact recorded_newRequest known consistent unused _ _ _ rfl
    · exact (consistent.recorded _ _ found).congr fun _ _ => Iff.rfl
  single requestID requestID' req req' found found' same pending pending' := by
    simp only [Dict.get_set] at found found'
    split_ifs at found found' with new new' new'
    · exact new.trans new'.symm
    · cases found
      exact absurd pending' (unpending _ _ found' same.symm)
    · cases found'
      exact absurd pending (unpending _ _ found same)
    · exact consistent.single _ _ _ _ found found' same pending pending'

/-! ## Votes -/

theorem get_voted_approvals (req : JoinRequest) (ctx : TransactionContext) (decision : Decision)
    (voter : String) : (req.voted ctx decision).approvals.get voter =
      if decision = .approve ∧ voter = ctx.clientMSP then some ctx.txTimestamp
      else req.approvals.get voter := by
  rw [JoinRequest.voted_approvals]
  cases decision <;> simp [Dict.get_set]

theorem get_voted_rejections (req : JoinRequest) (ctx : TransactionContext) (decision : Decision)
    (voter : String) : (req.voted ctx decision).rejections.get voter =
      if decision = .reject ∧ voter = ctx.clientMSP then some ctx.txTimestamp
      else req.rejections.get voter := by
  rw [JoinRequest.voted_rejections]
  cases decision <;> simp [Dict.get_set]

section

variable {ledger : Ledger} {ctx : TransactionContext} {requestID : String} {decision : Decision}
  {reason : String} {req : JoinRequest}

theorem hasVoted_votedLedger (written : attributeError ctx.clientMSP = none)
    (requestID' voter : String) (decision' : Decision) :
    HasVoted (votedLedger attributeError ledger ctx requestID decision reason req) requestID' voter
        decision' ↔
      if requestID' = requestID ∧ voter = ctx.clientMSP then decision' = decision
      else HasVoted ledger requestID' voter decision' := by
  simp only [HasVoted, votedLedger, written, Option.isSome_none, Bool.false_eq_true, if_false,
    Dict.get_set, Prod.mk.injEq]
  split_ifs
  · simp [voteRecord, eq_comm]
  · rfl

theorem recorded_voted (votable : Votable attributeError ledger ctx requestID req)
    (recorded : Recorded ledger requestID req) (written : attributeError ctx.clientMSP = none) :
    Recorded (votedLedger attributeError ledger ctx requestID decision reason req) requestID
      (req.voted ctx decision) where
  disjoint voter approved := by
    rw [get_voted_approvals] at approved
    rw [get_voted_rejections]
    have before := recorded.disjoint voter
    have notApproved := votable.notApproved
    have notRejected := votable.notRejected
    cases decision <;> by_cases same : voter = ctx.clientMSP <;> simp_all
  others := by
    have before := recorded.others
    have other := Ne.symm votable.other
    simp [get_voted_approvals, get_voted_rejections, other, before]
  approvals voter := by
    rw [get_voted_approvals, hasVoted_votedLedger written, ← recorded.approvals voter]
    have notApproved := votable.notApproved
    cases decision <;> by_cases same : voter = ctx.clientMSP <;> simp [same, notApproved]
  rejections voter := by
    rw [get_voted_rejections, hasVoted_votedLedger written, ← recorded.rejections voter]
    have notRejected := votable.notRejected
    cases decision <;> by_cases same : voter = ctx.clientMSP <;> simp [same, notRejected]

end

theorem consistent_vote {s : Channel} (consistent : Consistent s) {ctx : TransactionContext}
    {requestID : String} {req : JoinRequest}
    (votable : Votable attributeError s.ledger ctx requestID req)
    (written : attributeError ctx.clientMSP = none) (decision : Decision) (reason txID : String) :
    Consistent ⟨votedLedger attributeError s.ledger ctx requestID decision reason req,
      txID :: s.txIDs⟩ where
  asked requestID' voter vote found := by
    simp only [votedLedger, written, Option.isSome_none, Bool.false_eq_true, if_false, Dict.get_set,
      Prod.mk.injEq] at found ⊢
    split_ifs at found with same
    · cases found
      simp [same, voteRecord]
    · obtain ⟨requested, named⟩ := consistent.asked _ _ _ found
      refine ⟨?_, named⟩
      split_ifs
      · rfl
      · exact requested
  recorded requestID' req' found := by
    simp only [votedLedger, Dict.get_set] at found
    split_ifs at found with same
    · cases found
      subst same
      exact recorded_voted votable (consistent.recorded _ _ votable.found) written
    · refine (consistent.recorded _ _ found).congr fun voter decision' => ?_
      rw [hasVoted_votedLedger written, if_neg fun both => same both.1]
  single requestID₁ requestID₂ req₁ req₂ found₁ found₂ named pending₁ pending₂ := by
    have before := consistent.single
    simp only [votedLedger, Dict.get_set] at found₁ found₂
    split_ifs at found₁ found₂ with same₁ same₂ same₂
    · exact same₁.trans same₂.symm
    · cases found₁
      exact same₁.trans (before _ _ _ _ votable.found found₂ (by simpa using named)
        votable.pending pending₂)
    · cases found₂
      exact (before _ _ _ _ found₁ votable.found (by simpa using named) pending₁
        votable.pending).trans same₂.symm
    · exact before _ _ _ _ found₁ found₂ named pending₁ pending₂

theorem consistent_step {s : Channel} (known : Known s) (consistent : Consistent s) {tx : Transaction}
    (written : VotesWritten attributeError s tx) : Consistent (s.step attributeError tx) := by
  rcases step_cases attributeError s tx with same | ⟨unused, ledger, change, stepped⟩
  · rw [same]
    exact consistent
  · rw [stepped]
    cases change with
    | policy | registry =>
      exact ⟨consistent.asked, fun _ _ found => (consistent.recorded _ _ found).congr fun _ _ => Iff.rfl,
        consistent.single⟩
    | request _ joinable => exact consistent_request known consistent unused joinable.unpending _
    | vote ballot votable =>
      exact consistent_vote consistent votable (written (by rw [ballot]; rfl)) _ _ _

/-! ## Runs -/

/-- A request is made while an organisation is registered. -/
def AskedOfSome (s : Channel) (tx : Transaction) : Prop :=
  ∀ arguments, tx.call = .requestJoin arguments → 0 < countExistingOrgs s.ledger

theorem counted_step (attributeError : AttributeError) {s : Channel} {tx : Transaction}
    (counted : s.ledger.All fun req => 0 < req.totalOrgs) (asked : AskedOfSome s tx) :
    (s.step attributeError tx).ledger.All fun req => 0 < req.totalOrgs := by
  refine all_step (fun arguments called => ?_) (fun _ _ _ _ before => ?_) counted
  · exact asked arguments called
  · simpa using before

theorem mem_getVotes {ledger : Ledger} {requestID : String} {vote : VoteRecord} :
    vote ∈ getVotes ledger requestID ↔ ∃ voter, ledger.votes.get (requestID, voter) = some vote := by
  simp only [getVotes, List.mem_map, List.mem_filter, decide_eq_true_eq]
  constructor
  · rintro ⟨⟨⟨_, voter⟩, cast⟩, ⟨listed, rfl⟩, rfl⟩
    exact ⟨voter, Dict.get_eq_some.mpr listed⟩
  · rintro ⟨voter, found⟩
    exact ⟨⟨(requestID, voter), vote⟩, ⟨Dict.get_eq_some.mp found, rfl⟩, rfl⟩

/-- A voter of that decision among the vote records. -/
def Voted (ledger : Ledger) (requestID voterMSP : String) (decision : Decision) : Prop :=
  ∃ vote ∈ getVotes ledger requestID, vote.voterMSP = voterMSP ∧ vote.decision = decision

theorem hasVoted_iff {s : Channel} (consistent : Consistent s) {requestID voterMSP : String}
    {decision : Decision} :
    HasVoted s.ledger requestID voterMSP decision ↔ Voted s.ledger requestID voterMSP decision := by
  constructor
  · rintro ⟨vote, found, decided⟩
    exact ⟨vote, mem_getVotes.mpr ⟨_, found⟩, (consistent.asked _ _ _ found).2, decided⟩
  · rintro ⟨vote, listed, rfl, decided⟩
    obtain ⟨voter, found⟩ := mem_getVotes.mp listed
    rw [(consistent.asked _ _ _ found).2]
    exact ⟨vote, found, decided⟩

structure RequestSound (ledger : Ledger) (requestID : String) (req : JoinRequest) : Prop where
  disjoint : ∀ voter, ¬ ((req.approvals.get voter).isSome ∧ (req.rejections.get voter).isSome)
  others : req.approvals.get req.mspID = none ∧ req.rejections.get req.mspID = none
  approvals : ∀ voter, (req.approvals.get voter).isSome ↔ Voted ledger requestID voter .approve
  rejections : ∀ voter, (req.rejections.get voter).isSome ↔ Voted ledger requestID voter .reject
  bounds : req.status = .pending → req.approvals.size < req.requiredAck ∧
    (req.requiredAck : Int) ≤ req.totalOrgs - req.rejections.size
  undecided : req.status = .pending → ∀ voters : List String, voters.Nodup →
    (∀ voter ∈ voters, ∃ vote ∈ getVotes ledger requestID, vote.voterMSP = voter) →
    voters.length < req.totalOrgs

theorem mem_keys {K V : Type} [DecidableEq K] {dict : Dict K V} {key : K} :
    key ∈ dict.keys ↔ (dict.get key).isSome := by
  rw [Dict.get, AList.lookup_isSome, AList.mem_keys]

/-- The voters are those of the two sides of the tally. -/
theorem length_voters (req : JoinRequest) {voters : List String} (distinct : voters.Nodup)
    (voted : ∀ voter ∈ voters,
      (req.approvals.get voter).isSome ∨ (req.rejections.get voter).isSome) :
    voters.length ≤ req.approvals.size + req.rejections.size := by
  have listed : voters ⊆ req.approvals.keys ++ req.rejections.keys := by
    intro voter member
    rw [List.mem_append, mem_keys, mem_keys]
    exact voted voter member
  have bound := (List.subperm_of_subset distinct listed).length_le
  simpa [AList.keys, List.keys, Dict.size] using bound

theorem requestSound {s : Channel} (consistent : Consistent s) {requestID : String}
    {req : JoinRequest} (found : s.ledger.joinRequests.get requestID = some req)
    (tally : Tally req) (counted : 0 < req.totalOrgs) :
    RequestSound s.ledger requestID req where
  disjoint voter := by
    rintro ⟨approved, rejected⟩
    rw [(consistent.recorded _ _ found).disjoint voter approved] at rejected
    cases rejected
  others := (consistent.recorded _ _ found).others
  approvals voter := ((consistent.recorded _ _ found).approvals voter).trans (hasVoted_iff consistent)
  rejections voter :=
    ((consistent.recorded _ _ found).rejections voter).trans (hasVoted_iff consistent)
  bounds pending := by
    have before := tally.pending pending
    omega
  undecided pending voters distinct voted := by
    have before := tally.pending pending
    have length := length_voters req distinct fun voter member => by
      obtain ⟨vote, listed, named⟩ := voted voter member
      have recorded := consistent.recorded _ _ found
      rw [recorded.approvals, recorded.rejections, hasVoted_iff consistent, hasVoted_iff consistent]
      cases decided : vote.decision with
      | approve => exact .inl ⟨vote, listed, named, decided⟩
      | reject => exact .inr ⟨vote, listed, named, decided⟩
    omega

structure VotingSound (attributeError : AttributeError) (s : Channel) : Prop where
  sound : ∀ requestID req, s.ledger.joinRequests.get requestID = some req →
    RequestSound s.ledger requestID req
  resolved : ∀ requestID req, s.ledger.joinRequests.get requestID = some req →
    req.status ≠ .pending → ∀ t, Reach (Channel.step attributeError) Free s t →
      t.ledger.joinRequests.get requestID = some req
  single : ∀ requestID requestID' req req', s.ledger.joinRequests.get requestID = some req →
    s.ledger.joinRequests.get requestID' = some req' → req.mspID = req'.mspID →
    req.status = .pending → req'.status = .pending → requestID = requestID'

/-- In every run in which each request is made of some organisation and each voter's MSP id can
stand in a key. -/
theorem voting_runs_sound {s : Channel}
    (reached : Reach (Channel.step attributeError)
      (fun s tx => AskedOfSome s tx ∧ VotesWritten attributeError s tx) .genesis s) :
    VotingSound attributeError s := by
  have known : Known s := reached.invariant Known (fun _ _ found => by cases found)
    fun _ tx known _ => known_step known tx
  have both := reached.invariant (fun s => Known s ∧ Consistent s)
    ⟨fun _ _ found => (by cases found), consistent_genesis⟩
    fun _ tx inv ok => ⟨known_step inv.1 tx, consistent_step inv.1 inv.2 ok.2⟩
  have counted := reached.invariant (fun s => s.ledger.All fun req => 0 < req.totalOrgs)
    (fun _ _ found => by cases found) fun _ _ counted ok => counted_step attributeError counted ok.1
  exact
    { sound := fun requestID req found =>
        requestSound both.2 found (reach_tally reached _ _ found) (counted _ _ found)
      resolved := fun _ _ found resolved _ later => resolved_stays known resolved found later
      single := both.2.single }

def approveNew : Transaction := ⟨invoked "t2" "BankMSP" 1700000002, .approveJoin "t1" "welcome"⟩

theorem voting_runs_sound_approved :
    VotingSound compositeKeyError
      ([registerBank, joinNew, approveNew].foldl (Channel.step compositeKeyError) .genesis) := by
  refine voting_runs_sound (reach_foldl ⟨⟨nofun, nofun⟩, ⟨fun _ _ => ?_, nofun⟩, ⟨nofun, fun _ => ?_⟩,
    trivial⟩)
  · decide
  · rfl

-- A voter without a vote record.
def approveUnwritten : Transaction :=
  ⟨invoked "t2" "\x00MSP" 1700000002, .approveJoin "t1" "welcome"⟩

theorem vote_unwritten :
    ¬ ∀ s, Reach (Channel.step compositeKeyError) AskedOfSome .genesis s →
      VotingSound compositeKeyError s := by
  intro sound
  have reached : Reach (Channel.step compositeKeyError) AskedOfSome .genesis
      ([registerBank, joinNew, approveUnwritten].foldl (Channel.step compositeKeyError)
        .genesis) := by
    refine reach_foldl ⟨nofun, fun _ _ => ?_, nofun, trivial⟩
    decide
  have approvals := ((sound _ reached).sound "t1" _ rfl).approvals "\x00MSP"
  obtain ⟨vote, listed, _⟩ := approvals.mp rfl
  exact List.not_mem_nil listed

end Kufi.Chaincode.Governance

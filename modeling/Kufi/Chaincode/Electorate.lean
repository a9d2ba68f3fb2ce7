import Kufi.Chaincode.VotingRuns

set_option autoImplicit false

/-!
# Who decides, and by which policy

The history of a channel keeps, for each request, the organisations that were
registered when it was made and the policy that was in force then.
-/

namespace Kufi.Chaincode.Governance

open Shared

structure Founding where
  electorate : List String
  policy : GovernancePolicy

structure History where
  channel : Channel
  foundings : Dict String Founding

def History.genesis : History := ⟨.genesis, ∅⟩

variable (attributeError : AttributeError)

-- A step makes at most the request with the id of its transaction.
def History.step (h : History) (tx : Transaction) : History :=
  let after := h.channel.step attributeError tx
  { channel := after
    foundings :=
      if (h.channel.ledger.joinRequests.get tx.ctx.txID).isNone ∧
          (after.ledger.joinRequests.get tx.ctx.txID).isSome then
        h.foundings.set tx.ctx.txID
          { electorate := h.channel.ledger.orgRegistry.keys
            policy := getPolicy h.channel.ledger }
      else h.foundings }

variable {attributeError}

/-- The request was founded by as many organisations as it counts. -/
structure Founded (h : History) (requestID : String) (req : JoinRequest) (founding : Founding) :
    Prop where
  recorded : h.foundings.get requestID = some founding
  distinct : founding.electorate.Nodup
  counted : founding.electorate.length = req.totalOrgs

def AllFounded (h : History) : Prop :=
  ∀ requestID req, h.channel.ledger.joinRequests.get requestID = some req →
    ∃ founding, Founded h requestID req founding

/-- What a step records of a request that was there before stays. -/
theorem foundings_step {h : History} {tx : Transaction} {requestID : String} {req : JoinRequest}
    (found : h.channel.ledger.joinRequests.get requestID = some req) :
    (h.step attributeError tx).foundings.get requestID = h.foundings.get requestID := by
  simp only [History.step]
  split_ifs with new
  · have other : requestID ≠ tx.ctx.txID := by
      rintro rfl
      rw [found] at new
      cases new.1
    rw [Dict.get_set, if_neg other]
  · rfl

theorem foundings_new {h : History} {tx : Transaction} (known : Known h.channel)
    (unused : tx.ctx.txID ∉ h.channel.txIDs) {after : JoinRequest}
    (found : (h.channel.step attributeError tx).ledger.joinRequests.get tx.ctx.txID = some after) :
    (h.step attributeError tx).foundings.get tx.ctx.txID =
      some ⟨h.channel.ledger.orgRegistry.keys, getPolicy h.channel.ledger⟩ := by
  have absent : h.channel.ledger.joinRequests.get tx.ctx.txID = none := by
    by_contra present
    obtain ⟨req, requested⟩ := Option.ne_none_iff_exists'.mp present
    exact unused (known _ _ requested)
  simp [History.step, absent, found, Dict.get_set]

theorem allFounded_step {h : History} (known : Known h.channel) (founded : AllFounded h)
    (tx : Transaction) : AllFounded (h.step attributeError tx) := by
  intro requestID after found
  rcases request_step found with same | ⟨arguments, called, rfl, unused, rfl⟩ |
    ⟨req, decision, _, _, votable, rfl⟩
  · obtain ⟨founding, recorded, distinct, counted⟩ := founded _ _ same
    exact ⟨founding, (foundings_step same).trans recorded, distinct, counted⟩
  · refine ⟨_, foundings_new known unused found, AList.keys_nodup _, ?_⟩
    simp [newRequest, countExistingOrgs, Dict.size, AList.keys, List.keys]
  · obtain ⟨founding, recorded, distinct, counted⟩ := founded _ _ votable.found
    exact ⟨founding, (foundings_step votable.found).trans recorded, distinct, by simpa using counted⟩

theorem reach_founded {allowed : History → Transaction → Prop} {h : History}
    (reached : Reach (History.step attributeError) allowed .genesis h) :
    Known h.channel ∧ AllFounded h ∧ h.channel.ledger.All Tally := by
  refine reached.invariant (fun h => Known h.channel ∧ AllFounded h ∧ h.channel.ledger.All Tally)
    ⟨fun _ _ found => ?_, fun _ _ found => ?_, fun _ _ found => ?_⟩ fun h tx inv _ => ?_
  · cases found
  · cases found
  · cases found
  · exact ⟨known_step inv.1 tx, allFounded_step inv.1 inv.2.1 tx,
      all_step (fun _ _ => tally_newRequest _ _ _)
        (fun _ _ decision votable => tally_voted votable decision) inv.2.2⟩

/-! ## The policy in force -/

/-- What the policy demands of the approvals of a request to `n` organisations. -/
def GovernancePolicy.Demands (policy : GovernancePolicy) (n approvals : Nat) : Prop :=
  match policy.policyType with
  | .majority => n < 2 * approvals
  | .unanimous => n ≤ approvals
  | .threshold => policy.thresholdPct * n ≤ 100 * approvals

/-- The demand is that of a majority. -/
def GovernancePolicy.Honoured (policy : GovernancePolicy) (n : Nat) : Prop :=
  match policy.policyType with
  | .majority => True
  | .unanimous => n ≤ 2
  | .threshold => 100 * (n / 2 : Nat) < policy.thresholdPct * n ∧
    policy.thresholdPct * n ≤ 100 * (n / 2 + 1 : Nat)

theorem honoured_iff (policy : GovernancePolicy) {n : Nat} (some : 0 < n) :
    policy.Honoured n ↔ ∀ approvals, policy.Demands n approvals ↔ n / 2 + 1 ≤ approvals := by
  unfold GovernancePolicy.Honoured GovernancePolicy.Demands
  cases policy.policyType with
  | majority =>
    simp only [true_iff]
    omega
  | unanimous =>
    simp only
    constructor
    · omega
    · intro same
      have := same n
      have := same (n / 2 + 1)
      omega
  | threshold =>
    simp only
    generalize policy.thresholdPct * (n : Int) = demanded
    constructor
    · omega
    · intro same
      have := same (n / 2)
      have := same (n / 2 + 1)
      omega

/-- For every request that was made of some organisation under a policy that demands a majority. -/
theorem policy_honoured {h : History} (reached : Reach (History.step attributeError) Free .genesis h)
    {requestID : String} {req : JoinRequest} {founding : Founding}
    (found : h.channel.ledger.joinRequests.get requestID = some req)
    (recorded : h.foundings.get requestID = some founding)
    (some : 0 < founding.electorate.length)
    (honoured : founding.policy.Honoured founding.electorate.length) :
    req.status = .approved ↔
      founding.policy.Demands founding.electorate.length req.approvals.size := by
  obtain ⟨known, founded, tallies⟩ := reach_founded reached
  obtain ⟨other, recorded', _, counted⟩ := founded _ _ found
  obtain rfl := Option.some.inj (recorded.symm.trans recorded')
  have tally := tallies _ _ found
  rw [(honoured_iff _ some).mp honoured, counted, ← tally.ack]
  exact ⟨tally.approved, tally.reached (counted ▸ some)⟩

def historyOf (transactions : List Transaction) : History :=
  transactions.foldl (History.step compositeKeyError) .genesis

theorem policy_honoured_oneBank :
    ((newRequest joinNew.ctx newBank 1).voted approveNew.ctx .approve).status = .approved ↔
      (getPolicy Ledger.empty).Demands ["BankMSP"].length
        ((newRequest joinNew.ctx newBank 1).voted approveNew.ctx .approve).approvals.size := by
  have reached : Reach (History.step compositeKeyError) Free .genesis
      (historyOf [registerBank, joinNew, approveNew]) := reach_free _ _ _
  have recorded : (historyOf [registerBank, joinNew, approveNew]).foundings.get "t1" =
      some ⟨["BankMSP"], getPolicy .empty⟩ := rfl
  exact policy_honoured reached rfl recorded (by decide) trivial

def registerThree : Transaction :=
  ⟨invoked "t0" "BankMSP" 1700000000,
    .registerExistingOrgs (.ok
      [⟨"BankMSP", "Bank", "bank.vn"⟩, ⟨"CreditMSP", "Credit", "credit.vn"⟩,
        ⟨"TaxMSP", "Tax", "tax.vn"⟩])⟩

def demandAll : Transaction := ⟨invoked "p0" "BankMSP" 1700000000, .updatePolicy "UNANIMOUS" 51 168⟩

def approveToo : Transaction := ⟨invoked "t3" "CreditMSP" 1700000003, .approveJoin "t1" ""⟩

-- Two of three approvals are enough under a policy that demands all three.
theorem policy_not_consulted :
    ¬ ∀ (h : History) (requestID : String) (req : JoinRequest) (founding : Founding),
      Reach (History.step compositeKeyError) Free .genesis h →
      h.channel.ledger.joinRequests.get requestID = some req →
      h.foundings.get requestID = some founding → 0 < founding.electorate.length →
      (req.status = .approved ↔
        founding.policy.Demands founding.electorate.length req.approvals.size) := by
  intro honoured
  have agree := honoured
    (historyOf [registerThree, demandAll, joinNew, approveNew, approveToo]) "t1" _ _
    (reach_free _ _ _) rfl rfl (by decide)
  have demanded : 3 ≤ 2 := agree.mp rfl
  omega

/-! ## Members -/

/-- A vote that is counted is cast by an organisation that was registered when the request was
made. -/
def MembersVote (attributeError : AttributeError) (h : History) (tx : Transaction) : Prop :=
  ∀ requestID decision reason req founding, tx.call.ballot = some (requestID, decision, reason) →
    Votable attributeError h.channel.ledger tx.ctx requestID req →
    h.foundings.get requestID = some founding → tx.ctx.clientMSP ∈ founding.electorate

def AllMembers (h : History) : Prop :=
  ∀ requestID req founding, h.channel.ledger.joinRequests.get requestID = some req →
    h.foundings.get requestID = some founding →
    req.approvals.keys ⊆ founding.electorate ∧ req.rejections.keys ⊆ founding.electorate

theorem keys_set {dict : Dict String Stamp} {key : String} {value : Stamp} :
    (dict.set key value).keys ⊆ key :: dict.keys := by
  intro other listed
  rw [mem_keys, Dict.get_set] at listed
  split_ifs at listed with same
  · simp [same]
  · exact List.mem_cons_of_mem _ (mem_keys.mpr listed)

theorem allMembers_step {h : History} {tx : Transaction} (members : AllMembers h)
    (cast : MembersVote attributeError h tx) : AllMembers (h.step attributeError tx) := by
  intro requestID after founding found recorded
  rcases request_step found with same | ⟨arguments, called, rfl, unused, rfl⟩ |
    ⟨req, decision, reason, ballot, votable, rfl⟩
  · exact members _ _ _ same ((foundings_step same).symm.trans recorded)
  · simp [newRequest]
  · have before := (foundings_step votable.found).symm.trans recorded
    have voter := cast _ _ _ _ _ ballot votable before
    obtain ⟨approvals, rejections⟩ := members _ _ _ votable.found before
    rw [JoinRequest.voted_approvals, JoinRequest.voted_rejections]
    have more (dict : Dict String Stamp) (listed : dict.keys ⊆ founding.electorate) :
        (dict.set tx.ctx.clientMSP tx.ctx.txTimestamp).keys ⊆ founding.electorate :=
      List.Subset.trans keys_set (List.cons_subset.mpr ⟨voter, listed⟩)
    cases decision
    · exact ⟨more _ approvals, rejections⟩
    · exact ⟨approvals, more _ rejections⟩

/-- The organisations of the electorate on one side of the tally. -/
def castBy (electorate : List String) (side : Dict String Stamp) : Nat :=
  (electorate.filter fun msp => (side.get msp).isSome).length

theorem size_le_castBy {electorate : List String} {side : Dict String Stamp}
    (members : side.keys ⊆ electorate) : side.size ≤ castBy electorate side := by
  have inside : side.keys ⊆ electorate.filter fun msp => (side.get msp).isSome := by
    intro msp listed
    exact List.mem_filter.mpr ⟨members listed, mem_keys.mp listed⟩
  have bound := (List.subperm_of_subset (AList.keys_nodup side) inside).length_le
  simpa [AList.keys, List.keys, Dict.size, castBy] using bound

/-- In every run in which only members' votes are counted. -/
theorem members_decide {h : History}
    (reached : Reach (History.step attributeError) (MembersVote attributeError) .genesis h)
    {requestID : String} {req : JoinRequest} {founding : Founding}
    (found : h.channel.ledger.joinRequests.get requestID = some req)
    (recorded : h.foundings.get requestID = some founding) :
    (req.status = .approved →
      founding.electorate.length < 2 * castBy founding.electorate req.approvals) ∧
    (req.status = .rejected →
      ¬ founding.electorate.length <
        2 * (founding.electorate.length - castBy founding.electorate req.rejections)) := by
  obtain ⟨known, founded, tallies⟩ := reach_founded reached
  have members := reached.invariant AllMembers (fun _ _ _ found => by cases found)
    fun _ _ members cast => allMembers_step members cast
  obtain ⟨other, recorded', _, counted⟩ := founded _ _ found
  obtain rfl := Option.some.inj (recorded.symm.trans recorded')
  have tally := tallies _ _ found
  have ack := tally.ack
  obtain ⟨approvals, rejections⟩ := members _ _ _ found recorded
  have approved := size_le_castBy approvals
  have rejected := size_le_castBy rejections
  constructor
  · intro status
    have := tally.approved status
    omega
  · intro status
    have := tally.rejected status
    omega

theorem members_decide_oneBank :
    (JoinRequest.status ((newRequest joinNew.ctx newBank 1).voted approveNew.ctx .approve) =
        .approved →
      ["BankMSP"].length < 2 * castBy ["BankMSP"]
        ((newRequest joinNew.ctx newBank 1).voted approveNew.ctx .approve).approvals) ∧
    (JoinRequest.status ((newRequest joinNew.ctx newBank 1).voted approveNew.ctx .approve) =
        .rejected →
      ¬ ["BankMSP"].length < 2 * (["BankMSP"].length - castBy ["BankMSP"]
        ((newRequest joinNew.ctx newBank 1).voted approveNew.ctx .approve).rejections)) := by
  have reached : Reach (History.step compositeKeyError) (MembersVote compositeKeyError) .genesis
      (historyOf [registerBank, joinNew, approveNew]) := by
    refine reach_foldl ⟨?_, ?_, ?_, trivial⟩
    · intro _ _ _ _ _ ballot
      cases ballot
    · intro _ _ _ _ _ ballot
      cases ballot
    · intro requestID decision reason req founding ballot _ recorded
      cases ballot
      cases recorded
      exact List.mem_cons_self
  have recorded : (historyOf [registerBank, joinNew, approveNew]).foundings.get "t1" =
      some ⟨["BankMSP"], getPolicy .empty⟩ := rfl
  exact members_decide reached rfl recorded

def approveOutside : Transaction := ⟨invoked "t2" "StrangerMSP" 1700000002, .approveJoin "t1" ""⟩

-- An organisation that nobody has registered approves the request.
theorem stranger_decides :
    ¬ ∀ (h : History) (requestID : String) (req : JoinRequest) (founding : Founding),
      Reach (History.step compositeKeyError) Free .genesis h →
      h.channel.ledger.joinRequests.get requestID = some req →
      h.foundings.get requestID = some founding →
      (req.status = .approved →
        founding.electorate.length < 2 * castBy founding.electorate req.approvals) ∧
      (req.status = .rejected →
        ¬ founding.electorate.length <
          2 * (founding.electorate.length - castBy founding.electorate req.rejections)) := by
  intro decide
  have approved : 1 < 2 * 0 := (decide (historyOf [registerBank, joinNew, approveOutside]) "t1" _ _
    (reach_free _ _ _) rfl rfl).1 rfl
  omega

end Kufi.Chaincode.Governance

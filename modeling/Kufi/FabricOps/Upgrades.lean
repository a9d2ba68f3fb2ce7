import Kufi.FabricOps.Lifecycle

set_option autoImplicit false

/-!
# Chaincode upgrades

Any number of calls of the two entry points, of any orgs, with one signature
policy. A call that finds another policy committed than its own starts an
upgrade, so what is compared decides whether the upgrades come to an end.
-/

namespace Kufi.FabricOps

open Shared

/-! ## The channel -/

structure Definition where
  sequence : Int
  validationParameter : String
  deriving DecidableEq

structure Channel where
  committed : Option Definition
  deriving DecidableEq

def Channel.sequence (channel : Channel) : Int := (channel.committed.map Definition.sequence).getD 0

inductive Answer where
  | succeeds
  | fails (error : CommandError)
  | gives (text : String)
  | reports (approvals : Dict String Bool)
  | readiness (approvals : Option (Dict String Bool))

/-- The peers commit a definition at the next sequence only. `encode` makes the validation
parameter of a policy text. -/
def performCommand (encode : String → String) :
    Performer LifecycleOp LifecycleOp.Reply Answer Channel
  | .queryCommitted, .reports approvals, channel =>
    some (channel.committed.map fun d => ⟨d.sequence, d.validationParameter, approvals⟩, channel)
  | .queryCommitted, .fails _, channel => some (none, channel)
  | .buildChaincodeImage, .succeeds, channel => some (.ok (), channel)
  | .buildChaincodeImage, .fails e, channel => some (.error e.err, channel)
  | .queryInstalled, .gives text, channel => some (text, channel)
  | .buildCCAASPackage, .gives text, channel => some (.ok text, channel)
  | .buildCCAASPackage, .fails e, channel => some (.error e.err, channel)
  | .install _, .succeeds, channel => some (.ok (), channel)
  | .install _, .fails e, channel => some (.error e, channel)
  | .startCCContainer _, .succeeds, channel => some (.ok (), channel)
  | .startCCContainer _, .fails e, channel => some (.error e.err, channel)
  | .checkCommitReadiness _ _, .readiness approvals, channel => some (.ok approvals, channel)
  | .checkCommitReadiness _ _, .fails e, channel => some (.error e, channel)
  | .approveForMyOrg _ _ _, .succeeds, channel => some (.ok (), channel)
  | .approveForMyOrg _ _ _, .fails e, channel => some (.error e, channel)
  | .commit sequence policy, .succeeds, channel =>
    if sequence = channel.sequence + 1 then
      some (.ok (), { committed := some ⟨sequence, encode policy⟩ })
    else none
  | .commit _ _, .fails e, channel => some (.error e, channel)
  | .notifyPeersToUpgrade, .succeeds, channel => some ((), channel)
  | _, _, _ => none

/-! ## Runs -/

inductive LifecycleCall where
  | ensureChaincodeDeployed
  | tryCommitIfReady
  deriving DecidableEq

def LifecycleCall.code (proto : Proto) (cc : ChaincodeOps) : LifecycleCall → Lifecycle Unit
  | .ensureChaincodeDeployed => do
    let _ ← FabricOps.ensureChaincodeDeployed proto cc
    pure ()
  | .tryCommitIfReady => do
    let _ ← FabricOps.tryCommitIfReady proto cc
    pure ()

/-- A sequence that a call asks the peers about, with the sequence at which the policy had been
committed when the call began, and when it asks. -/
structure Request where
  since : Option Int
  settled : Option Int
  sequence : Int
  deriving DecidableEq

/-- The channel with the first sequence at which the policy was committed and the requests. -/
structure Lifecycles where
  channel : Channel
  settled : Option Int
  requests : List Request
  deriving DecidableEq

inductive LifecycleProcess where
  | idle
  | running (since : Option Int) (code : Lifecycle Unit)

inductive LifecycleMove where
  | start (call : LifecycleCall) (mspID : String)
  | next (answer : Answer)

section Runs

variable (proto : Proto) (encode : String → String) (policy : String)

def Channel.settledAt (channel : Channel) : Option Int :=
  channel.committed.bind fun d =>
    if d.validationParameter = encode policy then some d.sequence else none

def lifecycles : Machine Lifecycles LifecycleProcess LifecycleMove where
  step s
    | .idle, .start call mspID => some (s, .running s.settled (call.code proto ⟨mspID, policy⟩))
    | .running since (.perform op rest), .next answer =>
      (performCommand encode op answer s.channel).map fun result =>
        ({ channel := result.2
           settled := s.settled.or (result.2.settledAt encode policy)
           requests := (op.sequence?.map fun sequence => ⟨since, s.settled, sequence⟩).toList ++
             s.requests },
          .running since (rest result.1))
    | _, _ => none

/-- Once the policy is committed it stays, at its sequence: the later calls ask for that one, and
no call for a next one. -/
structure Settles (s : Lifecycles) : Prop where
  stays : ∀ sequence ∈ s.settled, s.channel.committed = some ⟨sequence, encode policy⟩
  targets : ∀ request ∈ s.requests, ∀ sequence ∈ request.since, request.sequence = sequence
  upgrades : ∀ request ∈ s.requests, ∀ sequence ∈ request.settled, request.sequence ≤ sequence

/-- No call is being served. -/
structure Unstarted (world : World Nat Lifecycles LifecycleProcess) : Prop where
  idle : ∀ i, world.procs i = .idle
  requests : world.shared.requests = []
  settled : world.shared.settled = world.shared.channel.settledAt encode policy
  sequence : ∀ d ∈ world.shared.channel.committed, 1 ≤ d.sequence

/-- The peer reports what is committed. -/
def Reporting (world : World Nat Lifecycles LifecycleProcess) (i : Nat) (move : LifecycleMove) :
    Prop :=
  match world.procs i, move with
  | .running _ (.perform .queryCommitted _), .next (.fails _) => False
  | _, _ => True

def SettlesInRuns : Prop :=
  ∀ start world, Unstarted encode policy start →
    (lifecycles proto encode policy).Reaches Reporting start world →
    Settles encode policy world.shared

end Runs

/-- A committed policy is held to be the configured one exactly when it names the same MSPs. -/
def ComparesSets (proto : Proto) (mspIDs : List String) : Prop :=
  ∀ others encoded, others ≠ [] → others.Nodup → Quotable others → Reports proto others encoded →
    (committedPolicy proto encoded = orPolicy mspIDs ↔ ∀ id, id ∈ others ↔ id ∈ mspIDs)

/-! ## What a call asks for -/

/-- The operation asks for this sequence and policy, if for any. -/
def LifecycleOp.For (sequence : Int) (policy : String) : LifecycleOp → Prop
  | .checkCommitReadiness asked text | .approveForMyOrg _ asked text | .commit asked text =>
    asked = sequence ∧ text = policy
  | _ => True

abbrev AsksFor {A : Type} (sequence : Int) (policy : String) (procedure : Lifecycle A) : Prop :=
  procedure.Asks (LifecycleOp.For sequence policy) (fun _ _ => True) fun _ => True

section AsksFor

variable (cc : ChaincodeOps) (sequence : Int)

theorem orFail_asksFor {A B : Type} {policy : String} (text : String) (result : Except String A)
    {next : A → Lifecycle (Except String B)} (later : ∀ value, AsksFor sequence policy (next value)) :
    AsksFor sequence policy (orFail text result next) := by
  cases result with
  | error err => trivial
  | ok value => exact later value

theorem checkCommitReadiness_asksFor :
    AsksFor sequence cc.signaturePolicy (checkCommitReadiness cc sequence) := by
  refine .ask trivial fun result _ => ?_
  split
  · trivial
  · refine .ask ⟨rfl, rfl⟩ fun answer _ => ?_
    cases answer <;> trivial

theorem isApprovedForMyOrg_asksFor :
    AsksFor sequence cc.signaturePolicy (isApprovedForMyOrg cc sequence) := by
  refine .ask trivial fun result _ => ?_
  split
  · trivial
  · exact .bind (checkCommitReadiness_asksFor cc sequence) fun _ _ => trivial

theorem pollReadiness_asksFor (timeoutSec left : Nat) (lastErr : String) :
    AsksFor sequence cc.signaturePolicy (pollReadiness cc sequence timeoutSec left lastErr) := by
  induction left generalizing lastErr with
  | zero => trivial
  | succ left ih =>
    refine .ask ⟨rfl, rfl⟩ fun answer _ => ?_
    cases answer with
    | ok approvals => trivial
    | error e =>
      dsimp only
      split
      · exact ih e.output
      · trivial

theorem waitForLifecycleReady_asksFor (timeoutSec : Nat) :
    AsksFor sequence cc.signaturePolicy (waitForLifecycleReady cc sequence timeoutSec) := by
  refine .ask trivial fun result _ => ?_
  split
  · trivial
  · exact pollReadiness_asksFor cc sequence _ _ _

theorem attempts_asksFor {op : LifecycleOp} (asks : op.For sequence cc.signaturePolicy)
    (outcome : op.Reply → Except CommandError Unit) (failure : String) (left : Nat) :
    AsksFor sequence cc.signaturePolicy (attempts op outcome failure left) := by
  induction left with
  | zero => trivial
  | succ left ih =>
    refine .ask asks fun reply _ => ?_
    split
    · trivial
    · split
      · exact ih
      · trivial

theorem approveChaincode_asksFor (pkgID : String) :
    AsksFor sequence cc.signaturePolicy (approveChaincode cc pkgID sequence) := by
  refine .bind (isApprovedForMyOrg_asksFor cc sequence) fun approved _ => ?_
  split
  · trivial
  · have asks : LifecycleOp.For sequence cc.signaturePolicy
        (.approveForMyOrg pkgID sequence cc.signaturePolicy) := ⟨rfl, rfl⟩
    exact attempts_asksFor cc sequence asks _ _ _

theorem commitChaincode_asksFor :
    AsksFor sequence cc.signaturePolicy (commitChaincode cc sequence) := by
  have committed : AsksFor sequence cc.signaturePolicy committedSequence := by
    refine .ask trivial fun result _ => ?_
    cases result <;> trivial
  refine .bind committed fun committed _ => ?_
  split
  · trivial
  · have asks : LifecycleOp.For sequence cc.signaturePolicy (.commit sequence cc.signaturePolicy) :=
      ⟨rfl, rfl⟩
    exact attempts_asksFor cc sequence asks _ _ _

theorem installChaincode_asksFor (policy pkgPath : String) :
    AsksFor sequence policy (installChaincode pkgPath) := by
  refine .ask trivial fun pkgID _ => ?_
  split
  · trivial
  · refine .ask trivial fun installed _ => ?_
    cases installed with
    | error e => trivial
    | ok =>
      refine .ask trivial fun pkgID _ => ?_
      split <;> trivial

theorem installedOrBuilt_asksFor (policy : String) : AsksFor sequence policy installedOrBuilt := by
  refine .ask trivial fun pkgID _ => ?_
  split
  · trivial
  · refine .ask trivial fun built _ => orFail_asksFor sequence _ built fun pkgPath => ?_
    exact .bind (installChaincode_asksFor sequence policy pkgPath) fun installed _ =>
      orFail_asksFor sequence _ installed fun _ => trivial

theorem approveUnlessApproved_asksFor (pkgID : String) :
    AsksFor sequence cc.signaturePolicy (approveUnlessApproved cc pkgID sequence) := by
  refine .bind (isApprovedForMyOrg_asksFor cc sequence) fun approved _ => ?_
  split
  · trivial
  · exact approveChaincode_asksFor cc sequence pkgID

theorem commitIfMajority_asksFor :
    AsksFor sequence cc.signaturePolicy (commitIfMajority cc sequence) := by
  refine .bind (checkCommitReadiness_asksFor cc sequence) fun approvals _ => ?_
  cases approvals with
  | none => trivial
  | some approvals =>
    dsimp only
    split
    · exact .bind (commitChaincode_asksFor cc sequence) fun committed _ =>
        orFail_asksFor sequence _ committed fun _ => trivial
    · exact .ask trivial fun _ _ => trivial

theorem autoApprove_asksFor :
    AsksFor sequence cc.signaturePolicy (autoApprove cc sequence) := by
  refine .bind (isApprovedForMyOrg_asksFor cc sequence) fun approved _ => ?_
  split
  · trivial
  · refine .ask trivial fun pkgID _ => ?_
    split
    · trivial
    · refine .bind (approveChaincode_asksFor cc sequence pkgID) fun approved _ => ?_
      cases approved <;> trivial

theorem deployTarget_asksFor (committedSeq : Int) (upgrading : Bool) :
    AsksFor sequence cc.signaturePolicy (deployTarget cc committedSeq sequence upgrading) := by
  refine .ask trivial fun image _ => orFail_asksFor sequence _ image fun _ => ?_
  refine .bind (installedOrBuilt_asksFor sequence _) fun installed _ => ?_
  cases installed with
  | error err => trivial
  | ok pkgID =>
    refine .ask trivial fun started _ => orFail_asksFor sequence _ started fun _ => ?_
    refine .bind (waitForLifecycleReady_asksFor cc sequence 120) fun ready _ => ?_
    refine orFail_asksFor sequence _ ready fun _ => ?_
    refine .bind (approveUnlessApproved_asksFor cc sequence pkgID) fun approved _ => ?_
    refine orFail_asksFor sequence _ approved fun _ => ?_
    split
    · trivial
    · exact commitIfMajority_asksFor cc sequence

theorem commitTarget_asksFor (committedSeq : Int) :
    AsksFor sequence cc.signaturePolicy (commitTarget cc committedSeq sequence) := by
  unfold commitTarget
  split
  · exact autoApprove_asksFor cc sequence
  · refine .bind (waitForLifecycleReady_asksFor cc sequence 30) fun ready _ => ?_
    cases ready with
    | error err => trivial
    | ok =>
      refine .bind (autoApprove_asksFor cc sequence) fun approved _ => ?_
      split
      · trivial
      · refine .bind (checkCommitReadiness_asksFor cc sequence) fun approvals _ => ?_
        cases approvals with
        | none => trivial
        | some approvals =>
          dsimp only
          split
          · trivial
          · refine .bind (commitChaincode_asksFor cc sequence) fun committed _ => ?_
            cases committed <;> trivial

end AsksFor

/-! ## The target of a call -/

/-- The policy of the calls, committed or about to be committed at this sequence. -/
structure Goal where
  parameter : String
  policy : String
  sequence : Int

namespace Goal

variable (goal : Goal)

/-- A call that began after the commit asks for its sequence, another for none after it. -/
def Permits (later : Bool) (op : LifecycleOp) : Prop :=
  ∃ sequence, op.For sequence goal.policy ∧ sequence ≤ goal.sequence ∧
    (later = true → sequence = goal.sequence)

/-- What the call is told, by whether it knows that the policy is committed. -/
def Becomes (known : Bool) (op : LifecycleOp) (reply : op.Reply) (after : Bool) : Prop :=
  match op, reply with
  | .queryCommitted, none => known = false ∧ after = false ∧ goal.sequence = 1
  | .queryCommitted, some d =>
    after = true ∧ d.sequence = goal.sequence ∧ d.validationParameter = goal.parameter ∨
      known = false ∧ after = false ∧ 1 ≤ d.sequence ∧ d.sequence + 1 = goal.sequence
  | _, _ => after = known

abbrev Tracks {A : Type} (later : Bool) (post : Bool → A → Prop) (known : Bool)
    (procedure : Lifecycle A) : Prop :=
  procedure.Tracks (fun _ => goal.Permits later) goal.Becomes post known

end Goal

section Target

variable {goal : Goal} {later known : Bool}

theorem AsksFor.tracks {A : Type} {sequence : Int} {procedure : Lifecycle A}
    (asks : AsksFor sequence goal.policy procedure) (bound : sequence ≤ goal.sequence)
    (target : later = true → sequence = goal.sequence) :
    goal.Tracks later (fun _ _ => True) known procedure :=
  asks.tracks_always fun _ _ about => ⟨sequence, about, bound, target⟩

theorem Goal.permits_queryCommitted : goal.Permits later .queryCommitted :=
  ⟨goal.sequence, trivial, le_rfl, fun _ => rfl⟩

theorem committedSequence_tracks :
    goal.Tracks later (fun after committed =>
      after = true ∧ committed = goal.sequence ∨
        known = false ∧ after = false ∧ 0 ≤ committed ∧ committed + 1 = goal.sequence) known
      committedSequence := by
  refine .ask goal.permits_queryCommitted fun reply after becomes => ?_
  cases reply with
  | none =>
    obtain ⟨unknown, rfl, first⟩ := becomes
    exact .inr ⟨unknown, rfl, le_rfl, by omega⟩
  | some d =>
    rcases becomes with ⟨rfl, same, _⟩ | ⟨unknown, rfl, positive, next⟩
    · exact .inl ⟨rfl, same⟩
    · exact .inr ⟨unknown, rfl, by omega, next⟩

theorem committedSignaturePolicy_tracks (proto : Proto) :
    goal.Tracks later (fun after text =>
      after = true ∧ text = committedPolicy proto goal.parameter ∨ known = false) known
      (committedSignaturePolicy proto) := by
  refine .ask goal.permits_queryCommitted fun reply after becomes => ?_
  cases reply with
  | none => exact .inr becomes.1
  | some d =>
    rcases becomes with ⟨rfl, _, same⟩ | ⟨unknown, _⟩
    · exact .inl ⟨rfl, by rw [same]⟩
    · exact .inr unknown

/-- A call that finds its policy committed has its sequence for its target. -/
theorem target_tracks {A : Type} {proto : Proto} {cc : ChaincodeOps}
    (policy : cc.signaturePolicy = goal.policy)
    (read : committedPolicy proto goal.parameter = goal.policy) (positive : 1 ≤ goal.sequence)
    (knows : later = true → known = true) {rest : Int → String → Lifecycle A}
    (asks : ∀ committedSeq committedPolicy,
      AsksFor (targetSequence cc committedSeq committedPolicy).1 goal.policy
        (rest committedSeq committedPolicy)) :
    goal.Tracks later (fun _ _ => True) known
      (committedSequence >>= fun committedSeq =>
        committedSignaturePolicy proto >>= rest committedSeq) := by
  refine .bind committedSequence_tracks fun committedSeq after first => ?_
  refine .bind (committedSignaturePolicy_tracks proto) fun text after' second => ?_
  have target : (targetSequence cc committedSeq text).1 ≤ goal.sequence ∧
      (later = true → (targetSequence cc committedSeq text).1 = goal.sequence) := by
    rcases first with ⟨rfl, rfl⟩ | ⟨unknown, _, _, next⟩
    · obtain ⟨_, rfl⟩ := second.resolve_right (by decide)
      rw [targetSequence, if_pos positive, if_pos (.inr (read.trans policy.symm))]
      exact ⟨le_rfl, fun _ => rfl⟩
    · refine ⟨?_, fun after => absurd (knows after) (by simp [unknown])⟩
      unfold targetSequence
      split_ifs <;> dsimp only <;> omega
  exact (asks committedSeq text).tracks target.1 target.2

theorem code_tracks {proto : Proto} {cc : ChaincodeOps} (policy : cc.signaturePolicy = goal.policy)
    (read : committedPolicy proto goal.parameter = goal.policy) (positive : 1 ≤ goal.sequence)
    (knows : later = true → known = true) (call : LifecycleCall) :
    goal.Tracks later (fun _ _ => True) known (call.code proto cc) := by
  cases call with
  | ensureChaincodeDeployed =>
    refine .bind (target_tracks policy read positive knows fun committedSeq text => ?_)
      fun _ _ _ => trivial
    exact policy ▸ deployTarget_asksFor cc _ committedSeq _
  | tryCommitIfReady =>
    refine .bind (target_tracks policy read positive knows fun committedSeq text => ?_)
      fun _ _ _ => trivial
    exact policy ▸ commitTarget_asksFor cc _ committedSeq

end Target

/-! ## Every run -/

section Sorted

variable {proto : Proto} {encode : String → String} {policy : String} {goal : Goal}

/-- The policy is committed at the sequence of the goal, or that is the next one. -/
structure Goal.Sought (goal : Goal) (s : Lifecycles) : Prop where
  channel : s.settled = some goal.sequence ∧
      s.channel.committed = some ⟨goal.sequence, goal.parameter⟩ ∨
    s.settled = none ∧ s.channel.sequence + 1 = goal.sequence ∧
      ∀ d ∈ s.channel.committed, 1 ≤ d.sequence ∧ d.validationParameter ≠ goal.parameter
  requests : ∀ request ∈ s.requests, request.sequence ≤ goal.sequence ∧
    (∀ since ∈ request.since, since = goal.sequence ∧ request.sequence = goal.sequence) ∧
    ∀ settled ∈ request.settled, settled = goal.sequence

def Goal.Sound (goal : Goal) (s : Lifecycles) : LifecycleProcess → Prop
  | .idle => True
  | .running since code => (∀ sequence ∈ since, sequence = goal.sequence) ∧
      ∃ known, (known = true → s.settled = some goal.sequence) ∧
        goal.Tracks since.isSome (fun _ _ => True) known code

theorem performCommand_channel {op : LifecycleOp} {answer : Answer} {channel after : Channel}
    {reply : op.Reply}
    (performed : performCommand encode op answer channel = some (reply, after)) :
    after = channel ∨ ∃ text, op = .commit (channel.sequence + 1) text ∧
      after = { committed := some ⟨channel.sequence + 1, encode text⟩ } := by
  cases op with
  | commit sequence text =>
    cases answer with
    | succeeds =>
      simp only [performCommand] at performed
      split_ifs at performed with next
      cases performed
      exact .inr ⟨text, next ▸ rfl, next ▸ rfl⟩
    | fails e => cases performed; exact .inl rfl
    | _ => cases performed
  | _ => cases answer <;> cases performed <;> exact .inl rfl

theorem performCommand_query {answer : Answer} {channel after : Channel}
    {reply : Option CommittedDefinition} (answers : ∀ e, answer ≠ .fails e)
    (performed : performCommand encode .queryCommitted answer channel = some (reply, after)) :
    ∃ approvals, reply = channel.committed.map fun d =>
      ⟨d.sequence, d.validationParameter, approvals⟩ := by
  cases answer with
  | reports approvals => cases performed; exact ⟨approvals, rfl⟩
  | fails e => exact absurd rfl (answers e)
  | _ => cases performed

theorem Goal.Sought.becomes {s : Lifecycles} {op : LifecycleOp} {answer : Answer}
    {reply : op.Reply} {after : Channel} {known : Bool} (sought : goal.Sought s)
    (knows : known = true → s.settled = some goal.sequence)
    (answers : op = .queryCommitted → ∀ e, answer ≠ .fails e)
    (performed : performCommand encode op answer s.channel = some (reply, after)) :
    ∃ known', goal.Becomes known op reply known' ∧
      (known' = true → s.settled = some goal.sequence) := by
  cases op with
  | queryCommitted =>
    obtain ⟨approvals, rfl⟩ := performCommand_query (answers rfl) performed
    rcases sought.channel with ⟨settled, committed⟩ | ⟨unsettled, next, committed⟩
    · rw [committed]
      exact ⟨true, .inl ⟨rfl, rfl, rfl⟩, fun _ => settled⟩
    · have unknown : known = false := by
        cases known with
        | false => rfl
        | true => exact absurd (unsettled.symm.trans (knows rfl)) nofun
      refine ⟨false, ?_, nofun⟩
      unfold Channel.sequence at next
      cases found : s.channel.committed with
      | none =>
        rw [found] at next
        exact ⟨unknown, rfl, by simpa using next.symm⟩
      | some d =>
        rw [found] at next
        exact .inr ⟨unknown, rfl, (committed d found).1, next⟩
  | _ => exact ⟨known, rfl, knows⟩

theorem Goal.Sought.requests_perform {s : Lifecycles} {op : LifecycleOp} {since : Option Int}
    (sought : goal.Sought s) (began : ∀ sequence ∈ since, sequence = goal.sequence)
    (permits : goal.Permits since.isSome op) :
    ∀ request ∈ (op.sequence?.map fun sequence => ⟨since, s.settled, sequence⟩).toList ++ s.requests,
      request.sequence ≤ goal.sequence ∧
        (∀ since ∈ request.since, since = goal.sequence ∧ request.sequence = goal.sequence) ∧
        ∀ settled ∈ request.settled, settled = goal.sequence := by
  intro request member
  rcases List.mem_append.mp member with new | old
  · obtain ⟨sequence, asked, rfl⟩ := Option.map_eq_some_iff.mp (Option.mem_toList.mp new)
    obtain ⟨target, about, bound, later⟩ := permits
    have same : sequence = target := by
      cases op <;> cases asked <;> exact about.1
    refine ⟨same ▸ bound, fun first has => ⟨began first has, ?_⟩, fun settled has => ?_⟩
    · exact same.trans (later (Option.isSome_of_mem has))
    · rcases sought.channel with ⟨at_, _⟩ | ⟨unsettled, _⟩
      · exact Option.some.inj (has.symm.trans at_)
      · rw [unsettled] at has
        cases has
  · exact sought.requests request old

theorem Goal.Sought.perform {s : Lifecycles} {op : LifecycleOp} {answer : Answer}
    {reply : op.Reply} {after : Channel} {since : Option Int}
    (sought : goal.Sought s) (parameter : goal.parameter = encode goal.policy)
    (began : ∀ sequence ∈ since, sequence = goal.sequence)
    (permits : goal.Permits since.isSome op)
    (performed : performCommand encode op answer s.channel = some (reply, after)) :
    goal.Sought
      { channel := after
        settled := s.settled.or (after.settledAt encode goal.policy)
        requests := (op.sequence?.map fun sequence => ⟨since, s.settled, sequence⟩).toList ++
          s.requests } where
  requests := sought.requests_perform began permits
  channel := by
    rcases performCommand_channel performed with rfl | ⟨text, rfl, rfl⟩
    · rcases sought.channel with ⟨settled, committed⟩ | ⟨unsettled, next, committed⟩
      · exact .inl ⟨by rw [settled]; rfl, committed⟩
      · refine .inr ⟨?_, next, committed⟩
        have unmatched : s.channel.settledAt encode goal.policy = none := by
          unfold Channel.settledAt
          rw [Option.bind_eq_none_iff]
          exact fun d found => if_neg fun same => (committed d found).2 (same.trans parameter.symm)
        rw [unsettled, unmatched]
        rfl
    · obtain ⟨target, ⟨rfl, rfl⟩, bound, _⟩ := permits
      rcases sought.channel with ⟨_, committed⟩ | ⟨unsettled, next, _⟩
      · have past : s.channel.sequence = goal.sequence := by rw [Channel.sequence, committed]; rfl
        omega
      · refine .inl ⟨?_, ?_⟩
        · rw [unsettled, next, Channel.settledAt]
          exact if_pos rfl
        · rw [next, parameter]

theorem Goal.Sought.settles {s : Lifecycles} (sought : goal.Sought s)
    (parameter : goal.parameter = encode goal.policy) : Settles encode goal.policy s where
  stays sequence settled := by
    rcases sought.channel with ⟨at_, committed⟩ | ⟨unsettled, _⟩
    · obtain rfl := Option.some.inj (at_.symm.trans settled)
      rw [committed, parameter]
    · rw [unsettled] at settled
      cases settled
  targets request member sequence since := by
    obtain ⟨same, target⟩ := (sought.requests request member).2.1 sequence since
    rw [same, target]
  upgrades request member sequence settled := by
    rw [(sought.requests request member).2.2 sequence settled]
    exact (sought.requests request member).1

theorem lifecycles_step_cases {s after : Lifecycles} {proc next : LifecycleProcess}
    {move : LifecycleMove}
    (stepped : (lifecycles proto encode policy).step s proc move = some (after, next)) :
    (∃ (call : LifecycleCall) (mspID : String), proc = .idle ∧ after = s ∧
        next = .running s.settled (call.code proto ⟨mspID, policy⟩)) ∨
      ∃ since op rest answer reply channel, proc = .running since (.perform op rest) ∧
        move = .next answer ∧ performCommand encode op answer s.channel = some (reply, channel) ∧
        after =
          { channel := channel
            settled := s.settled.or (channel.settledAt encode policy)
            requests := (op.sequence?.map fun sequence => ⟨since, s.settled, sequence⟩).toList ++
              s.requests } ∧
        next = .running since (rest reply) := by
  cases proc with
  | idle =>
    cases move with
    | start call mspID => cases stepped; exact .inl ⟨call, mspID, rfl, rfl, rfl⟩
    | next answer => cases stepped
  | running since code =>
    cases code with
    | done value => cases stepped
    | perform op rest =>
      cases move with
      | start call mspID => cases stepped
      | next answer =>
        obtain ⟨⟨reply, channel⟩, performed, same⟩ := Option.map_eq_some_iff.mp stepped
        cases same
        exact .inr ⟨since, op, rest, answer, reply, channel, rfl, rfl, performed, rfl, rfl⟩

theorem Goal.Sound.grown {s after : Lifecycles} {proc : LifecycleProcess} (sound : goal.Sound s proc)
    (keeps : s.settled = some goal.sequence → after.settled = some goal.sequence) :
    goal.Sound after proc := by
  cases proc with
  | idle => trivial
  | running since code =>
    obtain ⟨began, known, knows, tracks⟩ := sound
    exact ⟨began, known, fun knew => keeps (knows knew), tracks⟩

/-- Where the runs from a start are going. -/
def goalOf (encode : String → String) (policy : String)
    (world : World Nat Lifecycles LifecycleProcess) : Goal where
  parameter := encode policy
  policy := policy
  sequence := world.shared.settled.getD (world.shared.channel.sequence + 1)

theorem Unstarted.sought {start : World Nat Lifecycles LifecycleProcess}
    (unstarted : Unstarted encode policy start) :
    (goalOf encode policy start).Sought start.shared ∧ 1 ≤ (goalOf encode policy start).sequence := by
  have settled := unstarted.settled
  have positive := unstarted.sequence
  unfold Channel.settledAt at settled
  cases committed : start.shared.channel.committed with
  | none =>
    rw [committed] at settled
    have sequence : start.shared.channel.sequence = 0 := by rw [Channel.sequence, committed]; rfl
    refine ⟨⟨.inr ⟨settled, ?_, ?_⟩, by simp [unstarted.requests]⟩, ?_⟩
    · simp [goalOf, settled]
    · simp [committed]
    · simp [goalOf, settled, sequence]
  | some d =>
    rw [committed] at settled
    have sequence : start.shared.channel.sequence = d.sequence := by
      rw [Channel.sequence, committed]
      rfl
    have first := positive d committed
    by_cases same : d.validationParameter = encode policy
    · have at_ : start.shared.settled = some d.sequence := settled.trans (if_pos same)
      refine ⟨⟨.inl ⟨?_, ?_⟩, by simp [unstarted.requests]⟩, ?_⟩
      · simp [goalOf, at_]
      · simp [goalOf, at_, committed, ← same]
      · simpa [goalOf, at_] using first
    · have none : start.shared.settled = none := settled.trans (if_neg same)
      refine ⟨⟨.inr ⟨none, ?_, ?_⟩, by simp [unstarted.requests]⟩, ?_⟩
      · simp [goalOf, none]
      · rintro other found
        obtain rfl := Option.some.inj (committed.symm.trans found)
        exact ⟨first, same⟩
      · simp only [goalOf, none, Option.getD_none, sequence]
        omega

theorem settlesInRuns_of_read (read : committedPolicy proto (encode policy) = policy) :
    SettlesInRuns proto encode policy := by
  intro start world unstarted reached
  obtain ⟨initial, positive⟩ := unstarted.sought
  have invariant := reached.assertions (goalOf encode policy start).Sought
    (fun s _ => (goalOf encode policy start).Sound s) ?_ ?_
  · exact invariant.1.settles rfl
  · exact ⟨initial, fun i => unstarted.idle i ▸ trivial⟩
  · intro world i move shared next sought sound reporting stepped
    rcases lifecycles_step_cases stepped with
      ⟨call, mspID, idle, rfl, rfl⟩ |
      ⟨since, op, rest, answer, reply, channel, running, rfl, performed, rfl, rfl⟩
    · refine ⟨sought, ⟨?_, world.shared.settled.isSome, ?_, code_tracks rfl read positive id call⟩,
        fun j _ => sound j⟩
      · intro sequence settled
        rcases sought.channel with ⟨at_, _⟩ | ⟨unsettled, _⟩
        · exact Option.some.inj (settled.symm.trans at_)
        · rw [unsettled] at settled
          cases settled
      · intro known
        rcases sought.channel with ⟨at_, _⟩ | ⟨unsettled, _⟩
        · exact at_
        · rw [unsettled] at known
          cases known
    · have own := sound i
      rw [running] at own
      obtain ⟨began, known, knows, permits, later⟩ := own
      have answers : op = .queryCommitted → ∀ e, answer ≠ .fails e := by
        rintro rfl e rfl
        simp only [Reporting, running] at reporting
      obtain ⟨known', becomes, knows'⟩ := sought.becomes knows answers performed
      have keeps (settled : world.shared.settled = some (goalOf encode policy start).sequence) :
          world.shared.settled.or (channel.settledAt encode policy) =
            some (goalOf encode policy start).sequence := by
        rw [settled]
        rfl
      refine ⟨sought.perform rfl began permits performed, ?_, fun j _ => (sound j).grown keeps⟩
      exact ⟨began, known', fun knew => keeps (knows' knew), later reply known' becomes⟩

end Sorted

/-! ## Policies that are read back in another order -/

section Unsorted

variable {proto : Proto} {encode : String → String} {policy : String}

/-- The policy has just been committed at sequence 1. -/
def committedStart (encode : String → String) (policy : String) :
    World Nat Lifecycles LifecycleProcess where
  shared := { channel := { committed := some ⟨1, encode policy⟩ }, settled := some 1, requests := [] }
  procs _ := .idle

theorem committedStart_unstarted : Unstarted encode policy (committedStart encode policy) where
  idle _ := rfl
  requests := rfl
  settled := (if_pos rfl).symm
  sequence := by
    rintro _ ⟨⟩
    exact le_rfl

-- The call asks whether the next sequence is ready to be committed.
def retriedCommit : List (Nat × LifecycleMove) :=
  [(0, .start .tryCommitIfReady "OrgMSP"), (0, .next (.reports ∅)), (0, .next (.reports ∅)),
    (0, .next (.reports ∅)), (0, .next (.readiness none))]

instance (world : World Nat Lifecycles LifecycleProcess) (i : Nat) (move : LifecycleMove) :
    Decidable (Reporting world i move) := by
  unfold Reporting
  split <;> infer_instance

theorem retriedCommit_requests (stated : policy ≠ "")
    (unread : committedPolicy proto (encode policy) ≠ policy) :
    ((lifecycles proto encode policy).checkedRun Reporting (committedStart encode policy)
      retriedCommit).map (fun world => world.shared.requests) = some [⟨some 1, some 1, 2⟩] := by
  have target (mspID : String) : targetSequence ⟨mspID, policy⟩ 1
      (committedPolicy proto (encode policy)) = (2, true) := by
    simp [targetSequence, stated, unread]
  simp [retriedCommit, Machine.checkedRun, Reporting, Machine.fire, lifecycles, committedStart,
    LifecycleCall.code, tryCommitIfReady, committedSequence, committedSignaturePolicy,
    performCommand, target, commitTarget, waitForLifecycleReady, pollReadiness, Channel.settledAt,
    LifecycleOp.sequence?]

theorem not_settlesInRuns (stated : policy ≠ "")
    (unread : committedPolicy proto (encode policy) ≠ policy) :
    ¬SettlesInRuns proto encode policy := by
  intro settles
  obtain ⟨world, ran, requests⟩ := Option.map_eq_some_iff.mp (retriedCommit_requests stated unread)
  have settled := settles _ world committedStart_unstarted (Machine.Runs.checked .nil ran).reaches
  have target := settled.targets ⟨some 1, some 1, 2⟩ (by simp [requests]) 1 rfl
  exact absurd target (by decide)

end Unsorted

theorem orPolicy_ne_empty (mspIDs : List String) : orPolicy mspIDs ≠ "" := by
  intro empty
  have text := congrArg String.toList empty
  rw [toList_orPolicy] at text
  exact absurd text (by simp)

/-- The sets are compared when the configured list is sorted. -/
theorem comparesSets_iff {proto : Proto} {mspIDs : List String} {encoded : String}
    (named : mspIDs ≠ []) (distinct : mspIDs.Nodup) (quotable : Quotable mspIDs)
    (reported : Reports proto mspIDs encoded) :
    ComparesSets proto mspIDs ↔ mspIDs.Pairwise (· ≤ ·) := by
  constructor
  · intro compares
    have same := (compares mspIDs encoded named distinct quotable reported).mpr fun _ => Iff.rfl
    exact ((committedPolicy_eq_iff quotable quotable reported).mp same).2
  · intro sorted others encoded' _ distinct' quotable' reported'
    rw [committedPolicy_eq_iff quotable quotable' reported', and_iff_left sorted,
      List.perm_ext_iff_of_nodup distinct' distinct]

theorem settlesInRuns_iff {proto : Proto} {encode : String → String} {mspIDs : List String}
    (quotable : Quotable mspIDs) (reported : Reports proto mspIDs (encode (orPolicy mspIDs))) :
    SettlesInRuns proto encode (orPolicy mspIDs) ↔ mspIDs.Pairwise (· ≤ ·) := by
  have read := committedPolicy_eq_iff quotable quotable reported
  constructor
  · intro settles
    by_contra unsorted
    exact not_settlesInRuns (orPolicy_ne_empty mspIDs) (fun same => unsorted (read.mp same).2) settles
  · exact fun sorted => settlesInRuns_of_read (read.mpr ⟨.refl _, sorted⟩)

theorem upgrades_settle_iff {proto : Proto} {encode : String → String} {mspIDs : List String}
    (named : mspIDs ≠ []) (distinct : mspIDs.Nodup) (quotable : Quotable mspIDs)
    (reported : Reports proto mspIDs (encode (orPolicy mspIDs))) :
    SettlesInRuns proto encode (orPolicy mspIDs) ∧ ComparesSets proto mspIDs ↔
      mspIDs.Pairwise (· ≤ ·) := by
  rw [settlesInRuns_iff quotable reported, comparesSets_iff named distinct quotable reported,
    and_self_iff]

/-! ## A sample channel -/

-- A field with a message or a text of fewer than 128 bytes.
def field (tag : UInt8) (bytes : List UInt8) : List UInt8 := tag :: UInt8.ofNat bytes.length :: bytes

def roleBytes (mspID : String) : List UInt8 :=
  field 10 (mspID.toList.map fun c => UInt8.ofNat c.toNat) ++ [16, 3]

def ruleBytes (identities : Nat) : List UInt8 :=
  field 18 (8 :: 1 :: (List.range identities).flatMap fun index => field 18 [8, UInt8.ofNat index])

def policyBytes (mspIDs : List String) : List UInt8 :=
  field 10 (field 18 (ruleBytes mspIDs.length) ++
    mspIDs.flatMap fun id => field 26 (field 18 (roleBytes id)))

def sampleEnvelope (mspIDs : List String) : SignaturePolicyEnvelope where
  rule := some (.anyOf (List.range mspIDs.length))
  identities := mspIDs.map fun id => ⟨MSPPrincipal.role, roleBytes id⟩

def twoBanks : List String := ["TechcombankMSP", "VietcombankMSP"]

-- What the messages about the two banks are read as.
def sampleProto : Proto where
  applicationPolicy bytes :=
    match [twoBanks, twoBanks.reverse].find? fun mspIDs => policyBytes mspIDs = bytes with
    | some mspIDs => .ok (.signaturePolicy (sampleEnvelope mspIDs))
    | none => .error "proto: cannot parse invalid wire-format data"
  signaturePolicyEnvelope _ := .error "proto: cannot parse invalid wire-format data"
  mspRole bytes :=
    match twoBanks.find? fun id => roleBytes id = bytes with
    | some id => .ok ⟨id, MSPRole.peer⟩
    | none => .error "proto: cannot parse invalid wire-format data"

def samplePeer (policy : String) : String :=
  match [twoBanks, twoBanks.reverse].find? fun mspIDs => orPolicy mspIDs = policy with
  | some mspIDs => StdEncoding.encodeToString (policyBytes mspIDs)
  | none => ""

example : samplePeer "OR('TechcombankMSP.peer','VietcombankMSP.peer')" =
    "CjoSDBIKCAESAggAEgIIARoUEhIKDlRlY2hjb21iYW5rTVNQEAMaFBISCg5WaWV0Y29tYmFua01TUBAD" := by
  decide +kernel

theorem samplePeer_reports {mspIDs : List String}
    (order : mspIDs = twoBanks ∨ mspIDs = twoBanks.reverse) :
    Reports sampleProto mspIDs (samplePeer (orPolicy mspIDs)) := by
  have role (id : String) (member : id ∈ mspIDs) :
      sampleProto.mspRole (roleBytes id) = .ok ⟨id, MSPRole.peer⟩ := by
    have found : ∀ id ∈ twoBanks ++ twoBanks.reverse,
        twoBanks.find? (fun other => roleBytes other = roleBytes id) = some id := by decide +kernel
    have listed : id ∈ twoBanks ++ twoBanks.reverse := by
      rcases order with rfl | rfl
      · exact List.mem_append_left _ member
      · exact List.mem_append_right _ member
    simp only [sampleProto, found id listed]
  refine ⟨policyBytes mspIDs, sampleEnvelope mspIDs, ?_, List.cons_ne_nil _ _, ?_,
    ⟨mspIDs, .refl _, ?_⟩, List.range mspIDs.length, ?_, rfl⟩
  · have found : [twoBanks, twoBanks.reverse].find? (fun other => orPolicy other = orPolicy mspIDs) =
        some mspIDs := by
      rcases order with rfl | rfl <;> decide +kernel
    simp only [samplePeer, found]
  · have found : [twoBanks, twoBanks.reverse].find?
        (fun other => policyBytes other = policyBytes mspIDs) = some mspIDs := by
      rcases order with rfl | rfl <;> decide +kernel
    simp only [sampleProto, found]
  · rw [sampleEnvelope, List.forall₂_map_left_iff]
    exact List.forall₂_same.mpr fun id member => ⟨rfl, role id member⟩
  · rw [sampleEnvelope, List.length_map]

theorem reversed_never_settles :
    ¬SettlesInRuns sampleProto samplePeer (orPolicy twoBanks.reverse) ∧
      ¬ComparesSets sampleProto twoBanks.reverse := by
  have quotable : Quotable twoBanks.reverse := by decide +kernel
  have reported := samplePeer_reports (.inr rfl)
  have unsorted : ¬twoBanks.reverse.Pairwise (· ≤ ·) := by decide +kernel
  exact ⟨fun settles => unsorted ((settlesInRuns_iff quotable reported).mp settles),
    fun compares => unsorted
      ((comparesSets_iff (by decide) (by decide) quotable reported).mp compares)⟩

theorem upgrades_settle_iff_twoBanks :
    (SettlesInRuns sampleProto samplePeer (orPolicy twoBanks) ∧ ComparesSets sampleProto twoBanks) ∧
      twoBanks.Pairwise (· ≤ ·) := by
  have sorted : twoBanks.Pairwise (· ≤ ·) := by decide +kernel
  have settles := (upgrades_settle_iff (by decide) (by decide) (by decide +kernel)
    (samplePeer_reports (.inl rfl))).mpr sorted
  exact ⟨settles, sorted⟩

end Kufi.FabricOps

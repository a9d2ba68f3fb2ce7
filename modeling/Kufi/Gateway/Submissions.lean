import Kufi.Gateway.HandlerSteps
import Mathlib.Data.List.Perm.Basic

set_option autoImplicit false

/-!
# Transactions and their ids

Fabric gives every proposal a new transaction id, so a transaction that a
handler has still to submit is none of those submitted so far.
-/

namespace Kufi.Gateway

open Shared Chaincode

namespace Fabric

def order (fabric : Fabric) (submitted : Submitted) : Fabric :=
  { fabric with ordered := fabric.ordered ++ [submitted] }

/-- The ids of all submitted transactions. -/
def transactions (fabric : Fabric) : List String :=
  (fabric.ordered ++ fabric.ledger).map (fun submitted => submitted.intent.txID) ++
    fabric.rejected.map Prod.fst

/-- The transactions with a key that are ordered or committed. -/
def intentsOf (key : String) (fabric : Fabric) : List Submitted :=
  (fabric.ordered ++ fabric.ledger).filter fun submitted => submitted.idempotencyKey = key

variable {fabric after : Fabric} {submitted : Submitted} {key : String} {i : Nat} {code : Int}

theorem order_perm (fabric : Fabric) (submitted : Submitted) :
    ((fabric.order submitted).ordered ++ (fabric.order submitted).ledger).Perm
      (submitted :: (fabric.ordered ++ fabric.ledger)) := by
  simp [order]

theorem transactions_order :
    (fabric.order submitted).transactions.Perm (submitted.intent.txID :: fabric.transactions) :=
  ((order_perm fabric submitted).map _).append_right _

theorem intentsOf_order_own (own : submitted.idempotencyKey = key) :
    ((fabric.order submitted).intentsOf key).Perm (submitted :: fabric.intentsOf key) := by
  simpa [intentsOf, own] using (order_perm fabric submitted).filter
    fun submitted => submitted.idempotencyKey = key

theorem intentsOf_order_other (other : submitted.idempotencyKey ≠ key) :
    (fabric.order submitted).intentsOf key = fabric.intentsOf key := by
  simp [intentsOf, order, List.filter_append, other]

theorem eraseIdx_ordered_perm (found : fabric.ordered[i]? = some submitted) :
    (submitted :: fabric.ordered.eraseIdx i).Perm fabric.ordered := by
  obtain ⟨bound, rfl⟩ := List.getElem?_eq_some_iff.mp found
  exact List.getElem_cons_eraseIdx_perm bound

theorem commit_eq_some (committed : fabric.commit i = some after) :
    (after.ordered ++ after.ledger).Perm (fabric.ordered ++ fabric.ledger) ∧
      after.rejected = fabric.rejected ∧ after.proposals = fabric.proposals := by
  simp only [commit, bind, Option.bind_eq_some_iff] at committed
  obtain ⟨submitted, found, rest⟩ := committed
  split at rest
  next => cases rest
  next =>
    obtain rfl := Option.some.inj rest
    refine ⟨?_, rfl, rfl⟩
    have moved : (fabric.ordered.eraseIdx i ++ (fabric.ledger ++ [submitted])).Perm
        (submitted :: fabric.ordered.eraseIdx i ++ fabric.ledger) := by
      rw [← List.append_assoc]
      exact List.perm_append_singleton submitted _
    exact moved.trans ((eraseIdx_ordered_perm found).append_right _)

theorem invalidate_eq_some (invalidated : fabric.invalidate i code = some after) :
    ∃ submitted, (submitted :: (after.ordered ++ after.ledger)).Perm
        (fabric.ordered ++ fabric.ledger) ∧
      after.rejected = fabric.rejected ++ [(submitted.intent.txID, code)] ∧
      after.proposals = fabric.proposals := by
  simp only [invalidate, bind, Option.bind_eq_some_iff] at invalidated
  obtain ⟨submitted, found, rest⟩ := invalidated
  split at rest
  next => cases rest
  next =>
    obtain rfl := Option.some.inj rest
    exact ⟨submitted, (eraseIdx_ordered_perm found).append_right _, rfl, rfl⟩

theorem transactions_commit (committed : fabric.commit i = some after) :
    after.transactions.Perm fabric.transactions := by
  obtain ⟨perm, rejected, _⟩ := commit_eq_some committed
  unfold transactions
  rw [rejected]
  exact (perm.map _).append_right _

theorem transactions_invalidate (invalidated : fabric.invalidate i code = some after) :
    after.transactions.Perm fabric.transactions := by
  obtain ⟨submitted, perm, rejected, _⟩ := invalidate_eq_some invalidated
  have ids := (perm.map fun submitted => submitted.intent.txID).append_right
    (fabric.rejected.map Prod.fst)
  refine List.Perm.trans ?_ ids
  have last : after.rejected.map Prod.fst = fabric.rejected.map Prod.fst ++ [submitted.intent.txID] := by
    rw [rejected, List.map_append, List.map_singleton]
  unfold transactions
  rw [last, ← List.append_assoc]
  exact List.perm_append_singleton _ _

theorem intentsOf_commit (committed : fabric.commit i = some after) :
    (after.intentsOf key).Perm (fabric.intentsOf key) :=
  (commit_eq_some committed).1.filter _

theorem intentsOf_invalidate (invalidated : fabric.invalidate i code = some after) :
    (after.intentsOf key).Subperm (fabric.intentsOf key) := by
  obtain ⟨submitted, perm, _⟩ := invalidate_eq_some invalidated
  have kept : (after.ordered ++ after.ledger).Subperm (fabric.ordered ++ fabric.ledger) :=
    (List.sublist_cons_self submitted _).subperm.trans perm.subperm
  exact kept.filter _

/-- Every submitted transaction has an id of its own, which Fabric has given out. -/
structure Distinct (fabric : Fabric) : Prop where
  nodup : fabric.transactions.Nodup
  proposed : ∀ txID ∈ fabric.transactions, txID ∈ fabric.proposals

theorem Distinct.order (distinct : fabric.Distinct)
    (new : submitted.intent.txID ∉ fabric.transactions)
    (known : submitted.intent.txID ∈ fabric.proposals) : (fabric.order submitted).Distinct where
  nodup := transactions_order.nodup_iff.mpr (List.nodup_cons.mpr ⟨new, distinct.nodup⟩)
  proposed txID member := by
    rcases List.mem_cons.mp (transactions_order.mem_iff.mp member) with rfl | old
    · exact known
    · exact distinct.proposed txID old

theorem Distinct.perm (distinct : fabric.Distinct)
    (perm : after.transactions.Perm fabric.transactions)
    (proposals : after.proposals = fabric.proposals) : after.Distinct where
  nodup := perm.nodup_iff.mpr distinct.nodup
  proposed txID member := proposals ▸ distinct.proposed txID (perm.mem_iff.mp member)

-- A transaction that has been rejected is neither ordered nor committed.
theorem Distinct.rejected {txID : String} (distinct : fabric.Distinct)
    (rejected : (fabric.rejected.lookup txID).isSome) (member : submitted ∈ fabric.intentsOf key) :
    submitted.intent.txID ≠ txID := by
  rintro rfl
  obtain ⟨pair, among, same⟩ := List.lookup_isSome_iff.mp rejected
  have second := List.mem_map_of_mem (f := Prod.fst) among
  rw [← eq_of_beq same] at second
  have first := List.mem_map_of_mem (f := fun submitted : Submitted => submitted.intent.txID)
    (List.mem_of_mem_filter member)
  exact List.disjoint_of_nodup_append distinct.nodup first second

end Fabric

/-! ## A step of a submission -/

/-- The transaction that a call has proposed and not yet submitted. -/
def Submission.transaction? : Submission → Option String
  | .endorsing _ txID => some txID
  | .submitting _ intent _ => some intent.txID
  | _ => none

-- A call that has no transaction which may be committed, if it is right about its failures.
def Submission.Unsubmitted : Submission → Prop
  | .awaiting _ _ _ | .returned (.ok _) => False
  | _ => True

inductive SubmissionMoves (invocation : Invocation) (fabric : Fabric) (outcome : FabricAnswer) :
    Submission → Fabric → Submission → Prop
  | quiet {call next : Submission} (before : call.Unsubmitted) (after : next.Unsubmitted)
      (same : ∀ txID, next.transaction? = some txID → call.transaction? = some txID) :
      SubmissionMoves invocation fabric outcome call fabric next
  | propose {attempt : Nat} {txID : String} (given : outcome = .proposal (.ok txID))
      (new : txID ∉ fabric.proposals) :
      SubmissionMoves invocation fabric outcome (.proposing attempt)
        { fabric with proposals := fabric.proposals ++ [txID] } (.endorsing attempt txID)
  | submit {attempt : Nat} {intent : TransferIntent} {endorsements : List Endorsement} :
      SubmissionMoves invocation fabric outcome (.submitting attempt intent endorsements)
        (fabric.order { intent, idempotencyKey := invocation.idempotencyKey })
        (.awaiting attempt intent endorsements)
  | lost {attempt : Nat} {intent : TransferIntent} {endorsements : List Endorsement} {err : String}
      {next : Submission} (given : outcome = .submission (some err) true)
      (after : next.Unsubmitted) (none : next.transaction? = none) :
      SubmissionMoves invocation fabric outcome (.submitting attempt intent endorsements)
        (fabric.order { intent, idempotencyKey := invocation.idempotencyKey }) next
  | committed {attempt : Nat} {intent : TransferIntent} {endorsements : List Endorsement}
      {result : SubmitResult} (valid : result.validationCode = 0)
      (own : result.txID = intent.txID) :
      SubmissionMoves invocation fabric outcome (.awaiting attempt intent endorsements) fabric
        (.returned (.ok result))
  | failed {attempt : Nat} {intent : TransferIntent} {endorsements : List Endorsement}
      {next : Submission}
      (given : (∃ err, outcome = .status (.error err)) ∨
        (fabric.rejected.lookup intent.txID).isSome)
      (after : next.Unsubmitted) (none : next.transaction? = none) :
      SubmissionMoves invocation fabric outcome (.awaiting attempt intent endorsements) fabric next

section

variable {maxAttempts : Int} {invocation : Invocation} {now : Time} {fabric after : Fabric}
  {outcome : FabricAnswer} {call next : Submission}

theorem Submission.attemptFailed_unsubmitted (attempt : Nat) (err : String) :
    (attemptFailed maxAttempts attempt err).Unsubmitted ∧
      (attemptFailed maxAttempts attempt err).transaction? = none := by
  unfold attemptFailed
  split <;> exact ⟨trivial, rfl⟩

theorem Submission.step_moves
    (stepped : call.step maxAttempts invocation now fabric outcome = some (after, next)) :
    SubmissionMoves invocation fabric outcome call after next := by
  have idle (attempt : Nat) (err : String) (txID : String)
      (pending : (attemptFailed maxAttempts attempt err).transaction? = some txID) :
      call.transaction? = some txID := by
    rw [(attemptFailed_unsubmitted attempt err).2] at pending
    cases pending
  cases call with
  | acquiring =>
    cases outcome with
    | acquired connected =>
      cases connected <;> obtain ⟨rfl, rfl⟩ := Prod.mk.inj (Option.some.inj stepped)
      · exact .quiet trivial trivial fun _ none => nomatch none
      · exact .quiet trivial trivial fun _ none => nomatch none
    | cancelled err =>
      obtain ⟨rfl, rfl⟩ := Prod.mk.inj (Option.some.inj stepped)
      exact .quiet trivial trivial fun _ none => nomatch none
    | _ => cases stepped
  | proposing attempt =>
    cases outcome with
    | proposal result =>
      cases result with
      | ok txID =>
        simp only [step] at stepped
        split at stepped
        next => cases stepped
        next new =>
          obtain ⟨rfl, rfl⟩ := Prod.mk.inj (Option.some.inj stepped)
          exact .propose rfl new
      | error err =>
        obtain ⟨rfl, rfl⟩ := Prod.mk.inj (Option.some.inj stepped)
        exact .quiet trivial (attemptFailed_unsubmitted _ _).1 (idle _ _)
    | _ => cases stepped
  | endorsing attempt txID =>
    cases outcome with
    | endorsement result seconds nanos =>
      cases result with
      | error err =>
        obtain ⟨rfl, rfl⟩ := Prod.mk.inj (Option.some.inj stepped)
        exact .quiet trivial (attemptFailed_unsubmitted _ _).1 (idle _ _)
      | ok endorsements =>
        simp only [step] at stepped
        split at stepped
        next intent created =>
          obtain ⟨rfl, rfl⟩ := Prod.mk.inj (Option.some.inj stepped)
          refine .quiet trivial trivial fun txID' pending => ?_
          rw [← pending]
          exact congrArg some (createTransferIntent_eq_ok created).1.symm
        next err refused =>
          obtain ⟨rfl, rfl⟩ := Prod.mk.inj (Option.some.inj stepped)
          exact .quiet trivial (attemptFailed_unsubmitted _ _).1 (idle _ _)
    | _ => cases stepped
  | submitting attempt intent endorsements =>
    cases outcome with
    | submission err delivered =>
      cases err with
      | none =>
        obtain ⟨rfl, rfl⟩ := Prod.mk.inj (Option.some.inj stepped)
        exact .submit
      | some err =>
        obtain ⟨unsubmitted, none⟩ := attemptFailed_unsubmitted _ _
        cases delivered with
        | true =>
          obtain ⟨rfl, rfl⟩ := Prod.mk.inj (Option.some.inj stepped)
          exact .lost rfl unsubmitted none
        | false =>
          obtain ⟨rfl, rfl⟩ := Prod.mk.inj (Option.some.inj stepped)
          exact .quiet trivial unsubmitted (idle _ _)
    | _ => cases stepped
  | awaiting attempt intent endorsements =>
    cases outcome with
    | status result =>
      cases result with
      | error err =>
        obtain ⟨rfl, rfl⟩ := Prod.mk.inj (Option.some.inj stepped)
        obtain ⟨unsubmitted, none⟩ := attemptFailed_unsubmitted _ _
        exact .failed (.inl ⟨err, rfl⟩) unsubmitted none
      | ok blockNumber =>
        simp only [step] at stepped
        split at stepped
        next =>
          obtain ⟨rfl, rfl⟩ := Prod.mk.inj (Option.some.inj stepped)
          exact .committed rfl rfl
        next =>
          obtain ⟨code, found, same⟩ := Option.map_eq_some_iff.mp stepped
          obtain ⟨rfl, rfl⟩ := Prod.mk.inj same
          obtain ⟨unsubmitted, none⟩ := attemptFailed_unsubmitted _ _
          exact .failed (.inr (Option.isSome_iff_exists.mpr ⟨code, found⟩)) unsubmitted none
    | _ => cases stepped
  | backingOff attempt lastErr =>
    cases outcome with
    | elapsed =>
      obtain ⟨rfl, rfl⟩ := Prod.mk.inj (Option.some.inj stepped)
      exact .quiet trivial trivial fun _ none => nomatch none
    | cancelled err =>
      obtain ⟨rfl, rfl⟩ := Prod.mk.inj (Option.some.inj stepped)
      exact .quiet trivial trivial fun _ none => nomatch none
    | _ => cases stepped
  | returned result => cases outcome <;> cases stepped

end

/-! ## Runs -/

def Stage.transaction? : Stage → Option String
  | .calling _ _ _ call => call.transaction?
  | _ => none

/-- A transaction that is still to be submitted is new and belongs to one handler. -/
structure GatewayWorld.Proposing {I : Type} (world : GatewayWorld I) : Prop where
  begun : world.Begun
  distinct : world.shared.state.fabric.Distinct
  pending : ∀ j stage txID, world.Live j stage → stage.transaction? = some txID →
    txID ∈ world.shared.state.fabric.proposals ∧ txID ∉ world.shared.state.fabric.transactions
  alone : ∀ j k stage stage' txID, world.Live j stage → world.Live k stage' →
    stage.transaction? = some txID → stage'.transaction? = some txID → j = k

section

variable {I : Type} {config : Config} {crypto : Crypto} {world : GatewayWorld I} {i : I}
  {state : Node}

theorem GatewayWorld.Installed.proposing (installed : world.Installed) : world.Proposing := by
  have idle (j : I) (stage : Stage) (live : world.Live j stage) : stage.transaction? = none := by
    obtain ⟨call, rfl⟩ := installed.arriving j _ live
    rfl
  refine ⟨installed.begun, ⟨?_, ?_⟩, fun j stage txID live pending => ?_,
    fun j k stage stage' txID live _ pending => ?_⟩
  · rw [installed.fabric]
    exact List.nodup_nil
  · rw [installed.fabric]
    exact fun _ member => nomatch member
  · rw [idle j stage live] at pending
    cases pending
  · rw [idle j stage live] at pending
    cases pending

theorem Event.fabric {event : Event} {s : Node} (applied : event.apply config s = some state) :
    state.fabric.transactions.Perm s.fabric.transactions ∧
      state.fabric.proposals = s.fabric.proposals ∧
      ∀ key, (state.fabric.intentsOf key).Subperm (s.fabric.intentsOf key) := by
  cases event with
  | commit i =>
    obtain ⟨_, committed, rfl⟩ := Option.map_eq_some_iff.mp applied
    exact ⟨Fabric.transactions_commit committed, (Fabric.commit_eq_some committed).2.2,
      fun key => (Fabric.intentsOf_commit committed).subperm⟩
  | invalidate i code =>
    obtain ⟨_, invalidated, rfl⟩ := Option.map_eq_some_iff.mp applied
    obtain ⟨_, _, _, proposals⟩ := Fabric.invalidate_eq_some invalidated
    exact ⟨Fabric.transactions_invalidate invalidated, proposals,
      fun key => Fabric.intentsOf_invalidate invalidated⟩
  | finishWrite i outcome =>
    obtain ⟨_, _, rfl⟩ := Option.map_eq_some_iff.mp applied
    exact ⟨.refl _, rfl, fun key => List.Subperm.refl _⟩
  | _ =>
    obtain rfl := Option.some.inj applied
    exact ⟨.refl _, rfl, fun key => List.Subperm.refl _⟩

theorem GatewayWorld.Proposing.happened {event : Event} (proposing : world.Proposing)
    (applied : event.apply config world.shared.state = some state) :
    (world.happened state).Proposing := by
  obtain ⟨perm, proposals, _⟩ := Event.fabric applied
  have before (j : I) (stage : Stage) (txID : String) (live : (world.happened state).Live j stage)
      (pending : stage.transaction? = some txID) : world.Live j stage := by
    rcases proposing.begun.live_happened applied live with ⟨call, rfl⟩ | ⟨_, live⟩
    · cases pending
    · exact live
  refine ⟨proposing.begun.happened applied, proposing.distinct.perm perm proposals,
    fun j stage txID live pending => ?_, fun j k stage stage' txID live live' pending pending' => ?_⟩
  · obtain ⟨known, new⟩ := proposing.pending j stage txID (before j stage txID live pending) pending
    unfold GatewayWorld.happened
    rw [proposals, perm.mem_iff]
    exact ⟨known, new⟩
  · exact proposing.alone j k stage stage' txID (before j stage txID live pending)
      (before k stage' txID live' pending') pending pending'

variable [DecidableEq I]

-- The handler neither submits nor takes a new transaction.
theorem GatewayWorld.Proposing.quiet {shown : List Observation} {next : Stage}
    (proposing : world.Proposing) (boot : state.boot = world.shared.state.boot)
    (fabric : state.fabric = world.shared.state.fabric)
    (same : ∀ txID, next.transaction? = some txID →
      ∃ stage, world.Live i stage ∧ stage.transaction? = some txID) :
    (world.moved i state shown next).Proposing := by
  have before (j : I) (stage : Stage) (txID : String)
      (live : (world.moved i state shown next).Live j stage)
      (pending : stage.transaction? = some txID) :
      ∃ stage, world.Live j stage ∧ stage.transaction? = some txID := by
    rcases GatewayWorld.live_moved boot live with ⟨rfl, rfl⟩ | ⟨_, live⟩
    · exact same txID pending
    · exact ⟨stage, live, pending⟩
  refine ⟨proposing.begun.moved boot, ?_, fun j stage txID live pending => ?_,
    fun j k stage stage' txID live live' pending pending' => ?_⟩
  · unfold GatewayWorld.moved
    rw [fabric]
    exact proposing.distinct
  · obtain ⟨old, alive, held⟩ := before j stage txID live pending
    unfold GatewayWorld.moved
    rw [fabric]
    exact proposing.pending j old txID alive held
  · obtain ⟨old, alive, held⟩ := before j stage txID live pending
    obtain ⟨old', alive', held'⟩ := before k stage' txID live' pending'
    exact proposing.alone j k old old' txID alive alive' held held'

theorem GatewayWorld.Proposing.propose {shown : List Observation} {next : Stage} {txID : String}
    (proposing : world.Proposing) (boot : state.boot = world.shared.state.boot)
    (new : txID ∉ world.shared.state.fabric.proposals)
    (fabric : state.fabric = { world.shared.state.fabric with
      proposals := world.shared.state.fabric.proposals ++ [txID] })
    (own : next.transaction? = some txID) : (world.moved i state shown next).Proposing := by
  have unused : txID ∉ world.shared.state.fabric.transactions :=
    fun used => new (proposing.distinct.proposed txID used)
  have proposals (other : String) : other ∈ state.fabric.proposals ↔
      other ∈ world.shared.state.fabric.proposals ∨ other = txID := by
    simp [fabric]
  have transactions : state.fabric.transactions = world.shared.state.fabric.transactions := by
    rw [fabric]
    rfl
  refine ⟨proposing.begun.moved boot, ⟨?_, fun other used => ?_⟩,
    fun j stage other live pending => ?_,
    fun j k stage stage' other live live' pending pending' => ?_⟩
  · unfold GatewayWorld.moved
    rw [transactions]
    exact proposing.distinct.nodup
  · unfold GatewayWorld.moved at used ⊢
    rw [transactions] at used
    exact (proposals other).mpr (.inl (proposing.distinct.proposed other used))
  · unfold GatewayWorld.moved
    rw [transactions]
    rcases GatewayWorld.live_moved boot live with ⟨_, rfl⟩ | ⟨_, before⟩
    · obtain rfl := Option.some.inj (own.symm.trans pending)
      exact ⟨(proposals txID).mpr (.inr rfl), unused⟩
    · obtain ⟨known, fresh⟩ := proposing.pending j stage other before pending
      exact ⟨(proposals other).mpr (.inl known), fresh⟩
  · have newer (k : I) (stage : Stage) (before : world.Live k stage)
        (pending : stage.transaction? = some txID) : False :=
      new (proposing.pending k stage txID before pending).1
    rcases GatewayWorld.live_moved boot live with ⟨first, rfl⟩ | ⟨_, before⟩
    · rcases GatewayWorld.live_moved boot live' with ⟨second, _⟩ | ⟨_, before'⟩
      · exact first.trans second.symm
      · obtain rfl := Option.some.inj (own.symm.trans pending)
        exact (newer k stage' before' pending').elim
    · rcases GatewayWorld.live_moved boot live' with ⟨_, rfl⟩ | ⟨_, before'⟩
      · obtain rfl := Option.some.inj (own.symm.trans pending')
        exact (newer j stage before pending).elim
      · exact proposing.alone j k stage stage' other before before' pending pending'

theorem GatewayWorld.Proposing.order {shown : List Observation} {stage next : Stage}
    {submitted : Submitted} (proposing : world.Proposing) (live : world.Live i stage)
    (boot : state.boot = world.shared.state.boot)
    (held : stage.transaction? = some submitted.intent.txID)
    (fabric : state.fabric = world.shared.state.fabric.order submitted)
    (idle : next.transaction? = none) : (world.moved i state shown next).Proposing := by
  obtain ⟨known, new⟩ := proposing.pending i stage _ live held
  have before (j : I) (stage : Stage) (txID : String)
      (live : (world.moved i state shown next).Live j stage)
      (pending : stage.transaction? = some txID) : j ≠ i ∧ world.Live j stage := by
    rcases GatewayWorld.live_moved boot live with ⟨_, rfl⟩ | before
    · rw [idle] at pending
      cases pending
    · exact before
  refine ⟨proposing.begun.moved boot, ?_, fun j other txID alive pending => ?_,
    fun j k other other' txID alive alive' pending pending' => ?_⟩
  · unfold GatewayWorld.moved
    rw [fabric]
    exact proposing.distinct.order new known
  · obtain ⟨different, alive⟩ := before j other txID alive pending
    obtain ⟨known', new'⟩ := proposing.pending j other txID alive pending
    unfold GatewayWorld.moved
    rw [fabric]
    refine ⟨known', fun used => ?_⟩
    rcases List.mem_cons.mp (Fabric.transactions_order.mem_iff.mp used) with rfl | old
    · exact different (proposing.alone j i other stage _ alive live pending held)
    · exact new' old
  · obtain ⟨_, alive⟩ := before j other txID alive pending
    obtain ⟨_, alive'⟩ := before k other' txID alive' pending'
    exact proposing.alone j k other other' txID alive alive' pending pending'

end

end Kufi.Gateway

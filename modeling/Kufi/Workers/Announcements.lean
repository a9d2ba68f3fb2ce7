import Kufi.Settlement.SettlementCycle
import Kufi.Transactions.CreationSteps
import Kufi.Workers.ChainWorker

set_option autoImplicit false

/-!
# Events of committed changes

An operation stops wherever its process crashes. Only `markSettlement` commits
its event together with the change; the others have a stage between the two.
-/

namespace Kufi.Workers

open Shared Transactions

-- `markSettlement` is one database transaction.
inductive Marking where
  | mark (transactionId : Nat) (settlementStatus note : String)
  | marked (result : Except ServiceError Bool)

def Marking.step (env : Env) (s : Tables) (marking : Marking) (now : Instant) :
    Option (Tables × Marking) :=
  match marking with
  | .mark transactionId settlementStatus note =>
    match markSettlement env now transactionId settlementStatus note s with
    | .ok (found, after) => some (after, .marked (.ok found))
    | .error error => some (s, .marked (.error error))
  | .marked _ => none

/-- An operation that changes transactions, at the stage it has come to. -/
abbrev Stage := Creation ⊕ (Marking ⊕ ChainJob)

def operations (env : Env) : Machine Tables Stage (Answers ⊕ (Instant ⊕ ChainJobAction)) :=
  (creations env).either
    (Machine.either { step := Marking.step env } { step := ChainJob.step env })

def Stage.Starts : Stage → Prop
  | .inl (.source _) | .inr (.inl (.mark _ _ _)) | .inr (.inr (.loading _)) => True
  | _ => False

def statusAt (s : Tables) (id : Nat) : Option TransactionStatus :=
  (s.transactions.get? id).map TransactionEntity.status

/-- Every transaction that is new or has another status has a new event with its status. -/
def Announced (s after : Tables) : Prop :=
  ∀ id status, statusAt after id = some status → statusAt s id ≠ some status →
    ∃ evt ∈ after.outbox, evt ∉ s.outbox ∧ evt.aggregateId = id ∧ evt.payload.status = status

/-- The operation has not stopped between a change and its event. -/
def Stage.Reported (s after : Tables) : Stage → Prop
  | .inl (.submit _ _) | .inl (.rollback _ _ _) | .inl (.saveSimulated _) | .inl (.anchor _)
  | .inl (.release _) | .inl (.enqueue _) => False
  -- an error after the database transaction loses the event as well
  | .inl (.finished (.error _)) => after.transactions = s.transactions
  | .inr (.inr (.announceChain previous tx)) => tx.status = previous
  | .inr (.inr (.announce tx)) => tx.chainStatus = .anchored
  | _ => True

/-! ## Changes and events -/

section

variable {s middle after : Tables} {tx : TransactionEntity} {id : Nat}

theorem announced_of_rows (same : after.transactions = s.transactions) : Announced s after := by
  intro id status current changed
  rw [statusAt, same] at current
  exact absurd current changed

theorem not_announced {status : TransactionStatus} (silent : after.outbox = s.outbox)
    (current : statusAt after id = some status) (changed : statusAt s id ≠ some status) :
    ¬ Announced s after := by
  intro announced
  obtain ⟨evt, member, new, _⟩ := announced id status current changed
  exact new (silent ▸ member)

/-- The only change since `s` is that of the row of `tx`, and no event has been written. -/
structure Pending (s after : Tables) (tx : TransactionEntity) : Prop where
  silent : after.outbox = s.outbox
  own : after.transactions.get? tx.id = some tx
  others : ∀ id, tx.id ≠ id → after.transactions.get? id = s.transactions.get? id

theorem Pending.save {tx' : TransactionEntity} (pending : Pending s middle tx)
    (same : tx'.id = tx.id) (saved : middle.saveTransaction tx' = .ok after) :
    Pending s after tx' := by
  obtain ⟨_, transactions, updated, rfl⟩ := Tables.saveTransaction_eq_ok.mp saved
  obtain ⟨member, own⟩ := Table.get?_eq_some.mp pending.own
  have looked := Table.get?_update? updated member (own.trans same.symm)
  refine ⟨pending.silent, (looked tx'.id).trans (if_pos rfl), fun id other => ?_⟩
  exact (looked id).trans ((if_neg other).trans (pending.others id (same ▸ other)))

theorem pending_of_save {row : TransactionEntity} (found : s.transactions.get? tx.id = some row)
    (saved : s.saveTransaction tx = .ok after) : Pending s after tx := by
  have own : row.id = tx.id := (Table.get?_eq_some.mp found).2
  have still : Pending s s row := ⟨rfl, own ▸ found, fun _ _ => rfl⟩
  exact still.save own.symm saved

theorem Pending.unchanged (pending : Pending s after tx)
    (same : statusAt s tx.id = some tx.status) : Announced s after := by
  intro id status current changed
  by_cases own : tx.id = id
  · subst own
    rw [statusAt, pending.own] at current
    exact absurd (same.trans current) changed
  · rw [statusAt, pending.others id own] at current
    exact absurd current changed

theorem Pending.not_announced (pending : Pending s after tx)
    (changed : statusAt s tx.id ≠ some tx.status) : ¬ Announced s after :=
  Workers.not_announced pending.silent (congrArg (Option.map _) pending.own) changed

theorem enqueue_event {now : Instant} {aggregateId : Nat} {eventType : String}
    {payload : EventPayload} (enqueued : enqueue now aggregateId eventType payload s = .ok after) :
    after.transactions = s.transactions ∧ (∀ evt ∈ s.outbox, evt ∈ after.outbox) ∧
      ∃ evt ∈ after.outbox, evt ∉ s.outbox ∧
        evt.aggregateId = aggregateId ∧ evt.payload = payload := by
  obtain ⟨evt, outbox, inserted, rfl⟩ := Tables.insertEvent_eq_ok.mp enqueued
  obtain ⟨rfl, _, _, _⟩ := Table.insert?_spec inserted
  refine ⟨rfl, fun evt old => (Table.mem_insert? inserted).mpr (.inl old), _,
    (Table.mem_insert? inserted).mpr (.inr rfl), fun old => ?_, rfl, rfl⟩
  exact absurd (s.outbox.fresh _ old) (Nat.lt_irrefl _)

-- An event that is written after the change announces it.
theorem Pending.announced {now : Instant} {eventType : String} {payload : EventPayload}
    (pending : Pending s middle tx) (status : payload.status = tx.status)
    (enqueued : enqueue now tx.id eventType payload middle = .ok after) : Announced s after := by
  obtain ⟨rows, _, evt, member, new, aggregate, rfl⟩ := enqueue_event enqueued
  intro id current found changed
  by_cases own : tx.id = id
  · subst own
    rw [statusAt, rows, pending.own] at found
    refine ⟨evt, member, pending.silent ▸ new, aggregate, status.trans ?_⟩
    exact Option.some.inj found
  · rw [statusAt, rows, pending.others id own] at found
    exact absurd found changed

theorem Announced.more {now : Instant} {aggregateId : Nat} {eventType : String}
    {payload : EventPayload} (announced : Announced s middle)
    (enqueued : enqueue now aggregateId eventType payload middle = .ok after) :
    Announced s after := by
  obtain ⟨rows, kept, _⟩ := enqueue_event enqueued
  intro id status current changed
  rw [statusAt, rows] at current
  obtain ⟨evt, member, facts⟩ := announced id status current changed
  exact ⟨evt, kept evt member, facts⟩

end

/-! ## Creations -/

/-- A row that is new and that nothing has announced. -/
def Inserts (s after : Tables) (tx : TransactionEntity) : Prop :=
  Pending s after tx ∧ s.transactions.get? tx.id = none

/-- What a creation has done to the tables `s` by the time it has come to a stage. -/
def Creation.Done (s after : Tables) : Creation → Prop
  | .submit _ held | .rollback _ held _ | .saveSimulated held | .anchor held | .release held
  | .enqueue held => Inserts s after held.transaction
  | .finished (.ok _) => Announced s after
  | .finished (.error _) =>
    after.transactions = s.transactions ∨ ∃ tx, Inserts s after tx
  | .check work => after = s ∧ s.findByIdempotencyKey work.idempotencyKey = none
  | .source _ | .lookup _ | .replay _ _ | .insert _ => after = s

section

variable {env : Env} {answers : Answers} {s middle after : Tables} {creation next : Creation}
  {tx tx' : TransactionEntity}

theorem Inserts.save (inserts : Inserts s middle tx) (same : tx'.terms = tx.terms)
    (saved : middle.saveTransaction tx' = .ok after) : Inserts s after tx' := by
  have sameId : tx'.id = tx.id := congrArg Terms.id same
  exact ⟨inserts.1.save sameId saved, sameId ▸ inserts.2⟩

theorem Inserts.not_announced (inserts : Inserts s after tx) : ¬ Announced s after := by
  refine inserts.1.not_announced ?_
  rw [statusAt, inserts.2]
  exact (Option.some_ne_none _).symm

theorem Creation.done_of_entity (holds : creation.entity? = some tx)
    (inserts : Inserts s after tx) : Creation.Done s after creation := by
  cases creation <;> first | cases holds; exact inserts | cases holds

-- Where an error leaves a creation.
theorem Creation.Done.failed {error : ServiceError} (done : Creation.Done s after creation)
    (live : ∀ result, creation ≠ .finished result) :
    Creation.Done s after (.finished (.error error)) := by
  cases creation with
  | source | lookup | replay | insert => exact .inl (congrArg Tables.transactions done)
  | check => exact .inl (congrArg Tables.transactions done.1)
  | submit | rollback | saveSimulated | anchor | release | enqueue => exact .inr ⟨_, done⟩
  | finished result => exact absurd rfl (live result)

theorem Creation.Done.step (done : Creation.Done s middle creation)
    (stepped : creation.step env middle answers = some (after, next)) :
    Creation.Done s after next := by
  have live (result : Except ServiceError TransferResponse) : creation ≠ .finished result := by
    rintro rfl
    cases stepped
  cases Creation.step_moves stepped with
  | failed => exact done.failed live
  | source | known => exact done
  | unknown missing =>
    obtain rfl : middle = s := done
    exact ⟨rfl, missing⟩
  | @replay _ _ result =>
    have same : middle.transactions = s.transactions := congrArg Tables.transactions done
    cases result with
    | ok response => exact announced_of_rows same
    | error error => exact .inl same
  | duplicate found =>
    obtain ⟨rfl, missing⟩ := done
    cases missing.symm.trans found
  | checked => exact done.1
  | @insert work held _ inserted =>
    obtain rfl : middle = s := done
    refine Creation.done_of_entity (work.continued_entity? held) ?_
    obtain ⟨entity, added⟩ := inserted.row
    obtain ⟨_, _, _, tables⟩ := inserted.tables
    have looked := Table.get?_insert? added
    refine ⟨⟨by rw [tables], (looked held.transaction.id).trans (if_pos rfl), fun id other =>
      (looked id).trans (if_neg other)⟩, Table.get?_eq_none.mpr fun row old same => ?_⟩
    have fresh : held.transaction.id = middle.transactions.next :=
      (congrArg Row.id (Table.insert?_spec added).1).trans (Row.id_withId _ _)
    exact absurd (middle.transactions.fresh row old) (Nat.not_lt.mpr (same.trans fresh).ge)
  | @submit work held _ saved =>
    exact Creation.done_of_entity (work.afterSubmit_entity? _)
      (Inserts.save done (submitted_terms _ _) saved)
  | @rollback work held reasonCode _ reversed =>
    obtain ⟨_, _, rfl⟩ := rollbackWithdrawalDebit_transactions reversed
    refine Creation.done_of_entity (work.afterRollback_entity? held) ?_
    obtain ⟨pending, new⟩ : Inserts s middle held.transaction := done
    exact ⟨⟨pending.silent, pending.own, pending.others⟩, new⟩
  | saveSimulated saved => exact Inserts.save done (simulatedFailure_terms _) saved
  | anchor saved => exact Inserts.save done (anchored_terms _ _ _ _) saved
  | release saved => exact Inserts.save done (released_terms _ _) saved
  | @enqueue held outbox response enqueued =>
    obtain ⟨pending, _⟩ : Inserts s middle held.transaction := done
    exact pending.announced rfl enqueued

end

/-! ## Marks and chain jobs -/

section

variable {env : Env} {s middle after : Tables}

theorem markSettlement_announced {now : Instant} {transactionId : Nat}
    {settlementStatus note : String} {found : Bool}
    (done : markSettlement env now transactionId settlementStatus note s = .ok (found, after)) :
    Announced s after := by
  obtain ⟨outcome, _, ⟨_, rfl, _⟩ | ⟨_, tx, middle, transactions, outbox, held, once, updated, rfl,
    enqueued⟩⟩ := markSettlement_effect done
  · exact announced_of_rows rfl
  · have sameId : (marked now outcome note tx).id = tx.id :=
      congrArg Terms.id (marked_terms now outcome note tx)
    obtain ⟨member, own⟩ := Table.get?_eq_some.mp held
    have looked := Table.get?_update? updated member sameId.symm
    have silent : middle.outbox = s.outbox := by
      rcases once with ⟨rfl, _⟩ | ⟨_, _, _, _, _, _, rfl, _⟩ <;> rfl
    have pending : Pending s { middle with transactions } (marked now outcome note tx) :=
      ⟨silent, (looked _).trans (if_pos rfl), fun id other => (looked id).trans (if_neg other)⟩
    exact pending.announced rfl enqueued

theorem reconciled_status (tx : TransactionEntity) :
    (reconcileBusinessStatusAfterChainUpdate tx).status = tx.status ∨
      (reconcileBusinessStatusAfterChainUpdate tx).status = .completed := by
  unfold reconcileBusinessStatusAfterChainUpdate
  split_ifs
  · exact .inl rfl
  · exact .inr rfl
  · exact .inr rfl
  · exact .inl rfl

theorem anchored_status (env : Env) (clock : Clock) (answer : ChainAnswer)
    (tx : TransactionEntity) :
    (anchored env clock answer tx).status = tx.status ∨
      (anchored env clock answer tx).status = .completed := by
  cases answer with
  | error message => exact .inl rfl
  | ok response =>
    simp only [anchored, applyChainResult]
    split_ifs
    · exact reconciled_status _
    · exact .inl rfl
    · exact .inl rfl

theorem processed_status (env : Env) (clock : Clock) (answer : ChainAnswer)
    (tx : TransactionEntity) :
    (processed env clock answer tx).status = tx.status ∨
      (processed env clock answer tx).status = .completed := by
  have given_up : ∀ tx' : TransactionEntity, tx'.status = tx.status ∨ tx'.status = .completed →
      (reconcileBusinessStatusAfterChainUpdate tx').status = tx.status ∨
        (reconcileBusinessStatusAfterChainUpdate tx').status = .completed := by
    intro tx' before
    rcases reconciled_status tx' with same | completed
    · rwa [same]
    · exact .inr completed
  have before := anchored_status env clock answer tx
  unfold processed
  dsimp only
  split_ifs <;> exact given_up _ before

/-- What a job has done to the tables `s` by the time it has come to a stage. -/
def ChainJob.Done (s after : Tables) : ChainJob → Prop
  | .loading _ => after = s
  | .anchoring tx | .receipt tx => after = s ∧ s.transactions.get? tx.id = some tx
  | .saving previous tx =>
    after = s ∧ statusAt s tx.id = some previous ∧ (tx.status = previous ∨ tx.status = .completed)
  | .announceChain previous tx =>
    Pending s after tx ∧ statusAt s tx.id = some previous ∧
      (tx.status = previous ∨ tx.status = .completed) ∧ tx.chainStatus = .anchored
  | .announce tx =>
    if tx.chainStatus = .anchored then Announced s after
    else Pending s after tx ∧ statusAt s tx.id ≠ some tx.status
  | .done => Announced s after

theorem ChainJob.done_afterSave {previous : TransactionStatus} {tx : TransactionEntity}
    (announced : ¬ (previous ≠ .completed ∧ tx.status = .completed) → Announced s after)
    (changed : previous ≠ .completed ∧ tx.status = .completed → ChainJob.Done s after (.announce tx)) :
    ChainJob.Done s after (afterSave previous tx) := by
  unfold afterSave
  split_ifs with completes
  · exact changed completes
  · exact announced completes

theorem ChainJob.Done.step {action : ChainJobAction} {job next : ChainJob}
    (done : ChainJob.Done s middle job)
    (stepped : job.step env middle action = some (after, next)) : ChainJob.Done s after next := by
  cases ChainJob.step_moves stepped with
  | @loaded id tx found =>
    obtain rfl : middle = s := done
    obtain rfl := (Table.get?_eq_some.mp found).2
    unfold loaded
    split_ifs
    · exact ⟨rfl, found⟩
    · exact ⟨rfl, found⟩
    · exact announced_of_rows rfl
  | missing => exact announced_of_rows (congrArg Tables.transactions done)
  | @anchored tx | @receipt tx =>
    obtain ⟨rfl, found⟩ := done
    have sameId : (processed env action.clock action.answer tx).id = tx.id :=
      congrArg Terms.id (processed_terms env action.clock action.answer tx)
    refine ⟨rfl, ?_, processed_status env action.clock action.answer tx⟩
    rw [sameId, statusAt, found]
    rfl
  | @saved previous tx _ saved =>
    obtain ⟨rfl, before, status⟩ := done
    obtain ⟨row, found, _⟩ := Option.map_eq_some_iff.mp before
    have pending := pending_of_save found saved
    split_ifs with anchored
    · exact ⟨pending, before, status, anchored⟩
    · refine ChainJob.done_afterSave (fun kept => pending.unchanged ?_) fun completes => ?_
      · rw [before]
        rcases status with same | completed
        · rw [same]
        · by_contra different
          exact kept ⟨fun previously => different (by rw [previously, completed]), completed⟩
      · simp only [ChainJob.Done, if_neg anchored]
        refine ⟨pending, fun same => completes.1 ?_⟩
        exact (Option.some.inj (before.symm.trans same)).trans completes.2
  | refused => exact announced_of_rows (congrArg Tables.transactions done.1)
  | @announcedChain previous tx outbox enqueued =>
    obtain ⟨pending, before, status, anchored⟩ := done
    have announced := pending.announced rfl enqueued
    refine ChainJob.done_afterSave (fun _ => announced) fun _ => ?_
    simp only [ChainJob.Done, if_pos anchored]
    exact announced
  | @announced tx outbox enqueued =>
    simp only [ChainJob.Done] at done
    split_ifs at done
    · exact Announced.more done enqueued
    · exact done.1.announced rfl enqueued

end

/-! ## Where an operation may stop -/

def Stage.Done (s after : Tables) : Stage → Prop
  | .inl creation => Creation.Done s after creation
  | .inr (.inl (.mark _ _ _)) => after = s
  | .inr (.inl (.marked _)) => Announced s after
  | .inr (.inr job) => ChainJob.Done s after job

section

variable {env : Env} {s middle after : Tables} {stage next : Stage}

theorem Marking.step_announced {now : Instant} {marking next : Marking}
    (done : Stage.Done s middle (.inr (.inl marking)))
    (stepped : marking.step env middle now = some (after, next)) :
    Stage.Done s after (.inr (.inl next)) := by
  cases marking with
  | mark transactionId settlementStatus note =>
    obtain rfl : middle = s := done
    simp only [Marking.step] at stepped
    split at stepped
    next marks =>
      obtain ⟨rfl, rfl⟩ := Prod.mk.inj (Option.some.inj stepped)
      exact markSettlement_announced marks
    next =>
      obtain ⟨rfl, rfl⟩ := Prod.mk.inj (Option.some.inj stepped)
      exact announced_of_rows rfl
  | marked result => cases stepped

theorem Stage.Done.step {action : Answers ⊕ (Instant ⊕ ChainJobAction)}
    (done : Stage.Done s middle stage)
    (stepped : (operations env).step middle stage action = some (after, next)) :
    Stage.Done s after next := by
  rcases stage with creation | marking | job
  · obtain ⟨answers, next, rfl, rfl, moved⟩ := Machine.either_step_inl.mp stepped
    exact Creation.Done.step done moved
  · obtain ⟨own, next, rfl, rfl, moved⟩ := Machine.either_step_inr.mp stepped
    obtain ⟨now, next, rfl, rfl, marks⟩ := Machine.either_step_inl.mp moved
    exact Marking.step_announced done marks
  · obtain ⟨own, next, rfl, rfl, moved⟩ := Machine.either_step_inr.mp stepped
    obtain ⟨jobAction, next, rfl, rfl, runs⟩ := Machine.either_step_inr.mp moved
    exact ChainJob.Done.step done runs

theorem Stage.Done.alone {actions : List (Answers ⊕ (Instant ⊕ ChainJobAction))}
    (done : Stage.Done s middle stage)
    (ran : (operations env).alone middle stage actions = some (after, next)) :
    Stage.Done s after next :=
  Machine.alone_invariant (Stage.Done s) (fun done stepped => done.step stepped) done ran

theorem Creation.Done.reported {creation : Creation} (done : Creation.Done s after creation) :
    Announced s after ↔ Stage.Reported s after (.inl creation) := by
  cases creation with
  | submit | rollback | saveSimulated | anchor | release | enqueue =>
    exact iff_of_false (Inserts.not_announced done) id
  | source | lookup | replay | insert =>
    exact iff_of_true (announced_of_rows (congrArg Tables.transactions done)) trivial
  | check => exact iff_of_true (announced_of_rows (congrArg Tables.transactions done.1)) trivial
  | finished result =>
    cases result with
    | ok response => exact iff_of_true done trivial
    | error error =>
      refine ⟨fun announced => ?_, announced_of_rows⟩
      rcases done with same | ⟨tx, inserts⟩
      · exact same
      · exact absurd announced inserts.not_announced

theorem ChainJob.Done.reported {job : ChainJob} (done : ChainJob.Done s after job) :
    Announced s after ↔ Stage.Reported s after (.inr (.inr job)) := by
  cases job with
  | loading => exact iff_of_true (announced_of_rows (congrArg Tables.transactions done)) trivial
  | anchoring | receipt | saving =>
    exact iff_of_true (announced_of_rows (congrArg Tables.transactions done.1)) trivial
  | announceChain previous tx =>
    obtain ⟨pending, before, _⟩ := done
    refine ⟨fun announced => ?_, fun same => pending.unchanged (before.trans (congrArg some same.symm))⟩
    by_contra different
    refine pending.not_announced (fun same => different ?_) announced
    exact (Option.some.inj (before.symm.trans same)).symm
  | announce tx =>
    simp only [ChainJob.Done] at done
    split_ifs at done with anchored
    · exact iff_of_true done anchored
    · exact iff_of_false (done.1.not_announced done.2) anchored
  | done => exact iff_of_true done trivial

end

/-! ## A crash before the event -/

end Kufi.Workers

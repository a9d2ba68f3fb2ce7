import Kufi.Settlement.OwnResponses
import Kufi.Workers.ChainEligibility

set_option autoImplicit false

/-!
# Payments that rows record

Whatever is saved of a transaction, its row goes on recording the payment that
it was inserted for.
-/

namespace Kufi.Workers

open Shared Transactions Settlement

theorem identified_processed (env : Env) (clock : Clock) (answer : ChainAnswer)
    (tx : TransactionEntity) : identified (processed env clock answer tx) = identified tx := by
  unfold processed
  dsimp only
  rw [identified_reconciled]
  split_ifs <;> exact identified_anchored env clock answer tx

def Stage.work? : Stage → Option Prepared
  | .inl creation => Creation.work? creation
  | .inr _ => none

/-- The entities of the stage are of payments that rows record. -/
def HoldsStored (s : Tables) (stage : Stage) : Prop :=
  ∀ tx ∈ stage.entity?, s.Has identified (identified tx)

/-- What a step of an operation does to the recorded payments. -/
structure PaymentsKept (env : Env) (s : Tables) (stage : Stage) (after : Tables) (next : Stage) :
    Prop where
  kept : ∀ value, s.Has identified value → after.Has identified value
  held : HoldsStored after next
  origin : ∀ row ∈ after.transactions, s.Has identified (identified row) ∨
    ∃ work, stage = .inl (.insert work) ∧ requestedPayment env work = some (payment row)
  sources : after.fundingSources = s.fundingSources

section

variable {env : Env} {s after : Tables} {tx : TransactionEntity}

theorem HoldsStored.mono {stage : Stage} (holds : HoldsStored s stage)
    (kept : ∀ value, s.Has identified value → after.Has identified value) :
    HoldsStored after stage :=
  fun tx held => kept _ (holds tx held)

theorem HoldsStored.of_none {stage : Stage} (nothing : stage.entity? = none) :
    HoldsStored s stage := by
  intro tx held
  rw [nothing] at held
  exact absurd held (Option.not_mem_none tx)

theorem HoldsStored.of_some {stage : Stage} (entity : stage.entity? = some tx)
    (has : s.Has identified (identified tx)) : HoldsStored s stage := by
  intro own held
  obtain rfl := Option.some.inj (entity.symm.trans held)
  exact has

theorem save_origin {row : TransactionEntity} (has : s.Has identified (identified tx))
    (saved : s.saveTransaction tx = .ok after) (member : row ∈ after.transactions) :
    s.Has identified (identified row) := by
  obtain ⟨_, transactions, updated, rfl⟩ := Tables.saveTransaction_eq_ok.mp saved
  rcases (Table.mem_update? updated).mp member with ⟨old, _⟩ | ⟨rfl, _⟩
  · exact ⟨row, old, rfl⟩
  · exact has

theorem save_fundingSources (saved : s.saveTransaction tx = .ok after) :
    after.fundingSources = s.fundingSources := by
  obtain ⟨_, transactions, _, rfl⟩ := Tables.saveTransaction_eq_ok.mp saved
  rfl

-- A step that writes no transaction.
theorem PaymentsKept.of_rows {stage next : Stage} (rows : after.transactions = s.transactions)
    (sources : after.fundingSources = s.fundingSources) (held : HoldsStored s next) :
    PaymentsKept env s stage after next := by
  have kept (value : Nat × Payment) (has : s.Has identified value) :
      after.Has identified value := by
    obtain ⟨row, member, same⟩ := has
    exact ⟨row, rows ▸ member, same⟩
  refine ⟨kept, held.mono kept, fun row member => .inl ⟨row, rows ▸ member, rfl⟩, sources⟩

-- A step that saves an entity of a payment that a row records.
theorem PaymentsKept.of_save {stage next : Stage} (has : s.Has identified (identified tx))
    (saved : s.saveTransaction tx = .ok after)
    (entity : ∀ own ∈ next.entity?, identified own = identified tx) :
    PaymentsKept env s stage after next where
  kept _ recorded := identified_fixed.save recorded has rfl saved
  held own holds := entity own holds ▸ identified_fixed.save has has rfl saved
  origin _ member := .inl (save_origin has saved member)
  sources := save_fundingSources saved

end

section

variable {env : Env} {s after : Tables}

theorem entity_of_some {stage : Stage} {tx : TransactionEntity} (entity : stage.entity? = some tx) :
    ∀ own ∈ stage.entity?, identified own = identified tx := by
  intro own held
  obtain rfl := Option.some.inj (entity.symm.trans held)
  rfl

theorem creation_payments {answers : Answers} {creation next : Creation}
    (holds : HoldsStored s (.inl creation))
    (stepped : creation.step env s answers = some (after, next)) :
    PaymentsKept env s (.inl creation) after (.inl next) := by
  have recorded {tx tx' : TransactionEntity} (held : creation.entity? = some tx)
      (same : identified tx' = identified tx) : s.Has identified (identified tx') :=
    same ▸ holds tx held
  cases Creation.step_moves stepped with
  | failed | source | known | unknown | replay | checked => exact .of_rows rfl rfl (.of_none rfl)
  | @duplicate work held found =>
    have stored := (Table.byKey_eq_some.mp found).1
    exact .of_rows rfl rfl (.of_some (Prepared.continued_entity? work held) ⟨_, stored, rfl⟩)
  | @insert work held _ inserted =>
    have sources := moves_fundingSources (Creation.step_moves stepped)
    refine ⟨fun value has => has.insert inserted,
      .of_some (Prepared.continued_entity? work held) inserted.has, fun row member => ?_, sources⟩
    obtain ⟨entity, added⟩ := inserted.row
    rcases (Table.mem_insert? added).mp member with old | rfl
    · exact .inl ⟨row, old, rfl⟩
    · rcases Creation.proceed_cases stepped with ⟨_, error, failed⟩ | ⟨⟨persisted, _⟩, done, same⟩
      · have none := Prepared.continued_entity? work held
        rw [failed] at none
        cases none
      · obtain ⟨rfl, continues⟩ := Prod.mk.inj same
        have own := Prepared.continued_entity? work held
        rw [← continues, Prepared.continued_entity?] at own
        rw [← Option.some.inj own]
        exact .inr ⟨work, rfl, insert_payment done⟩
  | @submit work held _ saved =>
    exact .of_save (recorded rfl (identified_submitted ..)) saved
      (entity_of_some (Prepared.afterSubmit_entity? work _))
  | @rollback work held _ _ reversed =>
    obtain ⟨wallets, ledger, rfl⟩ := rollbackWithdrawalDebit_transactions reversed
    exact .of_rows rfl rfl (.of_some (Prepared.afterRollback_entity? work held) (recorded rfl rfl))
  | @saveSimulated held _ saved =>
    exact .of_save (recorded rfl (identified_fixed.simulatedFailure _)) saved (entity_of_some rfl)
  | @anchor held _ saved =>
    exact .of_save (recorded rfl (identified_anchored ..)) saved (entity_of_some rfl)
  | @release held _ saved =>
    exact .of_save (recorded rfl (identified_fixed.released ..)) saved (entity_of_some rfl)
  | enqueue => exact .of_rows rfl rfl (.of_none rfl)

theorem marking_payments {now : Instant} {marking next : Marking}
    (stepped : marking.step env s now = some (after, next)) :
    PaymentsKept env s (.inr (.inl marking)) after (.inr (.inl next)) := by
  cases marking with
  | mark id status note =>
    simp only [Marking.step] at stepped
    split at stepped
    next done =>
      obtain ⟨rfl, rfl⟩ := Prod.mk.inj (Option.some.inj stepped)
      rcases markSettlement_marked done with rfl | ⟨outcome, tx, _, _, marking⟩
      · exact .of_rows rfl rfl (.of_none rfl)
      · have kept := fun value => @marked_has s _ _ _ _ _ value marking
        refine ⟨kept, .of_none rfl, fun row member => ?_, marked_fundingSources marking⟩
        have stored : s.Has identified (identified tx) :=
          ⟨tx, (Table.get?_eq_some.mp marking.held).1, rfl⟩
        obtain ⟨middle, transactions, outbox, _, updated, rfl⟩ := marking.effect
        rcases (Table.mem_update? updated).mp member with ⟨old, _⟩ | ⟨rfl, _⟩
        · exact .inl ⟨row, old, rfl⟩
        · rw [identified_marked]
          exact .inl stored
    next =>
      obtain ⟨rfl, rfl⟩ := Prod.mk.inj (Option.some.inj stepped)
      exact .of_rows rfl rfl (.of_none rfl)
  | marked result => cases stepped

theorem job_payments {action : ChainJobAction} {job next : ChainJob}
    (holds : HoldsStored s (.inr (.inr job)))
    (stepped : job.step env s action = some (after, next)) :
    PaymentsKept env s (.inr (.inr job)) after (.inr (.inr next)) := by
  cases ChainJob.step_moves stepped with
  | @loaded id tx found =>
    have stored : s.Has identified (identified tx) := ⟨tx, (Table.get?_eq_some.mp found).1, rfl⟩
    refine .of_rows rfl rfl ?_
    unfold ChainJob.loaded
    split_ifs
    · exact .of_some rfl stored
    · exact .of_some rfl stored
    · exact .of_none rfl
  | missing | refused => exact .of_rows rfl rfl (.of_none rfl)
  | @anchored tx | @receipt tx =>
    refine .of_rows rfl rfl (.of_some rfl ?_)
    rw [identified_processed]
    exact holds tx rfl
  | @saved previous tx _ saved =>
    refine .of_save (holds tx rfl) saved fun own held => ?_
    unfold ChainJob.afterSave at held
    split_ifs at held <;> cases held
  | @announcedChain previous tx =>
    refine .of_rows rfl rfl ?_
    unfold ChainJob.afterSave
    split_ifs <;> exact .of_none rfl
  | announced => exact .of_rows rfl rfl (.of_none rfl)

theorem stage_payments {action : Answers ⊕ (Instant ⊕ ChainJobAction)} {stage next : Stage}
    (holds : HoldsStored s stage)
    (stepped : (operations env).step s stage action = some (after, next)) :
    PaymentsKept env s stage after next := by
  rcases stage with creation | marking | job
  · obtain ⟨answers, next, rfl, rfl, moved⟩ := Machine.either_step_inl.mp stepped
    exact creation_payments holds moved
  · obtain ⟨own, next, rfl, rfl, moved⟩ := Machine.either_step_inr.mp stepped
    obtain ⟨now, next, rfl, rfl, marks⟩ := Machine.either_step_inl.mp moved
    exact marking_payments marks
  · obtain ⟨own, next, rfl, rfl, moved⟩ := Machine.either_step_inr.mp stepped
    obtain ⟨jobAction, next, rfl, rfl, runs⟩ := Machine.either_step_inr.mp moved
    exact job_payments holds runs

/-- The row that an insertion leaves with the next stage is of the payment asked for. -/
theorem inserted_payment {action : Answers ⊕ (Instant ⊕ ChainJobAction)} {work : Prepared}
    {next : Stage} {tx : TransactionEntity}
    (stepped : (operations env).step s (.inl (.insert work)) action = some (after, next))
    (entity : next.entity? = some tx) : requestedPayment env work = some (payment tx) := by
  obtain ⟨answers, next, rfl, rfl, moved⟩ := Machine.either_step_inl.mp stepped
  have created : (Creation.insert work).step env s answers = some (after, next) := moved
  rcases step_shown created (Creation.shown?_of_entity? entity) with
    ⟨_, known | known, _⟩ | ⟨_, same, _, own⟩ | ⟨_, none, _⟩
  · cases known
  · cases known
  · obtain rfl := Creation.insert.inj same
    exact own
  · cases none

/-- The work of an operation is its request with the funding source that is registered for it. -/
theorem stage_work {action : Answers ⊕ (Instant ⊕ ChainJobAction)} {stage next : Stage}
    {work : Prepared} (stepped : (operations env).step s stage action = some (after, next))
    (works : next.work? = some work) :
    (∃ request, Prepared.ofRequest request s = .ok work) ∨ stage.work? = some work := by
  rcases stage with creation | others
  · obtain ⟨answers, next, rfl, rfl, moved⟩ := Machine.either_step_inl.mp stepped
    rcases step_work moved works with ⟨request, _, prepared⟩ | before
    · exact .inl ⟨request, prepared⟩
    · exact .inr before
  · obtain ⟨own, next, rfl, rfl, moved⟩ := Machine.either_step_inr.mp stepped
    cases works

end

end Kufi.Workers

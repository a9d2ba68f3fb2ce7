import Kufi.Workers.AnchorCalls
import Kufi.Workers.BusinessOutcome

set_option autoImplicit false

/-!
# Transactions the chain worker takes

The settlement releases every finalised transaction to the chain, the claim lets
both outcomes of a settlement in, and the claim and the job leave out what has
failed. The settlement's status and the business status go together, so one of
the two outcomes is never taken.
-/

namespace Kufi.Workers

open Shared Transactions Settlement

def ChainJob.Calls : ChainJob → Prop
  | .anchoring _ | .receipt _ => True
  | _ => False

/-- The worker claims the transaction and its job calls the chain. -/
def TakenToChain (env : Env) (now : Instant) (limit : Nat) (locked : Nat → Bool) (s : Tables)
    (id : Nat) : Prop :=
  ∃ claimedIds after,
    claimDueChainTransactions env now limit locked s = .ok (claimedIds, after) ∧
      id ∈ claimedIds ∧ ∀ action, ∃ job,
        (chainJobs env).step after (.loading id) action = some (after, job) ∧ job.Calls

/-! ## Settlement and status -/

/-- A finalised settlement has its outcome as the status. -/
structure StatusAgrees (tx : TransactionEntity) : Prop where
  settled : tx.settlementStatus = .settled → tx.status = .completed
  failed : tx.settlementStatus = .failed → tx.status = .failed

section

variable {tx : TransactionEntity}

theorem submitted_agrees (answer : PartnerAnswer) (agrees : StatusAgrees tx) :
    StatusAgrees (submitted answer tx) := by
  cases answer with
  | error message => exact ⟨by rintro ⟨⟩, fun _ => rfl⟩
  | ok response =>
    simp only [submitted]
    split_ifs
    · exact ⟨by rintro ⟨⟩, fun _ => rfl⟩
    · exact ⟨agrees.settled, agrees.failed⟩

theorem simulatedFailure_agrees (tx : TransactionEntity) : StatusAgrees (simulatedFailure tx) :=
  ⟨nofun, fun _ => rfl⟩

theorem released_agrees (now : Instant) (agrees : StatusAgrees tx) :
    StatusAgrees (released now tx) :=
  ⟨agrees.settled, agrees.failed⟩

theorem marked_agrees (now : Instant) (outcome : SettlementOutcome) (note : String)
    (tx : TransactionEntity) : StatusAgrees (marked now outcome note tx) := by
  constructor
  · rw [marked_settlementStatus, marked_status]
    cases outcome <;> simp [SettlementOutcome.status, SettlementOutcome.settlementStatus]
  · rw [marked_settlementStatus, marked_status]
    cases outcome <;> simp [SettlementOutcome.status, SettlementOutcome.settlementStatus]

theorem reconciled_agrees (agrees : StatusAgrees tx) :
    StatusAgrees (reconcileBusinessStatusAfterChainUpdate tx) := by
  unfold reconcileBusinessStatusAfterChainUpdate
  split_ifs with failed external finalised
  · exact agrees
  · exact ⟨fun _ => rfl, fun refused => absurd (agrees.failed refused) failed⟩
  · exact ⟨fun _ => rfl, fun refused => absurd (agrees.failed refused) failed⟩
  · exact agrees

theorem anchored_agrees (env : Env) (clock : Clock) (answer : ChainAnswer)
    (agrees : StatusAgrees tx) : StatusAgrees (anchored env clock answer tx) := by
  cases answer with
  | error message => exact ⟨agrees.settled, agrees.failed⟩
  | ok response =>
    simp only [anchored, applyChainResult]
    split_ifs
    · exact reconciled_agrees ⟨agrees.settled, agrees.failed⟩
    · exact ⟨agrees.settled, agrees.failed⟩
    · exact ⟨agrees.settled, agrees.failed⟩

theorem processed_agrees (env : Env) (clock : Clock) (answer : ChainAnswer)
    (agrees : StatusAgrees tx) : StatusAgrees (processed env clock answer tx) := by
  have answered := anchored_agrees env clock answer agrees
  unfold processed
  dsimp only
  split_ifs
  · exact reconciled_agrees ⟨answered.settled, answered.failed⟩
  · exact reconciled_agrees answered

theorem inserted_agrees {work : Prepared} {s after : Tables} (inserted : Inserted work s tx after) :
    StatusAgrees tx := by
  have settlement := inserted.settlement
  constructor <;> intro final <;> rw [final] at settlement <;> split_ifs at settlement

end

/-! ## What every step keeps -/

/-- Every row fits its columns and its settlement agrees with its status. -/
def RowsSound (s : Tables) : Prop :=
  ∀ row ∈ s.transactions, row.columnsFit = true ∧ StatusAgrees row

/-- The entity that an operation will save from. -/
def Stage.entity? : Stage → Option TransactionEntity
  | .inl creation => creation.entity?
  | .inr (.inl _) => none
  | .inr (.inr (.anchoring tx)) | .inr (.inr (.receipt tx)) | .inr (.inr (.saving _ tx)) => some tx
  | .inr (.inr _) => none

def EntityAgrees (stage : Stage) : Prop := ∀ tx ∈ stage.entity?, StatusAgrees tx

theorem EntityAgrees.of_none {stage : Stage} (nothing : stage.entity? = none) :
    EntityAgrees stage := by
  intro tx held
  rw [nothing] at held
  exact absurd held (Option.not_mem_none tx)

theorem EntityAgrees.of_some {stage : Stage} {tx : TransactionEntity}
    (entity : stage.entity? = some tx) (agrees : StatusAgrees tx) : EntityAgrees stage := by
  intro own held
  obtain rfl := Option.some.inj (entity.symm.trans held)
  exact agrees

section

variable {env : Env} {s after : Tables} {tx : TransactionEntity}

theorem RowsSound.of_transactions (sound : RowsSound s)
    (same : after.transactions = s.transactions) : RowsSound after := by
  intro row member
  rw [same] at member
  exact sound row member

theorem RowsSound.save (sound : RowsSound s) (agrees : StatusAgrees tx)
    (saved : s.saveTransaction tx = .ok after) : RowsSound after := by
  obtain ⟨fits, transactions, updated, rfl⟩ := Tables.saveTransaction_eq_ok.mp saved
  intro row member
  rcases (Table.mem_update? updated).mp member with ⟨held, -⟩ | ⟨rfl, -⟩
  · exact sound row held
  · exact ⟨fits, agrees⟩

theorem RowsSound.insert {work : Prepared} (sound : RowsSound s)
    (inserted : Inserted work s tx after) (fits : tx.columnsFit = true) : RowsSound after := by
  obtain ⟨entity, added⟩ := inserted.row
  intro row member
  rcases (Table.mem_insert? added).mp member with held | rfl
  · exact sound row held
  · exact ⟨fits, inserted_agrees inserted⟩

theorem RowsSound.mark {now : Instant} {id : Nat} {status note : String} {found : Bool}
    (sound : RowsSound s) (done : markSettlement env now id status note s = .ok (found, after)) :
    RowsSound after := by
  unfold markSettlement at done
  split at done
  next => cases done
  next outcome known =>
    split at done
    next missing =>
      obtain ⟨rfl, rfl⟩ := Prod.mk.inj (Except.ok.inj done)
      exact sound
    next tx held =>
      simp only [bind_eq_ok, Prod.exists, Except.ok.injEq, Prod.mk.injEq] at done
      obtain ⟨_, middle, settled, stored, storing, _, event, -, rfl⟩ := done
      obtain ⟨rfl, credited⟩ := settleRow_effect settled
      obtain ⟨outbox, enqueued⟩ :=
        enqueueTransactionEvent_isOk now (marked now outcome note tx) stored
      obtain rfl := Except.ok.inj (enqueued.symm.trans event)
      exact ((sound.of_transactions credited.transactions).save
        (marked_agrees now outcome note tx) storing).of_transactions rfl

theorem creation_agrees {answers : Answers} {creation next : Creation} (sound : RowsSound s)
    (agrees : EntityAgrees (.inl creation))
    (stepped : creation.step env s answers = some (after, next)) :
    RowsSound after ∧ EntityAgrees (.inl next) := by
  cases Creation.step_moves stepped with
  | failed | source | known | unknown | replay | checked => exact ⟨sound, .of_none rfl⟩
  | @duplicate work held found =>
    have stored := (Table.byKey_eq_some.mp found).1
    exact ⟨sound, .of_some (Prepared.continued_entity? work held) (sound _ stored).2⟩
  | @insert work held _ inserted =>
    rcases Creation.proceed_cases stepped with ⟨-, _, error⟩ | ⟨⟨persisted, _⟩, done, same⟩
    · have entity := Prepared.continued_entity? work held
      rw [error] at entity
      cases entity
    obtain ⟨rfl, continues⟩ := Prod.mk.inj same
    have entity := Prepared.continued_entity? work held
    rw [← continues, Prepared.continued_entity?] at entity
    have fits := Prepared.insert_fits done
    rw [Option.some.inj entity] at fits
    exact ⟨sound.insert inserted fits,
      .of_some (Prepared.continued_entity? work held) (inserted_agrees inserted)⟩
  | @submit work held _ saved =>
    have later := submitted_agrees answers.partner (agrees held.transaction rfl)
    exact ⟨sound.save later saved, .of_some (Prepared.afterSubmit_entity? work _) later⟩
  | @rollback work held _ _ reversed =>
    obtain ⟨wallets, ledger, rfl⟩ := rollbackWithdrawalDebit_transactions reversed
    exact ⟨sound, .of_some (Prepared.afterRollback_entity? work held) (agrees held.transaction rfl)⟩
  | @saveSimulated held _ saved =>
    have later := simulatedFailure_agrees held.transaction
    exact ⟨sound.save later saved, .of_some rfl later⟩
  | @anchor held _ saved =>
    have later := anchored_agrees env answers.clock answers.chain (agrees held.transaction rfl)
    exact ⟨sound.save later saved, .of_some rfl later⟩
  | @release held _ saved =>
    have later := released_agrees answers.releasedAt (agrees held.transaction rfl)
    exact ⟨sound.save later saved, .of_some rfl later⟩
  | enqueue => exact ⟨sound, .of_none rfl⟩

theorem job_agrees {action : ChainJobAction} {job next : ChainJob} (sound : RowsSound s)
    (agrees : EntityAgrees (.inr (.inr job))) (stepped : job.step env s action = some (after, next)) :
    RowsSound after ∧ EntityAgrees (.inr (.inr next)) := by
  cases ChainJob.step_moves stepped with
  | @loaded id tx found =>
    have stored := (sound tx (Table.get?_eq_some.mp found).1).2
    refine ⟨sound, ?_⟩
    unfold ChainJob.loaded
    split_ifs
    · exact .of_some rfl stored
    · exact .of_some rfl stored
    · exact .of_none rfl
  | missing | refused => exact ⟨sound, .of_none rfl⟩
  | @anchored tx | @receipt tx =>
    have later := processed_agrees env action.clock action.answer (agrees tx rfl)
    exact ⟨sound, .of_some rfl later⟩
  | @saved previous tx _ saved =>
    refine ⟨sound.save (agrees tx rfl) saved, ?_⟩
    unfold ChainJob.afterSave
    split_ifs <;> exact .of_none rfl
  | @announcedChain previous tx =>
    refine ⟨sound, ?_⟩
    unfold ChainJob.afterSave
    split_ifs <;> exact .of_none rfl
  | announced => exact ⟨sound, .of_none rfl⟩

theorem marking_agrees {now : Instant} {marking next : Marking} (sound : RowsSound s)
    (stepped : marking.step env s now = some (after, next)) : RowsSound after := by
  cases marking with
  | mark id status note =>
    simp only [Marking.step] at stepped
    split at stepped
    next done =>
      obtain ⟨rfl, rfl⟩ := Prod.mk.inj (Option.some.inj stepped)
      exact sound.mark done
    next =>
      obtain ⟨rfl, rfl⟩ := Prod.mk.inj (Option.some.inj stepped)
      exact sound
  | marked result => cases stepped

theorem stage_agrees {action : Answers ⊕ (Instant ⊕ ChainJobAction)} {stage next : Stage}
    (sound : RowsSound s) (agrees : EntityAgrees stage)
    (stepped : (operations env).step s stage action = some (after, next)) :
    RowsSound after ∧ EntityAgrees next := by
  rcases stage with creation | marking | job
  · obtain ⟨answers, next, rfl, rfl, moved⟩ := Machine.either_step_inl.mp stepped
    exact creation_agrees sound agrees moved
  · obtain ⟨own, next, rfl, rfl, moved⟩ := Machine.either_step_inr.mp stepped
    obtain ⟨now, next, rfl, rfl, marks⟩ := Machine.either_step_inl.mp moved
    exact ⟨marking_agrees sound marks, .of_none rfl⟩
  · obtain ⟨own, next, rfl, rfl, moved⟩ := Machine.either_step_inr.mp stepped
    obtain ⟨jobAction, next, rfl, rfl, runs⟩ := Machine.either_step_inr.mp moved
    exact job_agrees sound agrees runs

end

theorem Stage.Starts.entity? {stage : Stage} (starts : stage.Starts) : stage.entity? = none := by
  rcases stage with creation | marking | job
  · cases creation with
    | source request => rfl
    | _ => exact starts.elim
  · rfl
  · cases job with
    | loading id => rfl
    | _ => exact starts.elim

theorem operations_sound {I : Type} [DecidableEq I] {env : Env} {start world : World I Tables Stage}
    (fresh : start.shared.transactions = .empty) (starts : ∀ i, (start.procs i).Starts)
    (reached : (operations env).Reaches (fun _ _ _ => True) start world) :
    RowsSound world.shared := by
  refine (reached.assertions RowsSound (fun _ _ => EntityAgrees)
    ⟨?_, fun i => .of_none (starts i).entity?⟩
    fun world i action shared stage sound agrees _ stepped => ?_).1
  · intro row member
    rw [fresh] at member
    exact absurd member (Table.not_mem_empty row)
  · obtain ⟨later, own⟩ := stage_agrees sound (agrees i) stepped
    exact ⟨later, own, fun j _ => agrees j⟩

/-! ## A claim that takes everything -/

section

variable {env : Env} {now : Instant} {limit : Nat} {locked : Nat → Bool} {s : Tables}

variable (locked) in
theorem claim_takes (env : Env) (sound : RowsSound s)
    (enough : (s.transactions.rows.filter (isChainDue now)).length ≤ limit) :
    ∃ rows after, claimDueChainTransactions env now limit locked s =
        .ok (rows.map TransactionEntity.id, after) ∧
      s.transactions.Claims (fun tx => isChainDue now tx && !locked tx.id) (claimed env now) rows
        after.transactions ∧
      ∀ tx ∈ s.transactions, isChainDue now tx = true → locked tx.id = false → tx ∈ rows := by
  have room : (s.transactions.rows.filter fun tx => isChainDue now tx && !locked tx.id).length ≤
      max 1 limit := by
    refine le_trans ?_ (enough.trans (le_max_right 1 limit))
    rw [← List.countP_eq_length_filter, ← List.countP_eq_length_filter]
    exact List.countP_mono_left fun tx _ due => (Bool.and_eq_true_iff.mp due).1
  generalize taken : ((s.transactions.rows.filter fun tx =>
    isChainDue now tx && !locked tx.id).insertionSort fun left right =>
      left.chainNextAttemptAt.getD left.createdAt ≤
        right.chainNextAttemptAt.getD right.createdAt).take (max 1 limit) = rows
  obtain ⟨apart, due⟩ := Table.taken_rows taken
  have known := fun tx member => (due tx member).1
  have accepts : ∀ s' : Tables, ∀ tx ∈ rows, s'.transactions.get? tx.id = some tx →
      ∃ after, s'.saveTransaction (claimed env now tx) = .ok after := by
    intro s' tx member held
    have fits := (sound tx (Table.get?_eq_some.mp (known tx member)).1).1
    exact save_isOk (Table.get?_eq_some.mp held).1 (claimed_terms env now tx) fits
  obtain ⟨after, done⟩ := Table.marks_succeed (claimed env now) saveTransaction_updates
    (fun _ => rfl) accepts apart known
  refine ⟨rows, after, ?_, Table.claims_of_fold Tables.saveTransaction (claimed env now)
    saveTransaction_updates (fun _ => rfl) taken done, fun tx member due unlocked => ?_⟩
  · simp only [claimDueChainTransactions, taken, done, ok_bind]
  · exact Table.mem_taken taken room member (by simp [due, unlocked])

theorem loading_step {action : ChainJobAction} {id : Nat} {tx : TransactionEntity}
    (found : s.transactions.get? id = some tx) :
    (chainJobs env).step s (.loading id) action = some (s, ChainJob.loaded tx) := by
  change (ChainJob.loading id).step env s action = _
  unfold ChainJob.step
  simp only [found]

theorem loaded_calls {tx : TransactionEntity} (processable : isProcessable tx = true) :
    (ChainJob.loaded tx).Calls := by
  unfold ChainJob.loaded
  rw [if_pos processable]
  split_ifs <;> trivial

/-- Of the due transactions exactly the ones that have not failed are taken. -/
theorem taken_iff_alive {tx : TransactionEntity} (sound : RowsSound s)
    (stored : tx ∈ s.transactions) (external : tx.isExternal = true)
    (final : tx.settlementStatus = .settled ∨ tx.settlementStatus = .failed)
    (pending : tx.chainStatus = .pending)
    (due : tx.chainNextAttemptAt.all (· ≤ now) = true)
    (enough : (s.transactions.rows.filter (isChainDue now)).length ≤ limit) :
    TakenToChain env now limit locked s tx.id ↔ tx.status ≠ .failed ∧ locked tx.id = false := by
  obtain ⟨rows, after, done, claims, all⟩ := claim_takes locked env sound enough
  have isDue : isChainDue now tx = true ↔ tx.status ≠ .failed := by
    simp [isChainDue, external, final, pending, due]
  constructor
  · rintro ⟨claimedIds, after', done', member, -⟩
    obtain ⟨rfl, rfl⟩ := Prod.mk.inj (Except.ok.inj (done.symm.trans done'))
    obtain ⟨row, taken, sameId⟩ := List.mem_map.mp member
    obtain ⟨held, wanted⟩ := claims.wanted row taken
    obtain rfl := Table.eq_of_id (Table.get?_eq_some.mp held).1 stored sameId
    simpa [isDue] using wanted
  · rintro ⟨alive, unlocked⟩
    have member := all tx stored (isDue.mpr alive) unlocked
    have held : after.transactions.get? tx.id = some (claimed env now tx) := claims.marked tx member
    have named : tx.id ∈ rows.map TransactionEntity.id := List.mem_map.mpr ⟨tx, member, rfl⟩
    have processable : isProcessable (claimed env now tx) = true := by
      simp [isProcessable, claimed, pending, alive]
    exact ⟨rows.map TransactionEntity.id, after, done, named, fun _ =>
      ⟨ChainJob.loaded (claimed env now tx), loading_step held, loaded_calls processable⟩⟩

end

-- A finalised transaction that is due is taken exactly when its settlement succeeded and no other
-- database transaction holds its row.
theorem taken_to_chain_iff {I : Type} [DecidableEq I] (env : Env) (start world : World I Tables Stage)
    (fresh : start.shared.transactions = .empty) (starts : ∀ i, (start.procs i).Starts)
    (reached : (operations env).Reaches (fun _ _ _ => True) start world) (tx : TransactionEntity)
    (stored : tx ∈ world.shared.transactions) (external : tx.isExternal = true)
    (final : tx.settlementStatus = .settled ∨ tx.settlementStatus = .failed)
    (pending : tx.chainStatus = .pending) (now : Instant)
    (due : tx.chainNextAttemptAt.all (· ≤ now) = true) (limit : Nat)
    (enough : (world.shared.transactions.rows.filter (isChainDue now)).length ≤ limit)
    (locked : Nat → Bool) :
    TakenToChain env now limit locked world.shared tx.id ↔
      tx.settlementStatus = .settled ∧ locked tx.id = false := by
  have sound := operations_sound fresh starts reached
  have agrees := (sound tx stored).2
  rw [taken_iff_alive sound stored external final pending due enough]
  refine and_congr_left' ⟨fun alive => ?_, fun settled => ?_⟩
  · exact final.resolve_right fun refused => alive (agrees.failed refused)
  · rw [agrees.settled settled]
    decide

/-! ## A top-up that settles or fails -/

def topupAndMark (settlementStatus : String) : World Bool Tables Stage where
  shared := Tables.initial [aliceSource]
  procs
    | false => .inl (.source (.topup aliceFunding))
    | true => .inr (.inl (.mark 0 settlementStatus ""))

/-- The top-up is submitted and then marked. -/
def submittedAndMarked : List (Bool × (Answers ⊕ (Instant ⊕ ChainJobAction))) :=
  List.replicate 6 (false, .inl accepted) ++ [(true, .inr (.inl 1))]

/-- Transaction 0 is finalised as the settlement says and due for the chain. -/
def finalisedAs (settlement : SettlementStatus) (status : TransactionStatus) (s : Tables) : Bool :=
  (s.transactions.get? 0).any fun tx =>
    tx.isExternal && tx.settlementStatus = settlement && tx.status = status &&
      tx.chainStatus = .pending && tx.chainNextAttemptAt.all (· ≤ 2)

theorem finalisedAs_row {settlement : SettlementStatus} {status : TransactionStatus} {s : Tables}
    (finalised : finalisedAs settlement status s = true) : ∃ tx ∈ s.transactions, tx.id = 0 ∧
      tx.isExternal = true ∧ tx.settlementStatus = settlement ∧ tx.status = status ∧
      tx.chainStatus = .pending ∧ tx.chainNextAttemptAt.all (· ≤ 2) = true := by
  unfold finalisedAs at finalised
  cases found : s.transactions.get? 0 with
  | none => simp [found] at finalised
  | some tx =>
    obtain ⟨stored, sameId⟩ := Table.get?_eq_some.mp found
    simp only [found, Option.any_some, Bool.and_eq_true, decide_eq_true_eq] at finalised
    obtain ⟨⟨⟨⟨external, settled⟩, completed⟩, pending⟩, due⟩ := finalised
    exact ⟨tx, stored, sameId, external, settled, completed, pending, due⟩

theorem topupAndMark_starts (settlementStatus : String) :
    ∀ i, ((topupAndMark settlementStatus).procs i).Starts
  | false | true => trivial

theorem taken_to_chain_iff_settled :
    ∃ world tx, (operations sampleEnv).run (topupAndMark "SETTLED") submittedAndMarked =
        some world ∧ tx ∈ world.shared.transactions ∧ tx.settlementStatus = .settled ∧
      (TakenToChain sampleEnv 2 10 (fun _ => false) world.shared tx.id ↔
        tx.settlementStatus = .settled ∧ false = false) := by
  have ends : ((operations sampleEnv).run (topupAndMark "SETTLED") submittedAndMarked).map
      (fun world => (finalisedAs .settled .completed world.shared,
        decide ((world.shared.transactions.rows.filter (isChainDue 2)).length ≤ 10))) =
      some (true, true) := by
    decide +kernel
  obtain ⟨world, ran, holds⟩ := Option.map_eq_some_iff.mp ends
  obtain ⟨finalised, enough⟩ := Prod.mk.inj holds
  obtain ⟨tx, stored, -, external, settled, -, pending, due⟩ := finalisedAs_row finalised
  exact ⟨world, tx, ran, stored, settled,
    taken_to_chain_iff sampleEnv (topupAndMark "SETTLED") world rfl (topupAndMark_starts "SETTLED")
      (.run .refl ran) tx stored external (.inl settled) pending 2 due 10
      (of_decide_eq_true enough) fun _ => false⟩

theorem failed_settlement_never_taken :
    ¬∀ world, (operations sampleEnv).Reaches (fun _ _ _ => True) (topupAndMark "FAILED") world →
      ∀ tx ∈ world.shared.transactions, tx.isExternal = true →
        tx.settlementStatus = .settled ∨ tx.settlementStatus = .failed →
        tx.chainStatus = .pending → tx.chainNextAttemptAt.all (· ≤ 2) = true →
        TakenToChain sampleEnv 2 10 (fun _ => false) world.shared tx.id := by
  intro always
  have ends : ((operations sampleEnv).run (topupAndMark "FAILED") submittedAndMarked).map
      (fun world => (finalisedAs .failed .failed world.shared,
        decide ((world.shared.transactions.rows.filter (isChainDue 2)).length ≤ 10))) =
      some (true, true) := by
    decide +kernel
  obtain ⟨world, ran, holds⟩ := Option.map_eq_some_iff.mp ends
  obtain ⟨finalised, enough⟩ := Prod.mk.inj holds
  obtain ⟨tx, stored, -, external, refused, failed, pending, due⟩ := finalisedAs_row finalised
  have reached : (operations sampleEnv).Reaches (fun _ _ _ => True) (topupAndMark "FAILED") world :=
    .run .refl ran
  have taken := always world reached tx stored external (.inr refused) pending due
  have sound := operations_sound rfl (topupAndMark_starts "FAILED") reached
  exact ((taken_iff_alive sound stored external (.inr refused) pending due
    (of_decide_eq_true enough)).mp taken).1 failed

end Kufi.Workers

import Kufi.Settlement.SettlementCycle
import Kufi.Transactions.CreationSteps
import Kufi.Transactions.CreditRuns
import Kufi.Transactions.Finality

set_option autoImplicit false

/-!
# Creations beside settlement cycles

A creation saves an entity it loaded before its partner call. As long as no
cycle marks a transaction that a creation has still to save, what the creation
holds is the row itself and its saves lose nothing.
-/

namespace Kufi.Settlement

open Shared Transactions

abbrev Process := Creation ⊕ SettlementCycle

def processes (env : Env) : Machine Tables Process (Answers ⊕ CycleAction) :=
  (creations env).either (settlementCycles env)

def saving? : Process → Option TransactionEntity
  | .inl creation => creation.saving?
  | .inr _ => none

variable {I : Type} [DecidableEq I]

def NoDuplicate (s : Tables) : Creation → Prop
  | .check work => s.findByIdempotencyKey work.idempotencyKey = none
  | _ => True

instance (s : Tables) (creation : Creation) : Decidable (NoDuplicate s creation) := by
  unfold NoDuplicate
  split <;> infer_instance

-- The mark of a transaction no creation has still to save, and no SETTLED on a failed withdrawal.
def MarksSafely (env : Env) (world : World I Tables Process) (mark : Nat × String × String) :
    Prop :=
  (∀ j, ∀ tx ∈ saving? (world.procs j), tx.id ≠ mark.1) ∧
    (settlementOutcome? env mark.2.1 = some .settled →
      ∀ row ∈ world.shared.transactions.get? mark.1, row.type = .withdrawal → row.status ≠ .failed)

def Allowed (env : Env) (world : World I Tables Process) (i : I) :
    Answers ⊕ CycleAction → Prop
  | .inl _ => ∀ creation, world.procs i = .inl creation → NoDuplicate world.shared creation
  | .inr action => ∀ cycle, world.procs i = .inr cycle →
    ∀ mark ∈ SettlementCycle.mark? cycle action, MarksSafely env world mark

/-! ## Rows a creation writes -/

theorem get?_save {s after : Tables} {tx tx' : TransactionEntity}
    (held : s.transactions.get? tx.id = some tx) (same : tx'.id = tx.id)
    (saved : s.saveTransaction tx' = .ok after) :
    ∃ transactions, after = { s with transactions } ∧
      ∀ id, transactions.get? id = if tx.id = id then some tx' else s.transactions.get? id := by
  obtain ⟨transactions, updated, rfl⟩ := saved_row saved
  refine ⟨transactions, rfl, fun id => ?_⟩
  have looked := Table.get?_update? updated (Table.get?_eq_some.mp held).1 same.symm id
  have ids : Row.id tx' = tx.id := same
  rwa [ids] at looked

-- What a step of a creation that holds its row does to the rows and to what it holds.
inductive RowStep (creation next : Creation) (s after : Tables) : Prop
  | same (rows : after.transactions = s.transactions)
      (holds : ∀ tx, next.saving? = some tx → creation.saving? = some tx)
  | saved (tx tx' : TransactionEntity) (held : creation.saving? = some tx)
      (own : tx'.id = tx.id)
      (rows : ∀ id, after.transactions.get? id =
        if tx.id = id then some tx' else s.transactions.get? id)
      (books : after.books = s.books)
      (holds : ∀ held, next.saving? = some held → held = tx')
  | inserted (work : Prepared) (tx : TransactionEntity) (inserted : Inserted work s tx after)
      (inserting : creation = .insert work)
      (holds : ∀ held, next.saving? = some held → held = tx)

theorem of_none {A : Type} {P : A → Prop} {held : Option A} (none : held = none) :
    ∀ value, held = some value → P value := by
  rintro value rfl
  cases none

theorem Moves.rowStep {env : Env} {answers : Answers} {s after : Tables} {creation next : Creation}
    (moves : Creation.Moves env answers s creation after next)
    (held : ∀ tx, creation.saving? = some tx → s.transactions.get? tx.id = some tx)
    (noDuplicate : NoDuplicate s creation) : RowStep creation next s after := by
  cases moves with
  | failed => exact .same rfl (of_none rfl)
  | source same => exact .same rfl (of_none rfl)
  | known found => exact .same rfl (of_none rfl)
  | unknown missing => exact .same rfl (of_none rfl)
  | replay => exact .same rfl (of_none rfl)
  | duplicate found =>
    rw [NoDuplicate, found] at noDuplicate
    cases noDuplicate
  | checked missing => exact .same rfl (of_none rfl)
  | @insert work result _ inserted =>
    refine .inserted work result.transaction inserted rfl fun tx holds => ?_
    have entity := Creation.entity?_of_saving? holds
    rw [Prepared.continued_entity?] at entity
    exact (Option.some.inj entity).symm
  | @submit work result _ saved =>
    have own := congrArg Terms.id (submitted_terms answers.partner result.transaction)
    obtain ⟨transactions, rfl, rows⟩ := get?_save (held _ rfl) own saved
    refine .saved result.transaction _ rfl own rows rfl fun tx holds => ?_
    have entity := Creation.entity?_of_saving? holds
    rw [Prepared.afterSubmit_entity?] at entity
    exact (Option.some.inj entity).symm
  | @rollback work result reasonCode _ reversed =>
    obtain ⟨wallets, ledger, rfl⟩ := rollbackWithdrawalDebit_transactions reversed
    refine .same rfl fun tx holds => ?_
    have entity := Creation.entity?_of_saving? holds
    rw [Prepared.afterRollback_entity?] at entity
    exact entity
  | @saveSimulated result _ saved =>
    have own := congrArg Terms.id (simulatedFailure_terms result.transaction)
    obtain ⟨transactions, rfl, rows⟩ := get?_save (held _ rfl) own saved
    exact .saved result.transaction _ rfl own rows rfl fun tx holds => (Option.some.inj holds).symm
  | @anchor result _ saved =>
    have own := congrArg Terms.id
      (anchored_terms env answers.clock answers.chain result.transaction)
    obtain ⟨transactions, rfl, rows⟩ := get?_save (held _ rfl) own saved
    exact .saved result.transaction _ rfl own rows rfl (of_none rfl)
  | @release result _ saved =>
    have own := congrArg Terms.id (released_terms answers.releasedAt result.transaction)
    obtain ⟨transactions, rfl, rows⟩ := get?_save (held _ rfl) own saved
    exact .saved result.transaction _ rfl own rows rfl (of_none rfl)
  | enqueue => exact .same rfl (of_none rfl)

/-! ## What the entity of a stage says -/

def Open (tx : TransactionEntity) : Prop :=
  tx.status = .pending ∧ ¬ Decided tx

def Failed (tx : TransactionEntity) : Prop :=
  tx.status = .failed ∧ tx.settlementStatus = .failed

def simulates : Prepared → Bool
  | .withdrawal req _ => req.simulateFailure
  | _ => false

def StageSound : Creation → Prop
  | .submit work held => simulates work = false ∧ Open held.transaction
  | .rollback work held _ =>
    if simulates work then Open held.transaction ∧ held.transaction.columnsFit = true
    else Failed held.transaction
  | .saveSimulated held => Open held.transaction ∧ held.transaction.columnsFit = true
  | .anchor held => Failed held.transaction
  | .release held => Open held.transaction
  | _ => True

theorem continued_sound {work : Prepared} {held : Held} (opened : Open held.transaction)
    (fits : work.type = .withdrawal → held.transaction.columnsFit = true) :
    StageSound (work.continued held) := by
  cases work with
  | transfer req =>
    simp only [Prepared.continued]
    split_ifs
    · exact ⟨rfl, opened⟩
    · exact opened
    · trivial
  | topup req fundingSource => exact ⟨rfl, opened⟩
  | withdrawal req fundingSource =>
    cases simulated : req.simulateFailure with
    | true =>
      simp only [Prepared.continued, simulated, if_true, StageSound, simulates]
      exact ⟨opened, fits rfl⟩
    | false =>
      simp only [Prepared.continued, simulated, StageSound, simulates, Bool.false_eq_true, if_false]
      exact ⟨trivial, opened⟩

theorem afterSubmit_sound {work : Prepared} {held : Held} (direct : simulates work = false)
    (failed : held.transaction.status = .failed → held.transaction.settlementStatus = .failed) :
    StageSound (work.afterSubmit held) := by
  unfold Prepared.afterSubmit
  split_ifs with status
  · cases work with
    | transfer req => trivial
    | topup req fundingSource => exact ⟨status, failed status⟩
    | withdrawal req fundingSource =>
      simp only [StageSound, direct, Bool.false_eq_true, if_false]
      exact ⟨status, failed status⟩
  · trivial

theorem afterRollback_sound {work : Prepared} {held : Held} {reasonCode : String}
    (sound : StageSound (.rollback work held reasonCode)) :
    StageSound (work.afterRollback held) := by
  unfold StageSound at sound
  cases work with
  | transfer req => exact sound
  | topup req fundingSource => exact sound
  | withdrawal req fundingSource =>
    cases simulated : req.simulateFailure with
    | true =>
      simp only [simulates, simulated, if_true] at sound
      simp only [Prepared.afterRollback, simulated, if_true]
      exact sound
    | false =>
      simp only [simulates, simulated, Bool.false_eq_true, if_false] at sound
      simp only [Prepared.afterRollback, simulated, Bool.false_eq_true, if_false]
      exact sound

theorem submitted_failed {answer : PartnerAnswer} {tx : TransactionEntity}
    (pending : tx.status = .pending) (failed : (submitted answer tx).status = .failed) :
    (submitted answer tx).settlementStatus = .failed := by
  by_cases accepts : Accepts answer
  · rw [(submitted_accepted accepts tx).1, pending] at failed
    cases failed
  · exact (submitted_rejected accepts tx).2

theorem inserted_open {work : Prepared} {s after : Tables} {tx : TransactionEntity}
    (inserted : Inserted work s tx after) : Open tx := by
  refine ⟨inserted.status, ?_⟩
  rw [Decided, inserted.settlement]
  cases work.isExternal <;> simp

theorem Moves.sound {env : Env} {answers : Answers} {s after : Tables} {creation next : Creation}
    (moves : Creation.Moves env answers s creation after next) (sound : StageSound creation)
    (noDuplicate : NoDuplicate s creation) : StageSound next := by
  cases moves with
  | duplicate found =>
    rw [NoDuplicate, found] at noDuplicate
    cases noDuplicate
  | insert inserted => exact continued_sound (inserted_open inserted) inserted.fits
  | submit saved =>
    obtain ⟨direct, pending, _⟩ := sound
    exact afterSubmit_sound direct (submitted_failed pending)
  | rollback reversed => exact afterRollback_sound sound
  | saveSimulated saved => exact ⟨rfl, rfl⟩
  | _ => trivial

-- The rows a creation writes are open, or failed ones that stay failed.
theorem Moves.outcome {env : Env} {answers : Answers} {s after : Tables}
    {creation next : Creation} {row : TransactionEntity}
    (moves : Creation.Moves env answers s creation after next)
    (held : ∀ tx, creation.saving? = some tx → s.transactions.get? tx.id = some tx)
    (sound : StageSound creation) (found : s.transactions.get? row.id = some row) :
    ∃ row', after.transactions.get? row.id = some row' ∧ row'.type = row.type ∧
      (row'.status = row.status ∨ row'.status = .failed) ∧
      (Decided row → row'.status = row.status ∧ row'.settlementStatus = row.settlementStatus) := by
  have unsaved : after.transactions = s.transactions → _ := fun same =>
    show ∃ row', after.transactions.get? row.id = some row' ∧ row'.type = row.type ∧
      (row'.status = row.status ∨ row'.status = .failed) ∧
      (Decided row → row'.status = row.status ∧ row'.settlementStatus = row.settlementStatus) from
    ⟨row, by rw [same, found], rfl, .inl rfl, fun _ => ⟨rfl, rfl⟩⟩
  have overwritten {tx tx' : TransactionEntity} (own : s.transactions.get? tx.id = some tx)
      (terms : tx'.terms = tx.terms) (saved : s.saveTransaction tx' = .ok after)
      (status : tx'.status = tx.status ∨ tx'.status = .failed)
      (kept : Decided tx → tx'.status = tx.status ∧ tx'.settlementStatus = tx.settlementStatus) :
      ∃ row', after.transactions.get? row.id = some row' ∧ row'.type = row.type ∧
        (row'.status = row.status ∨ row'.status = .failed) ∧
        (Decided row → row'.status = row.status ∧
          row'.settlementStatus = row.settlementStatus) := by
    obtain ⟨transactions, rfl, rows⟩ := get?_save own (congrArg Terms.id terms) saved
    by_cases same : tx.id = row.id
    · obtain rfl : tx = row := Option.some.inj (own.symm.trans (same ▸ found))
      exact ⟨tx', by simp [rows], congrArg Terms.type terms, status, kept⟩
    · exact ⟨row, by simp [rows, same, found], rfl, .inl rfl, fun _ => ⟨rfl, rfl⟩⟩
  cases moves with
  | insert inserted =>
    exact ⟨row, inserted.get? found, rfl, .inl rfl, fun _ => ⟨rfl, rfl⟩⟩
  | @submit work result _ saved =>
    obtain ⟨_, pending, undecided⟩ := sound
    refine overwritten (held _ rfl) (submitted_terms ..) saved ?_
      fun decided => absurd decided undecided
    by_cases accepts : Accepts answers.partner
    · exact .inl (submitted_accepted accepts result.transaction).1
    · exact .inr (submitted_rejected accepts result.transaction).1
  | rollback reversed =>
    obtain ⟨wallets, ledger, rfl⟩ := rollbackWithdrawalDebit_transactions reversed
    exact unsaved rfl
  | saveSimulated saved =>
    exact overwritten (held _ rfl) (simulatedFailure_terms _) saved (.inr rfl)
      fun decided => absurd decided sound.1.2
  | anchor saved =>
    obtain ⟨failed, settlement⟩ := sound
    obtain ⟨failed', settlement'⟩ := anchored_failed env answers.clock answers.chain failed
    exact overwritten (held _ rfl) (anchored_terms ..) saved (.inr failed')
      fun _ => ⟨failed'.trans failed.symm, settlement'⟩
  | release saved =>
    exact overwritten (held _ rfl) (released_terms ..) saved (.inl rfl) fun _ => ⟨rfl, rfl⟩
  | _ => exact unsaved rfl

/-! ## The ledger beside the rows -/

theorem Moves.credited {env : Env} {answers : Answers} {s after : Tables}
    {creation next : Creation} {id : Nat}
    (moves : Creation.Moves env answers s creation after next) (credited : s.findCredit id ≠ none) :
    after.findCredit id ≠ none := by
  cases moves with
  | insert inserted => exact inserted.ledgerStep.credited credited
  | rollback reversed => exact (rollback_ledgerStep reversed).credited credited
  | submit saved =>
    obtain ⟨_, _, rfl⟩ := saved_row saved
    exact credited
  | saveSimulated saved =>
    obtain ⟨_, _, rfl⟩ := saved_row saved
    exact credited
  | anchor saved =>
    obtain ⟨_, _, rfl⟩ := saved_row saved
    exact credited
  | release saved =>
    obtain ⟨_, _, rfl⟩ := saved_row saved
    exact credited
  | _ => exact credited

theorem known_save {s after : Tables} {tx : TransactionEntity} (known : s.Known)
    (saved : s.saveTransaction tx = .ok after) : after.Known := by
  obtain ⟨transactions, updated, rfl⟩ := saved_row saved
  intro id fresh
  have next : transactions.next = s.transactions.next := (Table.update?_spec updated).2.1
  exact known id (next ▸ fresh)

theorem Moves.known {env : Env} {answers : Answers} {s after : Tables} {creation next : Creation}
    (moves : Creation.Moves env answers s creation after next)
    (held : ∀ tx, creation.saving? = some tx → s.transactions.get? tx.id = some tx)
    (known : s.Known) : after.Known := by
  cases moves with
  | insert inserted =>
    obtain ⟨own, next⟩ := inserted.id
    exact inserted.ledgerStep.known known (by omega) (by omega)
  | @rollback work result reasonCode _ reversed =>
    have member := (Table.get?_eq_some.mp (held _ rfl)).1
    have step := rollback_ledgerStep reversed
    obtain ⟨wallets, ledger, rfl⟩ := rollbackWithdrawalDebit_transactions reversed
    exact step.known known (Nat.le_refl _) (s.transactions.fresh _ member)
  | submit saved => exact known_save known saved
  | saveSimulated saved => exact known_save known saved
  | anchor saved => exact known_save known saved
  | release saved => exact known_save known saved
  | _ => exact known

/-! ## The invariant -/

structure Steady (world : World I Tables Process) : Prop where
  known : world.shared.Known
  rows : ∀ i tx, saving? (world.procs i) = some tx →
    world.shared.transactions.get? tx.id = some tx
  apart : ∀ i j tx tx', i ≠ j → saving? (world.procs i) = some tx →
    saving? (world.procs j) = some tx' → tx.id ≠ tx'.id
  sound : ∀ i creation, world.procs i = .inl creation → StageSound creation
  -- Only a simulated failure shows its reversal before its status.
  refunds : ∀ row ∈ world.shared.transactions, row.type = .withdrawal →
    world.shared.findCredit row.id ≠ none → row.status = .failed ∨
      ∃ i held, world.procs i = .inl (.saveSimulated held) ∧ held.transaction.id = row.id

omit [DecidableEq I] in
theorem Steady.open_uncredited {world : World I Tables Process} (steady : Steady world) {i : I}
    {tx : TransactionEntity} (holds : saving? (world.procs i) = some tx)
    (other : ∀ held, world.procs i ≠ .inl (.saveSimulated held)) (withdrawal : tx.type = .withdrawal)
    (credited : world.shared.findCredit tx.id ≠ none) : tx.status = .failed := by
  have member := (Table.get?_eq_some.mp (steady.rows i tx holds)).1
  rcases steady.refunds tx member withdrawal credited with failed | ⟨j, held, simulating, same⟩
  · exact failed
  · have different : j ≠ i := by
      rintro rfl
      exact other held simulating
    have saving : saving? (world.procs j) = some held.transaction := by
      rw [simulating]
      rfl
    exact absurd same (steady.apart j i _ _ different saving holds)

section

variable {env : Env} {world : World I Tables Process} {i : I}

omit [DecidableEq I] in
-- The row of a simulated failure is always saved.
theorem Steady.simulated (steady : Steady world) {held : Held} {answers : Answers} {s : Tables}
    {next : Creation} (stage : world.procs i = .inl (.saveSimulated held))
    (stepped : (Creation.saveSimulated held).step env world.shared answers = some (s, next)) :
    world.shared.saveTransaction (simulatedFailure held.transaction) = .ok s ∧
      next = .anchor { held with transaction := simulatedFailure held.transaction } := by
  have holds : saving? (world.procs i) = some held.transaction := by
    rw [stage]
    rfl
  have member := (Table.get?_eq_some.mp (steady.rows i _ holds)).1
  obtain ⟨_, fits⟩ := steady.sound i _ stage
  obtain ⟨after, saved⟩ := save_isOk member (simulatedFailure_terms held.transaction)
    (simulatedFailure_fits fits)
  simp only [Creation.step, Creation.proceed, saved, Option.some.injEq, Prod.mk.injEq] at stepped
  obtain ⟨rfl, rfl⟩ := stepped
  exact ⟨saved, rfl⟩

theorem update_inl {i : I} {next : Creation} {j : I} :
    (Function.update world.procs i (Sum.inl next : Process)) j =
      if j = i then .inl next else world.procs j := by
  by_cases own : j = i
  · subst own
    simp
  · simp [own]

theorem Steady.creation_rows (steady : Steady world) {creation next : Creation} {after : Tables}
    (stage : world.procs i = .inl creation) (step : RowStep creation next world.shared after) :
    (∀ j tx, saving? (Function.update world.procs i (Sum.inl next : Process) j) = some tx →
        after.transactions.get? tx.id = some tx) ∧
      ∀ j tx tx', j ≠ i → saving? (world.procs j) = some tx → next.saving? = some tx' →
        tx.id ≠ tx'.id := by
  have own (tx : TransactionEntity) (holds : creation.saving? = some tx) :
      saving? (world.procs i) = some tx := by
    rw [stage]
    exact holds
  cases step with
  | same rows holds =>
    refine ⟨fun j tx saving => ?_, fun j tx tx' different saving saving' => ?_⟩
    · rw [rows]
      rw [update_inl] at saving
      split_ifs at saving
      · exact steady.rows i tx (own tx (holds tx saving))
      · exact steady.rows j tx saving
    · exact steady.apart j i tx tx' different saving (own tx' (holds tx' saving'))
  | saved old new held sameId rows books holds =>
    have oldRow := steady.rows i old (own old held)
    refine ⟨fun j tx saving => ?_, fun j tx tx' different saving saving' => ?_⟩
    · rw [update_inl] at saving
      split_ifs at saving with same
      · obtain rfl := holds tx saving
        rw [rows, sameId, if_pos rfl]
      · rw [rows, if_neg (Ne.symm (steady.apart j i tx old same saving (own old held)))]
        exact steady.rows j tx saving
    · obtain rfl := holds tx' saving'
      rw [sameId]
      exact steady.apart j i tx old different saving (own old held)
  | inserted work new inserted inserting holds =>
    refine ⟨fun j tx saving => ?_, fun j tx tx' different saving saving' => ?_⟩
    · rw [update_inl] at saving
      split_ifs at saving
      · obtain rfl := holds tx saving
        exact inserted.held
      · exact inserted.get? (steady.rows j tx saving)
    · obtain rfl := holds tx' saving'
      have member := (Table.get?_eq_some.mp (steady.rows j tx saving)).1
      exact Nat.ne_of_lt (inserted.id_lt member)

-- A row in the world after the step that was there before it, with its credit.
theorem Steady.refund_kept (steady : Steady world) {creation next : Creation}
    (stage : world.procs i = .inl creation) {row : TransactionEntity}
    (other : ∀ held, creation = .saveSimulated held → held.transaction.id ≠ row.id)
    (member : row ∈ world.shared.transactions) (withdrawal : row.type = .withdrawal)
    (credited : world.shared.findCredit row.id ≠ none) :
    row.status = .failed ∨ ∃ j held, Function.update world.procs i (Sum.inl next : Process) j =
      .inl (.saveSimulated held) ∧ held.transaction.id = row.id := by
  rcases steady.refunds row member withdrawal credited with failed | ⟨j, held, simulating, own⟩
  · exact .inl failed
  · have different : j ≠ i := by
      rintro rfl
      obtain same := Sum.inl.inj (stage.symm.trans simulating)
      exact other held same own
    refine .inr ⟨j, held, ?_, own⟩
    rw [update_inl, if_neg different]
    exact simulating

-- A row saved from an entity that was credited before is that of a failed withdrawal.
theorem Steady.refund_saved (steady : Steady world) {creation next : Creation}
    (stage : world.procs i = .inl creation) (direct : ∀ held, creation ≠ .saveSimulated held)
    {tx tx' row : TransactionEntity} {after : Tables} (holds : creation.saving? = some tx)
    (terms : tx'.terms = tx.terms) (saved : world.shared.saveTransaction tx' = .ok after)
    (failed : tx.status = .failed → tx'.status = .failed) (member : row ∈ after.transactions)
    (withdrawal : row.type = .withdrawal) (credited : after.findCredit row.id ≠ none) :
    row.status = .failed ∨ ∃ j held, Function.update world.procs i (Sum.inl next : Process) j =
      .inl (.saveSimulated held) ∧ held.transaction.id = row.id := by
  obtain ⟨transactions, updated, rfl⟩ := saved_row saved
  rcases (Table.mem_update? updated).mp member with ⟨old, _⟩ | ⟨rfl, _⟩
  · exact steady.refund_kept stage (fun held same => absurd same (direct held)) old withdrawal
      credited
  · have saving : saving? (world.procs i) = some tx := by
      rw [stage]
      exact holds
    have sameId : row.id = tx.id := congrArg Terms.id terms
    have sameType : tx.type = .withdrawal := (congrArg Terms.type terms).symm.trans withdrawal
    refine .inl (failed (steady.open_uncredited saving ?_ sameType (sameId ▸ credited)))
    intro held same
    exact direct held (Sum.inl.inj (stage.symm.trans same))

theorem Steady.creation_refunds (steady : Steady world) {creation next : Creation}
    {after : Tables} {answers : Answers} (stage : world.procs i = .inl creation)
    (stepped : creation.step env world.shared answers = some (after, next)) :
    ∀ row ∈ after.transactions, row.type = .withdrawal → after.findCredit row.id ≠ none →
      row.status = .failed ∨ ∃ j held, Function.update world.procs i (Sum.inl next : Process) j =
        .inl (.saveSimulated held) ∧ held.transaction.id = row.id := by
  intro row member withdrawal credited
  by_cases simulating : ∃ held, creation = .saveSimulated held
  · obtain ⟨held, rfl⟩ := simulating
    obtain ⟨saved, rfl⟩ := steady.simulated stage stepped
    obtain ⟨transactions, updated, rfl⟩ := saved_row saved
    rcases (Table.mem_update? updated).mp member with ⟨old, different⟩ | ⟨rfl, _⟩
    · refine steady.refund_kept stage (fun held' same => ?_) old withdrawal credited
      obtain rfl := Creation.saveSimulated.inj same
      exact Ne.symm different
    · exact .inl rfl
  have direct : ∀ held, creation ≠ .saveSimulated held := fun held same => simulating ⟨held, same⟩
  have sound := steady.sound i creation stage
  have kept (old : row ∈ world.shared.transactions)
      (before : world.shared.findCredit row.id ≠ none) :=
    @Steady.refund_kept _ _ _ _ steady _ next stage _ (fun held same => absurd same (direct held)) old
      withdrawal before
  cases Creation.step_moves stepped with
  | insert inserted =>
    obtain ⟨entity, added⟩ := inserted.row
    rcases (Table.mem_insert? added).mp member with old | rfl
    · have different : row.id ≠ _ := Nat.ne_of_lt (inserted.id_lt old)
      have same := findCredit_congr (inserted.ledgerStep.apart row.id different)
      exact kept old fun none => credited (same.mpr none)
    · have type := inserted.type.symm.trans withdrawal
      exact absurd (inserted.uncredited steady.known type) credited
  | @submit work held _ saved =>
    refine steady.refund_saved stage direct rfl (submitted_terms ..) saved (fun failed => ?_) member
      withdrawal credited
    rw [sound.2.1] at failed
    cases failed
  | @rollback work held reasonCode _ reversed =>
    have step := rollback_ledgerStep reversed
    obtain ⟨wallets, ledger, rfl⟩ := rollbackWithdrawalDebit_transactions reversed
    by_cases own : row.id = held.transaction.id
    · have saving : saving? (world.procs i) = some held.transaction := by
        rw [stage]
        rfl
      have ownRow := (Table.get?_eq_some.mp (steady.rows i _ saving)).1
      obtain rfl : row = held.transaction := Table.eq_of_id member ownRow own
      simp only [StageSound] at sound
      split_ifs at sound with simulated
      · cases work with
        | withdrawal req fundingSource =>
          have flag : req.simulateFailure = true := simulated
          refine .inr ⟨i, { held with senderBalance := Number.add held.senderBalance req.amount },
            ?_, rfl⟩
          simp [Prepared.afterRollback, flag]
        | transfer req => cases simulated
        | topup req fundingSource => cases simulated
      · exact .inl sound.1
    · have same := findCredit_congr (step.apart row.id own)
      exact kept member fun none => credited (same.mpr none)
  | saveSimulated saved => exact absurd rfl (direct _)
  | @anchor held _ saved =>
    exact steady.refund_saved stage direct rfl (anchored_terms ..) saved
      (fun failed => (anchored_failed env answers.clock answers.chain failed).1) member withdrawal
      credited
  | @release held _ saved =>
    exact steady.refund_saved stage direct rfl (released_terms ..) saved id member withdrawal credited
  | enqueue => exact kept member credited
  | _ => exact kept member credited

theorem Steady.creation (steady : Steady world) {creation next : Creation} {after : Tables}
    {answers : Answers} (stage : world.procs i = .inl creation)
    (noDuplicate : NoDuplicate world.shared creation)
    (stepped : creation.step env world.shared answers = some (after, next)) :
    Steady { shared := after, procs := Function.update world.procs i (Sum.inl next : Process) } := by
  have moves := Creation.step_moves stepped
  have held : ∀ tx, creation.saving? = some tx → world.shared.transactions.get? tx.id = some tx := by
    intro tx holds
    refine steady.rows i tx ?_
    rw [stage]
    exact holds
  obtain ⟨rows, apart⟩ := steady.creation_rows stage (Moves.rowStep moves held noDuplicate)
  refine ⟨Moves.known moves held steady.known, rows, ?_, ?_, steady.creation_refunds stage stepped⟩
  · intro j k tx tx' different saving saving'
    simp only [update_inl] at saving saving'
    split_ifs at saving saving' with first second
    · exact absurd (first.trans second.symm) different
    · exact (apart k tx' tx second saving' saving).symm
    · exact apart j tx tx' first saving saving'
    · exact steady.apart j k tx tx' different saving saving'
  · intro j creation' stage'
    simp only [update_inl] at stage'
    split_ifs at stage'
    · obtain rfl := Sum.inl.inj stage'
      exact Moves.sound moves (steady.sound i creation stage) noDuplicate
    · exact steady.sound j creation' stage'

/-! ## A cycle's step -/

theorem Marked.get? {outcome : SettlementOutcome} {tx : TransactionEntity} {now : Instant}
    {note : String} {s after : Tables} (marking : Marked outcome tx now note s after) (id : Nat) :
    after.transactions.get? id =
      if tx.id = id then some (marked now outcome note tx) else s.transactions.get? id := by
  obtain ⟨middle, transactions, outbox, _, updated, rfl⟩ := marking.effect
  have sameId : (marked now outcome note tx).id = tx.id :=
    congrArg Terms.id (marked_terms now outcome note tx)
  have looked :=
    Table.get?_update? updated (Table.get?_eq_some.mp marking.held).1 sameId.symm id
  have ids : Row.id (marked now outcome note tx) = tx.id := sameId
  rwa [ids] at looked

theorem Marked.ledgerStep {outcome : SettlementOutcome} {tx : TransactionEntity} {now : Instant}
    {note : String} {s after : Tables} (marking : Marked outcome tx now note s after) :
    LedgerStep tx.id s after := by
  obtain ⟨middle, transactions, outbox, once, _, rfl⟩ := marking.effect
  exact ⟨once.ledgerStep.rows, once.ledgerStep.apart⟩

-- A withdrawal is credited by no SETTLED mark.
theorem Marked.uncredited {tx : TransactionEntity} {now : Instant} {note : String}
    {s after : Tables} (marking : Marked .settled tx now note s after)
    (withdrawal : tx.type = .withdrawal) : after.findCredit tx.id = s.findCredit tx.id := by
  obtain ⟨middle, transactions, outbox, once, _, rfl⟩ := marking.effect
  rcases once with ⟨rfl, _⟩ | ⟨credits, _⟩
  · rfl
  · simp [Credits, withdrawal] at credits

theorem Marked.known {outcome : SettlementOutcome} {tx : TransactionEntity} {now : Instant}
    {note : String} {s after : Tables} (marking : Marked outcome tx now note s after)
    (known : s.Known) : after.Known := by
  have member := (Table.get?_eq_some.mp marking.held).1
  have below : tx.id < s.transactions.next := s.transactions.fresh tx member
  have step := Marked.ledgerStep marking
  obtain ⟨middle, transactions, outbox, _, updated, rfl⟩ := marking.effect
  have next : transactions.next = s.transactions.next := (Table.update?_spec updated).2.1
  exact step.known known next.ge (next ▸ below)

omit [DecidableEq I] in
-- A marked withdrawal that was refunded has failed before.
theorem Steady.marked_failed (steady : Steady world) {outcome : SettlementOutcome}
    {tx : TransactionEntity} {now : Instant} {status note : String} {after : Tables}
    (marking : Marked outcome tx now note world.shared after)
    (known : settlementOutcome? env status = some outcome)
    (safe : MarksSafely env world (tx.id, status, note)) (withdrawal : tx.type = .withdrawal)
    (credited : after.findCredit tx.id ≠ none) : outcome = .failed := by
  cases outcome with
  | failed => rfl
  | settled =>
    rw [Marked.uncredited marking withdrawal] at credited
    have member := (Table.get?_eq_some.mp marking.held).1
    rcases steady.refunds tx member withdrawal credited with failed | ⟨j, held, simulating, own⟩
    · exact absurd failed (safe.2 known tx marking.held withdrawal)
    · have saving : held.transaction ∈ saving? (world.procs j) := by
        rw [simulating]
        exact rfl
      exact absurd own (safe.1 j _ saving)

theorem Steady.cycle (steady : Steady world) {cycle next : SettlementCycle} {after : Tables}
    {action : CycleAction} (stage : world.procs i = .inr cycle)
    (safe : ∀ mark ∈ cycle.mark? action, MarksSafely env world mark)
    (stepped : cycle.step env world.shared action = some (after, next)) :
    Steady { shared := after, procs := Function.update world.procs i (Sum.inr next : Process) } := by
  have procs (j : I) (different : j ≠ i) :
      (Function.update world.procs i (Sum.inr next : Process)) j = world.procs j := by
    simp [different]
  have unsaving (j : I) (tx : TransactionEntity)
      (saving : saving? (Function.update world.procs i (Sum.inr next : Process) j) = some tx) :
      saving? (world.procs j) = some tx := by
    by_cases own : j = i
    · subst own
      rw [Function.update_self] at saving
      cases saving
    · rwa [procs j own] at saving
  have sound (j : I) (creation : Creation)
      (stage' : Function.update world.procs i (Sum.inr next : Process) j = .inl creation) :
      StageSound creation := by
    by_cases own : j = i
    · subst own
      rw [Function.update_self] at stage'
      cases stage'
    · exact steady.sound j creation ((procs j own).symm.trans stage')
  have simulating {row : TransactionEntity}
      (refund : row.status = .failed ∨ ∃ j held, world.procs j = .inl (.saveSimulated held) ∧
        held.transaction.id = row.id) :
      row.status = .failed ∨ ∃ j held,
        Function.update world.procs i (Sum.inr next : Process) j = .inl (.saveSimulated held) ∧
          held.transaction.id = row.id := by
    rcases refund with failed | ⟨j, held, stage', own⟩
    · exact .inl failed
    · have different : j ≠ i := by
        rintro rfl
        rw [stage] at stage'
        cases stage'
      exact .inr ⟨j, held, (procs j different).trans stage', own⟩
  rcases SettlementCycle.step_effect stepped with rfl |
    ⟨id, status, note, now, outcome, tx, marks, known, rfl, marking⟩
  · exact ⟨steady.known, fun j tx saving => steady.rows j tx (unsaving j tx saving),
      fun j k tx tx' different saving saving' => steady.apart j k tx tx' different
        (unsaving j tx saving) (unsaving k tx' saving'), sound,
      fun row member withdrawal credited =>
        simulating (steady.refunds row member withdrawal credited)⟩
  · have safeMark := safe _ marks
    refine ⟨Marked.known marking steady.known, fun j held saving => ?_,
      fun j k tx tx' different saving saving' => steady.apart j k tx tx' different
        (unsaving j tx saving) (unsaving k tx' saving'), sound,
      fun row member withdrawal credited => ?_⟩
    · have before := unsaving j held saving
      rw [Marked.get? marking, if_neg (Ne.symm (safeMark.1 j held before))]
      exact steady.rows j held before
    · have found : after.transactions.get? row.id = some row := Table.get?_of_mem member
      rw [Marked.get? marking] at found
      split_ifs at found with own
      · obtain rfl := Option.some.inj found
        have type := congrArg Terms.type (marked_terms now outcome note tx)
        have failed := steady.marked_failed marking known safeMark (type.symm.trans withdrawal)
          (own ▸ credited)
        rw [marked_status, failed]
        exact .inl rfl
      · have same := findCredit_congr ((Marked.ledgerStep marking).apart row.id (Ne.symm own))
        exact simulating (steady.refunds row (Table.get?_eq_some.mp found).1 withdrawal
          fun none => credited (same.mpr none))

end

theorem Steady.fire {env : Env} {world after : World I Tables Process} {i : I}
    {action : Answers ⊕ CycleAction} (steady : Steady world) (allowed : Allowed env world i action)
    (fired : (processes env).fire world i action = some after) : Steady after := by
  obtain ⟨shared, proc, stepped, rfl⟩ := Machine.fire_eq_some.mp fired
  cases stage : world.procs i with
  | inl creation =>
    rw [stage] at stepped
    obtain ⟨answers, next, rfl, rfl, moved⟩ := Machine.either_step_inl.mp stepped
    exact steady.creation stage (allowed creation stage) moved
  | inr cycle =>
    rw [stage] at stepped
    obtain ⟨own, next, rfl, rfl, moved⟩ := Machine.either_step_inr.mp stepped
    exact steady.cycle stage (allowed cycle stage) moved

/-! ## Settlement outcomes survive creations -/

structure Starts (start : World I Tables Process) : Prop where
  known : start.shared.Known
  refunds : ∀ row ∈ start.shared.transactions, row.type = .withdrawal →
    start.shared.findCredit row.id ≠ none → row.status = .failed
  procs : ∀ i, (∃ request, start.procs i = .inl (.source request)) ∨ start.procs i = .inr .start

-- Settled and failed transactions stay so.
def OutcomesKept (s after : Tables) : Prop :=
  ∀ row ∈ s.transactions, Decided row → ∃ row', after.transactions.get? row.id = some row' ∧
    row'.status = row.status ∧ row'.settlementStatus = row.settlementStatus

-- A refunded withdrawal stays refunded and may only fail.
def RefundsKept (s after : Tables) : Prop :=
  ∀ row ∈ s.transactions, row.type = .withdrawal → s.findCredit row.id ≠ none →
    ∃ row', after.transactions.get? row.id = some row' ∧ row'.type = .withdrawal ∧
      after.findCredit row.id ≠ none ∧ (row'.status = row.status ∨ row'.status = .failed)

structure OutcomesSurvive (env : Env)
    (allowed : World I Tables Process → I → Answers ⊕ CycleAction → Prop)
    (start : World I Tables Process) : Prop where
  outcomes : ∀ world i answers after, (processes env).Reaches allowed start world →
    allowed world i (.inl answers) → (processes env).fire world i (.inl answers) = some after →
    OutcomesKept world.shared after.shared
  refunds : ∀ world later, (processes env).Reaches allowed start world →
    (processes env).Reaches allowed world later → RefundsKept world.shared later.shared

theorem RefundsKept.refl (s : Tables) : RefundsKept s s :=
  fun row member withdrawal credited =>
    ⟨row, Table.get?_of_mem member, withdrawal, credited, .inl rfl⟩

theorem RefundsKept.trans {s middle after : Tables} (first : RefundsKept s middle)
    (second : RefundsKept middle after) : RefundsKept s after := by
  intro row member withdrawal credited
  obtain ⟨row', found, withdrawal', credited', status⟩ := first row member withdrawal credited
  obtain ⟨member', same⟩ := Table.get?_eq_some.mp found
  have own : row'.id = row.id := same
  obtain ⟨row'', found', withdrawal'', credited'', status'⟩ :=
    second row' member' withdrawal' (own ▸ credited')
  rw [own] at found' credited''
  refine ⟨row'', found', withdrawal'', credited'', ?_⟩
  rcases status' with same' | failed
  · rw [same']
    exact status
  · exact .inr failed

omit [DecidableEq I] in
theorem Starts.steady {start : World I Tables Process} (starts : Starts start) : Steady start := by
  have unsaving (i : I) : saving? (start.procs i) = none := by
    rcases starts.procs i with ⟨request, stage⟩ | stage <;> rw [stage] <;> rfl
  refine ⟨starts.known, fun i tx saving => ?_, fun i j tx tx' _ saving _ => ?_,
    fun i creation stage => ?_, fun row member withdrawal credited =>
      .inl (starts.refunds row member withdrawal credited)⟩
  · rw [unsaving i] at saving
    cases saving
  · rw [unsaving i] at saving
    cases saving
  · rcases starts.procs i with ⟨request, source⟩ | source <;> rw [source] at stage
    · obtain rfl := Sum.inl.inj stage
      trivial
    · cases stage

theorem Steady.outcomesKept {env : Env} {world after : World I Tables Process} {i : I}
    {answers : Answers} (steady : Steady world)
    (fired : (processes env).fire world i (.inl answers) = some after) :
    OutcomesKept world.shared after.shared := by
  obtain ⟨shared, proc, stepped, rfl⟩ := Machine.fire_eq_some.mp fired
  cases stage : world.procs i with
  | inl creation =>
    rw [stage] at stepped
    obtain ⟨own, next, _, rfl, moved⟩ := Machine.either_step_inl.mp stepped
    intro row member decided
    obtain ⟨row', found, _, _, kept⟩ := Moves.outcome (Creation.step_moves moved)
      (fun tx holds => steady.rows i tx (by rw [stage]; exact holds)) (steady.sound i creation stage)
      (Table.get?_of_mem member)
    exact ⟨row', found, kept decided⟩
  | inr cycle =>
    rw [stage] at stepped
    obtain ⟨own, _, different, _⟩ := Machine.either_step_inr.mp stepped
    cases different

theorem Steady.refundsKept {env : Env} {world after : World I Tables Process} {i : I}
    {action : Answers ⊕ CycleAction} (steady : Steady world) (allowed : Allowed env world i action)
    (fired : (processes env).fire world i action = some after) :
    RefundsKept world.shared after.shared := by
  obtain ⟨shared, proc, stepped, rfl⟩ := Machine.fire_eq_some.mp fired
  intro row member withdrawal credited
  cases stage : world.procs i with
  | inl creation =>
    rw [stage] at stepped
    obtain ⟨own, next, rfl, rfl, moved⟩ := Machine.either_step_inl.mp stepped
    have moves := Creation.step_moves moved
    obtain ⟨row', found, type, status, _⟩ := Moves.outcome moves
      (fun tx holds => steady.rows i tx (by rw [stage]; exact holds)) (steady.sound i creation stage)
      (Table.get?_of_mem member)
    exact ⟨row', found, type.trans withdrawal, Moves.credited moves credited, status⟩
  | inr cycle =>
    rw [stage] at stepped
    obtain ⟨own, next, rfl, rfl, moved⟩ := Machine.either_step_inr.mp stepped
    rcases SettlementCycle.step_effect moved with rfl |
      ⟨id, mark, note, now, outcome, tx, marks, known, rfl, marking⟩
    · exact RefundsKept.refl _ row member withdrawal credited
    · have kept := (Marked.ledgerStep marking).credited credited
      by_cases same : tx.id = row.id
      · have found := marking.held
        rw [same] at found
        obtain rfl : row = tx := Option.some.inj ((Table.get?_of_mem member).symm.trans found)
        have failed := steady.marked_failed marking known (allowed cycle stage _ marks) withdrawal
          kept
        have looked := Marked.get? marking row.id
        rw [if_pos rfl] at looked
        refine ⟨_, looked, ?_, kept, .inr ?_⟩
        · exact (congrArg Terms.type (marked_terms now outcome note row)).trans withdrawal
        · rw [marked_status, failed]
          rfl
      · have looked := Marked.get? marking row.id
        rw [if_neg same] at looked
        exact ⟨row, looked.trans (Table.get?_of_mem member), withdrawal, kept, .inl rfl⟩

theorem steady_reaches {env : Env} {start world : World I Tables Process} (steady : Steady start)
    (reached : (processes env).Reaches (Allowed env) start world) : Steady world :=
  reached.invariant Steady steady fun _ _ _ _ before allowed fired => before.fire allowed fired

theorem outcomes_survive (env : Env) (start : World I Tables Process) (starts : Starts start) :
    OutcomesSurvive env (Allowed env) start where
  outcomes := fun _ _ _ _ reached _ fired =>
    (steady_reaches starts.steady reached).outcomesKept fired
  refunds := fun _ _ reached reached' =>
    reached'.related RefundsKept (RefundsKept.refl _) RefundsKept.trans
      fun _ _ _ _ before allowed fired =>
        (steady_reaches (steady_reaches starts.steady reached) before).refundsKept allowed fired

def withdrawalBesideCycle : World Bool Tables Process where
  shared := fundedTables
  procs isCycle := if isCycle then .inr .start else .inl (.source aliceWithdrawalRequest)

-- The withdrawal is persisted and its partner call is on the way; a cycle lists it, finds no
-- reference and marks it FAILED.
def failedMeanwhile : List (Bool × (Answers ⊕ CycleAction)) :=
  [(false, .inl accepted), (false, .inl accepted), (false, .inl accepted), (false, .inl accepted),
    (true, .inr (.list 100)), (true, .inr (.process 0 ⟨.error "", 5⟩)),
    (true, .inr (.process 0 ⟨.error "", 5⟩))]

-- The save after the partner call sets the refunded withdrawal to PENDING again.
theorem outcome_overwritten :
    ¬ OutcomesSurvive sampleEnv (fun _ _ _ => True) withdrawalBesideCycle := by
  intro survive
  have reached : ((processes sampleEnv).run withdrawalBesideCycle failedMeanwhile).map
      (fun world => ((world.shared.findByIdempotencyKey "withdrawal").map fun row =>
          (row.status, row.settlementStatus),
        ((processes sampleEnv).fire world false (.inl accepted)).map fun after =>
          ((world.shared.findByIdempotencyKey "withdrawal").bind fun row =>
            after.shared.transactions.get? row.id).map TransactionEntity.status)) =
      some (some (.failed, .failed), some (some .pending)) := by decide +kernel
  obtain ⟨world, ran, facts⟩ := Option.map_eq_some_iff.mp reached
  obtain ⟨before, saved⟩ := Prod.mk.inj facts
  obtain ⟨row, found, statuses⟩ := Option.map_eq_some_iff.mp before
  obtain ⟨failed, settlement⟩ := Prod.mk.inj statuses
  obtain ⟨after, fired, last⟩ := Option.map_eq_some_iff.mp saved
  rw [found] at last
  have member := (Table.byKey_eq_some.mp found).1
  obtain ⟨row', found', status, _⟩ := survive.outcomes world false accepted after
    (Machine.Reaches.run .refl ran) trivial fired row member (.inr settlement)
  have pending : (after.shared.transactions.get? row.id).map TransactionEntity.status =
      some .pending := last
  rw [found', Option.map_some, status, failed] at pending
  cases pending

theorem known_of_rows {s : Tables}
    (below : ∀ entry ∈ s.ledger.rows, entry.transactionId < s.transactions.next) : s.Known := by
  intro id fresh
  have none : (s.ledger.rows.filter fun entry => entry.transactionId == id) = [] :=
    List.filter_eq_nil_iff.mpr fun entry member => by
      have bound := below entry member
      simpa using (show entry.transactionId ≠ id by omega)
  simp [Books.postings, Tables.books, none]

theorem outcomes_survive_withdrawalBesideCycle :
    OutcomesSurvive sampleEnv (Allowed sampleEnv) withdrawalBesideCycle := by
  apply outcomes_survive
  have refunds : ∀ row ∈ fundedTables.transactions.rows, row.type = .withdrawal →
      fundedTables.findCredit row.id ≠ none → row.status = .failed := by decide +kernel
  refine ⟨known_of_rows (by decide), refunds, fun i => ?_⟩
  cases i with
  | false => exact .inl ⟨aliceWithdrawalRequest, rfl⟩
  | true => exact .inr rfl

end Kufi.Settlement

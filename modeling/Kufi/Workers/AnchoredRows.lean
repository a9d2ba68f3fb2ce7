import Kufi.Shared.JsonText
import Kufi.Transactions.ReceiptRefresh
import Kufi.Transactions.ReconcileRuns
import Kufi.Workers.AnchorCalls
import Kufi.Workers.Announcements

set_option autoImplicit false

/-!
# Rows that are anchored

Requests, workers and readers save entities that they have loaded long before.
A transaction stays anchored as long as no such save brings back a row from
before it was.
-/

namespace Kufi.Workers

open Shared Transactions Settlement

abbrev Party := Process ⊕ ReceiptRead

abbrev PartyAction := Action ⊕ ReceiptAction

def serviceAndReads (env : Env) (jsonParse : String → Option Json) :
    Machine Tables Party PartyAction :=
  (service env).either (receiptReads jsonParse)

/-- What a later version of an anchored row still shows. -/
structure StaysAnchored (row later : TransactionEntity) : Prop where
  anchored : later.chainStatus = .anchored
  chainTxId : row.chainTxId ≠ none → later.chainTxId ≠ none
  receiptJson : row.receiptJson ≠ none → later.receiptJson ≠ none

/-- The entity is not from before its row was anchored or completed. -/
structure UpToDate (row copy : TransactionEntity) : Prop where
  anchored : row.chainStatus = .anchored → StaysAnchored row copy
  completed : row.status = .completed → copy.status ≠ .pending

variable {I : Type} [DecidableEq I]

/-- What every save of a run must meet. Who claims, loads or calls what and when is left open. -/
def SavesUpToDate (world : World I Tables Party) (i : I) (action : PartyAction) : Prop :=
  match world.procs i, action with
  | .inl (.inl (.inl (.submit _ held))), _ | .inl (.inl (.inl (.saveSimulated held))), _
  | .inl (.inl (.inl (.release held))), _ =>
    ∀ row ∈ world.shared.transactions.get? held.transaction.id, UpToDate row held.transaction
  -- anchoring once more does not start from an anchored entity
  | .inl (.inl (.inl (.anchor held))), _ =>
    held.transaction.chainStatus ≠ .anchored ∧
      ∀ row ∈ world.shared.transactions.get? held.transaction.id, UpToDate row held.transaction
  -- a job has loaded its entity as PENDING on the chain and in its previous status
  | .inl (.inr worker), .inl (.inr (.job index _)) =>
    ∀ previous tx, worker.chunk[index]? = some (.saving previous tx) →
      ∀ row ∈ world.shared.transactions.get? tx.id,
        row.chainStatus ≠ .anchored ∧ (row.status = .completed → previous ≠ .pending)
  | .inr (.saving tx), _ =>
    ∀ row ∈ world.shared.transactions.get? tx.id, row.status = .completed → tx.status ≠ .pending
  | _, _ => True

/-- No commit takes back that a transaction is anchored or that it is completed. -/
structure AnchoringMonotone (env : Env) (jsonParse : String → Option Json)
    (allowed : World I Tables Party → I → PartyAction → Prop)
    (start : World I Tables Party) : Prop where
  anchored : ∀ world later, (serviceAndReads env jsonParse).Reaches allowed start world →
    (serviceAndReads env jsonParse).Reaches allowed world later →
    ∀ row ∈ world.shared.transactions, row.chainStatus = .anchored →
      ∃ row', later.shared.transactions.get? row.id = some row' ∧ StaysAnchored row row'
  completed : ∀ world i action after, (serviceAndReads env jsonParse).Reaches allowed start world →
    allowed world i action → (serviceAndReads env jsonParse).fire world i action = some after →
    ∀ row ∈ world.shared.transactions, row.status = .completed →
      ∃ row', after.shared.transactions.get? row.id = some row' ∧ row'.status ≠ .pending

/-! ## What an update keeps of a row -/

section

variable {row copy later : TransactionEntity}

theorem StaysAnchored.trans (first : StaysAnchored row copy) (second : StaysAnchored copy later) :
    StaysAnchored row later where
  anchored := second.anchored
  chainTxId known := second.chainTxId (first.chainTxId known)
  receiptJson known := second.receiptJson (first.receiptJson known)

/-- The columns that a chain result fills. -/
def chainColumns (tx : TransactionEntity) : ChainStatus × Option String × Option String :=
  (tx.chainStatus, tx.chainTxId, tx.receiptJson)

theorem StaysAnchored.of_columns (same : chainColumns later = chainColumns copy)
    (stays : StaysAnchored row copy) : StaysAnchored row later := by
  obtain ⟨chainStatus, others⟩ := Prod.mk.inj same
  obtain ⟨chainTxId, receiptJson⟩ := Prod.mk.inj others
  exact
    { anchored := chainStatus.trans stays.anchored
      chainTxId := fun known => chainTxId ▸ stays.chainTxId known
      receiptJson := fun known => receiptJson ▸ stays.receiptJson known }

theorem UpToDate.refl (row : TransactionEntity) : UpToDate row row where
  anchored anchored := { anchored, chainTxId := id, receiptJson := id }
  completed completed := by
    rw [completed]
    decide

/-- An update of other columns that sets no status PENDING. -/
theorem UpToDate.update (upToDate : UpToDate row copy)
    (same : chainColumns later = chainColumns copy)
    (pending : later.status = .pending → copy.status = .pending) : UpToDate row later where
  anchored anchored := (upToDate.anchored anchored).of_columns same
  completed completed before := upToDate.completed completed (pending before)

theorem submitted_columns (answer : PartnerAnswer) (tx : TransactionEntity) :
    chainColumns (submitted answer tx) = chainColumns tx := by
  cases answer with
  | ok response =>
    simp only [submitted]
    split_ifs <;> rfl
  | error message => rfl

theorem submitted_pending {answer : PartnerAnswer} {tx : TransactionEntity}
    (pending : (submitted answer tx).status = .pending) : tx.status = .pending := by
  cases answer with
  | ok response =>
    simp only [submitted] at pending
    split_ifs at pending
    exact pending
  | error message => cases pending

theorem marked_columns (now : Instant) (outcome : SettlementOutcome) (note : String)
    (tx : TransactionEntity) : chainColumns (marked now outcome note tx) = chainColumns tx := by
  cases outcome <;> simp only [marked, markedSettled, markedFailed, releaseToChain] <;>
    split <;> rfl

theorem anchored_pending {env : Env} {clock : Clock} {answer : ChainAnswer}
    {tx : TransactionEntity} (pending : (anchored env clock answer tx).status = .pending) :
    tx.status = .pending := by
  rcases anchored_status env clock answer tx with same | completed
  · exact same.symm.trans pending
  · cases completed.symm.trans pending

theorem processed_pending {env : Env} {clock : Clock} {answer : ChainAnswer}
    {tx : TransactionEntity} (pending : (processed env clock answer tx).status = .pending) :
    tx.status = .pending := by
  rcases processed_status env clock answer tx with same | completed
  · exact same.symm.trans pending
  · cases completed.symm.trans pending

end

/-! ## What a step keeps of all rows -/

-- Every row is there after the step, and what is there is not from before.
def RowsKept (s after : Tables) : Prop :=
  ∀ row ∈ s.transactions, ∃ row', after.transactions.get? row.id = some row' ∧ UpToDate row row'

section

variable {env : Env} {jsonParse : String → Option Json} {s after : Tables}

theorem RowsKept.of_rows
    (kept : ∀ id row, s.transactions.get? id = some row → after.transactions.get? id = some row) :
    RowsKept s after :=
  fun row member => ⟨row, kept row.id row (Table.get?_of_mem member), UpToDate.refl row⟩

theorem rowsKept_of_save {tx : TransactionEntity} (saved : s.saveTransaction tx = .ok after)
    (upToDate : ∀ row, s.transactions.get? tx.id = some row → UpToDate row tx) :
    RowsKept s after := by
  intro row member
  have found : s.transactions.get? row.id = some row := Table.get?_of_mem member
  by_cases own : tx.id = row.id
  · obtain ⟨_, transactions, updated, rfl⟩ := Tables.saveTransaction_eq_ok.mp saved
    have looked := Table.get?_update? updated member own.symm row.id
    rw [if_pos (show Row.id tx = row.id from own)] at looked
    exact ⟨tx, looked, upToDate row (own ▸ found)⟩
  · exact ⟨row, (save_other saved own).trans found, UpToDate.refl row⟩

omit [DecidableEq I] in
theorem creation_keeps {creation next : Creation} {answers : Answers}
    {world : World I Tables Party} {i : I} {action : PartyAction}
    (proc : world.procs i = .inl (.inl (.inl creation)))
    (upToDate : SavesUpToDate world i action)
    (stepped : creation.step env world.shared answers = some (after, next)) :
    RowsKept world.shared after := by
  have save {tx tx' : TransactionEntity} (terms : tx'.terms = tx.terms)
      (saved : world.shared.saveTransaction tx' = .ok after)
      (kept : ∀ row, world.shared.transactions.get? tx.id = some row → UpToDate row tx') :
      RowsKept world.shared after := by
    have sameId : tx'.id = tx.id := congrArg Terms.id terms
    exact rowsKept_of_save saved (sameId ▸ kept)
  cases Creation.step_moves stepped with
  | failed | source | known | unknown | replay | duplicate | checked =>
    exact .of_rows fun _ _ found => found
  | enqueue => exact .of_rows fun _ _ found => found
  | insert => exact .of_rows fun _ _ found => creation_rows stepped (fun _ none => nomatch none) found
  | rollback reversed =>
    obtain ⟨_, _, rfl⟩ := rollbackWithdrawalDebit_transactions reversed
    exact .of_rows fun _ _ found => found
  | submit saved =>
    simp only [SavesUpToDate, proc] at upToDate
    exact save (submitted_terms _ _) saved fun row found =>
      (upToDate row found).update (submitted_columns _ _) submitted_pending
  | saveSimulated saved =>
    simp only [SavesUpToDate, proc] at upToDate
    exact save (simulatedFailure_terms _) saved fun row found =>
      (upToDate row found).update rfl fun pending => nomatch pending
  | release saved =>
    simp only [SavesUpToDate, proc] at upToDate
    exact save (released_terms _ _) saved fun row found => (upToDate row found).update rfl id
  | anchor saved =>
    simp only [SavesUpToDate, proc] at upToDate
    refine save (anchored_terms _ _ _ _) saved fun row found => ?_
    have before := upToDate.2 row found
    exact
      { anchored := fun anchored => absurd (before.anchored anchored).anchored upToDate.1
        completed := fun completed pending => before.completed completed (anchored_pending pending) }

theorem cycle_keeps {cycle next : SettlementCycle} {action : CycleAction}
    (stepped : cycle.step env s action = some (after, next)) : RowsKept s after := by
  rcases SettlementCycle.step_effect stepped with
    rfl | ⟨_, _, note, now, outcome, tx, _, _, _, marking⟩
  · exact .of_rows fun _ _ found => found
  intro row member
  have found : s.transactions.get? row.id = some row := Table.get?_of_mem member
  have looked := Marked.get? marking row.id
  split_ifs at looked with own
  · obtain rfl : tx = row := Option.some.inj ((own ▸ marking.held).symm.trans found)
    refine ⟨_, looked, ⟨fun anchored => ?_, fun _ pending => ?_⟩⟩
    · exact ((UpToDate.refl tx).anchored anchored).of_columns (marked_columns ..)
    · rw [marked_status] at pending
      cases outcome <;> cases pending
  · exact ⟨row, looked.trans found, UpToDate.refl row⟩

theorem claim_keeps (env : Env) (s : Tables) (claim : ChainClaim) :
    RowsKept s (claimBatch env s claim).2 := by
  obtain ⟨rows, claims, _⟩ := claimBatch_claims env s claim
  intro row member
  have found : s.transactions.get? row.id = some row := Table.get?_of_mem member
  by_cases taken : row.id ∈ rows.map TransactionEntity.id
  · obtain ⟨tx, among, own⟩ := List.mem_map.mp taken
    obtain ⟨known, _⟩ := claims.wanted tx among
    rw [show Row.id tx = row.id from own] at known
    obtain rfl : tx = row := Option.some.inj (known.symm.trans found)
    exact ⟨_, claims.marked tx among, (UpToDate.refl tx).update rfl id⟩
  · exact ⟨row, (claims.others row.id taken).trans found, UpToDate.refl row⟩

-- A job sets no status PENDING that it has not loaded.
def JobSound : ChainJob → Prop
  | .saving previous tx => tx.status = .pending → previous = .pending
  | _ => True

theorem job_sound {job next : ChainJob} {action : ChainJobAction}
    (moves : ChainJob.Moves env action s job after next) : JobSound next := by
  have done (previous : TransactionStatus) (tx : TransactionEntity) :
      JobSound (ChainJob.afterSave previous tx) := by
    unfold ChainJob.afterSave
    split_ifs <;> trivial
  cases moves with
  | @loaded id tx found =>
    unfold ChainJob.loaded
    split_ifs <;> trivial
  | anchored | receipt => exact processed_pending
  | saved =>
    split_ifs
    · trivial
    · exact done _ _
  | announcedChain => exact done _ _
  | missing | refused | announced => trivial

theorem job_keeps {job next : ChainJob} {action : ChainJobAction} (sound : JobSound job)
    (moves : ChainJob.Moves env action s job after next)
    (upToDate : ∀ previous tx, job = .saving previous tx →
      ∀ row, s.transactions.get? tx.id = some row →
        row.chainStatus ≠ .anchored ∧ (row.status = .completed → previous ≠ .pending)) :
    RowsKept s after := by
  cases moves with
  | @saved previous tx _ saved =>
    refine rowsKept_of_save saved fun row found => ?_
    obtain ⟨unanchored, loaded⟩ := upToDate previous tx rfl row found
    exact
      { anchored := fun anchored => absurd anchored unanchored
        completed := fun completed pending => loaded completed (sound pending) }
  | _ => exact .of_rows fun _ _ found => found

theorem read_keeps {read next : ReceiptRead} {action : ReceiptAction} (sound : read.Sound)
    (stepped : read.step jsonParse s action = some (after, next))
    (upToDate : ∀ tx, read = .saving tx → ∀ row, s.transactions.get? tx.id = some row →
      row.status = .completed → tx.status ≠ .pending) : RowsKept s after := by
  rcases (ReceiptRead.step_sound sound stepped).2 with rfl | ⟨tx, rfl, saved⟩
  · exact .of_rows fun _ _ found => found
  · obtain ⟨anchored, chainTxId, receiptJson⟩ := sound
    refine rowsKept_of_save saved fun row found => ⟨fun _ => ?_, upToDate tx rfl row found⟩
    exact ⟨anchored, fun _ => chainTxId, fun _ => receiptJson⟩

end

/-! ## Runs whose saves are up to date -/

def PartySound : Party → Prop
  | .inl (.inl _) => True
  | .inl (.inr worker) => ∀ job ∈ worker.jobs, JobSound job
  | .inr read => read.Sound

/-- Workers are idle and reads have not begun; requests and settlements may be anywhere. -/
structure AtRest (start : World I Tables Party) : Prop where
  workers : ∀ i worker, start.procs i = .inl (.inr worker) → worker.chunk = [] ∧ worker.rest = []
  reads : ∀ i read, start.procs i = .inr read → ∃ id, read = .finding id

omit [DecidableEq I] in
theorem AtRest.sound {start : World I Tables Party} (atRest : AtRest start) (i : I) :
    PartySound (start.procs i) := by
  cases proc : start.procs i with
  | inl process =>
    cases process with
    | inl => trivial
    | inr worker =>
      intro job member
      simp [Worker.jobs, atRest.workers i worker proc] at member
  | inr read =>
    obtain ⟨id, rfl⟩ := atRest.reads i read proc
    trivial

section

variable {env : Env} {jsonParse : String → Option Json} {world after : World I Tables Party}
  {i : I}

omit [DecidableEq I] in
theorem worker_keeps {worker next : ChainWorker} {s : Tables}
    {action : WorkerAction ChainClaim ChainJobAction}
    (proc : world.procs i = .inl (.inr worker))
    (sound : ∀ job ∈ worker.jobs, JobSound job)
    (upToDate : SavesUpToDate world i (.inl (.inr action)))
    (moves : (chainBatches env).Moves world.shared worker action s next) :
    (∀ job ∈ next.jobs, JobSound job) ∧ RowsKept world.shared s := by
  cases moves with
  | @claim claim idle =>
    obtain ⟨rows, _, jobs⟩ := claimBatch_claims env world.shared claim
    have loads : (chainBatches env).claim world.shared claim = claimBatch env world.shared claim := rfl
    refine ⟨fun job member => ?_, claim_keeps env world.shared claim⟩
    rw [Worker.jobs, idle.1, List.nil_append, loads, jobs] at member
    obtain ⟨tx, _, rfl⟩ := List.mem_map.mp member
    trivial
  | @job index action job next after runs stepped =>
    have moves := ChainJob.step_moves stepped
    simp only [SavesUpToDate, proc] at upToDate
    refine ⟨fun other member => ?_, job_keeps
      (sound job (List.mem_append_left _ (List.mem_of_getElem? runs))) moves ?_⟩
    · rcases List.mem_append.mp member with running | waiting
      · rcases List.mem_or_eq_of_mem_set running with before | rfl
        · exact sound other (List.mem_append_left _ before)
        · exact job_sound moves
      · exact sound other (List.mem_append_right _ waiting)
    · rintro previous tx rfl
      exact upToDate previous tx runs
  | next finished =>
    refine ⟨fun job member => sound job (List.mem_append_right _ ?_), .of_rows fun _ _ found => found⟩
    rwa [Worker.jobs, List.take_append_drop] at member

theorem fire_keeps {action : PartyAction} (sound : ∀ j, PartySound (world.procs j))
    (upToDate : SavesUpToDate world i action)
    (fired : (serviceAndReads env jsonParse).fire world i action = some after) :
    (∀ j, PartySound (after.procs j)) ∧ RowsKept world.shared after.shared := by
  obtain ⟨s, next, stepped, rfl⟩ := Machine.fire_eq_some.mp fired
  suffices own : PartySound next ∧ RowsKept world.shared s by
    refine ⟨fun j => ?_, own.2⟩
    by_cases same : j = i
    · subst same
      simpa using own.1
    · simpa [Function.update_of_ne same] using sound j
  have before := sound i
  cases proc : world.procs i with
  | inl process =>
    rw [proc] at stepped before
    obtain ⟨_, next, rfl, rfl, served⟩ := Machine.either_step_inl.mp stepped
    cases process with
    | inl process =>
      obtain ⟨_, next, rfl, rfl, moved⟩ := Machine.either_step_inl.mp served
      cases process with
      | inl creation =>
        obtain ⟨_, next, rfl, rfl, creationStep⟩ := Machine.either_step_inl.mp moved
        exact ⟨trivial, creation_keeps proc upToDate creationStep⟩
      | inr cycle =>
        obtain ⟨_, next, rfl, rfl, cycleStep⟩ := Machine.either_step_inr.mp moved
        exact ⟨trivial, cycle_keeps cycleStep⟩
    | inr worker =>
      obtain ⟨_, next, rfl, rfl, workerStep⟩ := Machine.either_step_inr.mp served
      exact worker_keeps proc before upToDate (Batches.step_moves workerStep)
  | inr read =>
    rw [proc] at stepped before
    obtain ⟨_, next, rfl, rfl, readStep⟩ := Machine.either_step_inr.mp stepped
    refine ⟨(ReceiptRead.step_sound before readStep).1, read_keeps before readStep ?_⟩
    rintro tx rfl
    simp only [SavesUpToDate, proc] at upToDate
    exact upToDate

end

theorem anchoring_monotone {env : Env} {jsonParse : String → Option Json}
    {start : World I Tables Party} (atRest : AtRest start) :
    AnchoringMonotone env jsonParse SavesUpToDate start := by
  have sound {world : World I Tables Party}
      (reached : (serviceAndReads env jsonParse).Reaches SavesUpToDate start world) :
      ∀ i, PartySound (world.procs i) :=
    reached.invariant (fun world => ∀ i, PartySound (world.procs i)) atRest.sound
      fun _ _ _ _ before upToDate fired => (fire_keeps before upToDate fired).1
  refine
    { anchored := fun world later reached reached' row member anchored => ?_
      completed := fun world i action after reached upToDate fired row member completed => ?_ }
  · have kept := reached'.related
      (fun s after : Tables => ∀ row ∈ s.transactions, row.chainStatus = .anchored →
        ∃ row', after.transactions.get? row.id = some row' ∧ StaysAnchored row row')
      (fun row member anchored =>
        ⟨row, Table.get?_of_mem member, (UpToDate.refl row).anchored anchored⟩)
      (fun first second row member anchored => by
        obtain ⟨row', found, stays⟩ := first row member anchored
        obtain ⟨member', own⟩ := Table.get?_eq_some.mp found
        obtain ⟨row'', found', stays'⟩ := second row' member' stays.anchored
        rw [show row'.id = row.id from own] at found'
        exact ⟨row'', found', stays.trans stays'⟩)
      (fun before i action after between upToDate fired row member anchored => by
        obtain ⟨row', found, keeps⟩ :=
          (fire_keeps (sound (reached.trans between)) upToDate fired).2 row member
        exact ⟨row', found, keeps.anchored anchored⟩)
    exact kept row member anchored
  · obtain ⟨row', found, keeps⟩ := (fire_keeps (sound reached) upToDate fired).2 row member
    exact ⟨row', found, keeps.completed completed⟩

/-! ## A save from before the row was anchored -/

def parseJson (text : String) : Option Json := (Json.parse text.toList).map Json.jsValue

def aliceBesideWorker : World Bool Tables Party where
  shared := fundedTables
  procs isWorker :=
    .inl (if isWorker then .inr { size := 1, claim := none, chunk := [], rest := [] }
      else .inl (.inl (.source (.transfer (alicePays "payment" 40 forty_positive)))))

def requests : Bool × PartyAction := (false, .inl (.inl (.inl accepted)))

def worksWith (answer : ChainAnswer) : Bool × PartyAction :=
  (true, .inl (.inr (.job 0 { answer, clock := { now := 1, jitter := 0 }, enqueuedAt := 1 })))

-- The transfer is committed; before its request saves it again, the worker anchors it.
def anchoredMeanwhile : List (Bool × PartyAction) :=
  [requests, requests, requests, requests,
    (true, .inl (.inr (.claim { now := 1, limit := 1, locked := [] }))), (true, .inl (.inr .next)),
    worksWith (.error ""), worksWith (.ok ⟨"ANCHORED", "chain-tx", 7, "commitment", "receipt"⟩),
    worksWith (.error "")]

theorem anchoring_undone :
    ¬ AnchoringMonotone sampleEnv parseJson (fun _ _ _ => True) aliceBesideWorker := by
  intro monotone
  have ran : ((serviceAndReads sampleEnv parseJson).run aliceBesideWorker anchoredMeanwhile).map
      (fun world => ((world.shared.findByIdempotencyKey "payment").map TransactionEntity.chainStatus,
        ((serviceAndReads sampleEnv parseJson).fire world requests.1 requests.2).map fun after =>
          ((world.shared.findByIdempotencyKey "payment").bind fun row =>
            after.shared.transactions.get? row.id).map TransactionEntity.chainStatus)) =
      some (some .anchored, some (some .pending)) := by decide +kernel
  obtain ⟨world, ran, facts⟩ := Option.map_eq_some_iff.mp ran
  obtain ⟨before, saved⟩ := Prod.mk.inj facts
  obtain ⟨row, found, anchored⟩ := Option.map_eq_some_iff.mp before
  obtain ⟨after, fired, last⟩ := Option.map_eq_some_iff.mp saved
  rw [found, Option.bind_some] at last
  obtain ⟨row', found', pending⟩ := Option.map_eq_some_iff.mp last
  have member := (Table.byKey_eq_some.mp found).1
  have reached : (serviceAndReads sampleEnv parseJson).Reaches (fun _ _ _ => True)
      aliceBesideWorker world := .run .refl ran
  obtain ⟨row'', kept, stays⟩ := monotone.anchored world after reached
    (.step .refl trivial fired) row member anchored
  obtain rfl := Option.some.inj (found'.symm.trans kept)
  cases pending.symm.trans stays.anchored

theorem anchoring_monotone_aliceBesideWorker :
    AnchoringMonotone sampleEnv parseJson SavesUpToDate aliceBesideWorker := by
  apply anchoring_monotone
  refine ⟨fun i worker proc => ?_, fun i read proc => by cases i <;> cases proc⟩
  cases i with
  | false => cases proc
  | true =>
    obtain rfl := Sum.inr.inj (Sum.inl.inj proc)
    exact ⟨rfl, rfl⟩

end Kufi.Workers

import Kufi.Settlement.LostOutcomes
import Kufi.Shared.Claims
import Kufi.Shared.Leases
import Kufi.Workers.ChainWorker

set_option autoImplicit false

/-!
# One anchor call at a time

The lease is taken once for a whole batch and nothing looks at it again. It
keeps other workers away as long as the batch is finished before it ends.
-/

namespace Kufi.Workers

open Shared Transactions Settlement

abbrev Process := Settlement.Process ⊕ ChainWorker

abbrev Action := (Answers ⊕ CycleAction) ⊕ WorkerAction ChainClaim ChainJobAction

def service (env : Env) : Machine Tables Process Action :=
  (processes env).either (chainBatches env).workers

-- A row is held from its claim to the job's save and is due for nobody before the lease ends.
def leasing (env : Env) : Leasing Tables ChainJob ChainClaim Nat Instant where
  key? := ChainJob.transaction?
  ends claim := claim.now + env.chainAsyncLeaseMs
  Leased s leaseUntil id := ∃ row, s.transactions.get? id = some row ∧
    ∀ now, isChainDue now row = true → leaseUntil ≤ now

variable {I : Type} [DecidableEq I]

/-- What every step of a run must meet for the leases to keep the calls apart. -/
def InTime (env : Env) (world : World I Tables Process) (i : I) : Action → Prop
  -- a claim is made before the lease of any unfinished batch ends
  | .inr (.claim claim) =>
    ∀ j, ∀ leaseUntil ∈ (leasing env).lease? (world.procs j), claim.now < leaseUntil
  -- no request and no settlement writes a transaction that is still to be saved by a worker
  | .inl (.inl _) =>
    match world.procs i with
    | .inl (.inl creation) => ∀ tx ∈ creation.saving?, ∀ j, tx.id ∉ (leasing env).held (world.procs j)
    | _ => True
  | .inl (.inr action) =>
    match world.procs i with
    | .inl (.inr cycle) => ∀ mark ∈ cycle.mark? action, ∀ j, mark.1 ∉ (leasing env).held (world.procs j)
    | _ => True
  | .inr _ => True

instance (env : Env) (world : World Bool Tables Process) (i : Bool) (action : Action) :
    Decidable (InTime env world i action) := by
  unfold InTime
  split
  · infer_instance
  · split <;> infer_instance
  · split <;> infer_instance
  · infer_instance

/-- No two `AnchorTransfer` calls for one transaction are under way. -/
def OneCallEach (world : World I Tables Process) : Prop :=
  ∀ (i j : I) (worker worker' : ChainWorker) (m n : Nat) (job job' : ChainJob) (id : Nat),
    world.procs i = .inr worker → world.procs j = .inr worker' →
      worker.chunk[m]? = some job → worker'.chunk[n]? = some job' →
        job.anchors? = some id → job'.anchors? = some id → i = j ∧ m = n

/-! ## Rows under a lease -/

section

variable {env : Env} {s after : Tables} {now : Instant} {id : Nat}

theorem save_other {tx : TransactionEntity} (saved : s.saveTransaction tx = .ok after)
    (other : tx.id ≠ id) : after.transactions.get? id = s.transactions.get? id := by
  obtain ⟨_, transactions, updated, rfl⟩ := Tables.saveTransaction_eq_ok.mp saved
  exact Table.get?_update?_other updated other

theorem leased_kept {leaseUntil : Instant} (leased : (leasing env).Leased s leaseUntil id)
    (kept : ∀ row, s.transactions.get? id = some row → after.transactions.get? id = some row) :
    (leasing env).Leased after leaseUntil id := by
  obtain ⟨row, found, due⟩ := leased
  exact ⟨row, kept row found, due⟩

theorem claimed_leased {tx : TransactionEntity}
    (found : s.transactions.get? id = some (claimed env now tx)) :
    (leasing env).Leased s (now + env.chainAsyncLeaseMs) id := by
  refine ⟨claimed env now tx, found, fun later due => ?_⟩
  simpa [isChainDue, claimed] using (Bool.and_eq_true_iff.mp due).2

/-! ## What each step does to the rows -/

theorem saveTransaction_updates {tx : TransactionEntity} (saved : s.saveTransaction tx = .ok after) :
    s.transactions.update? tx = some after.transactions := by
  obtain ⟨_, transactions, updated, rfl⟩ := Tables.saveTransaction_eq_ok.mp saved
  exact updated

theorem claimBatch_claims (env : Env) (s : Tables) (claim : ChainClaim) :
    ∃ rows, s.transactions.Claims
        (fun tx => isChainDue claim.now tx && !claim.locked.contains tx.id) (claimed env claim.now)
        rows (claimBatch env s claim).2.transactions ∧
      (claimBatch env s claim).1 = rows.map fun tx => .loading tx.id := by
  unfold claimBatch
  split
  next claimedIds after done =>
    obtain ⟨_, saved, same⟩ := bind_eq_ok.mp done
    obtain ⟨rfl, rfl⟩ := Prod.mk.inj (Except.ok.inj same)
    have claims := Table.claims_of_fold Tables.saveTransaction (claimed env claim.now)
      saveTransaction_updates (fun _ => rfl) rfl saved
    exact ⟨_, claims, List.map_map⟩
  next => exact ⟨[], Table.claims_none, rfl⟩

theorem ChainJob.loaded_transaction? (tx : TransactionEntity) :
    (loaded tx).transaction? = some tx.id ∨ (loaded tx).transaction? = none := by
  unfold loaded
  split_ifs
  · exact .inl rfl
  · exact .inl rfl
  · exact .inr rfl

theorem ChainJob.afterSave_transaction? (previous : TransactionStatus) (tx : TransactionEntity) :
    (afterSave previous tx).transaction? = none := by
  unfold afterSave
  split_ifs <;> rfl

theorem ChainJob.Moves.rows {job next : ChainJob} {action : ChainJobAction}
    (moves : Moves env action s job after next) :
    (next.transaction? = job.transaction? ∨ next.transaction? = none) ∧
      ∀ id, (job.transaction? = some id → next.transaction? = some id) →
        after.transactions.get? id = s.transactions.get? id := by
  cases moves with
  | @loaded id tx found =>
    obtain rfl := (Table.get?_eq_some.mp found).2
    exact ⟨loaded_transaction? tx, fun _ _ => rfl⟩
  | missing => exact ⟨.inr rfl, fun _ _ => rfl⟩
  | @anchored tx | @receipt tx =>
    have sameId : (processed env action.clock action.answer tx).id = tx.id :=
      congrArg Terms.id (processed_terms env action.clock action.answer tx)
    exact ⟨.inl (congrArg some sameId), fun _ _ => rfl⟩
  | @saved previous tx _ saved =>
    have none : (if tx.chainStatus = .anchored then announceChain previous tx
        else afterSave previous tx).transaction? = none := by
      split_ifs
      · rfl
      · exact afterSave_transaction? previous tx
    refine ⟨.inr none, fun id kept => save_other saved ?_⟩
    rintro rfl
    cases none.symm.trans (kept rfl)
  | refused => exact ⟨.inr rfl, fun _ _ => rfl⟩
  | @announcedChain previous tx => exact ⟨.inr (afterSave_transaction? previous tx), fun _ _ => rfl⟩
  | announced => exact ⟨.inr rfl, fun _ _ => rfl⟩

theorem creation_rows {creation next : Creation} {answers : Answers}
    (stepped : creation.step env s answers = some (after, next))
    (other : ∀ tx ∈ creation.saving?, tx.id ≠ id) {row : TransactionEntity}
    (found : s.transactions.get? id = some row) : after.transactions.get? id = some row := by
  have save {tx tx' : TransactionEntity} (held : creation.saving? = some tx)
      (terms : tx'.terms = tx.terms) (saved : s.saveTransaction tx' = .ok after) :
      after.transactions.get? id = some row := by
    have sameId : tx'.id = tx.id := congrArg Terms.id terms
    rw [save_other saved (sameId ▸ other tx held), found]
  cases Creation.step_moves stepped with
  | failed | source | known | unknown | replay | duplicate | checked => exact found
  | enqueue => exact found
  | insert inserted =>
    obtain ⟨_, added⟩ := inserted.row
    obtain ⟨member, own⟩ := Table.get?_eq_some.mp found
    exact Table.get?_eq_some.mpr ⟨(Table.mem_insert? added).mpr (.inl member), own⟩
  | submit saved => exact save rfl (submitted_terms _ _) saved
  | rollback reversed =>
    obtain ⟨_, _, rfl⟩ := rollbackWithdrawalDebit_transactions reversed
    exact found
  | saveSimulated saved => exact save rfl (simulatedFailure_terms _) saved
  | anchor saved => exact save rfl (anchored_terms _ _ _ _) saved
  | release saved => exact save rfl (released_terms _ _) saved

theorem cycle_rows {cycle next : SettlementCycle} {action : CycleAction}
    (stepped : cycle.step env s action = some (after, next))
    (other : ∀ mark ∈ cycle.mark? action, mark.1 ≠ id) :
    after.transactions.get? id = s.transactions.get? id := by
  rcases SettlementCycle.step_effect stepped with
    rfl | ⟨marked, status, note, now, outcome, tx, marks, _, own, marking⟩
  · rfl
  · rw [marking.get? id, if_neg (own ▸ other _ marks)]

end

/-! ## A run in time -/

theorem ChainJob.anchors?_transaction? {job : ChainJob} {id : Nat}
    (anchors : job.anchors? = some id) : job.transaction? = some id := by
  cases job <;> simp_all [ChainJob.anchors?, ChainJob.transaction?]

theorem ChainJob.finished_transaction? {job : ChainJob} (finished : job.finished = true) :
    job.transaction? = none := by
  cases job <;> first | rfl | cases finished

section

variable {env : Env} {world : World I Tables Process} {i : I}

theorem claim_apart {worker : ChainWorker} {claim : ChainClaim}
    (apart : (leasing env).Apart world) (idle : worker.chunk = [] ∧ worker.rest = [])
    (inTime : InTime env world i (.inr (.claim claim))) :
    (leasing env).Apart
      { shared := (claimBatch env world.shared claim).2
        procs := Function.update world.procs i (.inr
          { worker with
            claim := some claim, rest := (claimBatch env world.shared claim).1 }) } := by
  obtain ⟨rows, claims, jobs⟩ := claimBatch_claims env world.shared claim
  have takes : (claimBatch env world.shared claim).1.filterMap (leasing env).key? =
      rows.map TransactionEntity.id := by
    rw [jobs, List.filterMap_map]
    exact congrFun (List.filterMap_eq_map (f := TransactionEntity.id)) rows
  refine apart.claim idle (takes ▸ claims.apart) ?_ ?_ ?_ <;> rw [takes]
  -- A row that somebody holds is not due before its lease ends.
  · intro id taken j member
    obtain ⟨tx, among, rfl⟩ := List.mem_map.mp taken
    obtain ⟨leaseUntil, lease, row, found, until_end⟩ := apart.leased j tx.id member
    obtain ⟨known, wanted⟩ := claims.wanted tx among
    obtain rfl := Option.some.inj (known.symm.trans found)
    have due := (Bool.and_eq_true_iff.mp wanted).1
    exact absurd (inTime j leaseUntil lease) (not_lt.mpr (until_end claim.now due))
  · intro id taken
    obtain ⟨tx, among, rfl⟩ := List.mem_map.mp taken
    exact claimed_leased (claims.marked tx among)
  · intro id untaken leaseUntil leased
    exact leased_kept leased fun row found => (claims.others id untaken).trans found

theorem fire_apart {world' : World I Tables Process} {action : Action}
    (apart : (leasing env).Apart world) (inTime : InTime env world i action)
    (fired : (service env).fire world i action = some world') : (leasing env).Apart world' := by
  obtain ⟨after, next, stepped, rfl⟩ := Machine.fire_eq_some.mp fired
  cases proc : world.procs i with
  | inl process =>
    rw [proc] at stepped
    obtain ⟨own, next, rfl, rfl, moved⟩ := Machine.either_step_inl.mp stepped
    cases process with
    | inl creation =>
      obtain ⟨answers, next, rfl, rfl, creationStep⟩ := Machine.either_step_inl.mp moved
      simp only [InTime, proc] at inTime
      refine apart.beside fun j id member _ leased => leased_kept leased fun row found =>
        creation_rows creationStep ?_ found
      rintro tx saving rfl
      exact inTime tx saving j member
    | inr cycle =>
      obtain ⟨cycleAction, next, rfl, rfl, cycleStep⟩ := Machine.either_step_inr.mp moved
      simp only [InTime, proc] at inTime
      refine apart.beside fun j id member _ leased => leased_kept leased fun row found =>
        (cycle_rows cycleStep ?_).trans found
      rintro mark marks rfl
      exact inTime mark marks j member
  | inr worker =>
    rw [proc] at stepped
    obtain ⟨own, next, rfl, rfl, moved⟩ := Machine.either_step_inr.mp stepped
    cases Batches.step_moves moved with
    | claim idle => exact claim_apart apart idle inTime
    | job runs jobStep =>
      obtain ⟨kept, rows⟩ := (ChainJob.step_moves jobStep).rows
      exact apart.job proc runs kept fun id holds _ leased =>
        leased_kept leased fun row found => (rows id holds).trans found
    | next finished =>
      exact apart.next proc (fun job member => ChainJob.finished_transaction? (finished job member)) _

end

/-- The workers are idle, whatever the requests, the settlements and the tables are. -/
def Idle (start : World I Tables Process) : Prop :=
  ∀ i worker, start.procs i = .inr worker → worker.chunk = [] ∧ worker.rest = []

theorem one_anchor_call {env : Env} {start world : World I Tables Process} (idle : Idle start)
    (reached : (service env).Reaches (InTime env) start world) : OneCallEach world := by
  have apart := reached.invariant (leasing env).Apart (Leasing.Apart.of_idle idle)
    fun _ _ _ _ apart inTime fired => fire_apart apart inTime fired
  intro i j worker worker' m n job job' id proc proc' runs runs' anchors anchors'
  exact apart.same_job proc proc' runs runs' (ChainJob.anchors?_transaction? anchors)
    (ChainJob.anchors?_transaction? anchors')

/-! ## A batch that outlives its lease -/

def settledTopups : Tables :=
  Operation.runAll sampleEnv
    (fundAlice ++ [.createTopupIntent accepted { aliceTopup with idempotencyKey := "again" },
      .markSettlement 1 1 "SETTLED" ""])
    (Tables.initial [aliceSource])

-- Two instances that process one transaction at a time.
def twoInstances : World Bool Tables Process where
  shared := settledTopups
  procs _ := .inr { size := 1, claim := none, chunk := [], rest := [] }

def takes (i : Bool) (now : Instant) : Bool × Action :=
  (i, .inr (.claim { now, limit := 2, locked := [] }))

def proceeds (i : Bool) (now : Instant) : Bool × Action :=
  (i, .inr (.job 0
    { answer := .error "deadline exceeded", clock := { now, jitter := 0 }, enqueuedAt := now }))

def startsChunk (i : Bool) : Bool × Action :=
  (i, .inr .next)

-- The transaction that an instance's first job anchors.
def anchoring (world : World Bool Tables Process) (i : Bool) : Option Nat :=
  match world.procs i with
  | .inr worker => worker.chunk[0]?.bind ChainJob.anchors?
  | .inl _ => none

theorem anchoring_job {world : World Bool Tables Process} {i : Bool} {id : Nat}
    (called : anchoring world i = some id) :
    ∃ (worker : ChainWorker) (job : ChainJob), world.procs i = .inr worker ∧
      worker.chunk[0]? = some job ∧ job.anchors? = some id := by
  unfold anchoring at called
  split at called
  next worker proc =>
    obtain ⟨job, runs, anchors⟩ := Option.bind_eq_some_iff.mp called
    exact ⟨worker, job, proc, runs, anchors⟩
  next => cases called

-- The first call of a batch of two lasts as long as the lease, and the second transaction is
-- claimed again before its call starts.
theorem anchored_by_two :
    ¬ ∀ (labels : List (Bool × Action)) (world : World Bool Tables Process),
      (service sampleEnv).run twoInstances labels = some world → OneCallEach world := by
  intro apart
  have both : ((service sampleEnv).run twoInstances
      [takes false 1, startsChunk false, proceeds false 1, proceeds false 30001,
        proceeds false 30001, startsChunk false, takes true 30001, startsChunk true,
        proceeds false 30001, proceeds true 30001]).map
      (fun world => (anchoring world false, anchoring world true)) = some (some 1, some 1) := by
    decide +kernel
  obtain ⟨world, ran, called⟩ := Option.map_eq_some_iff.mp both
  obtain ⟨first, second⟩ := Prod.mk.inj called
  obtain ⟨worker, job, proc, runs, anchors⟩ := anchoring_job first
  obtain ⟨worker', job', proc', runs', anchors'⟩ := anchoring_job second
  obtain ⟨same, _⟩ := apart _ world ran false true worker worker' 0 0 job job' 1 proc proc' runs runs'
    anchors anchors'
  cases same

-- The other instance claims while the first call is under way and its lease runs.
theorem one_anchor_call_twoInstances :
    ∃ world, (service sampleEnv).run twoInstances
        [takes false 1, startsChunk false, proceeds false 1, takes true 30000] = some world ∧
      anchoring world false = some 0 ∧ OneCallEach world := by
  have reached : ((service sampleEnv).checkedRun (InTime sampleEnv) twoInstances
      [takes false 1, startsChunk false, proceeds false 1, takes true 30000]).map
      (anchoring · false) = some (some 0) := by
    decide +kernel
  obtain ⟨world, ran, called⟩ := Option.map_eq_some_iff.mp reached
  have runs := Machine.Runs.checked .nil ran
  have idle : Idle twoInstances := by
    rintro i worker proc
    obtain rfl := Sum.inr.inj proc
    exact ⟨rfl, rfl⟩
  exact ⟨world, runs.run, called, one_anchor_call idle runs.reaches⟩

end Kufi.Workers

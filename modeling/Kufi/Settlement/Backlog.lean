import Kufi.Settlement.SettlementCycle
import Kufi.Shared.WorkQueue
import Kufi.Transactions.Reconcile

set_option autoImplicit false

/-!
# The backlog of the settlement job

The job lists the oldest pending transfers, processes them slice by slice and
reconciles the wallets; while it runs no other cycle starts. Each cycle is a
round of a work queue.
-/

namespace Kufi.Settlement

open Shared Transactions

/-! ## The job -/

structure SettlementConfig where
  -- `SETTLEMENT_BATCH_SIZE`, `SETTLEMENT_CONCURRENCY` and `SETTLEMENT_RECONCILE_LIMIT`
  batchSize : Nat
  concurrency : Nat
  reconcileLimit : Int
  autoFix : Bool

def SettlementConfig.limit (config : SettlementConfig) : Nat := max 1 (min config.batchSize 1000)

def SettlementConfig.slice (config : SettlementConfig) : Nat := max 1 (min config.concurrency 100)

structure SettlementStats where
  scanned : Nat
  settled : Nat
  failed : Nat
  skipped : Nat
  errors : Nat
  deriving DecidableEq

def SettlementStats.count (stats : SettlementStats) : Candidate → SettlementStats
  | .processed .settled => { stats with settled := stats.settled + 1 }
  | .processed .failed => { stats with failed := stats.failed + 1 }
  | .processed .skipped => { stats with skipped := stats.skipped + 1 }
  | .processed .error => { stats with errors := stats.errors + 1 }
  | _ => stats

-- A candidate beside the item it was made from.
structure Attempt where
  item : SettlementCandidate
  candidate : Candidate

def Candidate.isProcessed : Candidate → Bool
  | .processed _ => true
  | _ => false

inductive JobStage where
  | idle
  -- the slice that is worked on begins at `index`
  | settling (attempts : List Attempt) (index : Nat)
  | reconciling

structure SettlementJob where
  stage : JobStage
  -- the cycles that have got through their candidates, and what the last one counted
  rounds : Nat
  stats : SettlementStats

inductive JobAction where
  | list
  | process (index : Nat) (action : CandidateAction)
  | nextSlice
  | reconcile
  -- the call for the candidates or the one for the wallets fails; the job logs it
  | fail

def finished (attempts : List Attempt) : SettlementStats :=
  attempts.foldl (fun stats attempt => stats.count attempt.candidate) ⟨attempts.length, 0, 0, 0, 0⟩

def SettlementJob.step (env : Env) (config : SettlementConfig) (s : Tables) (job : SettlementJob) :
    JobAction → Option (Tables × SettlementJob)
  | .list =>
    match job.stage with
    | .idle =>
      let items := (listSettlementCandidates config.limit s).map toCandidate
      some (s, { job with stage := .settling (items.map fun item => ⟨item, .listed item⟩) 0 })
    | _ => none
  | .process index action =>
    match job.stage with
    | .settling attempts start =>
      if start ≤ index ∧ index < start + config.slice then do
        let attempt ← attempts[index]?
        let (s, candidate) ← attempt.candidate.step env s action
        some (s, { job with stage := .settling (attempts.set index { attempt with candidate }) start })
      else none
    | _ => none
  | .nextSlice =>
    match job.stage with
    | .settling attempts start =>
      if ((attempts.drop start).take config.slice).all (·.candidate.isProcessed) then
        if start + config.slice < attempts.length then
          some (s, { job with stage := .settling attempts (start + config.slice) })
        else
          some (s, { stage := .reconciling, rounds := job.rounds + 1, stats := finished attempts })
      else none
    | _ => none
  | .reconcile =>
    match job.stage with
    | .reconciling =>
      some ((reconcileWallets (max 1 (min config.reconcileLimit 5000)) config.autoFix).finalState s,
        { job with stage := .idle })
    | _ => none
  | .fail =>
    match job.stage with
    | .settling _ _ => none
    | _ => some (s, { job with stage := .idle })

def settlementJob (env : Env) (config : SettlementConfig) :
    Machine Tables SettlementJob JobAction where
  step := SettlementJob.step env config

/-! ## The backlog -/

/-- The candidates, the oldest first. -/
def backlog (s : Tables) : List TransactionEntity :=
  (s.transactions.rows.filter isSettlementCandidate).insertionSort
    fun left right => left.createdAt ≤ right.createdAt

theorem listed_of_backlog (limit : Nat) (s : Tables) :
    listSettlementCandidates limit s = (backlog s).take (max 1 (min limit 500)) := rfl

theorem mem_backlog {s : Tables} {tx : TransactionEntity} :
    tx ∈ backlog s ↔ tx ∈ s.transactions ∧ isSettlementCandidate tx = true := by
  simp [backlog, Table.mem_def]

theorem backlog_ids (s : Tables) : ((backlog s).map TransactionEntity.id).Nodup := by
  have rows : (s.transactions.rows.map TransactionEntity.id).Nodup := by
    refine List.pairwise_map.mpr (s.transactions.ids.imp fun {left right} before => ?_)
    exact Nat.ne_of_lt before
  have sorted := (List.perm_insertionSort
    (fun left right : TransactionEntity => left.createdAt ≤ right.createdAt)
    (s.transactions.rows.filter isSettlementCandidate)).map TransactionEntity.id
  exact sorted.nodup_iff.mpr (rows.sublist (List.filter_sublist.map _))

theorem filter_replace {row : TransactionEntity} (closed : isSettlementCandidate row = false)
    (rows : List TransactionEntity) :
    (Table.replace rows row).filter isSettlementCandidate =
      rows.filter fun tx => !(row.id == tx.id) && isSettlementCandidate tx := by
  induction rows with
  | nil => rfl
  | cons tx rows ih =>
    by_cases same : row.id = tx.id
    · simpa [Table.replace, Row.id, same, closed] using ih
    · cases open' : isSettlementCandidate tx <;>
        simpa [Table.replace, Row.id, same, Ne.symm same, open'] using ih

/-- A transfer that is marked leaves the backlog, and no other one does. -/
theorem backlog_marked {env : Env} {now : Instant} {id : Nat} {status note : String}
    {s after : Tables} {found : Bool}
    (done : markSettlement env now id status note s = .ok (found, after)) :
    backlog after = (backlog s).filter fun tx => !(id == tx.id) := by
  obtain ⟨outcome, _, ⟨_, rfl, missing⟩ | ⟨_, tx, middle, transactions, outbox, held, once, updated,
    rfl, _⟩⟩ := markSettlement_effect done
  · symm
    refine List.filter_eq_self.mpr fun tx member => ?_
    have other : tx.id ≠ id := Table.get?_eq_none.mp missing tx (mem_backlog.mp member).1
    simpa using other.symm
  · have own : (marked now outcome note tx).id = id := by
      rw [← Table.id_of_get? held]
      exact congrArg Terms.id (marked_terms now outcome note tx)
    have closed : isSettlementCandidate (marked now outcome note tx) = false := by
      cases outcome <;> simp [isSettlementCandidate, marked_settlementStatus,
        SettlementOutcome.settlementStatus]
    unfold backlog
    rw [WorkQueue.filter_insertionSort]
    refine congrArg _ ?_
    rw [(Table.update?_spec updated).1, filter_replace closed, own, List.filter_filter]

section Reconciled

open Program

/-- Reconciliation writes to wallets alone. -/
theorem reconcileWallet_transactions (rows : Table TransactionEntity) (autoFix : Bool)
    (found : List ReconcileItem × Nat) (wallet : Wallet) :
    Triple (fun s : Tables => s.transactions = rows) (reconcileWallet autoFix found wallet)
      (fun _ s => s.transactions = rows) fun s => s.transactions = rows := by
  apply Triple.bind (Triple.query (fun _ _ same _ => same) fun _ same => same)
  intro first
  cases first with
  | none => exact Triple.pure fun _ same => same
  | some first =>
    apply Triple.bind (Triple.query (fun _ _ same _ => same) fun _ same => same)
    intro ledgerDelta
    apply Triple.ite
    · exact fun _ => Triple.pure fun _ same => same
    · intro _
      apply Triple.ite
      · intro _
        refine Triple.bind (Triple.atomically (fun s _ after same done => ?_) fun _ same => same)
          fun _ => Triple.pure fun _ same => same
        obtain ⟨_, saved, pair⟩ := map_eq_ok.mp done
        obtain ⟨_, wallets, _, rfl⟩ := Tables.saveWallet_eq_ok.mp saved
        cases pair
        exact same
      · exact fun _ => Triple.pure fun _ same => same

theorem reconcileWallets_transactions (rows : Table TransactionEntity) (limit : Int)
    (autoFix : Bool) :
    Triple (fun s : Tables => s.transactions = rows) (reconcileWallets limit autoFix)
      (fun _ s => s.transactions = rows) fun s => s.transactions = rows := by
  have loop : ∀ wallets found, Triple (fun s : Tables => s.transactions = rows)
      (List.foldlM (reconcileWallet autoFix) found wallets) (fun _ s => s.transactions = rows)
      fun s => s.transactions = rows := by
    intro wallets
    induction wallets with
    | nil => exact fun found => Triple.pure fun _ same => same
    | cons wallet rest ih =>
      exact fun found => (reconcileWallet_transactions rows autoFix found wallet).bind ih
  apply Triple.bind (Triple.query (fun _ _ same _ => same) fun _ same => same)
  exact fun wallets => (loop wallets ([], 0)).bind fun _ => Triple.pure fun _ same => same

theorem backlog_reconciled (limit : Int) (autoFix : Bool) (s : Tables) :
    backlog ((reconcileWallets limit autoFix).finalState s) = backlog s := by
  simp only [backlog, (reconcileWallets_transactions s.transactions limit autoFix).finalState rfl]

end Reconciled

/-! ## One candidate -/

def CandidateResult.settles : CandidateResult → Bool
  | .settled | .failed => true
  | .skipped | .error => false

def Candidate.hasSettled : Candidate → Bool
  | .processed result => result.settles
  | _ => false

/-- The candidate is one of this item. -/
def Candidate.Of (item : SettlementCandidate) : Candidate → Prop
  | .listed own | .unreferenced own | .checked own _ _ => own = item
  | .processed _ => True

theorem step_backlog {env : Env} {item : SettlementCandidate} {candidate next : Candidate}
    {s after : Tables} {action : CandidateAction} (own : candidate.Of item)
    (stepped : candidate.step env s action = some (after, next)) :
    next.Of item ∧ candidate.isProcessed = false ∧
      backlog after = (backlog s).filter fun tx =>
        !(next.hasSettled && item.transactionId == tx.id) := by
  have unchanged : backlog s = (backlog s).filter fun tx => !(false && item.transactionId == tx.id) := by
    simp
  cases candidate with
  | listed listed =>
    obtain rfl := own
    simp only [Candidate.step, Candidate.afterCheck] at stepped
    split_ifs at stepped
    · cases stepped
      exact ⟨rfl, rfl, unchanged⟩
    · split at stepped
      · split_ifs at stepped <;> cases stepped <;> exact ⟨by trivial, rfl, unchanged⟩
      · cases stepped
        exact ⟨trivial, rfl, unchanged⟩
  | unreferenced listed =>
    obtain rfl := own
    simp only [Candidate.step] at stepped
    split at stepped
    next _ done =>
      obtain ⟨rfl, rfl⟩ := Prod.mk.inj (Option.some.inj stepped)
      refine ⟨trivial, rfl, (backlog_marked done).trans ?_⟩
      simp [Candidate.hasSettled, CandidateResult.settles]
    next =>
      obtain ⟨rfl, rfl⟩ := Prod.mk.inj (Option.some.inj stepped)
      exact ⟨trivial, rfl, unchanged⟩
  | checked listed outcome note =>
    obtain rfl := own
    simp only [Candidate.step] at stepped
    split at stepped
    next _ done =>
      obtain ⟨rfl, rfl⟩ := Prod.mk.inj (Option.some.inj stepped)
      refine ⟨trivial, rfl, (backlog_marked done).trans ?_⟩
      cases outcome <;> simp [Candidate.hasSettled, outcomeResult, CandidateResult.settles]
    next =>
      obtain ⟨rfl, rfl⟩ := Prod.mk.inj (Option.some.inj stepped)
      exact ⟨trivial, rfl, unchanged⟩
  | processed result => cases stepped

/-! ## Whole cycles -/

/-- The candidates of a call, as many as both sides allow. -/
def SettlementConfig.batch (config : SettlementConfig) : Nat := max 1 (min config.limit 500)

abbrev stuckRow (stuck : Nat → Bool) (tx : TransactionEntity) : Bool := stuck tx.id

def served (stuck : Nat → Bool) (config : SettlementConfig) (rounds : Nat)
    (start : List TransactionEntity) : List TransactionEntity :=
  (WorkQueue.round (stuckRow stuck) config.batch)^[rounds] start

theorem served_succ (stuck : Nat → Bool) (config : SettlementConfig) (rounds : Nat)
    (start : List TransactionEntity) :
    served stuck config (rounds + 1) start =
      WorkQueue.round (stuckRow stuck) config.batch (served stuck config rounds start) :=
  Function.iterate_succ_apply' ..

/-- Whether one of the attempts has settled this transfer. -/
def settledAmong (attempts : List Attempt) (tx : TransactionEntity) : Bool :=
  attempts.any fun attempt => attempt.candidate.hasSettled && attempt.item.transactionId == tx.id

/-- How far a cycle has come with what stood first in the queue. -/
structure Settling (stuck : Nat → Bool) (config : SettlementConfig)
    (queue : List TransactionEntity) (attempts : List Attempt) (index : Nat) (s : Tables) : Prop where
  listed : attempts.map Attempt.item = (queue.take config.batch).map toCandidate
  own : ∀ attempt ∈ attempts, attempt.candidate.Of attempt.item
  past : ((attempts.take index).all fun attempt => attempt.candidate.isProcessed) = true
  decided : ∀ attempt ∈ attempts, attempt.candidate.isProcessed = true →
    attempt.candidate.hasSettled = !stuck attempt.item.transactionId
  rest : backlog s = queue.filter fun tx => !settledAmong attempts tx

def JobKept (stuck : Nat → Bool) (config : SettlementConfig) (start : List TransactionEntity)
    (s : Tables) (job : SettlementJob) : Prop :=
  let queue := served stuck config job.rounds start
  match job.stage with
  | .idle | .reconciling => backlog s = queue
  | .settling attempts index => Settling stuck config queue attempts index s

/-- The step does not settle a stuck transfer, and it settles each other one whose processing it
ends. -/
def Decides (stuck : Nat → Bool) (env : Env) (s : Tables) (attempt : Attempt)
    (action : CandidateAction) : Prop :=
  match attempt.candidate.step env s action with
  | some (_, next) =>
    next.isProcessed = true → next.hasSettled = !stuck attempt.item.transactionId
  | none => True

instance (stuck : Nat → Bool) (env : Env) (s : Tables) (attempt : Attempt)
    (action : CandidateAction) : Decidable (Decides stuck env s attempt action) := by
  unfold Decides
  split <;> infer_instance

theorem any_set {A : Type} {items : List A} {index : Nat} {old new : A} (at_index : items[index]? = some old)
    {wanted : A → Bool} (unwanted : wanted old = false) :
    (items.set index new).any wanted = (items.any wanted || wanted new) := by
  induction items generalizing index with
  | nil => simp at at_index
  | cons item items ih =>
    cases index with
    | zero =>
      obtain rfl := Option.some.inj at_index
      simp [unwanted, Bool.or_comm]
    | succ index =>
      simp [ih (by simpa using at_index), Bool.or_assoc]

theorem Settling.process {stuck : Nat → Bool} {config : SettlementConfig} {env : Env}
    {queue : List TransactionEntity} {attempts : List Attempt} {start index : Nat}
    {s after : Tables} {attempt : Attempt} {action : CandidateAction} {next : Candidate}
    (settling : Settling stuck config queue attempts start s) (later : start ≤ index)
    (at_index : attempts[index]? = some attempt)
    (stepped : attempt.candidate.step env s action = some (after, next))
    (decides : Decides stuck env s attempt action) :
    Settling stuck config queue (attempts.set index { attempt with candidate := next }) start
      after := by
  have member := List.mem_of_getElem? at_index
  obtain ⟨own, unprocessed, left⟩ := step_backlog (settling.own attempt member) stepped
  have unsettled : attempt.candidate.hasSettled = false := by
    revert unprocessed
    cases attempt.candidate <;> simp [Candidate.isProcessed, Candidate.hasSettled]
  constructor
  case listed =>
    obtain ⟨bound, rfl⟩ := List.getElem?_eq_some_iff.mp at_index
    rw [← settling.listed, List.map_set, ← List.getElem_map Attempt.item (h := by simpa using bound),
      List.set_getElem_self]
  case own =>
    intro other held
    rcases List.mem_or_eq_of_mem_set held with old | rfl
    · exact settling.own other old
    · exact own
  case past => rw [List.take_set_of_le later]; exact settling.past
  case decided =>
    intro other held processed
    rcases List.mem_or_eq_of_mem_set held with old | rfl
    · exact settling.decided other old processed
    · simp only [Decides, stepped] at decides
      exact decides processed
  case rest =>
    rw [left, settling.rest, List.filter_filter]
    refine List.filter_congr fun tx _ => ?_
    simp only [settledAmong]
    rw [any_set at_index (by simp [unsettled]), Bool.not_or, Bool.and_comm]

section Settled

variable {stuck : Nat → Bool} {config : SettlementConfig} {queue : List TransactionEntity}
  {attempts : List Attempt} {index : Nat} {s : Tables} {tx : TransactionEntity}

theorem Settling.attempted (settling : Settling stuck config queue attempts index s)
    (ids : (queue.map TransactionEntity.id).Nodup) (member : tx ∈ queue) :
    (∃ attempt ∈ attempts, attempt.item.transactionId = tx.id) ↔ tx ∈ queue.take config.batch := by
  have listed : (∃ attempt ∈ attempts, attempt.item.transactionId = tx.id) ↔
      tx.id ∈ (attempts.map Attempt.item).map SettlementCandidate.transactionId := by
    simp
  rw [listed, settling.listed, List.map_map]
  constructor
  · intro tried
    obtain ⟨other, held, same⟩ := List.mem_map.mp tried
    rwa [← List.inj_on_of_nodup_map ids (List.mem_of_mem_take held) member same]
  · exact List.mem_map_of_mem

theorem Settling.settled (settling : Settling stuck config queue attempts index s)
    (ids : (queue.map TransactionEntity.id).Nodup) (member : tx ∈ queue)
    (settled : settledAmong attempts tx = true) :
    tx ∈ queue.take config.batch ∧ stuck tx.id = false := by
  simp only [settledAmong, List.any_eq_true, Bool.and_eq_true, beq_iff_eq] at settled
  obtain ⟨attempt, held, hasSettled, same⟩ := settled
  have processed : attempt.candidate.isProcessed = true := by
    revert hasSettled
    cases attempt.candidate <;> simp [Candidate.isProcessed, Candidate.hasSettled]
  have unstuck := settling.decided attempt held processed
  exact ⟨(settling.attempted ids member).mp ⟨attempt, held, same⟩,
    by simpa [hasSettled, same] using unstuck⟩

/-- When all attempts have ended, what is left is the queue after the round. -/
theorem Settling.round (settling : Settling stuck config queue attempts index s)
    (ids : (queue.map TransactionEntity.id).Nodup)
    (ended : (attempts.all fun attempt => attempt.candidate.isProcessed) = true) :
    backlog s = WorkQueue.round (stuckRow stuck) config.batch queue := by
  rw [settling.rest, WorkQueue.round_eq_filter _ _ (.of_map _ ids)]
  refine List.filter_congr fun tx member => ?_
  have exactly : settledAmong attempts tx = true ↔
      tx ∈ queue.take config.batch ∧ stuck tx.id = false := by
    refine ⟨settling.settled ids member, fun ⟨tried, unstuck⟩ => ?_⟩
    obtain ⟨attempt, held, same⟩ := (settling.attempted ids member).mpr tried
    have decided := settling.decided attempt held (List.all_eq_true.mp ended attempt held)
    simp only [settledAmong, List.any_eq_true, Bool.and_eq_true, beq_iff_eq]
    exact ⟨attempt, held, by simpa [same, unstuck] using decided, same⟩
  by_cases tried : tx ∈ queue.take config.batch <;> cases held : stuck tx.id <;>
    simp_all [stuckRow]

end Settled

/-! ### One step of the job -/

/-- What the step of a candidate decides, in the world where it is taken. -/
def Deciding (stuck : Nat → Bool) (env : Env) (s : Tables) (job : SettlementJob) : JobAction → Prop
  | .process index action =>
    match job.stage with
    | .settling attempts _ => ∀ attempt ∈ attempts[index]?, Decides stuck env s attempt action
    | _ => True
  | _ => True

instance (stuck : Nat → Bool) (env : Env) (s : Tables) (job : SettlementJob) (action : JobAction) :
    Decidable (Deciding stuck env s job action) := by
  unfold Deciding
  split
  · split <;> infer_instance
  · infer_instance

theorem job_step {stuck : Nat → Bool} {env : Env} {config : SettlementConfig}
    {start : List TransactionEntity} (ids : (start.map TransactionEntity.id).Nodup)
    {s after : Tables} {job next : SettlementJob} {action : JobAction}
    (kept : JobKept stuck config start s job) (decides : Deciding stuck env s job action)
    (stepped : job.step env config s action = some (after, next)) :
    JobKept stuck config start after next := by
  obtain ⟨stage, rounds, stats⟩ := job
  have ids : ((served stuck config rounds start).map TransactionEntity.id).Nodup :=
    ids.sublist ((WorkQueue.iterate_sublist _ _ rounds start).map _)
  cases action with
  | list =>
    cases stage <;>
      simp only [SettlementJob.step, Option.some.injEq, Prod.mk.injEq, reduceCtorEq] at stepped
    obtain ⟨rfl, rfl⟩ := stepped
    have same : backlog s = served stuck config rounds start := kept
    constructor
    case listed => simp [listed_of_backlog, same, SettlementConfig.batch, Function.comp_def]
    case own => simp [Candidate.Of]
    case past => simp
    case decided => simp [Candidate.isProcessed]
    case rest =>
      rw [same]
      symm
      exact List.filter_eq_self.mpr fun tx _ => by simp [settledAmong, Candidate.hasSettled]
  | process index action =>
    cases stage <;> simp only [SettlementJob.step, reduceCtorEq] at stepped
    next attempts first =>
      split_ifs at stepped with within
      simp only [Option.bind_eq_bind, Option.bind_eq_some_iff, Prod.exists, Option.some.injEq,
        Prod.mk.injEq] at stepped
      obtain ⟨attempt, at_index, _, candidate, moved, rfl, rfl⟩ := stepped
      have settling : Settling stuck config (served stuck config rounds start) attempts first s :=
        kept
      exact settling.process within.1 at_index moved (decides attempt at_index)
  | nextSlice =>
    cases stage <;> simp only [SettlementJob.step, reduceCtorEq] at stepped
    next attempts first =>
      have settling : Settling stuck config (served stuck config rounds start) attempts first s :=
        kept
      split_ifs at stepped with processed more
      · cases stepped
        refine { settling with past := ?_ }
        rw [List.take_add, List.all_append, settling.past, processed, Bool.and_self]
      · cases stepped
        have whole : attempts.take (first + config.slice) = attempts :=
          List.take_of_length_le (not_lt.mp more)
        have ended : (attempts.all fun attempt => attempt.candidate.isProcessed) = true := by
          rw [← whole, List.take_add, List.all_append, settling.past, processed, Bool.and_self]
        exact (settling.round ids ended).trans (served_succ ..).symm
  | reconcile =>
    cases stage <;>
      simp only [SettlementJob.step, Option.some.injEq, Prod.mk.injEq, reduceCtorEq] at stepped
    obtain ⟨rfl, rfl⟩ := stepped
    exact (backlog_reconciled ..).trans kept
  | fail =>
    cases stage <;>
      simp only [SettlementJob.step, Option.some.injEq, Prod.mk.injEq, reduceCtorEq] at stepped
    all_goals
      obtain ⟨rfl, rfl⟩ := stepped
      exact kept

/-- Between two rounds the backlog lies between their queues. -/
theorem JobKept.between {stuck : Nat → Bool} {config : SettlementConfig}
    {start : List TransactionEntity} (ids : (start.map TransactionEntity.id).Nodup) {s : Tables}
    {job : SettlementJob} (kept : JobKept stuck config start s job) :
    backlog s ⊆ served stuck config job.rounds start ∧
      served stuck config (job.rounds + 1) start ⊆ backlog s := by
  obtain ⟨stage, rounds, stats⟩ := job
  have ids : ((served stuck config rounds start).map TransactionEntity.id).Nodup :=
    ids.sublist ((WorkQueue.iterate_sublist _ _ rounds start).map _)
  have shrinks : served stuck config (rounds + 1) start ⊆ served stuck config rounds start := by
    rw [served_succ]
    exact (WorkQueue.round_sublist _ _ _).subset
  cases stage with
  | settling attempts index =>
    have settling : Settling stuck config (served stuck config rounds start) attempts index s := kept
    rw [settling.rest]
    refine ⟨List.filter_subset_self _, fun tx member => ?_⟩
    have held := shrinks member
    rw [served_succ, WorkQueue.round_eq_filter _ _ (.of_map _ ids)] at member
    have untaken := (List.mem_filter.mp member).2
    refine List.mem_filter.mpr ⟨held, ?_⟩
    by_contra settled
    obtain ⟨tried, unstuck⟩ := settling.settled ids held (by simpa using settled)
    simp [stuckRow, unstuck, tried] at untaken
  | _ =>
    have same : backlog s = served stuck config rounds start := kept
    rw [same]
    exact ⟨List.Subset.refl _, shrinks⟩

/-! ### Runs of the job -/

/-- Nothing has been listed and nothing has been counted. -/
structure JobStarts (world : World Unit Tables SettlementJob) : Prop where
  stage : (world.procs ()).stage = .idle
  rounds : (world.procs ()).rounds = 0

section Runs

variable {env : Env} {config : SettlementConfig} {stuck : Nat → Bool}
  {start world : World Unit Tables SettlementJob}

theorem job_kept (starts : JobStarts start)
    (reached : (settlementJob env config).Reaches
      (fun world _ action => Deciding stuck env world.shared (world.procs ()) action) start world) :
    JobKept stuck config (backlog start.shared) world.shared (world.procs ()) := by
  have initial : JobKept stuck config (backlog start.shared) start.shared (start.procs ()) := by
    simp [JobKept, starts.stage, starts.rounds, served]
  refine reached.invariant (fun world =>
    JobKept stuck config (backlog start.shared) world.shared (world.procs ())) initial ?_
  intro world i action after kept decides fired
  obtain ⟨shared, job, stepped, rfl⟩ := Machine.fire_eq_some.mp fired
  simpa using job_step (backlog_ids start.shared) kept decides stepped

/-- Behind as many stuck transfers as a call lists, a transfer is never settled; behind fewer it
is settled as soon as the rounds have taken what stood before it. -/
theorem settled_behind_stuck (starts : JobStarts start)
    (reached : (settlementJob env config).Reaches
      (fun world _ action => Deciding stuck env world.shared (world.procs ()) action) start world)
    {before later : List TransactionEntity} {tx : TransactionEntity}
    (listed : backlog start.shared = before ++ tx :: later) :
    (config.batch ≤ before.countP (stuckRow stuck) → tx ∈ backlog world.shared) ∧
      (stuck tx.id = false →
        before.countP (WorkQueue.moving (stuckRow stuck)) <
          (world.procs ()).rounds * (config.batch - before.countP (stuckRow stuck)) →
        tx ∉ backlog world.shared) := by
  have ids := backlog_ids start.shared
  have apart : tx ∉ before ∧ tx ∉ later := by
    have nodup : (backlog start.shared).Nodup := .of_map _ ids
    rw [listed, List.nodup_append, List.nodup_cons] at nodup
    exact ⟨fun earlier => nodup.2.2 tx earlier tx (by simp) rfl, nodup.2.1.1⟩
  obtain ⟨above, below⟩ := (job_kept starts reached).between ids
  rw [listed] at above below
  refine ⟨fun blocked => below (WorkQueue.iterate_blocked _ _ blocked _),
    fun unstuck enough held => ?_⟩
  exact WorkQueue.iterate_leaves (stuckRow stuck) config.batch unstuck apart.1 apart.2 enough
    (above held)

end Runs

/-- Two top-ups that wait for the bank. -/
def twoTopups : World Unit Tables SettlementJob where
  shared := Operation.runAll sampleEnv
    [.createTopupIntent accepted aliceTopup,
      .createTopupIntent accepted { aliceTopup with idempotencyKey := "second" }]
    (Tables.initial [aliceSource])
  procs _ := ⟨.idle, 0, ⟨0, 0, 0, 0, 0⟩⟩

def settlesBy (batchSize : Nat) : SettlementConfig where
  batchSize := batchSize
  concurrency := 10
  reconcileLimit := 500
  autoFix := false

def bankSays (status : String) : CandidateAction where
  check := .ok ⟨status, ""⟩
  markedAt := 1

/-- The bank has not decided about the first top-up. With calls for one candidate the second waits
too, with calls for two it is settled in one round. -/
theorem settled_behind_stuck_twoTopups :
    (∃ world tx, (settlementJob sampleEnv (settlesBy 1)).checkedRun
        (fun world _ action => Deciding (· == 0) sampleEnv world.shared (world.procs ()) action)
        twoTopups [((), .list), ((), .process 0 (bankSays "PENDING")), ((), .nextSlice),
          ((), .reconcile)] = some world ∧
      tx.id = 1 ∧ tx ∈ backlog world.shared) ∧
    ∃ world tx, (settlementJob sampleEnv (settlesBy 2)).checkedRun
        (fun world _ action => Deciding (· == 0) sampleEnv world.shared (world.procs ()) action)
        twoTopups [((), .list), ((), .process 1 (bankSays "SETTLED")),
          ((), .process 0 (bankSays "PENDING")), ((), .process 1 (bankSays "SETTLED")),
          ((), .nextSlice), ((), .reconcile)] = some world ∧
      tx.id = 1 ∧ tx ∉ backlog world.shared := by
  have ids : (backlog twoTopups.shared).map TransactionEntity.id = [0, 1] := by decide +kernel
  have two : (backlog twoTopups.shared).length = 2 := by
    rw [← List.length_map TransactionEntity.id, ids]
    rfl
  obtain ⟨first, second, listed⟩ := List.length_eq_two.mp two
  simp only [listed, List.map_cons, List.map_nil, List.cons.injEq, and_true] at ids
  have before : [first].countP (stuckRow (· == 0)) = 1 := by simp [stuckRow, ids.1]
  have listed' : backlog twoTopups.shared = [first] ++ second :: [] := listed
  have starts : JobStarts twoTopups := ⟨rfl, rfl⟩
  constructor
  · have ran : ((settlementJob sampleEnv (settlesBy 1)).checkedRun
        (fun world _ action => Deciding (· == 0) sampleEnv world.shared (world.procs ()) action)
        twoTopups [((), .list), ((), .process 0 (bankSays "PENDING")), ((), .nextSlice),
          ((), .reconcile)]).isSome := by decide +kernel
    obtain ⟨world, ran⟩ := Option.isSome_iff_exists.mp ran
    exact ⟨world, second, ran, ids.2, (settled_behind_stuck starts
      (Machine.Runs.checked .nil ran).reaches listed').1 (by rw [before]; decide)⟩
  · have ran : ((settlementJob sampleEnv (settlesBy 2)).checkedRun
        (fun world _ action => Deciding (· == 0) sampleEnv world.shared (world.procs ()) action)
        twoTopups [((), .list), ((), .process 1 (bankSays "SETTLED")),
          ((), .process 0 (bankSays "PENDING")), ((), .process 1 (bankSays "SETTLED")),
          ((), .nextSlice), ((), .reconcile)]).map (fun world => (world.procs ()).rounds) =
        some 1 := by decide +kernel
    obtain ⟨world, ran, rounds⟩ := Option.map_eq_some_iff.mp ran
    exact ⟨world, second, ran, ids.2, (settled_behind_stuck starts
      (Machine.Runs.checked .nil ran).reaches listed').2 (by simp [ids.2])
        (by rw [before, rounds]; simp [stuckRow, ids.1]; decide)⟩

end Kufi.Settlement

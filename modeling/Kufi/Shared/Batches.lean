import Kufi.Shared.Interleaving
import Mathlib.Data.List.Pairwise
import Mathlib.Data.List.Nodup

set_option autoImplicit false

/-!
# Workers and their batches

A worker claims a batch of jobs and works through it in chunks: the jobs of a
chunk run side by side and the next chunk waits for all of them. When no claim
takes what somebody still holds, every key has one holder.
-/

namespace Shared

/-- A worker with its chunk size; it is idle when it has no jobs. -/
structure Worker (J C : Type) where
  size : Nat
  -- what the batch was claimed with
  claim : Option C
  chunk : List J
  rest : List J

inductive WorkerAction (C A : Type) where
  | claim (claim : C)
  | job (index : Nat) (action : A)
  | next

structure Batches (S J C A : Type) where
  claim : S → C → List J × S
  job : Machine S J A
  finished : J → Bool

variable {I S J C A K : Type}

def Batches.step (batches : Batches S J C A) (s : S) (worker : Worker J C) :
    WorkerAction C A → Option (S × Worker J C)
  | .claim claim =>
    if worker.chunk.isEmpty && worker.rest.isEmpty then
      let (jobs, after) := batches.claim s claim
      some (after, { worker with claim := some claim, rest := jobs })
    else none
  | .job index action =>
    (batches.job.pool.step s worker.chunk (index, action)).map fun (after, chunk) =>
      (after, { worker with chunk })
  | .next =>
    if worker.chunk.all batches.finished then
      some (s,
        { worker with
          chunk := worker.rest.take (max 1 worker.size)
          rest := worker.rest.drop (max 1 worker.size) })
    else none

def Batches.workers (batches : Batches S J C A) : Machine S (Worker J C) (WorkerAction C A) where
  step := batches.step

def Worker.jobs (worker : Worker J C) : List J :=
  worker.chunk ++ worker.rest

/-- What the unfinished jobs of a worker hold. -/
def Worker.held (key? : J → Option K) (worker : Worker J C) : List K :=
  worker.jobs.filterMap key?

/-! ## A step of a worker -/

inductive Batches.Moves (batches : Batches S J C A) (s : S) (worker : Worker J C) :
    WorkerAction C A → S → Worker J C → Prop
  | claim {claim : C} (idle : worker.chunk = [] ∧ worker.rest = []) :
      Moves batches s worker (.claim claim) (batches.claim s claim).2
        { worker with claim := some claim, rest := (batches.claim s claim).1 }
  | job {index : Nat} {action : A} {job next : J} {after : S}
      (runs : worker.chunk[index]? = some job)
      (stepped : batches.job.step s job action = some (after, next)) :
      Moves batches s worker (.job index action) after
        { worker with chunk := worker.chunk.set index next }
  | next (finished : ∀ job ∈ worker.chunk, batches.finished job = true) :
      Moves batches s worker .next s
        { worker with
          chunk := worker.rest.take (max 1 worker.size)
          rest := worker.rest.drop (max 1 worker.size) }

section

variable {batches : Batches S J C A} {s after : S} {worker next : Worker J C}
  {action : WorkerAction C A} {key? : J → Option K}

theorem Batches.step_moves
    (stepped : batches.workers.step s worker action = some (after, next)) :
    batches.Moves s worker action after next := by
  change batches.step s worker action = some (after, next) at stepped
  cases action with
  | claim claim =>
    simp only [step] at stepped
    split at stepped
    next idle =>
      obtain ⟨rfl, rfl⟩ := Prod.mk.inj (Option.some.inj stepped)
      simp only [Bool.and_eq_true, List.isEmpty_iff] at idle
      exact .claim idle
    next => cases stepped
  | job index action =>
    obtain ⟨⟨_, chunk⟩, pooled, same⟩ := Option.map_eq_some_iff.mp stepped
    obtain ⟨rfl, rfl⟩ := Prod.mk.inj same
    obtain ⟨job, next, runs, moved, rfl⟩ := Machine.pool_step.mp pooled
    exact .job runs moved
  | next =>
    simp only [step] at stepped
    split at stepped
    next finished =>
      obtain ⟨rfl, rfl⟩ := Prod.mk.inj (Option.some.inj stepped)
      exact .next (List.all_eq_true.mp finished)
    next => cases stepped

theorem filterMap_set_sublist {jobs : List J} {index : Nat} {job job' : J}
    (runs : jobs[index]? = some job) (kept : key? job' = key? job ∨ key? job' = none) :
    ((jobs.set index job').filterMap key?).Sublist (jobs.filterMap key?) := by
  induction jobs generalizing index with
  | nil => cases runs
  | cons first rest ih =>
    cases index with
    | zero =>
      obtain rfl := Option.some.inj runs
      rw [List.set_cons_zero, List.filterMap_cons, List.filterMap_cons]
      rcases kept with same | none
      · rw [same]
      · rw [none]
        cases key? first with
        | none => exact List.Sublist.refl _
        | some key => exact List.sublist_cons_self key _
    | succ index =>
      rw [List.set_cons_succ, List.filterMap_cons, List.filterMap_cons]
      cases key? first with
      | none => exact ih runs
      | some key => exact (ih runs).cons_cons key

/-- A job that goes on with its key or without one leaves the worker with no other keys. -/
theorem Worker.held_job {index : Nat} {job job' : J} (runs : worker.chunk[index]? = some job)
    (kept : key? job' = key? job ∨ key? job' = none) :
    (({ worker with chunk := worker.chunk.set index job' } : Worker J C).held key?).Sublist
      (worker.held key?) := by
  unfold held jobs
  rw [List.filterMap_append, List.filterMap_append]
  exact (filterMap_set_sublist runs kept).append_right _

theorem not_mem_filterMap_set {jobs : List J} {index : Nat} {job job' : J} {key : K}
    (nodup : (jobs.filterMap key?).Nodup) (runs : jobs[index]? = some job)
    (held : key? job = some key) (released : key? job' = none) :
    key ∉ (jobs.set index job').filterMap key? := by
  induction jobs generalizing index with
  | nil => cases runs
  | cons first rest ih =>
    cases index with
    | zero =>
      obtain rfl := Option.some.inj runs
      rw [List.filterMap_cons_some held] at nodup
      rw [List.set_cons_zero, List.filterMap_cons_none released]
      exact (List.nodup_cons.mp nodup).1
    | succ index =>
      have later : key ∈ rest.filterMap key? :=
        List.mem_filterMap.mpr ⟨job, List.mem_of_getElem? runs, held⟩
      rw [List.set_cons_succ]
      cases own : key? first with
      | none =>
        rw [List.filterMap_cons_none own] at nodup ⊢
        exact ih nodup runs
      | some other =>
        rw [List.filterMap_cons_some own] at nodup ⊢
        obtain ⟨apart, nodup⟩ := List.nodup_cons.mp nodup
        rw [List.mem_cons, not_or]
        exact ⟨fun same => apart (same ▸ later), ih nodup runs⟩

theorem Worker.jobs_job {index : Nat} {job : J} (runs : worker.chunk[index]? = some job) (next : J) :
    worker.jobs[index]? = some job ∧
      ({ worker with chunk := worker.chunk.set index next } : Worker J C).jobs =
        worker.jobs.set index next := by
  obtain ⟨bound, _⟩ := List.getElem?_eq_some_iff.mp runs
  exact ⟨(List.getElem?_append_left bound).trans runs, (List.set_append_left index next bound).symm⟩

/-- A key that a job gives up is no longer held by its worker. -/
theorem Worker.released {index : Nat} {job job' : J} {key : K}
    (nodup : (worker.held key?).Nodup) (runs : worker.chunk[index]? = some job)
    (held : key? job = some key) (released : key? job' = none) :
    key ∉ ({ worker with chunk := worker.chunk.set index job' } : Worker J C).held key? := by
  obtain ⟨among, jobs⟩ := Worker.jobs_job runs job'
  rw [Worker.held, jobs]
  exact not_mem_filterMap_set nodup among held released

/-- The other jobs after a step are those of before that hold another key. -/
theorem mem_set_apart {jobs : List J} {index : Nat} {job next other : J}
    (nodup : (jobs.filterMap key?).Nodup) (runs : jobs[index]? = some job)
    (member : other ∈ jobs.set index next) :
    other = next ∨ other ∈ jobs ∧ ∀ key, key? job = some key → key? other ≠ some key := by
  induction jobs generalizing index with
  | nil => cases runs
  | cons first rest ih =>
    have apart (key : K) (own : key? first = some key) (later : J) (among : later ∈ rest) :
        key? later ≠ some key := by
      intro same
      rw [List.filterMap_cons_some own] at nodup
      exact (List.nodup_cons.mp nodup).1 (List.mem_filterMap.mpr ⟨later, among, same⟩)
    cases index with
    | zero =>
      obtain rfl := Option.some.inj runs
      rw [List.set_cons_zero] at member
      rcases List.mem_cons.mp member with rfl | later
      · exact .inl rfl
      · exact .inr ⟨List.mem_cons_of_mem _ later, fun key own => apart key own other later⟩
    | succ index =>
      rw [List.set_cons_succ] at member
      rcases List.mem_cons.mp member with rfl | later
      · refine .inr ⟨List.mem_cons_self, fun key own same => ?_⟩
        exact apart key same job (List.mem_of_getElem? runs) own
      · have sub : (rest.filterMap key?).Nodup :=
          nodup.sublist ((List.sublist_cons_self first rest).filterMap key?)
        rcases ih sub runs later with same | ⟨before, different⟩
        · exact .inl same
        · exact .inr ⟨List.mem_cons_of_mem _ before, different⟩

theorem mem_set_of_mem {jobs : List J} {index : Nat} {job next other : J}
    (runs : jobs[index]? = some job) (member : other ∈ jobs) :
    other = job ∨ other ∈ jobs.set index next := by
  obtain ⟨n, bound, rfl⟩ := List.getElem_of_mem member
  by_cases same : index = n
  · subst same
    rw [List.getElem?_eq_getElem bound] at runs
    exact .inl (Option.some.inj runs)
  · refine .inr (List.mem_of_getElem? (i := n) ?_)
    rw [List.getElem?_set_ne same, List.getElem?_eq_getElem bound]

theorem Worker.held_next (finished : ∀ job ∈ worker.chunk, key? job = none) (n : Nat) :
    ({ worker with chunk := worker.rest.take n, rest := worker.rest.drop n } : Worker J C).held
      key? = worker.held key? := by
  have none : worker.chunk.filterMap key? = [] := List.filterMap_eq_nil_iff.mpr finished
  unfold held jobs
  rw [List.take_append_drop, List.filterMap_append, none, List.nil_append]

end

/-! ## Exclusive holders -/

def Exclusive (held : I → List K) : Prop :=
  (∀ i, (held i).Nodup) ∧ ∀ i j key, key ∈ held i → key ∈ held j → i = j

section

variable [DecidableEq I] {held : I → List K} {i : I}

theorem Exclusive.shrink {keys : List K} (exclusive : Exclusive held)
    (fewer : keys.Sublist (held i)) : Exclusive (Function.update held i keys) := by
  have among (j : I) (key : K) (member : key ∈ Function.update held i keys j) : key ∈ held j := by
    by_cases same : j = i
    · subst same
      rw [Function.update_self] at member
      exact fewer.subset member
    · rwa [Function.update_of_ne same] at member
  refine ⟨fun j => ?_, fun j k key first second => ?_⟩
  · by_cases same : j = i
    · subst same
      rw [Function.update_self]
      exact (exclusive.1 j).sublist fewer
    · rw [Function.update_of_ne same]
      exact exclusive.1 j
  · exact exclusive.2 j k key (among j key first) (among k key second)

theorem Exclusive.claim {keys : List K} (exclusive : Exclusive held) (nodup : keys.Nodup)
    (free : ∀ key ∈ keys, ∀ j, key ∉ held j) : Exclusive (Function.update held i keys) := by
  have cases_of (j : I) (key : K) (member : key ∈ Function.update held i keys j) :
      (j = i ∧ key ∈ keys) ∨ key ∈ held j := by
    by_cases same : j = i
    · subst same
      rw [Function.update_self] at member
      exact .inl ⟨rfl, member⟩
    · rw [Function.update_of_ne same] at member
      exact .inr member
  refine ⟨fun j => ?_, fun j k key first second => ?_⟩
  · by_cases same : j = i
    · subst same
      rwa [Function.update_self]
    · rw [Function.update_of_ne same]
      exact exclusive.1 j
  · rcases cases_of j key first with ⟨rfl, new⟩ | old <;>
      rcases cases_of k key second with ⟨rfl, new'⟩ | old'
    · rfl
    · exact absurd old' (free key new k)
    · exact absurd old (free key new' j)
    · exact exclusive.2 j k key old old'

end

/-! ## Jobs that hold a key -/

section

variable {worker : Worker J C} {key? : J → Option K} {key : K} {m n : Nat} {job job' : J}

theorem Worker.mem_held (runs : worker.chunk[m]? = some job) (holds : key? job = some key) :
    key ∈ worker.held key? :=
  List.mem_filterMap.mpr ⟨job, List.mem_append_left _ (List.mem_of_getElem? runs), holds⟩

/-- Two jobs of one worker that hold one key are the same job. -/
theorem Worker.same_job (nodup : (worker.held key?).Nodup) (first : worker.chunk[m]? = some job)
    (second : worker.chunk[n]? = some job') (holds : key? job = some key)
    (holds' : key? job' = some key) : m = n := by
  have chunk : (worker.chunk.filterMap key?).Nodup := by
    refine nodup.sublist ?_
    rw [Worker.held, Worker.jobs, List.filterMap_append]
    exact List.sublist_append_left _ _
  have apart := List.pairwise_filterMap.mp chunk
  obtain ⟨bound, rfl⟩ := List.getElem?_eq_some_iff.mp first
  obtain ⟨bound', rfl⟩ := List.getElem?_eq_some_iff.mp second
  rcases Nat.lt_trichotomy m n with less | same | less
  · exact absurd rfl (List.pairwise_iff_getElem.mp apart m n bound bound' less key holds key holds')
  · exact same
  · exact absurd rfl (List.pairwise_iff_getElem.mp apart n m bound' bound less key holds' key holds)

end

end Shared

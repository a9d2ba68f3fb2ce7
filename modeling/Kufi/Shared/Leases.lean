import Kufi.Shared.Batches

set_option autoImplicit false

/-!
# Leases of whole batches

A claim leases its keys until one instant and nothing renews the lease. As long
as every claim is made before the lease of any unfinished batch ends, no two
jobs hold one key.
-/

namespace Shared

/-- What the jobs of a batch hold, until when, and what makes a key claimable by nobody else. -/
structure Leasing (S J C K T : Type) where
  key? : J → Option K
  ends : C → T
  -- The key is known and not due before the instant.
  Leased : S → T → K → Prop

variable {I S J C K T Q : Type}

namespace Leasing

def held (leasing : Leasing S J C K T) : Q ⊕ Worker J C → List K
  | .inl _ => []
  | .inr worker => worker.held leasing.key?

/-- The end of the lease of a batch that is not finished. -/
def lease? (leasing : Leasing S J C K T) : Q ⊕ Worker J C → Option T
  | .inl _ => none
  | .inr worker =>
    if (worker.held leasing.key?).isEmpty then none else worker.claim.map leasing.ends

structure Apart (leasing : Leasing S J C K T) (world : World I S (Q ⊕ Worker J C)) : Prop where
  exclusive : Exclusive fun i => leasing.held (world.procs i)
  leased : ∀ i, ∀ key ∈ leasing.held (world.procs i),
    ∃ until_end ∈ leasing.lease? (world.procs i), leasing.Leased world.shared until_end key

section

variable {leasing : Leasing S J C K T} {worker : Worker J C} {key : K}

theorem lease?_of_held (member : key ∈ worker.held leasing.key?) :
    leasing.lease? (.inr worker : Q ⊕ Worker J C) = worker.claim.map leasing.ends := by
  have some : (worker.held leasing.key?).isEmpty = false :=
    List.isEmpty_eq_false_iff.mpr (List.ne_nil_of_mem member)
  simp [lease?, some]

/-- Workers that have nothing to do hold nothing. -/
theorem Apart.of_idle {start : World I S (Q ⊕ Worker J C)}
    (idle : ∀ i worker, start.procs i = .inr worker → worker.chunk = [] ∧ worker.rest = []) :
    leasing.Apart start := by
  have none (i : I) : leasing.held (start.procs i) = [] := by
    cases proc : start.procs i with
    | inl => rfl
    | inr worker => simp [held, Worker.held, Worker.jobs, idle i worker proc]
  refine ⟨⟨fun i => ?_, fun i j key member => ?_⟩, fun i key member => ?_⟩
  · simp only [none, List.nodup_nil]
  · simp [none] at member
  · simp [none] at member

theorem Apart.nodup {world : World I S (Q ⊕ Worker J C)} {i : I} (apart : leasing.Apart world)
    (proc : world.procs i = .inr worker) : (worker.held leasing.key?).Nodup := by
  have nodup : (leasing.held (world.procs i)).Nodup := apart.exclusive.1 i
  rwa [proc] at nodup

/-- Two jobs that hold one key are the same job of the same worker. -/
theorem Apart.same_job {world : World I S (Q ⊕ Worker J C)} (apart : leasing.Apart world)
    {i j : I} {worker' : Worker J C} {m n : Nat} {job job' : J}
    (proc : world.procs i = .inr worker) (proc' : world.procs j = .inr worker')
    (runs : worker.chunk[m]? = some job) (runs' : worker'.chunk[n]? = some job')
    (holds : leasing.key? job = some key) (holds' : leasing.key? job' = some key) :
    i = j ∧ m = n := by
  have first : key ∈ leasing.held (world.procs i) := by
    rw [proc]
    exact Worker.mem_held runs holds
  have second : key ∈ leasing.held (world.procs j) := by
    rw [proc']
    exact Worker.mem_held runs' holds'
  obtain rfl := apart.exclusive.2 i j key first second
  obtain rfl := Sum.inr.inj (proc.symm.trans proc')
  exact ⟨rfl, Worker.same_job (apart.nodup proc) runs runs' holds holds'⟩

variable [DecidableEq I] {world : World I S (Q ⊕ Worker J C)} {i : I} {after : S}

theorem held_update (procs : I → Q ⊕ Worker J C) (i : I) (next : Q ⊕ Worker J C) :
    (fun j => leasing.held (Function.update procs i next j)) =
      Function.update (fun j => leasing.held (procs j)) i (leasing.held next) := by
  funext j
  exact Function.apply_update (fun _ => leasing.held) procs i next j

-- What a step keeps, from what it does to the keys that are held after it.
theorem Apart.step {next : Q ⊕ Worker J C} (apart : leasing.Apart world)
    (exclusive : Exclusive
      (Function.update (fun j => leasing.held (world.procs j)) i (leasing.held next)))
    (own : ∀ key ∈ leasing.held next, ∃ until_end ∈ leasing.lease? next,
      leasing.Leased after until_end key)
    (others : ∀ j, j ≠ i → ∀ key ∈ leasing.held (world.procs j), ∀ until_end,
      leasing.Leased world.shared until_end key → leasing.Leased after until_end key) :
    leasing.Apart { shared := after, procs := Function.update world.procs i next } := by
  refine ⟨(held_update world.procs i next).symm ▸ exclusive, fun j key member => ?_⟩
  by_cases same : j = i
  · subst same
    simp only [Function.update_self] at member ⊢
    exact own key member
  · simp only [Function.update_of_ne same] at member ⊢
    obtain ⟨until_end, lease, leased⟩ := apart.leased j key member
    exact ⟨until_end, lease, others j same key member until_end leased⟩

/-- A process that holds nothing leaves what is held as it is. -/
theorem Apart.beside {next : Q} (apart : leasing.Apart world)
    (kept : ∀ j, ∀ key ∈ leasing.held (world.procs j), ∀ until_end,
      leasing.Leased world.shared until_end key → leasing.Leased after until_end key) :
    leasing.Apart { shared := after, procs := Function.update world.procs i (.inl next) } :=
  apart.step (apart.exclusive.shrink (List.nil_sublist _)) (fun _ member => nomatch member)
    fun j _ => kept j

/-- A claim of keys that nobody holds. -/
theorem Apart.claim {claim : C} {jobs : List J} (apart : leasing.Apart world)
    (idle : worker.chunk = [] ∧ worker.rest = []) (nodup : (jobs.filterMap leasing.key?).Nodup)
    (free : ∀ key ∈ jobs.filterMap leasing.key?, ∀ j, key ∉ leasing.held (world.procs j))
    (leased : ∀ key ∈ jobs.filterMap leasing.key?, leasing.Leased after (leasing.ends claim) key)
    (others : ∀ key, key ∉ jobs.filterMap leasing.key? → ∀ until_end,
      leasing.Leased world.shared until_end key → leasing.Leased after until_end key) :
    leasing.Apart
      { shared := after
        procs := Function.update world.procs i
          (.inr { worker with claim := some claim, rest := jobs }) } := by
  have holds : leasing.held
      (.inr { worker with claim := some claim, rest := jobs } : Q ⊕ Worker J C) =
      jobs.filterMap leasing.key? := by
    simp only [held, Worker.held, Worker.jobs, idle.1, List.nil_append]
  refine apart.step ?_ (fun key member => ?_) fun j _ key member until_end before => ?_
  · rw [holds]
    exact apart.exclusive.claim nodup free
  · rw [lease?_of_held member]
    rw [holds] at member
    exact ⟨leasing.ends claim, rfl, leased key member⟩
  · exact others key (fun taken => free key taken j member) until_end before

theorem Apart.job {index : Nat} {job next : J} (apart : leasing.Apart world)
    (proc : world.procs i = .inr worker) (runs : worker.chunk[index]? = some job)
    (kept : leasing.key? next = leasing.key? job ∨ leasing.key? next = none)
    (stays : ∀ key, (leasing.key? job = some key → leasing.key? next = some key) → ∀ until_end,
      leasing.Leased world.shared until_end key → leasing.Leased after until_end key) :
    leasing.Apart
      { shared := after
        procs := Function.update world.procs i
          (.inr { worker with chunk := worker.chunk.set index next }) } := by
  have fewer := Worker.held_job runs kept
  have own : leasing.held (world.procs i) = worker.held leasing.key? := by rw [proc]; rfl
  refine apart.step ?_ (fun key member => ?_) fun j other key member until_end before => ?_
  · refine apart.exclusive.shrink ?_
    rw [own]
    exact fewer
  · have before : key ∈ worker.held leasing.key? := fewer.subset member
    obtain ⟨until_end, lease, leased⟩ := apart.leased i key (own ▸ before)
    rw [proc, lease?_of_held before] at lease
    refine ⟨until_end, ?_, stays key (fun holds => ?_) until_end leased⟩
    · rw [lease?_of_held member]
      exact lease
    · rcases kept with same | none
      · exact same.trans holds
      · exact absurd member (Worker.released (apart.nodup proc) runs holds none)
  · refine stays key (fun holds => ?_) until_end before
    have taken : key ∈ leasing.held (world.procs i) := own ▸ Worker.mem_held runs holds
    exact absurd (apart.exclusive.2 j i key member taken) other

theorem Apart.next (apart : leasing.Apart world) (proc : world.procs i = .inr worker)
    (finished : ∀ job ∈ worker.chunk, leasing.key? job = none) (n : Nat) :
    leasing.Apart
      { shared := world.shared
        procs := Function.update world.procs i
          (.inr { worker with chunk := worker.rest.take n, rest := worker.rest.drop n }) } := by
  have same : ({ worker with chunk := worker.rest.take n, rest := worker.rest.drop n } :
      Worker J C).held leasing.key? = worker.held leasing.key? := Worker.held_next finished n
  have own : leasing.held (world.procs i) = worker.held leasing.key? := by rw [proc]; rfl
  refine apart.step ?_ (fun key member => ?_) fun j _ key _ until_end before => before
  · exact apart.exclusive.shrink (own ▸ same ▸ List.Sublist.refl _)
  · have before : key ∈ worker.held leasing.key? := same ▸ member
    obtain ⟨until_end, lease, leased⟩ := apart.leased i key (own ▸ before)
    rw [proc, lease?_of_held before] at lease
    exact ⟨until_end, (lease?_of_held member).symm ▸ lease, leased⟩

end

/-! ## Assertions of jobs -/

def Jobs (Assert : J → Prop) (procs : I → Q ⊕ Worker J C) : Prop :=
  ∀ i worker, procs i = .inr worker → ∀ job ∈ worker.jobs, Assert job

section

variable [DecidableEq I] {leasing : Leasing S J C K T} {Assert After : J → Prop}
  {procs : I → Q ⊕ Worker J C} {i : I} {worker : Worker J C}

theorem Jobs.update {next : Q ⊕ Worker J C}
    (own : ∀ worker, next = .inr worker → ∀ job ∈ worker.jobs, After job)
    (others : ∀ j, j ≠ i → ∀ worker, procs j = .inr worker → ∀ job ∈ worker.jobs, After job) :
    Jobs After (Function.update procs i next) := by
  intro j worker proc
  by_cases same : j = i
  · subst same
    exact own worker (Function.update_self j next procs ▸ proc)
  · rw [Function.update_of_ne same] at proc
    exact others j same worker proc

theorem Jobs.beside (jobs : Jobs Assert procs) (weaker : ∀ job, Assert job → After job)
    {next : Q} : Jobs After (Function.update procs i (.inl next)) :=
  Jobs.update (fun _ same => nomatch same) fun j _ worker proc job member =>
    weaker job (jobs j worker proc job member)

theorem Jobs.claim {claim : C} {new : List J} (idle : worker.chunk = [] ∧ worker.rest = [])
    (own : ∀ job ∈ new, After job) (others : Jobs After procs) :
    Jobs After (Function.update procs i
      (.inr { worker with claim := some claim, rest := new })) := by
  refine Jobs.update (fun worker' same job member => own job ?_) fun j _ => others j
  obtain rfl := Sum.inr.inj same
  simpa [Worker.jobs, idle.1] using member

theorem Jobs.next (jobs : Jobs Assert procs) (proc : procs i = .inr worker) (n : Nat) :
    Jobs Assert (Function.update procs i
      (.inr { worker with chunk := worker.rest.take n, rest := worker.rest.drop n })) := by
  refine Jobs.update (fun worker' same job member => ?_) fun j _ => jobs j
  obtain rfl := Sum.inr.inj same
  refine jobs i worker proc job (List.mem_append_right _ ?_)
  rwa [Worker.jobs, List.take_append_drop] at member

/-- A step of a job moves only the assertions of jobs with another key. -/
theorem Jobs.job {world : World I S (Q ⊕ Worker J C)} {index : Nat} {job next : J}
    (jobs : Jobs Assert world.procs) (apart : leasing.Apart world)
    (proc : world.procs i = .inr worker) (runs : worker.chunk[index]? = some job)
    (own : Assert job → After next)
    (others : ∀ other, Assert other →
      (∀ key, leasing.key? job = some key → leasing.key? other ≠ some key) → After other) :
    Jobs After (Function.update world.procs i
      (.inr { worker with chunk := worker.chunk.set index next })) := by
  obtain ⟨among, set⟩ := Worker.jobs_job runs next
  have runner := List.mem_of_getElem? among
  refine Jobs.update (fun worker' same other member => ?_) fun j apart_from worker' proc' other
    member => others other (jobs j worker' proc' other member) fun key holds holds' => apart_from ?_
  · obtain rfl := Sum.inr.inj same
    rw [set] at member
    rcases mem_set_apart (apart.nodup proc) among member with rfl | ⟨before, different⟩
    · exact own (jobs i worker proc job runner)
    · exact others other (jobs i worker proc other before) different
  · have first : key ∈ leasing.held (world.procs i) := by
      rw [proc]
      exact List.mem_filterMap.mpr ⟨job, runner, holds⟩
    have second : key ∈ leasing.held (world.procs j) := by
      rw [proc']
      exact List.mem_filterMap.mpr ⟨other, member, holds'⟩
    exact apart.exclusive.2 j i key second first

/-- What holds of all jobs after a step held before it, the jobs of its own process apart. -/
theorem Jobs.of_update {next : Q ⊕ Worker J C} (jobs : Jobs Assert (Function.update procs i next))
    (own : ∀ worker, procs i = .inr worker → ∀ job ∈ worker.jobs, Assert job) :
    Jobs Assert procs := by
  intro j worker proc
  by_cases same : j = i
  · subst same
    exact own worker proc
  · exact jobs j worker (by rwa [Function.update_of_ne same])

theorem Jobs.before_job {index : Nat} {job next : J}
    (jobs : Jobs Assert (Function.update procs i
      (.inr { worker with chunk := worker.chunk.set index next })))
    (proc : procs i = .inr worker) (runs : worker.chunk[index]? = some job) (own : Assert job) :
    Jobs Assert procs := by
  obtain ⟨among, set⟩ := Worker.jobs_job runs next
  refine jobs.of_update fun worker' proc' other member => ?_
  obtain rfl := Sum.inr.inj (proc.symm.trans proc')
  rcases mem_set_of_mem among member with rfl | stays
  · exact own
  · refine jobs i _ (Function.update_self i _ procs) other ?_
    rwa [set]

theorem Jobs.before_claim {next : Q ⊕ Worker J C}
    (jobs : Jobs Assert (Function.update procs i next)) (proc : procs i = .inr worker)
    (idle : worker.chunk = [] ∧ worker.rest = []) : Jobs Assert procs := by
  refine jobs.of_update fun worker' proc' job member => ?_
  obtain rfl := Sum.inr.inj (proc.symm.trans proc')
  simp [Worker.jobs, idle] at member

theorem Jobs.before_next {n : Nat}
    (jobs : Jobs Assert (Function.update procs i
      (.inr { worker with chunk := worker.rest.take n, rest := worker.rest.drop n })))
    (proc : procs i = .inr worker) (own : ∀ job ∈ worker.chunk, Assert job) :
    Jobs Assert procs := by
  refine jobs.of_update fun worker' proc' job member => ?_
  obtain rfl := Sum.inr.inj (proc.symm.trans proc')
  rcases List.mem_append.mp member with running | waiting
  · exact own job running
  · refine jobs i _ (Function.update_self i _ procs) job ?_
    rwa [Worker.jobs, List.take_append_drop]

omit [DecidableEq I] in
/-- Of all jobs only the stepping one holds its key. -/
theorem Apart.only {world : World I S (Q ⊕ Worker J C)} {index : Nat} {job : J} {key : K}
    (apart : leasing.Apart world) (proc : world.procs i = .inr worker)
    (runs : worker.chunk[index]? = some job) (holds : leasing.key? job = some key) :
    Jobs (fun other => leasing.key? other = some key → other = job) world.procs := by
  obtain ⟨among, _⟩ := Worker.jobs_job runs job
  intro j worker' proc' other member holds'
  have first : key ∈ leasing.held (world.procs i) := by
    rw [proc]
    exact List.mem_filterMap.mpr ⟨job, List.mem_of_getElem? among, holds⟩
  have second : key ∈ leasing.held (world.procs j) := by
    rw [proc']
    exact List.mem_filterMap.mpr ⟨other, member, holds'⟩
  obtain rfl := apart.exclusive.2 i j key first second
  obtain rfl := Sum.inr.inj (proc.symm.trans proc')
  have among' : other ∈ worker.jobs.set index job := by
    obtain ⟨bound, rfl⟩ := List.getElem?_eq_some_iff.mp among
    rwa [List.set_getElem_self]
  rcases mem_set_apart (apart.nodup proc) among among' with same | ⟨_, different⟩
  · exact same
  · exact absurd holds' (different key holds)

end

end Leasing

end Shared

import Mathlib.Logic.Function.Basic

set_option autoImplicit false

/-!
# Processes interleaved over a shared state

A process takes one atomic step at a time on a shared state and its own local
state; the action that labels a step carries everything the environment
decides. A run is any sequence of steps of any of the processes.
-/

namespace Shared

structure Machine (S P A : Type) where
  step : S → P → A → Option (S × P)

structure World (I S P : Type) where
  shared : S
  procs : I → P

-- The numbers of processes whose names are numerals.
instance (priority := high) neZero_three : @NeZero Nat Zero.ofOfNat0 3 := ⟨by decide⟩
instance (priority := high) neZero_five : @NeZero Nat Zero.ofOfNat0 5 := ⟨by decide⟩

variable {I S P A : Type} [DecidableEq I]

section Update

variable {procs : I → P} {i : I} {next : P}

/-- After a step a process is the one that took it or is as before. -/
theorem update_cases {j : I} (Q : P → Prop) (holds : Q (Function.update procs i next j)) :
    j = i ∧ Q next ∨ j ≠ i ∧ Q (procs j) := by
  by_cases same : j = i
  · subst same
    rw [Function.update_self] at holds
    exact .inl ⟨rfl, holds⟩
  · rw [Function.update_of_ne same] at holds
    exact .inr ⟨same, holds⟩

theorem forall_update (Q : P → Prop) (own : Q next) (others : ∀ j, Q (procs j)) (j : I) :
    Q (Function.update procs i next j) :=
  (Function.forall_update_iff procs fun _ => Q).mpr ⟨own, fun j _ => others j⟩ j

end Update

namespace Machine

def fire (machine : Machine S P A) (world : World I S P) (i : I) (action : A) :
    Option (World I S P) :=
  (machine.step world.shared (world.procs i) action).map fun after =>
    { shared := after.1, procs := Function.update world.procs i after.2 }

theorem fire_eq_some {machine : Machine S P A} {world after : World I S P} {i : I} {action : A} :
    machine.fire world i action = some after ↔
      ∃ shared proc, machine.step world.shared (world.procs i) action = some (shared, proc) ∧
        after = { shared := shared, procs := Function.update world.procs i proc } := by
  simp only [fire, Option.map_eq_some_iff, Prod.exists]
  constructor <;> rintro ⟨shared, proc, stepped, rfl⟩ <;> exact ⟨shared, proc, stepped, rfl⟩

def run (machine : Machine S P A) : World I S P → List (I × A) → Option (World I S P)
  | world, [] => some world
  | world, (i, action) :: rest => (machine.fire world i action).bind (machine.run · rest)

@[simp] theorem run_nil (machine : Machine S P A) (world : World I S P) :
    machine.run world [] = some world := rfl

theorem run_cons (machine : Machine S P A) (world : World I S P) (i : I) (action : A)
    (rest : List (I × A)) :
    machine.run world ((i, action) :: rest) =
      (machine.fire world i action).bind (machine.run · rest) := rfl

/-- The worlds a run can reach when every step meets `allowed` in the world it is taken in. -/
inductive Reaches (machine : Machine S P A) (allowed : World I S P → I → A → Prop)
    (start : World I S P) : World I S P → Prop
  | refl : Reaches machine allowed start start
  | step {world after : World I S P} {i : I} {action : A} :
      Reaches machine allowed start world → allowed world i action →
        machine.fire world i action = some after → Reaches machine allowed start after

theorem Reaches.mono {machine : Machine S P A} {allowed wider : World I S P → I → A → Prop}
    {start world : World I S P} (weaker : ∀ world i action, allowed world i action →
      wider world i action) (reached : machine.Reaches allowed start world) :
    machine.Reaches wider start world := by
  induction reached with
  | refl => exact .refl
  | step _ ok fired ih => exact .step ih (weaker _ _ _ ok) fired

theorem Reaches.run {machine : Machine S P A} {start world after : World I S P}
    {labels : List (I × A)} (reached : machine.Reaches (fun _ _ _ => True) start world)
    (ran : machine.run world labels = some after) :
    machine.Reaches (fun _ _ _ => True) start after := by
  induction labels generalizing world with
  | nil => cases ran; exact reached
  | cons label rest ih =>
    obtain ⟨middle, fired, later⟩ := Option.bind_eq_some_iff.mp ran
    exact ih (.step reached trivial fired) later

/-- One run after which a property fails refutes it. -/
theorem not_always {machine : Machine S P A} {start : World I S P} {Q : World I S P → Prop}
    [DecidablePred Q] (labels : List (I × A))
    (ends : (machine.run start labels).map (fun world => decide (Q world)) = some false) :
    ¬∀ world, machine.Reaches (fun _ _ _ => True) start world → Q world := by
  intro always
  obtain ⟨world, ran, fails⟩ := Option.map_eq_some_iff.mp ends
  exact of_decide_eq_false fails (always world (.run .refl ran))

/-- An inductive invariant of worlds holds in every world reached. -/
theorem Reaches.invariant {machine : Machine S P A} {allowed : World I S P → I → A → Prop}
    {start world : World I S P} (Inv : World I S P → Prop) (initial : Inv start)
    (preserved : ∀ world i action after, Inv world → allowed world i action →
      machine.fire world i action = some after → Inv after)
    (reached : machine.Reaches allowed start world) : Inv world := by
  induction reached with
  | refl => exact initial
  | step _ ok fired ih => exact preserved _ _ _ _ ih ok fired

/-- The Owicki-Gries rule: a step keeps the invariant of the shared state, establishes the
stepping process's assertion and does not interfere with the assertions of the others. -/
theorem Reaches.assertions {machine : Machine S P A} {allowed : World I S P → I → A → Prop}
    {start world : World I S P} (Inv : S → Prop) (Assert : S → I → P → Prop)
    (initial : Inv start.shared ∧ ∀ i, Assert start.shared i (start.procs i))
    (preserved : ∀ (world : World I S P) i action shared proc,
      Inv world.shared → (∀ j, Assert world.shared j (world.procs j)) → allowed world i action →
      machine.step world.shared (world.procs i) action = some (shared, proc) →
      Inv shared ∧ Assert shared i proc ∧ ∀ j, j ≠ i → Assert shared j (world.procs j))
    (reached : machine.Reaches allowed start world) :
    Inv world.shared ∧ ∀ i, Assert world.shared i (world.procs i) := by
  induction reached with
  | refl => exact initial
  | @step world _ i _ _ ok fired ih =>
    obtain ⟨shared, proc, stepped, rfl⟩ := fire_eq_some.mp fired
    obtain ⟨kept, own, others⟩ := preserved _ _ _ shared proc ih.1 ih.2 ok stepped
    refine ⟨kept, fun j => ?_⟩
    by_cases same : j = i
    · subst same
      simpa using own
    · simpa [Function.update_of_ne same] using others j same

/-- A step of the run keeps what a relation says of the shared state before and after it. -/
theorem Reaches.related {machine : Machine S P A} {allowed : World I S P → I → A → Prop}
    {start world : World I S P} (R : S → S → Prop) (refl : R start.shared start.shared)
    (trans : ∀ {a b c}, R a b → R b c → R a c)
    (stepped : ∀ world i action after, machine.Reaches allowed start world →
      allowed world i action → machine.fire world i action = some after →
      R world.shared after.shared)
    (reached : machine.Reaches allowed start world) : R start.shared world.shared := by
  induction reached with
  | refl => exact refl
  | step before ok fired ih => exact trans ih (stepped _ _ _ _ before ok fired)

theorem Reaches.trans {machine : Machine S P A} {allowed : World I S P → I → A → Prop}
    {start middle world : World I S P} (first : machine.Reaches allowed start middle)
    (second : machine.Reaches allowed middle world) : machine.Reaches allowed start world := by
  induction second with
  | refl => exact first
  | step _ ok fired ih => exact .step ih ok fired

/-! ## One process on its own -/

def alone (machine : Machine S P A) : S → P → List A → Option (S × P)
  | shared, proc, [] => some (shared, proc)
  | shared, proc, action :: rest =>
    (machine.step shared proc action).bind fun after => machine.alone after.1 after.2 rest

theorem alone_append (machine : Machine S P A) (shared : S) (proc : P) (first rest : List A) :
    machine.alone shared proc (first ++ rest) =
      (machine.alone shared proc first).bind fun after => machine.alone after.1 after.2 rest := by
  induction first generalizing shared proc with
  | nil => rfl
  | cons action first ih =>
    simp only [List.cons_append, alone, Option.bind_assoc, ih]

theorem alone_snoc {machine : Machine S P A} {shared middle after : S} {proc proc' proc'' : P}
    {actions : List A} {action : A}
    (before : machine.alone shared proc actions = some (middle, proc'))
    (stepped : machine.step middle proc' action = some (after, proc'')) :
    machine.alone shared proc (actions ++ [action]) = some (after, proc'') := by
  simp [alone_append, before, alone, stepped]

theorem alone_invariant {machine : Machine S P A} (Inv : S → P → Prop)
    (preserved : ∀ {shared proc action after next}, Inv shared proc →
      machine.step shared proc action = some (after, next) → Inv after next)
    {shared after : S} {proc next : P} {actions : List A} (initial : Inv shared proc)
    (ran : machine.alone shared proc actions = some (after, next)) : Inv after next := by
  induction actions generalizing shared proc with
  | nil =>
    obtain ⟨rfl, rfl⟩ := Prod.mk.inj (Option.some.inj ran)
    exact initial
  | cons action rest ih =>
    obtain ⟨⟨middle, proc'⟩, stepped, later⟩ := Option.bind_eq_some_iff.mp ran
    exact ih (preserved initial stepped) later

/-- The actions one process takes in a run. -/
def actionsOf (i : I) (labels : List (I × A)) : List A :=
  (labels.filter fun label => label.1 = i).map Prod.snd

theorem actionsOf_snoc (i j : I) (labels : List (I × A)) (action : A) :
    actionsOf i (labels ++ [(j, action)]) =
      actionsOf i labels ++ if j = i then [action] else [] := by
  by_cases same : j = i <;> simp [actionsOf, same]

/-- A run with its labels, every step of which meets `allowed`. -/
inductive Runs (machine : Machine S P A) (allowed : World I S P → I → A → Prop)
    (start : World I S P) : List (I × A) → World I S P → Prop
  | nil : Runs machine allowed start [] start
  | snoc {labels : List (I × A)} {world after : World I S P} {i : I} {action : A} :
      Runs machine allowed start labels world → allowed world i action →
        machine.fire world i action = some after →
        Runs machine allowed start (labels ++ [(i, action)]) after

theorem Runs.reaches {machine : Machine S P A} {allowed : World I S P → I → A → Prop}
    {start world : World I S P} {labels : List (I × A)}
    (run : machine.Runs allowed start labels world) : machine.Reaches allowed start world := by
  induction run with
  | nil => exact .refl
  | snoc _ ok fired ih => exact .step ih ok fired

theorem run_append (machine : Machine S P A) (world : World I S P) (first rest : List (I × A)) :
    machine.run world (first ++ rest) =
      (machine.run world first).bind fun middle => machine.run middle rest := by
  induction first generalizing world with
  | nil => rfl
  | cons label first ih =>
    obtain ⟨i, action⟩ := label
    simp only [List.cons_append, run_cons, Option.bind_assoc, ih]

theorem Runs.run {machine : Machine S P A} {allowed : World I S P → I → A → Prop}
    {start world : World I S P} {labels : List (I × A)}
    (ran : machine.Runs allowed start labels world) : machine.run start labels = some world := by
  induction ran with
  | nil => rfl
  | snoc _ _ fired ih => simp [run_append, ih, run_cons, fired]

theorem Runs.split {machine : Machine S P A} {allowed : World I S P → I → A → Prop}
    {start world : World I S P} {labels first rest : List (I × A)}
    (ran : machine.Runs allowed start labels world) (parts : labels = first ++ rest) :
    ∃ middle, machine.Runs allowed start first middle ∧ machine.Runs allowed middle rest world := by
  induction ran generalizing rest with
  | nil =>
    obtain ⟨rfl, rfl⟩ := List.append_eq_nil_iff.mp parts.symm
    exact ⟨start, .nil, .nil⟩
  | @snoc labels before after i action ran ok fired ih =>
    rcases List.eq_nil_or_concat rest with rfl | ⟨init, last, rfl⟩
    · rw [List.append_nil] at parts
      exact ⟨after, parts ▸ .snoc ran ok fired, .nil⟩
    · rw [List.concat_eq_append, ← List.append_assoc] at parts
      obtain ⟨same, ends⟩ := List.append_inj' parts rfl
      obtain ⟨middle, head, tail⟩ := ih same
      obtain rfl := List.singleton_inj.mp ends
      exact ⟨middle, head, List.concat_eq_append ▸ .snoc tail ok fired⟩

/-- A run that stops at the first step that does not meet `allowed`. -/
def checkedRun (machine : Machine S P A) (allowed : World I S P → I → A → Prop)
    [∀ world i action, Decidable (allowed world i action)] :
    World I S P → List (I × A) → Option (World I S P)
  | world, [] => some world
  | world, (i, action) :: rest =>
    if allowed world i action then
      (machine.fire world i action).bind (machine.checkedRun allowed · rest)
    else none

theorem Runs.checked {machine : Machine S P A} {allowed : World I S P → I → A → Prop}
    [∀ world i action, Decidable (allowed world i action)] {start middle world : World I S P}
    {before labels : List (I × A)} (ran : machine.Runs allowed start before middle)
    (checked : machine.checkedRun allowed middle labels = some world) :
    machine.Runs allowed start (before ++ labels) world := by
  induction labels generalizing before middle with
  | nil =>
    obtain rfl := Option.some.inj checked
    rwa [List.append_nil]
  | cons label rest ih =>
    obtain ⟨i, action⟩ := label
    unfold checkedRun at checked
    split at checked
    next ok =>
      obtain ⟨next, fired, later⟩ := Option.bind_eq_some_iff.mp checked
      have extended := ih (.snoc ran ok fired) later
      rwa [List.append_assoc, List.singleton_append] at extended
    next => cases checked

/-! ## Machines put together -/

variable {Q B : Type}

/-- A process of either kind over one shared state. -/
def either (first : Machine S P A) (second : Machine S Q B) : Machine S (P ⊕ Q) (A ⊕ B) where
  step shared
    | .inl proc, .inl action =>
      (first.step shared proc action).map fun after => (after.1, .inl after.2)
    | .inr proc, .inr action =>
      (second.step shared proc action).map fun after => (after.1, .inr after.2)
    | _, _ => none

/-- A machine on the first part of a state. -/
def onFirst (T : Type) (machine : Machine S P A) : Machine (S × T) P A where
  step shared proc action :=
    (machine.step shared.1 proc action).map fun after => ((after.1, shared.2), after.2)

/-- Jobs of one process that run side by side; an action names the job it moves. -/
def pool (job : Machine S P A) : Machine S (List P) (Nat × A) where
  step shared jobs action := do
    let proc ← jobs[action.1]?
    let (after, proc) ← job.step shared proc action.2
    some (after, jobs.set action.1 proc)

theorem either_step_inl {first : Machine S P A} {second : Machine S Q B} {shared after : S}
    {proc : P} {proc' : P ⊕ Q} {action : A ⊕ B} :
    (either first second).step shared (.inl proc) action = some (after, proc') ↔
      ∃ own next, action = .inl own ∧ proc' = .inl next ∧
        first.step shared proc own = some (after, next) := by
  cases action with
  | inl own =>
    simp only [either, Option.map_eq_some_iff, Prod.mk.injEq, Prod.exists, Sum.inl.injEq]
    grind
  | inr own => simp [either]

theorem either_step_inr {first : Machine S P A} {second : Machine S Q B} {shared after : S}
    {proc : Q} {proc' : P ⊕ Q} {action : A ⊕ B} :
    (either first second).step shared (.inr proc) action = some (after, proc') ↔
      ∃ own next, action = .inr own ∧ proc' = .inr next ∧
        second.step shared proc own = some (after, next) := by
  cases action with
  | inl own => simp [either]
  | inr own =>
    simp only [either, Option.map_eq_some_iff, Prod.mk.injEq, Prod.exists, Sum.inr.injEq]
    grind

theorem onFirst_step {T : Type} {machine : Machine S P A} {shared after : S × T} {proc next : P}
    {action : A} : (machine.onFirst T).step shared proc action = some (after, next) ↔
      machine.step shared.1 proc action = some (after.1, next) ∧ after.2 = shared.2 := by
  obtain ⟨first, second⟩ := after
  simp only [onFirst, Option.map_eq_some_iff, Prod.exists, Prod.mk.injEq]
  grind

theorem pool_step {job : Machine S P A} {shared after : S} {jobs jobs' : List P}
    {action : Nat × A} :
    job.pool.step shared jobs action = some (after, jobs') ↔
      ∃ proc next, jobs[action.1]? = some proc ∧
        job.step shared proc action.2 = some (after, next) ∧ jobs' = jobs.set action.1 next := by
  simp only [pool, bind, Option.bind_eq_some_iff, Prod.exists, Option.some.injEq, Prod.mk.injEq]
  grind

end Machine

end Shared

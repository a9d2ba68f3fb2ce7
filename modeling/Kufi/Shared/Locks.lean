import Kufi.Shared.Interleaving

set_option autoImplicit false

/-!
# Exclusive locks

The shared state lists the keys that are locked, and a process takes a key only
when it is not listed. No two processes hold one key.
-/

namespace Shared

variable {I S P K : Type}

structure Locked (locks : S → List K) (held : P → List K) (world : World I S P) : Prop where
  listed : ∀ i, ∀ key ∈ held (world.procs i), key ∈ locks world.shared
  exclusive : ∀ i j key, key ∈ held (world.procs i) → key ∈ held (world.procs j) → i = j

variable {locks : S → List K} {held : P → List K} {world : World I S P}

theorem Locked.of_none (none : ∀ i, held (world.procs i) = []) : Locked locks held world := by
  refine ⟨fun i key member => ?_, fun i j key member => ?_⟩
  all_goals simp [none] at member

/-- A step that takes only what is free and gives up only what is its own. -/
theorem Locked.step [DecidableEq I] {i : I} {after : S} {next : P} (locked : Locked locks held world)
    (taken : ∀ key ∈ held next, key ∈ held (world.procs i) ∨ key ∉ locks world.shared)
    (own : ∀ key ∈ held next, key ∈ locks after)
    (others : ∀ key ∈ locks world.shared, key ∉ held (world.procs i) → key ∈ locks after) :
    Locked locks held { shared := after, procs := Function.update world.procs i next } := by
  have apart (j : I) (key : K) (other : j ≠ i) (mine : key ∈ held next) :
      key ∉ held (world.procs j) := by
    intro theirs
    rcases taken key mine with before | free
    · exact other (locked.exclusive j i key theirs before)
    · exact free (locked.listed j key theirs)
  refine ⟨fun j key member => ?_, fun j k key first second => ?_⟩
  · by_cases same : j = i
    · subst same
      simp only [Function.update_self] at member
      exact own key member
    · simp only [Function.update_of_ne same] at member
      refine others key (locked.listed j key member) fun mine => same ?_
      exact locked.exclusive j i key member mine
  · by_cases same : j = i
    · subst same
      by_cases same' : k = j
      · exact same'.symm
      · simp only [Function.update_self, Function.update_of_ne same'] at first second
        exact absurd second (apart k key same' first)
    · by_cases same' : k = i
      · subst same'
        simp only [Function.update_self, Function.update_of_ne same] at first second
        exact absurd first (apart j key same second)
      · simp only [Function.update_of_ne same, Function.update_of_ne same'] at first second
        exact locked.exclusive j k key first second

end Shared

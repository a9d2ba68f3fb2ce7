import Kufi.Shared.Interleaving
import Mathlib.Data.Fintype.Card
import Mathlib.Logic.Relation
import Mathlib.Order.WellFounded

set_option autoImplicit false

/-!
# Locks requested in one order

A process waits for another when its next statement asks for a key that the
other holds. Processes that ask only for keys that come after all they hold
never wait in a circle.
-/

namespace Shared

/-- What processes hold and what the next statement of a process asks for. -/
structure LockUse (S P K : Type) where
  locks : S → List K
  held : P → List K
  wants : S → P → Option K

namespace LockUse

variable {I S P K : Type}

def WaitsFor (use : LockUse S P K) (world : World I S P) (i j : I) : Prop :=
  i ≠ j ∧ ∃ key, use.wants world.shared (world.procs i) = some key ∧
    key ∈ use.held (world.procs j)

def InOrder (use : LockUse S P K) (before : K → K → Prop) (world : World I S P) : Prop :=
  ∀ i wanted, use.wants world.shared (world.procs i) = some wanted →
    ∀ key ∈ use.held (world.procs i), before key wanted

/-- Every key that is locked is held by a process. -/
def Owned (use : LockUse S P K) (world : World I S P) : Prop :=
  ∀ key ∈ use.locks world.shared, ∃ i, key ∈ use.held (world.procs i)

variable {use : LockUse S P K} {before : K → K → Prop} {world : World I S P}

/-- Along a chain of waits the keys only go up. -/
theorem InOrder.rises (ordered : use.InOrder before world)
    (trans : ∀ first second third, before first second → before second third → before first third)
    {i j : I} (chain : Relation.TransGen (use.WaitsFor world) i j) :
    ∃ first, use.wants world.shared (world.procs i) = some first ∧
      ∃ last ∈ use.held (world.procs j), first = last ∨ before first last := by
  induction chain with
  | single waits =>
    obtain ⟨_, key, wanted, held⟩ := waits
    exact ⟨key, wanted, key, held, .inl rfl⟩
  | tail _ waits ih =>
    obtain ⟨first, wanted, last, held, order⟩ := ih
    obtain ⟨_, key, wanted', held'⟩ := waits
    have above := ordered _ key wanted' last held
    refine ⟨first, wanted, key, held', .inr ?_⟩
    rcases order with rfl | order
    · exact above
    · exact trans _ _ _ order above

theorem InOrder.acyclic (ordered : use.InOrder before world)
    (trans : ∀ first second third, before first second → before second third → before first third)
    (irrefl : ∀ key, ¬ before key key) (i : I) :
    ¬ Relation.TransGen (use.WaitsFor world) i i := by
  intro circle
  obtain ⟨first, wanted, last, held, order⟩ := ordered.rises trans circle
  have above := ordered i first wanted last held
  rcases order with rfl | order
  · exact irrefl first above
  · exact irrefl first (trans _ _ _ order above)

/-- Among finitely many processes without a circle one waits for none of the others. -/
theorem exists_unblocked [Finite I]
    (acyclic : ∀ i, ¬ Relation.TransGen (use.WaitsFor world) i i) (active : I → Prop)
    {i : I} (some : active i) :
    ∃ i, active i ∧ ∀ j, active j → ¬ use.WaitsFor world i j := by
  have trans : IsTrans I fun i j => Relation.TransGen (use.WaitsFor world) j i :=
    ⟨fun _ _ _ first second => second.trans first⟩
  have irrefl : Std.Irrefl fun i j => Relation.TransGen (use.WaitsFor world) j i :=
    ⟨acyclic⟩
  have wellFounded : WellFounded fun i j => Relation.TransGen (use.WaitsFor world) j i :=
    Finite.wellFounded_of_trans_of_irrefl _
  obtain ⟨least, held, minimal⟩ := wellFounded.has_min {i | active i} ⟨i, some⟩
  exact ⟨least, held, fun j other waits => minimal j other (.single waits)⟩

/-! ## Which process holds a key -/

/-- A step that keeps the other keys and locks only what its process holds. -/
theorem Owned.step [DecidableEq I] {i : I} {after : S} {next : P} (owned : use.Owned world)
    (released : ∀ key ∈ use.locks after, key ∈ use.held next ∨
      key ∈ use.locks world.shared ∧ key ∉ use.held (world.procs i)) :
    use.Owned { shared := after, procs := Function.update world.procs i next } := by
  intro key listed
  rcases released key listed with own | ⟨before, other⟩
  · exact ⟨i, by simpa only [Function.update_self] using own⟩
  · obtain ⟨j, held⟩ := owned key before
    have different : j ≠ i := by
      rintro rfl
      exact other held
    exact ⟨j, by simpa only [Function.update_of_ne different] using held⟩

end LockUse

end Shared

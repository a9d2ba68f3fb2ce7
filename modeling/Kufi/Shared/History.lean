import Kufi.Shared.Interleaving

set_option autoImplicit false

/-!
# History variables

A machine with a list of what its steps have shown so far. The list records and
never decides: a step of the observed machine is a step of the machine.
-/

namespace Shared

structure Observed (S E : Type) where
  state : S
  history : List E

namespace Machine

variable {I S P A E : Type} [DecidableEq I]

/-- `observe` says what a step from a state shows, by the process before and after it. -/
def observed (machine : Machine S P A) (observe : S → P → P → List E) :
    Machine (Observed S E) P A where
  step shared proc action :=
    (machine.step shared.state proc action).map fun after =>
      ({ state := after.1, history := shared.history ++ observe shared.state proc after.2 },
        after.2)

theorem observed_step {machine : Machine S P A} {observe : S → P → P → List E}
    {shared after : Observed S E} {proc next : P} {action : A} :
    (machine.observed observe).step shared proc action = some (after, next) ↔
      machine.step shared.state proc action = some (after.state, next) ∧
        after.history = shared.history ++ observe shared.state proc next := by
  simp only [observed, Option.map_eq_some_iff, Prod.exists, Prod.mk.injEq]
  constructor
  · rintro ⟨state, _, stepped, rfl, rfl⟩
    exact ⟨stepped, rfl⟩
  · rintro ⟨stepped, recorded⟩
    refine ⟨_, _, stepped, ?_, rfl⟩
    rw [← recorded]

end Machine

end Shared

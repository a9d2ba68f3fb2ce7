set_option autoImplicit false

/-!
# Serial runs

Inputs are taken one after the other, each as a whole. A run is any sequence of
inputs; `allowed` may restrict an input by the state in which it is taken.
-/

namespace Shared

variable {S T A : Type}

inductive Reach (step : S → A → S) (allowed : S → A → Prop) (start : S) : S → Prop
  | refl : Reach step allowed start start
  | next {s : S} {a : A} :
      Reach step allowed start s → allowed s a → Reach step allowed start (step s a)

/-- Every input is allowed. -/
abbrev Free (_ : S) (_ : A) : Prop := True

namespace Reach

variable {step : S → A → S} {allowed : S → A → Prop} {start s t : S}

theorem trans (first : Reach step allowed start s) (second : Reach step allowed s t) :
    Reach step allowed start t := by
  induction second with
  | refl => exact first
  | next _ ok ih => exact .next ih ok

/-- What holds at the start and is kept by every allowed input holds in every state reached. -/
theorem invariant (Inv : S → Prop) (initial : Inv start)
    (kept : ∀ s a, Inv s → allowed s a → Inv (step s a))
    (reached : Reach step allowed start s) : Inv s := by
  induction reached with
  | refl => exact initial
  | next _ ok ih => exact kept _ _ ih ok

/-- A fact that no input destroys in a state with the invariant holds from then on. -/
theorem stable (Inv P : S → Prop) (inv : Inv s) (holds : P s)
    (kept : ∀ s a, Inv s → allowed s a → Inv (step s a))
    (stays : ∀ s a, Inv s → allowed s a → P s → P (step s a))
    (reached : Reach step allowed s t) : P t := by
  have both : Inv t ∧ P t := by
    induction reached with
    | refl => exact ⟨inv, holds⟩
    | next _ ok ih => exact ⟨kept _ _ ih.1 ok, stays _ _ ih.1 ok ih.2⟩
  exact both.2

end Reach

def AllAllowed (step : S → A → S) (allowed : S → A → Prop) : S → List A → Prop
  | _, [] => True
  | s, a :: rest => allowed s a ∧ AllAllowed step allowed (step s a) rest

theorem reach_foldl {step : S → A → S} {allowed : S → A → Prop} {inputs : List A} {s : S}
    (ok : AllAllowed step allowed s inputs) : Reach step allowed s (inputs.foldl step s) := by
  induction inputs generalizing s with
  | nil => exact .refl
  | cons a rest ih => exact (Reach.next .refl ok.1).trans (ih ok.2)

theorem reach_free (step : S → A → S) (s : S) (inputs : List A) :
    Reach step Free s (inputs.foldl step s) := by
  induction inputs generalizing s with
  | nil => exact .refl
  | cons a rest ih => exact (Reach.next .refl trivial).trans (ih (step s a))

end Shared

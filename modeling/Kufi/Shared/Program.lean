import Mathlib.Logic.Basic

set_option autoImplicit false

/-!
# Programs whose effects outlive their errors

A program runs over a state and ends with a value or an error; either way the
state it reached stays. Triples state what holds after both endings, with one
rule for each way a program is put together.
-/

namespace Shared

def Program (S E A : Type) := S → Except E A × S

namespace Program

variable {S E A B : Type}

def run (program : Program S E A) (s : S) : Except E A × S := program s

/-- The state a program leaves behind. -/
def finalState (program : Program S E A) (s : S) : S := (program s).2

def fail (error : E) : Program S E A := fun s => (.error error, s)

def ofExcept (result : Except E A) : Program S E A := fun s => (result, s)

def query (read : S → Except E A) : Program S E A := fun s => (read s, s)

/-- A transaction: an error leaves the state as it was. -/
def atomically (transaction : S → Except E (A × S)) : Program S E A := fun s =>
  match transaction s with
  | .ok (value, after) => (.ok value, after)
  | .error error => (.error error, s)

instance : Monad (Program S E) where
  pure value := fun s => (.ok value, s)
  bind first next := fun s =>
    match first s with
    | (.ok value, middle) => next value middle
    | (.error error, middle) => (.error error, middle)

/-- From `pre` the program ends in `post` with its value or with an error in `failed`. -/
def Triple (pre : S → Prop) (program : Program S E A) (post : A → S → Prop) (failed : S → Prop) :
    Prop :=
  ∀ s, pre s →
    match program s with
    | (.ok value, after) => post value after
    | (.error _, after) => failed after

theorem Triple.bind {pre : S → Prop} {first : Program S E A} {middle : A → S → Prop}
    {next : A → Program S E B} {post : B → S → Prop} {failed : S → Prop}
    (start : Triple pre first middle failed)
    (rest : ∀ value, Triple (middle value) (next value) post failed) :
    Triple pre (first >>= next) post failed := by
  intro s holds
  have reached := start s holds
  simp only [Bind.bind]
  rcases ran : first s with ⟨error | value, after⟩ <;> simp only [ran] at reached ⊢
  · exact reached
  · exact rest value after reached

theorem Triple.conseq {pre pre' : S → Prop} {program : Program S E A} {post post' : A → S → Prop}
    {failed failed' : S → Prop} (triple : Triple pre program post failed)
    (weaker : ∀ s, pre' s → pre s) (stronger : ∀ value s, post value s → post' value s)
    (ended : ∀ s, failed s → failed' s) : Triple pre' program post' failed' := by
  intro s holds
  have reached := triple s (weaker s holds)
  rcases ran : program s with ⟨error | value, after⟩ <;> simp only [ran] at reached ⊢
  · exact ended after reached
  · exact stronger value after reached

theorem Triple.weaken {pre pre' : S → Prop} {program : Program S E A} {post : A → S → Prop}
    {failed : S → Prop} (triple : Triple pre program post failed)
    (weaker : ∀ s, pre' s → pre s) : Triple pre' program post failed :=
  triple.conseq weaker (fun _ _ holds => holds) fun _ holds => holds

theorem Triple.pure {pre : S → Prop} {post : A → S → Prop} {failed : S → Prop} {value : A}
    (holds : ∀ s, pre s → post value s) :
    Triple pre (Pure.pure value : Program S E A) post failed :=
  holds

theorem Triple.fail {pre : S → Prop} {post : A → S → Prop} {failed : S → Prop} {error : E}
    (holds : ∀ s, pre s → failed s) : Triple pre (Program.fail error) post failed :=
  holds

theorem Triple.query {pre : S → Prop} {post : A → S → Prop} {failed : S → Prop}
    {read : S → Except E A} (value : ∀ s result, pre s → read s = .ok result → post result s)
    (refused : ∀ s, pre s → failed s) : Triple pre (Program.query read) post failed := by
  intro s holds
  simp only [Program.query]
  cases ran : read s with
  | error error => exact refused s holds
  | ok result => exact value s result holds ran

theorem Triple.ofExcept {pre : S → Prop} {post : A → S → Prop} {failed : S → Prop}
    {result : Except E A} (value : ∀ s found, pre s → result = .ok found → post found s)
    (refused : ∀ s, pre s → failed s) : Triple pre (Program.ofExcept result) post failed :=
  Triple.query value refused

theorem Triple.atomically {pre : S → Prop} {post : A → S → Prop} {failed : S → Prop}
    {transaction : S → Except E (A × S)}
    (committed : ∀ s value after, pre s → transaction s = .ok (value, after) → post value after)
    (rolledBack : ∀ s, pre s → failed s) :
    Triple pre (Program.atomically transaction) post failed := by
  intro s holds
  simp only [Program.atomically]
  cases ran : transaction s with
  | error error => exact rolledBack s holds
  | ok result => exact committed s result.1 result.2 holds ran

theorem Triple.ite {condition : Prop} [Decidable condition] {pre : S → Prop}
    {yes no : Program S E A} {post : A → S → Prop} {failed : S → Prop}
    (whenTrue : condition → Triple pre yes post failed)
    (whenFalse : ¬ condition → Triple pre no post failed) :
    Triple pre (if condition then yes else no) post failed := by
  split
  next holds => exact whenTrue holds
  next fails => exact whenFalse fails

-- A fact that does not depend on the state is moved out of the precondition.
theorem Triple.assume {fact : Prop} {pre : S → Prop} {program : Program S E A}
    {post : A → S → Prop} {failed : S → Prop} (triple : fact → Triple pre program post failed) :
    Triple (fun s => fact ∧ pre s) program post failed :=
  fun s holds => triple holds.1 s holds.2

/-- What a triple says of the state left behind. -/
theorem Triple.finalState {pre : S → Prop} {program : Program S E A} {post : S → Prop} {s : S}
    (triple : Triple pre program (fun _ => post) post) (holds : pre s) :
    post (program.finalState s) := by
  have reached := triple s holds
  unfold Program.finalState
  rcases ran : program s with ⟨error | value, after⟩ <;> simpa only [ran] using reached

end Program

end Shared

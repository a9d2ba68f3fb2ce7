import Kufi.Shared.Interleaving

set_option autoImplicit false

/-!
# Procedures over atomic operations

A procedure is a tree: each operation is performed atomically on the shared
state, and its reply selects the rest. The same procedure can run on its own or
interleaved with others.
-/

namespace Shared

inductive Procedure (Op : Type) (Reply : Op → Type) (A : Type) where
  | done (value : A)
  | perform (op : Op) (next : Reply op → Procedure Op Reply A)

/-- One operation on the shared state, with what the environment decides about it. -/
abbrev Performer (Op : Type) (Reply : Op → Type) (C S : Type) :=
  (op : Op) → C → S → Option (Reply op × S)

namespace Procedure

variable {Op : Type} {Reply : Op → Type} {A B C S : Type}

def bind : Procedure Op Reply A → (A → Procedure Op Reply B) → Procedure Op Reply B
  | .done value, rest => rest value
  | .perform op next, rest => .perform op fun reply => (next reply).bind rest

instance : Monad (Procedure Op Reply) where
  pure := .done
  bind := bind

def ask (op : Op) : Procedure Op Reply (Reply op) := .perform op .done

@[simp] theorem pure_eq (value : A) : (pure value : Procedure Op Reply A) = .done value := rfl

@[simp] theorem done_bind (value : A) (rest : A → Procedure Op Reply B) :
    (Procedure.done value >>= rest) = rest value := rfl

@[simp] theorem perform_bind (op : Op) (next : Reply op → Procedure Op Reply A)
    (rest : A → Procedure Op Reply B) :
    (Procedure.perform op next >>= rest) = .perform op fun reply => next reply >>= rest := rfl

@[simp] theorem ask_bind (op : Op) (rest : Reply op → Procedure Op Reply B) :
    (ask op >>= rest) = .perform op rest := rfl

/-- A process that runs a procedure performs one operation at a time. -/
def machine (perform : Performer Op Reply C S) : Machine S (Procedure Op Reply A) C where
  step shared
    | .done _, _ => none
    | .perform op next, choice =>
      (perform op choice shared).map fun result => (result.2, next result.1)

theorem step_eq_some {perform : Performer Op Reply C S} {shared after : S}
    {procedure rest : Procedure Op Reply A} {choice : C} :
    (machine perform).step shared procedure choice = some (after, rest) ↔
      ∃ op next reply, procedure = .perform op next ∧
        perform op choice shared = some (reply, after) ∧ rest = next reply := by
  cases procedure with
  | done value => simp [machine]
  | perform op next =>
    simp only [machine, Option.map_eq_some_iff, Prod.exists, Prod.mk.injEq]
    constructor
    · rintro ⟨reply, _, performed, rfl, rfl⟩
      exact ⟨op, next, reply, rfl, performed, rfl⟩
    · rintro ⟨op', next', reply, same, performed, rfl⟩
      cases same
      exact ⟨reply, after, performed, rfl, rfl⟩

/-! ## Running alone -/

/-- The value and the state after the procedure alone, when the choices are just those it asks
for. -/
def run (perform : Performer Op Reply C S) (procedure : Procedure Op Reply A) (choices : List C)
    (shared : S) : Option (A × S) :=
  match (machine perform).alone shared procedure choices with
  | some (after, .done value) => some (value, after)
  | _ => none

/-- What holds after every run of the procedure alone. -/
def Wp (perform : Performer Op Reply C S) :
    Procedure Op Reply A → (A → S → Prop) → S → Prop
  | .done value, post, shared => post value shared
  | .perform op next, post, shared =>
    ∀ choice reply after, perform op choice shared = some (reply, after) →
      (next reply).Wp perform post after

variable {perform : Performer Op Reply C S}

theorem Wp.alone {procedure : Procedure Op Reply A} {post : A → S → Prop} {choices : List C}
    {shared after : S} {value : A} (holds : procedure.Wp perform post shared)
    (ran : (machine perform).alone shared procedure choices = some (after, .done value)) :
    post value after := by
  induction choices generalizing shared procedure with
  | nil =>
    obtain ⟨rfl, rfl⟩ := Prod.mk.inj (Option.some.inj ran)
    exact holds
  | cons choice choices ih =>
    obtain ⟨⟨middle, rest⟩, stepped, later⟩ := Option.bind_eq_some_iff.mp ran
    obtain ⟨op, next, reply, rfl, performed, rfl⟩ := step_eq_some.mp stepped
    exact ih (holds choice reply middle performed) later

theorem run_eq_some {procedure : Procedure Op Reply A} {choices : List C} {shared after : S}
    {value : A} : procedure.run perform choices shared = some (value, after) ↔
      (machine perform).alone shared procedure choices = some (after, .done value) := by
  unfold run
  split
  next reached value' alone =>
    simp only [Option.some.injEq, Prod.mk.injEq, alone, done.injEq]
    exact and_comm
  next unfinished =>
    simp only [reduceCtorEq, false_iff]
    exact unfinished after value

theorem Wp.run {procedure : Procedure Op Reply A} {post : A → S → Prop} {choices : List C}
    {shared after : S} {value : A} (holds : procedure.Wp perform post shared)
    (ran : procedure.run perform choices shared = some (value, after)) : post value after :=
  holds.alone (run_eq_some.mp ran)

theorem Wp.ask {op : Op} {rest : Reply op → Procedure Op Reply A} {post : A → S → Prop} {shared : S}
    (holds : ∀ choice reply after, perform op choice shared = some (reply, after) →
      (rest reply).Wp perform post after) :
    (Procedure.ask op >>= rest).Wp perform post shared :=
  holds

theorem Wp.bind {procedure : Procedure Op Reply A} {rest : A → Procedure Op Reply B}
    {post : B → S → Prop} {shared : S}
    (holds : procedure.Wp perform (fun value => (rest value).Wp perform post) shared) :
    (procedure >>= rest).Wp perform post shared := by
  induction procedure generalizing shared with
  | done value => exact holds
  | perform op next ih =>
    intro choice reply after performed
    exact ih reply (holds choice reply after performed)

theorem Wp.mono {procedure : Procedure Op Reply A} {post weaker : A → S → Prop} {shared : S}
    (holds : procedure.Wp perform post shared)
    (implies : ∀ value after, post value after → weaker value after) :
    procedure.Wp perform weaker shared := by
  induction procedure generalizing shared with
  | done value => exact implies value shared holds
  | perform op next ih =>
    intro choice reply after performed
    exact ih reply (holds choice reply after performed)

/-- The run alone in which the environment answers each operation in its way. -/
def answered (perform : Performer Op Reply C S) (answer : Op → C) :
    Procedure Op Reply A → S → Option (A × S)
  | .done value, shared => some (value, shared)
  | .perform op next, shared =>
    (perform op (answer op) shared).bind fun result =>
      (next result.1).answered perform answer result.2

theorem answered_ask {answer : Op → C} {op : Op} {reply : Reply op} {shared after : S}
    (performed : perform op (answer op) shared = some (reply, after))
    (rest : Reply op → Procedure Op Reply A) :
    (Procedure.ask op >>= rest).answered perform answer shared =
      (rest reply).answered perform answer after := by
  simp only [ask_bind, answered, performed, Option.bind_some]

theorem answered_bind (answer : Op → C) (procedure : Procedure Op Reply A)
    (rest : A → Procedure Op Reply B) (shared : S) :
    (procedure >>= rest).answered perform answer shared =
      (procedure.answered perform answer shared).bind fun result =>
        (rest result.1).answered perform answer result.2 := by
  induction procedure generalizing shared with
  | done value => rfl
  | perform op next ih =>
    simp only [perform_bind, answered, Option.bind_assoc, ih]

/-! ## What a procedure does whatever the others do -/

/-- Every operation asked for is `allowed` and the value meets `post`, as long as every reply is
one that may be `told`. -/
def Asks (allowed : Op → Prop) (told : (op : Op) → Reply op → Prop) (post : A → Prop) :
    Procedure Op Reply A → Prop
  | .done value => post value
  | .perform op next => allowed op ∧ ∀ reply, told op reply → (next reply).Asks allowed told post

variable {allowed : Op → Prop} {told : (op : Op) → Reply op → Prop} {post : A → Prop}

theorem Asks.ask {op : Op} {rest : Reply op → Procedure Op Reply A} (permitted : allowed op)
    (later : ∀ reply, told op reply → (rest reply).Asks allowed told post) :
    (Procedure.ask op >>= rest).Asks allowed told post :=
  ⟨permitted, later⟩

theorem Asks.bind {procedure : Procedure Op Reply A} {rest : A → Procedure Op Reply B}
    {final : B → Prop} (first : procedure.Asks allowed told post)
    (second : ∀ value, post value → (rest value).Asks allowed told final) :
    (procedure >>= rest).Asks allowed told final := by
  induction procedure with
  | done value => exact second value first
  | perform op next ih => exact ⟨first.1, fun reply heard => ih reply (first.2 reply heard)⟩

theorem Asks.wp {Inv : S → Prop} {procedure : Procedure Op Reply A} {shared : S}
    (asks : procedure.Asks allowed told post)
    (kept : ∀ op choice shared reply after, Inv shared → allowed op →
      perform op choice shared = some (reply, after) → Inv after ∧ told op reply)
    (initial : Inv shared) : procedure.Wp perform (fun _ after => Inv after) shared := by
  induction procedure generalizing shared with
  | done value => exact initial
  | perform op next ih =>
    intro choice reply after performed
    obtain ⟨holds, heard⟩ := kept op choice shared reply after initial asks.1 performed
    exact ih reply (asks.2 reply heard) holds

/-- As `Asks`, with a record of the operations so far: `becomes` says what an operation may be
answered and what the record is after it. -/
def Tracks {G : Type} (permitted : G → Op → Prop)
    (becomes : G → (op : Op) → Reply op → G → Prop) (post : G → A → Prop) :
    G → Procedure Op Reply A → Prop
  | g, .done value => post g value
  | g, .perform op next =>
    permitted g op ∧ ∀ reply after, becomes g op reply after →
      (next reply).Tracks permitted becomes post after

section Tracks

variable {G : Type} {permitted : G → Op → Prop} {becomes : G → (op : Op) → Reply op → G → Prop}
  {final : G → A → Prop} {g : G}

theorem Tracks.ask {op : Op} {rest : Reply op → Procedure Op Reply A} (first : permitted g op)
    (later : ∀ reply after, becomes g op reply after →
      Tracks permitted becomes final after (rest reply)) :
    Tracks permitted becomes final g (Procedure.ask op >>= rest) :=
  ⟨first, later⟩

theorem Tracks.bind {procedure : Procedure Op Reply B} {rest : B → Procedure Op Reply A}
    {middle : G → B → Prop} (first : Tracks permitted becomes middle g procedure)
    (second : ∀ value g, middle g value → Tracks permitted becomes final g (rest value)) :
    Tracks permitted becomes final g (procedure >>= rest) := by
  induction procedure generalizing g with
  | done value => exact second value g first
  | perform op next ih =>
    exact ⟨first.1, fun reply after moved => ih reply (first.2 reply after moved)⟩

theorem Tracks.mono {procedure : Procedure Op Reply A} {weaker : G → A → Prop}
    (tracks : Tracks permitted becomes final g procedure)
    (implies : ∀ g value, final g value → weaker g value) :
    Tracks permitted becomes weaker g procedure := by
  induction procedure generalizing g with
  | done value => exact implies g value tracks
  | perform op next ih =>
    exact ⟨tracks.1, fun reply after moved => ih reply (tracks.2 reply after moved)⟩

/-- Operations that are permitted with every record. -/
theorem Asks.tracks_always {procedure : Procedure Op Reply A}
    (asks : procedure.Asks allowed (fun _ _ => True) post)
    (permits : ∀ g op, allowed op → permitted g op) :
    procedure.Tracks permitted becomes (fun _ value => post value) g := by
  induction procedure generalizing g with
  | done value => exact asks
  | perform op next ih =>
    exact ⟨permits g op asks.1, fun reply after _ => ih reply (asks.2 reply trivial)⟩

/-- Operations that leave no trace. -/
theorem Asks.tracks {procedure : Procedure Op Reply A} (asks : procedure.Asks allowed told post)
    (traceless : ∀ op, allowed op → permitted g op ∧
      ∀ reply after, becomes g op reply after → after = g ∧ told op reply) :
    procedure.Tracks permitted becomes (fun after value => after = g ∧ post value) g := by
  induction procedure with
  | done value => exact ⟨rfl, asks⟩
  | perform op next ih =>
    obtain ⟨first, traced⟩ := traceless op asks.1
    refine ⟨first, fun reply after moved => ?_⟩
    obtain ⟨rfl, heard⟩ := traced reply after moved
    exact ih reply (asks.2 reply heard)

end Tracks

/-! ## Procedures as parts of procedures with other operations -/

variable {Op' : Type} {Reply' : Op' → Type}

def lift (inject : Op → Op') (answer : (op : Op) → Reply' (inject op) → Reply op) :
    Procedure Op Reply A → Procedure Op' Reply' A
  | .done value => .done value
  | .perform op next => .perform (inject op) fun reply => (next (answer op reply)).lift inject answer

theorem Tracks.lift {G : Type} {permitted : G → Op → Prop} {permitted' : G → Op' → Prop}
    {becomes : G → (op : Op) → Reply op → G → Prop}
    {becomes' : G → (op : Op') → Reply' op → G → Prop} {final : G → A → Prop} {g : G}
    {procedure : Procedure Op Reply A} {inject : Op → Op'}
    {answer : (op : Op) → Reply' (inject op) → Reply op}
    (tracks : procedure.Tracks permitted becomes final g)
    (allow : ∀ g op, permitted g op → permitted' g (inject op))
    (move : ∀ g op reply after, becomes' g (inject op) reply after →
      becomes g op (answer op reply) after) :
    (procedure.lift inject answer).Tracks permitted' becomes' final g := by
  induction procedure generalizing g with
  | done value => exact tracks
  | perform op next ih =>
    exact ⟨allow g op tracks.1, fun reply after moved =>
      ih (answer op reply) (tracks.2 (answer op reply) after (move g op reply after moved))⟩

end Procedure

end Shared

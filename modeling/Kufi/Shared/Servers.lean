import Kufi.Shared.Procedure

set_option autoImplicit false

/-!
# Servers

Each process is idle or runs the handler of one request, operation by operation
between those of the others. What a handler knows is a record that its own
operations advance and that no operation of another one makes wrong.
-/

namespace Shared

variable {I S C A Request G : Type} [DecidableEq I] {Op : Type} {Reply : Op → Type}

inductive Server (Op : Type) (Reply : Op → Type) (A : Type) where
  | idle
  | running (code : Procedure Op Reply A)

inductive ServerMove (Request C : Type) where
  | start (request : Request)
  | next (choice : C)

def servers (handler : Request → Procedure Op Reply A) (perform : Performer Op Reply C S) :
    Machine S (Server Op Reply A) (ServerMove Request C) where
  step s
    | .idle, .start request => some (s, .running (handler request))
    | .running code, .next choice =>
      ((Procedure.machine perform).step s code choice).map fun after =>
        (after.1, .running after.2)
    | _, _ => none

/-- Only such requests are made. -/
def Asked (ok : Request → Prop) (_ : World I S (Server Op Reply A)) (_ : I) :
    ServerMove Request C → Prop
  | .start request => ok request
  | .next _ => True

instance (ok : Request → Prop) [DecidablePred ok] (world : World I S (Server Op Reply A)) (i : I)
    (move : ServerMove Request C) : Decidable (Asked ok world i move) :=
  match move with
  | .start request => inferInstanceAs (Decidable (ok request))
  | .next _ => inferInstanceAs (Decidable True)

theorem servers_step {handler : Request → Procedure Op Reply A} {perform : Performer Op Reply C S}
    {s after : S} {server next : Server Op Reply A} {move : ServerMove Request C}
    (stepped : (servers handler perform).step s server move = some (after, next)) :
    (∃ request, move = .start request ∧ after = s ∧ next = .running (handler request)) ∨
      ∃ op rest choice reply, move = .next choice ∧ server = .running (.perform op rest) ∧
        perform op choice s = some (reply, after) ∧ next = .running (rest reply) := by
  cases server with
  | idle =>
    cases move with
    | start request =>
      obtain ⟨rfl, rfl⟩ := Prod.mk.inj (Option.some.inj stepped)
      exact .inl ⟨request, rfl, rfl, rfl⟩
    | next choice => cases stepped
  | running code =>
    cases move with
    | start request => cases stepped
    | next choice =>
      simp only [servers, Option.map_eq_some_iff, Prod.exists, Prod.mk.injEq] at stepped
      obtain ⟨_, _, moved, rfl, rfl⟩ := stepped
      obtain ⟨op, rest, reply, rfl, performed, rfl⟩ := Procedure.step_eq_some.mp moved
      exact .inr ⟨op, rest, choice, reply, rfl, rfl, performed, rfl⟩

/-- What handlers rely on: `holds` says when a record is true of the shared state. -/
structure Discipline (Op : Type) (Reply : Op → Type) (S G : Type) where
  inv : S → Prop
  holds : S → G → Prop
  permitted : G → Op → Prop
  becomes : G → (op : Op) → Reply op → G → Prop

namespace Discipline

variable (rules : Discipline Op Reply S G)

/-- A permitted operation keeps the invariant, advances its own record and makes no other wrong. -/
def Kept (perform : Performer Op Reply C S) : Prop :=
  ∀ s g op choice reply after, rules.inv s → rules.holds s g → rules.permitted g op →
    perform op choice s = some (reply, after) →
    rules.inv after ∧ (∀ other, rules.holds s other → rules.holds after other) ∧
      ∃ later, rules.becomes g op reply later ∧ rules.holds after later

def Follows (procedure : Procedure Op Reply A) (g : G) : Prop :=
  procedure.Tracks rules.permitted rules.becomes (fun _ _ => True) g

variable {rules}

/-- The rule of servers: handlers that follow the rules keep their invariant. -/
theorem Kept.invariant {perform : Performer Op Reply C S}
    {handler : Request → Procedure Op Reply A} {ok : Request → Prop} (kept : rules.Kept perform)
    (fresh : G) (known : ∀ s, rules.holds s fresh)
    (follows : ∀ request, ok request → rules.Follows (handler request) fresh)
    {start world : World I S (Server Op Reply A)} (initial : rules.inv start.shared)
    (idle : ∀ i, start.procs i = .idle)
    (reached : (servers handler perform).Reaches (Asked ok) start world) :
    rules.inv world.shared := by
  have both := reached.assertions rules.inv
    (fun s _ server => ∀ code, server = .running code →
      ∃ g, rules.holds s g ∧ rules.Follows code g)
    ⟨initial, fun i code runs => by simp [idle i] at runs⟩ ?_
  · exact both.1
  · intro world i move shared server inv assertions allowed stepped
    rcases servers_step stepped with
      ⟨request, rfl, rfl, rfl⟩ | ⟨op, rest, choice, reply, rfl, runs, performed, rfl⟩
    · refine ⟨inv, fun code same => ?_, fun j _ => assertions j⟩
      cases same
      exact ⟨fresh, known _, follows request allowed⟩
    · obtain ⟨g, holds, permits, later⟩ := assertions i _ runs
      obtain ⟨inv', others, g', moved, holds'⟩ :=
        kept _ _ _ _ _ _ inv holds permits performed
      refine ⟨inv', fun code same => ?_, fun j _ code same => ?_⟩
      · cases same
        exact ⟨g', holds', later reply g' moved⟩
      · obtain ⟨other, held, followed⟩ := assertions j code same
        exact ⟨other, others other held, followed⟩

end Discipline

end Shared

import Kufi.Shared.Interleaving
import Kufi.Transactions.SettlementEffects
import Kufi.Transactions.Postings

set_option autoImplicit false

/-!
# Settlement cycles

A cycle of the settlement service lists candidates over RPC and processes each:
it checks the transfer with the outside payment service and marks the outcome.
Nothing is locked between these calls.
-/

namespace Kufi.Settlement

open Shared Transactions

-- A candidate as the RPC delivers it; columns that are null arrive as empty strings.
structure SettlementCandidate where
  transactionId : Nat
  externalPartner : String
  externalRef : String
  deriving DecidableEq

def toCandidate (tx : TransactionEntity) : SettlementCandidate where
  transactionId := tx.id
  externalPartner := tx.externalPartner.getD ""
  externalRef := tx.externalRef.getD ""

structure CheckTransferResponse where
  status : String
  partnerMessage : String
  deriving DecidableEq

inductive CandidateResult where
  | settled
  | failed
  | skipped
  -- the rejected promise of a candidate without references
  | error
  deriving DecidableEq

-- The stages of `processCandidate`.
inductive Candidate where
  | listed (item : SettlementCandidate)
  | unreferenced (item : SettlementCandidate)
  | checked (item : SettlementCandidate) (outcome : SettlementOutcome) (note : String)
  | processed (result : CandidateResult)

structure CandidateAction where
  check : Except String CheckTransferResponse
  markedAt : Instant

def outcomeText : SettlementOutcome → String
  | .settled => "SETTLED"
  | .failed => "FAILED"

def outcomeResult : SettlementOutcome → CandidateResult
  | .settled => .settled
  | .failed => .failed

namespace Candidate

def afterCheck (item : SettlementCandidate) (check : Except String CheckTransferResponse) :
    Candidate :=
  match check with
  | .ok response =>
    if response.status = "SETTLED" then .checked item .settled response.partnerMessage
    else if response.status = "FAILED" then .checked item .failed response.partnerMessage
    else .processed .skipped
  | .error _ => .processed .skipped

def step (env : Env) (s : Tables) (candidate : Candidate) (action : CandidateAction) :
    Option (Tables × Candidate) :=
  match candidate with
  | .listed item =>
    if item.externalPartner = "" ∨ item.externalRef = "" then some (s, .unreferenced item)
    else some (s, afterCheck item action.check)
  | .unreferenced item =>
    match markSettlement env action.markedAt item.transactionId "FAILED"
        "Missing external references" s with
    | .ok (_, after) => some (after, .processed .failed)
    | .error _ => some (s, .processed .error)
  | .checked item outcome note =>
    match markSettlement env action.markedAt item.transactionId (outcomeText outcome) note s with
    | .ok (_, after) => some (after, .processed (outcomeResult outcome))
    | .error _ => some (s, .processed .skipped)
  | .processed _ => none

-- The mark a candidate is about to make: the transaction, the status text and the note.
def mark? : Candidate → Option (Nat × String × String)
  | .unreferenced item => some (item.transactionId, "FAILED", "Missing external references")
  | .checked item outcome note => some (item.transactionId, outcomeText outcome, note)
  | .listed _ | .processed _ => none

end Candidate

def candidates (env : Env) : Machine Tables Candidate CandidateAction where
  step := Candidate.step env

inductive SettlementCycle where
  | start
  | working (items : List Candidate)

inductive CycleAction where
  | list (limit : Nat)
  | process (index : Nat) (action : CandidateAction)

def SettlementCycle.step (env : Env) (s : Tables) (cycle : SettlementCycle) (action : CycleAction) :
    Option (Tables × SettlementCycle) :=
  match cycle, action with
  | .start, .list limit =>
    some (s, .working ((listSettlementCandidates limit s).map fun tx => .listed (toCandidate tx)))
  | .working items, .process index action =>
    ((candidates env).pool.step s items (index, action)).map fun (after, items) =>
      (after, .working items)
  | _, _ => none

def settlementCycles (env : Env) : Machine Tables SettlementCycle CycleAction where
  step := SettlementCycle.step env

-- The mark the next step of a cycle makes.
def SettlementCycle.mark? (cycle : SettlementCycle) (action : CycleAction) :
    Option (Nat × String × String) :=
  match cycle, action with
  | .working items, .process index _ => items[index]?.bind Candidate.mark?
  | _, _ => none

/-! ## What a step does -/

-- A committed mark, on the row it locked.
structure Marked (outcome : SettlementOutcome) (tx : TransactionEntity) (now : Instant)
    (note : String) (s after : Tables) : Prop where
  held : s.transactions.get? tx.id = some tx
  effect : ∃ middle transactions outbox, CreditedOnce outcome tx s middle ∧
    s.transactions.update? (marked now outcome note tx) = some transactions ∧
    after = { middle with transactions, outbox }

theorem markSettlement_marked {env : Env} {now : Instant} {id : Nat} {status note : String}
    {s after : Tables} {found : Bool}
    (done : markSettlement env now id status note s = .ok (found, after)) :
    after = s ∨ ∃ outcome tx, settlementOutcome? env status = some outcome ∧ tx.id = id ∧
      Marked outcome tx now note s after := by
  obtain ⟨outcome, known, ⟨_, same, _⟩ | ⟨_, tx, middle, transactions, outbox, held, once, updated,
    rfl, _⟩⟩ := markSettlement_effect done
  · exact .inl same
  · have own : tx.id = id := (Table.get?_eq_some.mp held).2
    exact .inr ⟨outcome, tx, known, own, own ▸ held, middle, transactions, outbox, once, updated,
      rfl⟩

/-- A step of a candidate leaves the tables alone or commits its mark. -/
theorem Candidate.step_marks {env : Env} {s after : Tables} {candidate next : Candidate}
    {action : CandidateAction} (stepped : candidate.step env s action = some (after, next)) :
    after = s ∨ ∃ id status note found, candidate.mark? = some (id, status, note) ∧
      markSettlement env action.markedAt id status note s = .ok (found, after) := by
  cases candidate with
  | listed item =>
    simp only [Candidate.step] at stepped
    split_ifs at stepped
    all_goals
      obtain ⟨rfl, _⟩ := Prod.mk.inj (Option.some.inj stepped)
      exact .inl rfl
  | unreferenced item =>
    simp only [Candidate.step] at stepped
    split at stepped
    next _ _ done =>
      obtain ⟨rfl, _⟩ := Prod.mk.inj (Option.some.inj stepped)
      exact .inr ⟨_, _, _, _, rfl, done⟩
    next =>
      obtain ⟨rfl, _⟩ := Prod.mk.inj (Option.some.inj stepped)
      exact .inl rfl
  | checked item outcome note =>
    simp only [Candidate.step] at stepped
    split at stepped
    next _ _ done =>
      obtain ⟨rfl, _⟩ := Prod.mk.inj (Option.some.inj stepped)
      exact .inr ⟨_, _, _, _, rfl, done⟩
    next =>
      obtain ⟨rfl, _⟩ := Prod.mk.inj (Option.some.inj stepped)
      exact .inl rfl
  | processed result => cases stepped

theorem SettlementCycle.step_marks {env : Env} {s after : Tables} {cycle next : SettlementCycle}
    {action : CycleAction} (stepped : cycle.step env s action = some (after, next)) :
    after = s ∨ ∃ id status note now found, cycle.mark? action = some (id, status, note) ∧
      markSettlement env now id status note s = .ok (found, after) := by
  cases cycle with
  | start =>
    cases action with
    | list limit =>
      obtain ⟨rfl, _⟩ := Prod.mk.inj (Option.some.inj stepped)
      exact .inl rfl
    | process index action => cases stepped
  | working items =>
    cases action with
    | list limit => cases stepped
    | process index action =>
      simp only [SettlementCycle.step, Option.map_eq_some_iff, Prod.exists, Prod.mk.injEq] at stepped
      obtain ⟨_, _, moved, rfl, rfl⟩ := stepped
      obtain ⟨candidate, _, at_index, candidateStep, _⟩ := Machine.pool_step.mp moved
      rcases Candidate.step_marks candidateStep with same | ⟨id, status, note, found, marks, done⟩
      · exact .inl same
      · exact .inr ⟨id, status, note, _, found, by simp [SettlementCycle.mark?, at_index, marks], done⟩

theorem SettlementCycle.step_effect {env : Env} {s after : Tables} {cycle next : SettlementCycle}
    {action : CycleAction} (stepped : cycle.step env s action = some (after, next)) :
    after = s ∨ ∃ id status note now outcome tx, cycle.mark? action = some (id, status, note) ∧
      settlementOutcome? env status = some outcome ∧ tx.id = id ∧
      Marked outcome tx now note s after := by
  rcases SettlementCycle.step_marks stepped with same | ⟨id, status, note, now, _, marks, done⟩
  · exact .inl same
  · rcases markSettlement_marked done with same | ⟨outcome, tx, known, own, effect⟩
    · exact .inl same
    · exact .inr ⟨id, status, note, now, outcome, tx, marks, known, own, effect⟩

end Kufi.Settlement

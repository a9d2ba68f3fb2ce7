import Mathlib.Data.List.Sort
import Kufi.Shared.Batches
import Kufi.Shared.History
import Kufi.Transactions.Chain
import Kufi.Transactions.Events

set_option autoImplicit false

/-!
# The outbox dispatcher

A tick claims due events under a lease and publishes them in chunks. The save
after a publish writes the whole entity that was loaded before it.
-/

namespace Kufi.Workers

open Shared Transactions

structure OutboxConfig where
  leaseMs : Int
  maxRetries : Nat
  initialBackoffMs : Int
  maxBackoffMs : Int

def OutboxConfig.computeNextAttemptAt (cfg : OutboxConfig) (clock : Clock) (attempts : Nat) :
    Instant :=
  let exponent := attempts - 1
  let rawDelay := cfg.initialBackoffMs * 2 ^ exponent
  let capped := min rawDelay cfg.maxBackoffMs
  clock.now + capped + clock.jitter

/-! ## Claims -/

def isEventDue (now : Instant) (evt : TransactionOutboxEvent) : Bool :=
  evt.status = .pending && evt.nextAttemptAt ≤ now && evt.leasedUntil.all (· ≤ now)

def leased (cfg : OutboxConfig) (now : Instant) (evt : TransactionOutboxEvent) :
    TransactionOutboxEvent :=
  { evt with leasedUntil := some (now + cfg.leaseMs) }

def eventFits (evt : TransactionOutboxEvent) : Bool :=
  evt.lastError.all (fitsVarchar 1024)

def saveEvent (s : Tables) (evt : TransactionOutboxEvent) : Except ServiceError Tables :=
  (saveRow eventFits s.outbox evt).map fun outbox => { s with outbox }

-- Rows another transaction has locked are skipped; rows stand in the order of their creation.
def claimDueEvents (cfg : OutboxConfig) (now : Instant) (limit : Nat) (locked : Nat → Bool)
    (s : Tables) : Except ServiceError (List Nat × Tables) := do
  let rows := s.outbox.rows.filter fun evt => isEventDue now evt && !locked evt.id
  let ordered := rows.insertionSort fun left right => left.nextAttemptAt ≤ right.nextAttemptAt
  let due := ordered.take (max 1 limit)
  let s ← due.foldlM (fun s evt => saveEvent s (leased cfg now evt)) s
  .ok (due.map TransactionOutboxEvent.id, s)

/-! ## Publishing -/

def published (now : Instant) (evt : TransactionOutboxEvent) : TransactionOutboxEvent :=
  { evt with
    status := .published
    publishedAt := some now
    leasedUntil := none
    lastError := none }

-- The `catch` of `publishClaimedEvent`, on the entity as it is when the error is thrown.
def attemptFailed (cfg : OutboxConfig) (clock : Clock) (message : String)
    (evt : TransactionOutboxEvent) : TransactionOutboxEvent :=
  let attempts := evt.attempts + 1
  let evt :=
    { evt with
      attempts
      leasedUntil := none
      lastError := some (Text.slice 1024 message) }
  if cfg.maxRetries < attempts then { evt with status := .failed }
  else { evt with nextAttemptAt := cfg.computeNextAttemptAt clock attempts }

section

variable (cfg : OutboxConfig) (clock : Clock) (message : String) (evt : TransactionOutboxEvent)

theorem attemptFailed_status : (attemptFailed cfg clock message evt).status =
    if cfg.maxRetries < evt.attempts + 1 then .failed else evt.status := by
  unfold attemptFailed
  dsimp only
  split_ifs <;> rfl

@[simp] theorem attemptFailed_attempts :
    (attemptFailed cfg clock message evt).attempts = evt.attempts + 1 := by
  unfold attemptFailed
  dsimp only
  split_ifs <;> rfl

@[simp] theorem attemptFailed_publishedAt :
    (attemptFailed cfg clock message evt).publishedAt = evt.publishedAt := by
  unfold attemptFailed
  dsimp only
  split_ifs <;> rfl

@[simp] theorem attemptFailed_id : (attemptFailed cfg clock message evt).id = evt.id := by
  unfold attemptFailed
  dsimp only
  split_ifs <;> rfl

@[simp] theorem attemptFailed_payload :
    (attemptFailed cfg clock message evt).payload = evt.payload := by
  unfold attemptFailed
  dsimp only
  split_ifs <;> rfl

end

-- `publishClaimedEvent`, one access to the database or one call at a time.
inductive PublishJob where
  | loading (id : Nat)
  -- `producer.publish` is under way
  | publishing (evt : TransactionOutboxEvent)
  | saving (evt : TransactionOutboxEvent)
  -- the save of the `catch`
  | savingError (evt : TransactionOutboxEvent)
  | done

-- A save that fails can have been committed all the same.
inductive SaveOutcome where
  | saved
  | lost
  | refused
  deriving DecidableEq

structure PublishAction where
  -- the outcome of the publish that is under way
  answer : Except String Unit
  save : SaveOutcome
  -- the message of a save that fails
  message : String
  clock : Clock

namespace PublishJob

def step (cfg : OutboxConfig) (s : Tables) (job : PublishJob) (action : PublishAction) :
    Option (Tables × PublishJob) :=
  match job with
  | .loading id =>
    match s.outbox.get? id with
    | some evt =>
      if evt.status = .pending ∧ evt.leasedUntil.any (action.clock.now ≤ ·) then
        some (s, .publishing evt)
      else some (s, .done)
    | none => some (s, .done)
  | .publishing evt =>
    match action.answer with
    | .ok () => some (s, .saving (published action.clock.now evt))
    | .error message => some (s, .savingError (attemptFailed cfg action.clock message evt))
  | .saving evt =>
    match action.save, saveEvent s evt with
    | .saved, .ok after => some (after, .done)
    | .lost, .ok after =>
      some (after, .savingError (attemptFailed cfg action.clock action.message evt))
    | _, _ => some (s, .savingError (attemptFailed cfg action.clock action.message evt))
  | .savingError evt =>
    match action.save, saveEvent s evt with
    | .saved, .ok after | .lost, .ok after => some (after, .done)
    | _, _ => some (s, .done)
  | .done => none

def finished : PublishJob → Bool
  | .done => true
  | _ => false

-- The event of a job that is not finished.
def id? : PublishJob → Option Nat
  | .loading id => some id
  | .publishing evt | .saving evt | .savingError evt => some evt.id
  | .done => none

-- The event of a job that has loaded it.
def busy? : PublishJob → Option Nat
  | .publishing evt | .saving evt | .savingError evt => some evt.id
  | .loading _ | .done => none

theorem id?_of_busy? {job : PublishJob} {id : Nat} (busy : job.busy? = some id) :
    job.id? = some id := by
  cases job <;> first | exact busy | cases busy

end PublishJob

/-! ## What is published -/

structure Publish where
  id : Nat
  payload : EventPayload
  succeeded : Bool
  deriving DecidableEq

abbrev Outbox := Observed Tables Publish

def publishShown (_ : Tables) (job next : PublishJob) : List Publish :=
  match job, next with
  | .publishing evt, .saving _ => [{ id := evt.id, payload := evt.payload, succeeded := true }]
  | .publishing evt, .savingError _ =>
    [{ id := evt.id, payload := evt.payload, succeeded := false }]
  | _, _ => []

def publishJobs (cfg : OutboxConfig) : Machine Outbox PublishJob PublishAction :=
  Machine.observed { step := PublishJob.step cfg } publishShown

structure OutboxClaim where
  now : Instant
  limit : Nat
  locked : List Nat

-- A claim that fails ends the tick.
def claimEvents (cfg : OutboxConfig) (s : Outbox) (claim : OutboxClaim) :
    List PublishJob × Outbox :=
  match claimDueEvents cfg claim.now claim.limit (claim.locked.contains ·) s.state with
  | .ok (claimedIds, after) => (claimedIds.map .loading, { s with state := after })
  | .error _ => ([], s)

def outboxBatches (cfg : OutboxConfig) : Batches Outbox PublishJob OutboxClaim PublishAction where
  claim := claimEvents cfg
  job := publishJobs cfg
  finished := PublishJob.finished

abbrev Dispatcher := Worker PublishJob OutboxClaim

/-! ## Producers of events -/

structure QueueEvent where
  aggregateId : Nat
  eventType : String
  payload : EventPayload
  now : Instant

-- Whoever commits a database transaction that enqueues an event.
def enqueueing : Machine Outbox Unit QueueEvent where
  step s _ event :=
    match enqueue event.now event.aggregateId event.eventType event.payload s.state with
    | .ok after => some ({ s with state := after }, ())
    | .error _ => none

/-! ## A step of a job -/

theorem saveEvent_eq_ok {s after : Tables} {evt : TransactionOutboxEvent} :
    saveEvent s evt = .ok after ↔
      eventFits evt = true ∧
        ∃ outbox, s.outbox.update? evt = some outbox ∧ after = { s with outbox } := by
  simp only [saveEvent, map_eq_ok, saveRow_eq_ok]
  grind

-- No unique index refuses an event.
theorem saveEvent_isOk {s : Tables} {evt : TransactionOutboxEvent} (fits : eventFits evt = true) :
    ∃ after, saveEvent s evt = .ok after := by
  have free : ∀ other ∈ s.outbox.rows, Row.id other ≠ Row.id evt → ¬ Clash other evt :=
    fun _ _ _ clash => clash.1 rfl
  have updated : s.outbox.update? evt ≠ none := by simp [Table.update?, dif_pos free]
  obtain ⟨outbox, updated⟩ := Option.ne_none_iff_exists'.mp updated
  exact ⟨_, saveEvent_eq_ok.mpr ⟨fits, outbox, updated, rfl⟩⟩

def Outbox.writes (s : Outbox) (outbox : Table TransactionOutboxEvent) : Outbox :=
  { s with state := { s.state with outbox } }

def Outbox.shows (s : Outbox) (evt : TransactionOutboxEvent) (succeeded : Bool) : Outbox :=
  { s with history := s.history ++ [{ id := evt.id, payload := evt.payload, succeeded }] }

def Commits (action : PublishAction) (evt : TransactionOutboxEvent) : Prop :=
  action.save ≠ .refused ∧ eventFits evt = true

instance (action : PublishAction) (evt : TransactionOutboxEvent) : Decidable (Commits action evt) :=
  inferInstanceAs (Decidable (_ ∧ _))

inductive PublishJob.Moves (cfg : OutboxConfig) (action : PublishAction) (s : Outbox) :
    PublishJob → Outbox → PublishJob → Prop
  | dropped {id : Nat} : Moves cfg action s (.loading id) s .done
  | loaded {id : Nat} {evt : TransactionOutboxEvent} (found : s.state.outbox.get? id = some evt)
      (pending : evt.status = .pending) : Moves cfg action s (.loading id) s (.publishing evt)
  | succeeded {evt : TransactionOutboxEvent} :
      Moves cfg action s (.publishing evt) (s.shows evt true)
        (.saving (published action.clock.now evt))
  | failed {evt : TransactionOutboxEvent} {message : String} :
      Moves cfg action s (.publishing evt) (s.shows evt false)
        (.savingError (attemptFailed cfg action.clock message evt))
  | saved {evt : TransactionOutboxEvent} {outbox : Table TransactionOutboxEvent}
      (updated : s.state.outbox.update? evt = some outbox) :
      Moves cfg action s (.saving evt) (s.writes outbox) .done
  | lost {evt : TransactionOutboxEvent} {outbox : Table TransactionOutboxEvent}
      (updated : s.state.outbox.update? evt = some outbox) :
      Moves cfg action s (.saving evt) (s.writes outbox)
        (.savingError (attemptFailed cfg action.clock action.message evt))
  | refused {evt : TransactionOutboxEvent} :
      Moves cfg action s (.saving evt) s
        (.savingError (attemptFailed cfg action.clock action.message evt))
  | errorSaved {evt : TransactionOutboxEvent} {outbox : Table TransactionOutboxEvent}
      (commits : Commits action evt) (updated : s.state.outbox.update? evt = some outbox) :
      Moves cfg action s (.savingError evt) (s.writes outbox) .done
  | errorRefused {evt : TransactionOutboxEvent} (refused : ¬ Commits action evt) :
      Moves cfg action s (.savingError evt) s .done

theorem PublishJob.step_moves {cfg : OutboxConfig} {action : PublishAction} {s after : Outbox}
    {job next : PublishJob}
    (stepped : (publishJobs cfg).step s job action = some (after, next)) :
    Moves cfg action s job after next := by
  obtain ⟨moved, recorded⟩ := Machine.observed_step.mp stepped
  obtain ⟨state, history⟩ := after
  simp only at moved recorded
  subst recorded
  cases job with
  | loading id =>
    simp only [step] at moved
    split at moved
    next evt found =>
      split_ifs at moved with live
      · obtain ⟨rfl, rfl⟩ := Prod.mk.inj (Option.some.inj moved)
        simpa [publishShown] using Moves.loaded found live.1
      · obtain ⟨rfl, rfl⟩ := Prod.mk.inj (Option.some.inj moved)
        simpa [publishShown] using Moves.dropped
    next =>
      obtain ⟨rfl, rfl⟩ := Prod.mk.inj (Option.some.inj moved)
      simpa [publishShown] using Moves.dropped
  | publishing evt =>
    simp only [step] at moved
    split at moved
    next =>
      obtain ⟨rfl, rfl⟩ := Prod.mk.inj (Option.some.inj moved)
      exact .succeeded
    next =>
      obtain ⟨rfl, rfl⟩ := Prod.mk.inj (Option.some.inj moved)
      exact .failed
  | saving evt =>
    simp only [step] at moved
    split at moved
    next saved =>
      obtain ⟨rfl, rfl⟩ := Prod.mk.inj (Option.some.inj moved)
      obtain ⟨_, outbox, updated, rfl⟩ := saveEvent_eq_ok.mp saved
      simpa [publishShown, Outbox.writes] using Moves.saved (s := s) updated
    next saved =>
      obtain ⟨rfl, rfl⟩ := Prod.mk.inj (Option.some.inj moved)
      obtain ⟨_, outbox, updated, rfl⟩ := saveEvent_eq_ok.mp saved
      simpa [publishShown, Outbox.writes] using Moves.lost (s := s) updated
    next =>
      obtain ⟨rfl, rfl⟩ := Prod.mk.inj (Option.some.inj moved)
      simpa [publishShown] using Moves.refused
  | savingError evt =>
    simp only [step] at moved
    split at moved
    all_goals obtain ⟨rfl, rfl⟩ := Prod.mk.inj (Option.some.inj moved)
    next committed saved =>
      obtain ⟨fits, outbox, updated, rfl⟩ := saveEvent_eq_ok.mp saved
      have commits : Commits action evt := ⟨by simp [committed], fits⟩
      simpa [publishShown, Outbox.writes] using Moves.errorSaved (s := s) commits updated
    next committed saved =>
      obtain ⟨fits, outbox, updated, rfl⟩ := saveEvent_eq_ok.mp saved
      have commits : Commits action evt := ⟨by simp [committed], fits⟩
      simpa [publishShown, Outbox.writes] using Moves.errorSaved (s := s) commits updated
    next unsaved unlost =>
      have refused : ¬ Commits action evt := by
        rintro ⟨outcome, fits⟩
        obtain ⟨after, saved⟩ := saveEvent_isOk (s := s.state) fits
        cases save : action.save with
        | saved => exact unsaved after save saved
        | lost => exact unlost after save saved
        | refused => exact outcome save
      simpa [publishShown] using Moves.errorRefused refused
  | done => cases moved

end Kufi.Workers

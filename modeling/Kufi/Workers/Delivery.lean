import Kufi.Shared.Claims
import Kufi.Shared.Leases
import Kufi.Transactions.Service
import Kufi.Workers.Outbox

set_option autoImplicit false

/-!
# Delivery states of outbox events

An event's status says what its publishes came to as long as one dispatcher at a
time has it and no save after a successful publish loses that outcome.
-/

namespace Kufi.Workers.Delivery

open Shared Transactions

abbrev Process := Unit ⊕ Dispatcher

abbrev Action := QueueEvent ⊕ WorkerAction OutboxClaim PublishAction

def service (cfg : OutboxConfig) : Machine Outbox Process Action :=
  enqueueing.either (outboxBatches cfg).workers

-- An event is held from its claim to the end of its job.
def leasing (cfg : OutboxConfig) : Leasing Outbox PublishJob OutboxClaim Nat Instant where
  key? := PublishJob.id?
  ends claim := claim.now + cfg.leaseMs
  Leased s leaseUntil id := ∃ evt, s.state.outbox.get? id = some evt ∧
    ∀ now, isEventDue now evt = true → leaseUntil ≤ now

-- The second save of an event that was published commits only with an attempt left, and fails
-- only if the first one was committed after all.
def KeepsOutcome (cfg : OutboxConfig) (s : Outbox) (action : PublishAction) : PublishJob → Prop
  | .savingError evt =>
    evt.publishedAt ≠ none →
      if Commits action evt then evt.attempts ≤ cfg.maxRetries
      else ∃ row ∈ s.state.outbox.get? evt.id, row.status = .published
  | _ => True

variable {I : Type} [DecidableEq I]

/-- What every step of a run must meet for the statuses to tell what was published. -/
def Keeps (cfg : OutboxConfig) (world : World I Outbox Process) (i : I) : Action → Prop
  -- a claim is made before the lease of any unfinished batch ends
  | .inr (.claim claim) =>
    ∀ j, ∀ leaseUntil ∈ (leasing cfg).lease? (world.procs j), claim.now < leaseUntil
  | .inr (.job index action) =>
    match world.procs i with
    | .inr worker => ∀ job ∈ worker.chunk[index]?, KeepsOutcome cfg world.shared action job
    | .inl _ => True
  | _ => True

/-! ## Publishes of an event -/

def Succeeded (publishes : List Publish) (evt : TransactionOutboxEvent) : Prop :=
  ∃ publish ∈ publishes, publish.id = evt.id ∧ publish.payload = evt.payload ∧
    publish.succeeded = true

def Undelivered (publishes : List Publish) (id : Nat) : Prop :=
  ∀ publish ∈ publishes, publish.id = id → publish.succeeded = false

def failures (publishes : List Publish) (id : Nat) : Nat :=
  publishes.countP fun publish => publish.id == id && !publish.succeeded

/-- What the status of an event says about its publishes. -/
structure Told (cfg : OutboxConfig) (publishes : List Publish) (evt : TransactionOutboxEvent) :
    Prop where
  published : evt.status = .published → Succeeded publishes evt
  failed : evt.status = .failed →
    Undelivered publishes evt.id ∧ cfg.maxRetries < failures publishes evt.id

/-- What is settled about an event that no job is publishing. -/
structure Settled (cfg : OutboxConfig) (publishes : List Publish) (evt : TransactionOutboxEvent) :
    Prop extends Told cfg publishes evt where
  pending : evt.status = .pending → evt.publishedAt = none ∧
    evt.attempts ≤ failures publishes evt.id ∧ Undelivered publishes evt.id

section

variable {cfg : OutboxConfig} {publishes shown : List Publish}
  {evt row : TransactionOutboxEvent}

theorem Settled.append (settled : Settled cfg publishes evt)
    (others : ∀ publish ∈ shown, publish.id ≠ evt.id) : Settled cfg (publishes ++ shown) evt := by
  have undelivered (none : Undelivered publishes evt.id) :
      Undelivered (publishes ++ shown) evt.id := by
    intro publish member own
    rcases List.mem_append.mp member with old | new
    · exact none publish old own
    · exact absurd own (others publish new)
  have counted : failures publishes evt.id ≤ failures (publishes ++ shown) evt.id := by
    rw [failures, failures, List.countP_append]
    exact Nat.le_add_right _ _
  refine ⟨⟨fun status => ?_, fun status => ?_⟩, fun status => ?_⟩
  · obtain ⟨publish, member, succeeded⟩ := settled.published status
    exact ⟨publish, List.mem_append_left _ member, succeeded⟩
  · obtain ⟨none, many⟩ := settled.failed status
    exact ⟨undelivered none, many.trans_le counted⟩
  · obtain ⟨unpublished, attempts, none⟩ := settled.pending status
    exact ⟨unpublished, attempts.trans counted, undelivered none⟩

theorem settled_published (status : evt.status = .published)
    (succeeded : Succeeded publishes evt) : Settled cfg publishes evt := by
  refine ⟨⟨fun _ => succeeded, fun own => ?_⟩, fun own => ?_⟩ <;> cases status.symm.trans own

/-- Nothing of an event that counts here is changed by a lease. -/
theorem Settled.congr (settled : Settled cfg publishes evt) (id : row.id = evt.id)
    (payload : row.payload = evt.payload) (status : row.status = evt.status)
    (attempts : row.attempts = evt.attempts) (publishedAt : row.publishedAt = evt.publishedAt) :
    Settled cfg publishes row := by
  refine ⟨⟨fun own => ?_, fun own => ?_⟩, fun own => ?_⟩
  · rw [Succeeded, id, payload]
    exact settled.published (status ▸ own)
  · rw [id]
    exact settled.failed (status ▸ own)
  · rw [id, attempts, publishedAt]
    exact settled.pending (status ▸ own)

-- One more publish that failed, in the row and in the entity of the job.
theorem Settled.publish_failed (settled : Settled cfg publishes evt) (clock : Clock)
    (message : String) (pending : evt.status = .pending) :
    Settled cfg (publishes ++ [{ id := evt.id, payload := evt.payload, succeeded := false }]) evt ∧
      Settled cfg (publishes ++ [{ id := evt.id, payload := evt.payload, succeeded := false }])
        (attemptFailed cfg clock message evt) := by
  obtain ⟨unpublished, attempts, none⟩ := settled.pending pending
  generalize extended : publishes ++ [_] = publishes'
  have counted : failures publishes' evt.id = failures publishes evt.id + 1 := by
    simp [← extended, failures]
  have undelivered : Undelivered publishes' evt.id := by
    intro publish member own
    rcases List.mem_append.mp (extended ▸ member) with old | new
    · exact none publish old own
    · rw [List.mem_singleton.mp new]
  constructor
  · refine ⟨⟨fun status => ?_, fun status => ?_⟩, fun _ => ⟨unpublished, by omega, undelivered⟩⟩ <;>
      cases pending.symm.trans status
  · have status := attemptFailed_status cfg clock message evt
    refine ⟨⟨fun own => ?_, fun own => ?_⟩, fun own => ?_⟩
    · rw [status, pending] at own
      split_ifs at own
    · rw [status] at own
      split_ifs at own with exhausted
      · rw [attemptFailed_id]
        exact ⟨undelivered, by omega⟩
      · cases pending.symm.trans own
    · rw [attemptFailed_publishedAt, attemptFailed_attempts, attemptFailed_id]
      exact ⟨unpublished, by omega, undelivered⟩

/-! ## What a job knows about its event -/

def JobSettled (cfg : OutboxConfig) (s : Outbox) : PublishJob → Prop
  | .loading _ | .done => True
  | .publishing evt =>
    s.state.outbox.get? evt.id = some evt ∧ evt.status = .pending ∧ Settled cfg s.history evt
  | .saving evt =>
    (evt.status = .published ∧ evt.publishedAt ≠ none ∧ Succeeded s.history evt) ∧
      ∃ row, s.state.outbox.get? evt.id = some row ∧ row.status = .pending
  | .savingError evt =>
    ∃ row, s.state.outbox.get? evt.id = some row ∧
      -- the publish failed
      ((evt.publishedAt = none ∧ Settled cfg s.history evt ∧ row.status = .pending ∧
          Settled cfg s.history row) ∨
      -- its save failed
        (evt.publishedAt ≠ none ∧ Succeeded s.history evt ∧
          (evt.status = if cfg.maxRetries < evt.attempts then .failed else .published) ∧
            (row.status = .pending ∨ row.status = .published ∧ Succeeded s.history row)))

theorem Succeeded.append (succeeded : Succeeded publishes evt) :
    Succeeded (publishes ++ shown) evt := by
  obtain ⟨publish, member, own⟩ := succeeded
  exact ⟨publish, List.mem_append_left _ member, own⟩

/-- A step that neither writes nor publishes an event. -/
def Untouched (s after : Outbox) (id : Nat) : Prop :=
  after.state.outbox.get? id = s.state.outbox.get? id ∧
    ∃ shown, after.history = s.history ++ shown ∧ ∀ publish ∈ shown, publish.id ≠ id

variable {s after : Outbox} {action : PublishAction} {job next : PublishJob} {id : Nat}

theorem JobSettled.untouched (settled : JobSettled cfg s job)
    (untouched : ∀ id, job.busy? = some id → Untouched s after id) : JobSettled cfg after job := by
  cases job with
  | loading id => trivial
  | done => trivial
  | publishing evt =>
    obtain ⟨found, pending, own⟩ := settled
    obtain ⟨same, shown, history, others⟩ := untouched evt.id rfl
    exact ⟨same.trans found, pending, history ▸ own.append others⟩
  | saving evt =>
    obtain ⟨⟨status, publishedAt, succeeded⟩, row, found, pending⟩ := settled
    obtain ⟨same, shown, history, others⟩ := untouched evt.id rfl
    exact ⟨⟨status, publishedAt, history ▸ succeeded.append⟩, row, same.trans found, pending⟩
  | savingError evt =>
    obtain ⟨row, found, own⟩ := settled
    obtain ⟨same, shown, history, others⟩ := untouched evt.id rfl
    refine ⟨row, same.trans found, ?_⟩
    rw [history]
    rcases own with ⟨unpublished, evtSettled, pending, rowSettled⟩ |
      ⟨publishedAt, succeeded, status, outcome⟩
    · have sameId : row.id = evt.id := (Table.get?_eq_some.mp found).2
      exact .inl ⟨unpublished, evtSettled.append others, pending, rowSettled.append (sameId ▸ others)⟩
    · exact .inr ⟨publishedAt, succeeded.append, status,
        outcome.imp_right fun known => ⟨known.1, known.2.append⟩⟩

-- A row is told by the job that has it.
theorem JobSettled.told (settled : JobSettled cfg s job) (busy : job.busy? = some id)
    (found : s.state.outbox.get? id = some row) : Told cfg s.history row := by
  have told_pending (pending : row.status = .pending) : Told cfg s.history row := by
    constructor <;> intro status <;> cases pending.symm.trans status
  cases job with
  | loading id => cases busy
  | done => cases busy
  | publishing evt =>
    obtain rfl := Option.some.inj busy
    obtain ⟨stored, _, own⟩ := settled
    obtain rfl := Option.some.inj (stored.symm.trans found)
    exact own.toTold
  | saving evt =>
    obtain rfl := Option.some.inj busy
    obtain ⟨_, row', stored, pending⟩ := settled
    obtain rfl := Option.some.inj (stored.symm.trans found)
    exact told_pending pending
  | savingError evt =>
    obtain rfl := Option.some.inj busy
    obtain ⟨row', stored, own⟩ := settled
    obtain rfl := Option.some.inj (stored.symm.trans found)
    rcases own with ⟨_, _, _, rowSettled⟩ | ⟨_, _, _, pending | ⟨published, succeeded⟩⟩
    · exact rowSettled.toTold
    · exact told_pending pending
    · refine ⟨fun _ => succeeded, fun status => ?_⟩
      cases published.symm.trans status

/-! ## A step of a job -/

theorem untouched_refl : Untouched s s id :=
  ⟨rfl, [], (List.append_nil _).symm, fun _ member => nomatch member⟩

theorem untouched_writes {outbox : Table TransactionOutboxEvent} {evt : TransactionOutboxEvent}
    (updated : s.state.outbox.update? evt = some outbox) (other : some evt.id ≠ some id) :
    Untouched s (s.writes outbox) id :=
  ⟨Table.get?_update?_other updated fun same => other (congrArg some same), [],
    (List.append_nil _).symm, fun _ member => nomatch member⟩

theorem untouched_shows {evt : TransactionOutboxEvent} {succeeded : Bool}
    (other : some evt.id ≠ some id) : Untouched s (s.shows evt succeeded) id := by
  refine ⟨rfl, _, rfl, fun publish member same => other ?_⟩
  rw [List.mem_singleton.mp member] at same
  exact congrArg some same

theorem moves_untouched (moves : job.Moves cfg action s after next) (other : job.busy? ≠ some id) :
    Untouched s after id := by
  cases moves with
  | dropped | loaded | refused | errorRefused => exact untouched_refl
  | succeeded | failed => exact untouched_shows other
  | saved updated => exact untouched_writes updated other
  | lost updated => exact untouched_writes updated other
  | errorSaved _ updated => exact untouched_writes updated other

theorem moves_id? (moves : job.Moves cfg action s after next) :
    next.id? = job.id? ∨ next.id? = none := by
  cases moves with
  | loaded found => exact .inl (congrArg some (Table.get?_eq_some.mp found).2)
  | succeeded => exact .inl rfl
  | failed | lost | refused => exact .inl (congrArg some (attemptFailed_id ..))
  | dropped | saved | errorSaved | errorRefused => exact .inr rfl

theorem failed_save {clock : Clock} {message : String} {P : Prop}
    (status : evt.status = .published) (publishedAt : evt.publishedAt ≠ none)
    (succeeded : Succeeded publishes evt) (row : P) :
    (attemptFailed cfg clock message evt).publishedAt ≠ none ∧
      Succeeded publishes (attemptFailed cfg clock message evt) ∧
        ((attemptFailed cfg clock message evt).status =
          if cfg.maxRetries < (attemptFailed cfg clock message evt).attempts then .failed
          else .published) ∧ P := by
  refine ⟨?_, ?_, ?_, row⟩
  · rwa [attemptFailed_publishedAt]
  · rwa [Succeeded, attemptFailed_id, attemptFailed_payload]
  · rw [attemptFailed_status, attemptFailed_attempts, status]

theorem written {outbox : Table TransactionOutboxEvent} {evt row : TransactionOutboxEvent}
    (found : s.state.outbox.get? evt.id = some row)
    (updated : s.state.outbox.update? evt = some outbox) :
    (s.writes outbox).state.outbox.get? evt.id = some evt := by
  obtain ⟨member, same⟩ := Table.get?_eq_some.mp found
  exact (Table.get?_update? updated member same evt.id).trans (if_pos rfl)

theorem JobSettled.step (settled : JobSettled cfg s job)
    (free : ∀ id evt, job = .loading id → s.state.outbox.get? id = some evt →
      Settled cfg s.history evt)
    (moves : job.Moves cfg action s after next) : JobSettled cfg after next := by
  cases moves with
  | dropped | saved | errorSaved | errorRefused => trivial
  | @loaded id evt found pending =>
    have own : evt.id = id := (Table.get?_eq_some.mp found).2
    exact ⟨own ▸ found, pending, free id evt rfl found⟩
  | @succeeded evt =>
    obtain ⟨found, pending, own⟩ := settled
    refine ⟨⟨rfl, Option.some_ne_none _, ?_⟩, evt, found, pending⟩
    exact ⟨_, List.mem_append_right _ (List.mem_singleton_self _), rfl, rfl, rfl⟩
  | @failed evt message =>
    obtain ⟨found, pending, own⟩ := settled
    obtain ⟨rowSettled, evtSettled⟩ :=
      own.publish_failed action.clock message pending
    refine ⟨evt, (attemptFailed_id ..).symm ▸ found, .inl ⟨?_, evtSettled, pending, rowSettled⟩⟩
    rw [attemptFailed_publishedAt]
    exact (own.pending pending).1
  | @lost evt outbox updated =>
    obtain ⟨⟨status, publishedAt, succeeded⟩, row, found, pending⟩ := settled
    refine ⟨evt, ?_, .inr (failed_save status publishedAt succeeded (.inr ⟨status, succeeded⟩))⟩
    rw [attemptFailed_id]
    exact written found updated
  | @refused evt =>
    obtain ⟨⟨status, publishedAt, succeeded⟩, row, found, pending⟩ := settled
    exact ⟨row, (attemptFailed_id ..).symm ▸ found,
      .inr (failed_save status publishedAt succeeded (.inl pending))⟩

-- What the row of a job says once the job has let it go.
theorem JobSettled.released (settled : JobSettled cfg s job)
    (keeps : KeepsOutcome cfg s action job) (moves : job.Moves cfg action s after next)
    (busy : job.busy? = some id) (free : next.busy? ≠ some id)
    (found : after.state.outbox.get? id = some row) : Settled cfg after.history row := by
  cases moves with
  | dropped | loaded => cases busy
  | succeeded => exact absurd busy free
  | failed | lost | refused => exact absurd ((congrArg some (attemptFailed_id ..)).trans busy) free
  | @saved evt outbox updated =>
    obtain rfl := Option.some.inj busy
    obtain ⟨⟨status, publishedAt, succeeded⟩, old, stored, pending⟩ := settled
    obtain rfl := Option.some.inj ((written stored updated).symm.trans found)
    exact settled_published status succeeded
  | @errorSaved evt outbox commits updated =>
    obtain rfl := Option.some.inj busy
    obtain ⟨old, stored, own⟩ := settled
    obtain rfl := Option.some.inj ((written stored updated).symm.trans found)
    rcases own with ⟨_, evtSettled, _, _⟩ | ⟨publishedAt, succeeded, status, _⟩
    · exact evtSettled
    · have left := keeps publishedAt
      rw [if_pos commits] at left
      rw [if_neg (Nat.not_lt.mpr left)] at status
      exact settled_published status succeeded
  | @errorRefused evt refused =>
    obtain rfl := Option.some.inj busy
    obtain ⟨old, stored, own⟩ := settled
    obtain rfl := Option.some.inj (stored.symm.trans found)
    rcases own with ⟨_, _, _, rowSettled⟩ | ⟨publishedAt, _, _, outcome⟩
    · exact rowSettled
    · have known := keeps publishedAt
      rw [if_neg refused] at known
      obtain ⟨old', stored', status⟩ := known
      obtain rfl := Option.some.inj (stored.symm.trans stored')
      rcases outcome with pending | ⟨_, succeeded⟩
      · cases pending.symm.trans status
      · exact settled_published status succeeded

theorem JobSettled.stored (settled : JobSettled cfg s job) (busy : job.busy? = some id) :
    ∃ row, s.state.outbox.get? id = some row := by
  cases job with
  | loading id => cases busy
  | done => cases busy
  | publishing evt => exact ⟨evt, Option.some.inj busy ▸ settled.1⟩
  | saving evt =>
    obtain ⟨_, row, found, _⟩ := settled
    exact ⟨row, Option.some.inj busy ▸ found⟩
  | savingError evt =>
    obtain ⟨row, found, _⟩ := settled
    exact ⟨row, Option.some.inj busy ▸ found⟩

end

/-! ## What holds between two states -/

def PublishedKept (s after : Outbox) : Prop :=
  ∀ id row, s.state.outbox.get? id = some row → row.status = .published →
    ∃ row', after.state.outbox.get? id = some row' ∧ row'.status = .published

structure StatusesTell (cfg : OutboxConfig) (allowed : World I Outbox Process → I → Action → Prop)
    (start : World I Outbox Process) : Prop where
  told : ∀ world, (service cfg).Reaches allowed start world →
    ∀ row ∈ world.shared.state.outbox, Told cfg world.shared.history row
  kept : ∀ world after, (service cfg).Reaches allowed start world →
    (service cfg).Reaches allowed world after → PublishedKept world.shared after.shared

section

variable {cfg : OutboxConfig} {s after : Outbox} {action : PublishAction} {job next : PublishJob}

theorem PublishedKept.of_same (same : after.state = s.state) : PublishedKept s after :=
  fun _ row found status => ⟨row, same ▸ found, status⟩

theorem PublishedKept.trans {middle : Outbox} (first : PublishedKept s middle)
    (second : PublishedKept middle after) : PublishedKept s after := by
  intro id row found status
  obtain ⟨row', found', status'⟩ := first id row found status
  exact second id row' found' status'

theorem published_writes {evt : TransactionOutboxEvent} {outbox : Table TransactionOutboxEvent}
    (updated : s.state.outbox.update? evt = some outbox)
    (own : ∀ row, s.state.outbox.get? evt.id = some row → row.status = .published →
      evt.status = .published) : PublishedKept s (s.writes outbox) := by
  intro id row found status
  by_cases same : evt.id = id
  · subst same
    exact ⟨evt, written found updated, own row found status⟩
  · exact ⟨row, (Table.get?_update?_other updated same).trans found, status⟩

theorem JobSettled.kept (settled : JobSettled cfg s job) (keeps : KeepsOutcome cfg s action job)
    (moves : job.Moves cfg action s after next) : PublishedKept s after := by
  cases moves with
  | dropped | loaded | succeeded | failed | refused | errorRefused => exact .of_same rfl
  | saved updated | lost updated =>
    obtain ⟨⟨status, _⟩, _⟩ := settled
    exact published_writes updated fun _ _ _ => status
  | @errorSaved evt outbox commits updated =>
    obtain ⟨row, found, own⟩ := settled
    refine published_writes updated fun row' found' published => ?_
    obtain rfl := Option.some.inj (found.symm.trans found')
    rcases own with ⟨_, _, pending, _⟩ | ⟨publishedAt, _, status, _⟩
    · cases pending.symm.trans published
    · have left := keeps publishedAt
      rw [if_pos commits] at left
      rwa [if_neg (Nat.not_lt.mpr left)] at status

end

/-! ## Claims and new events -/

theorem claimEvents_claims (cfg : OutboxConfig) (s : Outbox) (claim : OutboxClaim) :
    ∃ rows, s.state.outbox.Claims
        (fun evt => isEventDue claim.now evt && !claim.locked.contains evt.id)
        (leased cfg claim.now) rows (claimEvents cfg s claim).2.state.outbox ∧
      (claimEvents cfg s claim).1 = rows.map (fun evt => .loading evt.id) ∧
      (claimEvents cfg s claim).2.history = s.history := by
  unfold claimEvents
  split
  next claimedIds after done =>
    obtain ⟨_, saved, same⟩ := bind_eq_ok.mp done
    obtain ⟨rfl, rfl⟩ := Prod.mk.inj (Except.ok.inj same)
    have saves {s after : Tables} {evt : TransactionOutboxEvent}
        (saved : saveEvent s evt = .ok after) : s.outbox.update? evt = some after.outbox := by
      obtain ⟨_, outbox, updated, rfl⟩ := saveEvent_eq_ok.mp saved
      exact updated
    have claims := Table.claims_of_fold saveEvent (leased cfg claim.now) saves (fun _ => rfl) rfl saved
    exact ⟨_, claims, List.map_map, rfl⟩
  next => exact ⟨[], Table.claims_none, rfl, rfl⟩

theorem enqueueing_inserts {s after : Outbox} {event : QueueEvent} {proc next : Unit}
    (stepped : enqueueing.step s proc event = some (after, next)) :
    ∃ row saved outbox, s.state.outbox.insert? row = some (saved, outbox) ∧
      after = s.writes outbox ∧
        saved.status = .pending ∧ saved.attempts = 0 ∧ saved.publishedAt = none := by
  simp only [enqueueing] at stepped
  split at stepped
  next enqueued =>
    obtain ⟨rfl, _⟩ := Prod.mk.inj (Option.some.inj stepped)
    obtain ⟨saved, outbox, inserted, rfl⟩ := Tables.insertEvent_eq_ok.mp enqueued
    obtain rfl := (Table.insert?_spec inserted).1
    exact ⟨_, _, outbox, inserted, rfl, rfl, rfl, rfl⟩
  next => cases stepped

/-! ## The invariant -/

structure Sound (cfg : OutboxConfig) (world : World I Outbox Process) : Prop where
  apart : (leasing cfg).Apart world
  jobs : Leasing.Jobs (JobSettled cfg world.shared) world.procs
  rows : ∀ id row, world.shared.state.outbox.get? id = some row →
    Leasing.Jobs (fun job => job.busy? ≠ some id) world.procs → Settled cfg world.shared.history row
  known : ∀ publish ∈ world.shared.history, publish.id < world.shared.state.outbox.next

section

variable {cfg : OutboxConfig} {world : World I Outbox Process} {i : I}

omit [DecidableEq I] in
theorem Sound.told (sound : Sound cfg world) {id : Nat} {row : TransactionOutboxEvent}
    (found : world.shared.state.outbox.get? id = some row) : Told cfg world.shared.history row := by
  by_cases free : Leasing.Jobs (fun job => job.busy? ≠ some id) world.procs
  · exact (sound.rows id row found free).toTold
  · simp only [Leasing.Jobs, not_forall, not_not] at free
    obtain ⟨i, worker, proc, job, member, busy⟩ := free
    exact (sound.jobs i worker proc job member).told busy found

theorem Sound.enqueued (sound : Sound cfg world) (proc : world.procs i = .inl ())
    {row saved : TransactionOutboxEvent} {outbox : Table TransactionOutboxEvent}
    (inserted : world.shared.state.outbox.insert? row = some (saved, outbox))
    (pending : saved.status = .pending) (attempts : saved.attempts = 0)
    (unpublished : saved.publishedAt = none) :
    Sound cfg
      { shared := world.shared.writes outbox
        procs := Function.update world.procs i (.inl ()) } := by
  have looked := Table.get?_insert? inserted
  have kept (id : Nat) (row : TransactionOutboxEvent)
      (found : world.shared.state.outbox.get? id = some row) : outbox.get? id = some row := by
    obtain ⟨member, own⟩ := Table.get?_eq_some.mp found
    exact Table.get?_eq_some.mpr ⟨(Table.mem_insert? inserted).mpr (.inl member), own⟩
  refine ⟨?_, ?_, fun id row found free => ?_, fun publish member => ?_⟩
  · refine sound.apart.beside fun j id _ leaseUntil leased => ?_
    obtain ⟨evt, found, due⟩ := leased
    exact ⟨evt, kept id evt found, due⟩
  · refine sound.jobs.beside fun job settled => settled.untouched fun id busy => ?_
    obtain ⟨row, found⟩ := settled.stored busy
    exact ⟨(kept id row found).trans found.symm, [], (List.append_nil _).symm,
      fun _ member => nomatch member⟩
  · rw [show (world.shared.writes outbox).state.outbox.get? id = _ from looked id] at found
    split_ifs at found with own
    · -- Nothing has been published under an id that is new.
      obtain rfl := Option.some.inj found
      have new : Row.id saved = world.shared.state.outbox.next :=
        (congrArg Row.id (Table.insert?_spec inserted).1).trans (Row.id_withId _ _)
      have none : Undelivered world.shared.history saved.id := fun publish member same =>
        absurd (sound.known publish member) (Nat.not_lt.mpr (new.symm.trans same.symm).le)
      refine ⟨⟨fun status => ?_, fun status => ?_⟩, fun _ => ⟨unpublished, ?_, none⟩⟩
      · cases pending.symm.trans status
      · cases pending.symm.trans status
      · exact attempts ▸ Nat.zero_le _
    · refine sound.rows id row found (free.of_update fun worker proc' => ?_)
      cases proc.symm.trans proc'
  · have next := (Table.insert?_spec inserted).2.2.1
    exact next ▸ Nat.lt_succ_of_lt (sound.known publish member)

theorem Sound.claimed (sound : Sound cfg world) {worker : Dispatcher} {claim : OutboxClaim}
    (proc : world.procs i = .inr worker) (idle : worker.chunk = [] ∧ worker.rest = [])
    (inTime : ∀ j, ∀ leaseUntil ∈ (leasing cfg).lease? (world.procs j), claim.now < leaseUntil) :
    Sound cfg
      { shared := (claimEvents cfg world.shared claim).2
        procs := Function.update world.procs i (.inr
          { worker with
            claim := some claim, rest := (claimEvents cfg world.shared claim).1 }) } ∧
      PublishedKept world.shared (claimEvents cfg world.shared claim).2 := by
  obtain ⟨rows, claims, jobs, history⟩ := claimEvents_claims cfg world.shared claim
  generalize claimEvents cfg world.shared claim = result at claims jobs history ⊢
  obtain ⟨new, after⟩ := result
  simp only at claims jobs history ⊢
  subst jobs
  have takes : (rows.map fun evt => PublishJob.loading evt.id).filterMap (leasing cfg).key? =
      rows.map TransactionOutboxEvent.id := by
    rw [List.filterMap_map]
    exact congrFun (List.filterMap_eq_map (f := TransactionOutboxEvent.id)) rows
  -- An event that somebody holds is not due before its lease ends.
  have free (id : Nat) (taken : id ∈ rows.map TransactionOutboxEvent.id) (j : I) :
      id ∉ (leasing cfg).held (world.procs j) := by
    intro member
    obtain ⟨evt, among, rfl⟩ := List.mem_map.mp taken
    obtain ⟨leaseUntil, lease, row, found, until_end⟩ := sound.apart.leased j evt.id member
    obtain ⟨known, wanted⟩ := claims.wanted evt among
    obtain rfl := Option.some.inj (known.symm.trans found)
    have due := (Bool.and_eq_true_iff.mp wanted).1
    exact absurd (inTime j leaseUntil lease) (not_lt.mpr (until_end claim.now due))
  have found_cases (id : Nat) : after.state.outbox.get? id = world.shared.state.outbox.get? id ∨
      ∃ evt, world.shared.state.outbox.get? id = some evt ∧
        after.state.outbox.get? id = some (leased cfg claim.now evt) := by
    by_cases taken : id ∈ rows.map TransactionOutboxEvent.id
    · obtain ⟨evt, among, rfl⟩ := List.mem_map.mp taken
      exact .inr ⟨evt, (claims.wanted evt among).1, claims.marked evt among⟩
    · exact .inl (claims.others id taken)
  refine ⟨⟨?_, ?_, fun id row found unheld => ?_, ?_⟩, fun id row found status => ?_⟩
  · refine sound.apart.claim idle (takes ▸ claims.apart) (takes ▸ free) ?_ ?_ <;> rw [takes]
    · intro id taken
      obtain ⟨evt, among, rfl⟩ := List.mem_map.mp taken
      refine ⟨leased cfg claim.now evt, claims.marked evt among, fun later due => ?_⟩
      have ends : claim.now + cfg.leaseMs ≤ later := by
        simpa [isEventDue, leased] using (Bool.and_eq_true_iff.mp due).2
      exact ends
    · intro id untaken leaseUntil leased
      obtain ⟨evt, found, due⟩ := leased
      exact ⟨evt, (claims.others id untaken).trans found, due⟩
  · refine Leasing.Jobs.claim idle (fun job member => ?_) fun j worker' proc' job member => ?_
    · obtain ⟨evt, _, rfl⟩ := List.mem_map.mp member
      trivial
    · refine (sound.jobs j worker' proc' job member).untouched fun id busy => ?_
      have holds : id ∈ (leasing cfg).held (world.procs j) := by
        rw [proc']
        exact List.mem_filterMap.mpr ⟨job, member, PublishJob.id?_of_busy? busy⟩
      have untaken : id ∉ rows.map TransactionOutboxEvent.id := fun taken => free id taken j holds
      exact ⟨claims.others id untaken, [], by rw [history, List.append_nil],
        fun _ member => nomatch member⟩
  · have before := unheld.before_claim proc idle
    rw [history]
    rcases found_cases id with same | ⟨evt, stored, marked⟩
    · exact sound.rows id row (same ▸ found) before
    · obtain rfl := Option.some.inj (marked.symm.trans found)
      exact (sound.rows id evt stored before).congr rfl rfl rfl rfl rfl
  · rw [history]
    exact claims.next ▸ sound.known
  · rcases found_cases id with same | ⟨evt, stored, marked⟩
    · exact ⟨row, same.trans found, status⟩
    · obtain rfl := Option.some.inj (stored.symm.trans found)
      exact ⟨_, marked, status⟩

theorem JobSettled.leased {s after : Outbox} {action : PublishAction} {job next : PublishJob}
    {id : Nat} {leaseUntil : Instant} (settled : JobSettled cfg s job)
    (moves : job.Moves cfg action s after next) (holds : job.id? = some id → next.id? = some id)
    (leased : (leasing cfg).Leased s leaseUntil id) : (leasing cfg).Leased after leaseUntil id := by
  obtain ⟨row, found, due⟩ := leased
  by_cases own : job.id? = some id
  · cases moves with
    | dropped | loaded | succeeded | failed | refused | errorRefused => exact ⟨row, found, due⟩
    | saved | errorSaved => cases holds own
    | @lost evt outbox updated =>
      obtain rfl := Option.some.inj own
      obtain ⟨⟨status, _⟩, _⟩ := settled
      refine ⟨evt, written found updated, fun now due => ?_⟩
      simp [isEventDue, status] at due
  · have other : job.busy? ≠ some id := fun busy => own (PublishJob.id?_of_busy? busy)
    exact ⟨row, (moves_untouched moves other).1.trans found, due⟩

theorem JobSettled.known {s after : Outbox} {action : PublishAction} {job next : PublishJob}
    (settled : JobSettled cfg s job) (moves : job.Moves cfg action s after next)
    (known : ∀ publish ∈ s.history, publish.id < s.state.outbox.next) :
    ∀ publish ∈ after.history, publish.id < after.state.outbox.next := by
  cases moves with
  | dropped | loaded | refused | errorRefused => exact known
  | saved updated | lost updated | errorSaved _ updated =>
    exact fun publish member => (Table.update?_spec updated).2.1 ▸ known publish member
  | succeeded | failed =>
    intro publish member
    rcases List.mem_append.mp member with old | new
    · exact known publish old
    · rw [List.mem_singleton.mp new]
      exact Table.fresh _ _ (Table.mem_of_get? settled.1)

theorem Sound.job (sound : Sound cfg world) {worker : Dispatcher} {index : Nat}
    {action : PublishAction} {job next : PublishJob} {after : Outbox}
    (proc : world.procs i = .inr worker) (runs : worker.chunk[index]? = some job)
    (keeps : KeepsOutcome cfg world.shared action job)
    (moves : job.Moves cfg action world.shared after next) :
    Sound cfg
      { shared := after
        procs := Function.update world.procs i (.inr
          { worker with chunk := worker.chunk.set index next }) } ∧
      PublishedKept world.shared after := by
  have settled : JobSettled cfg world.shared job :=
    sound.jobs i worker proc job (List.mem_append_left _ (List.mem_of_getElem? runs))
  refine ⟨⟨?_, ?_, fun id row found free => ?_, ?_⟩, settled.kept keeps moves⟩
  · exact sound.apart.job proc runs (moves_id? moves) fun id holds leaseUntil leased =>
      settled.leased moves holds leased
  · refine sound.jobs.job sound.apart proc runs (fun _ => settled.step ?_ moves) fun other before
      different => before.untouched fun id busy => moves_untouched moves fun own =>
        different id (PublishJob.id?_of_busy? own) (PublishJob.id?_of_busy? busy)
    -- A job that has its event still to load is the only one that holds it.
    rintro id evt rfl found
    refine sound.rows id evt found fun j worker' proc' other member busy => ?_
    obtain rfl := sound.apart.only proc runs rfl j worker' proc' other member
      (PublishJob.id?_of_busy? busy)
    cases busy
  · have still : next.busy? ≠ some id := by
      refine free i _ (Function.update_self i _ world.procs) next ?_
      obtain ⟨bound, _⟩ := List.getElem?_eq_some_iff.mp runs
      exact List.mem_append_left _ (List.mem_set bound next)
    by_cases busy : job.busy? = some id
    · exact settled.released keeps moves busy still found
    · obtain ⟨same, shown, history, others⟩ := moves_untouched moves busy
      rw [same] at found
      obtain rfl := (Table.get?_eq_some.mp found).2
      exact history ▸ (sound.rows _ row found (free.before_job proc runs busy)).append others
  · exact settled.known moves sound.known

theorem Sound.next (sound : Sound cfg world) {worker : Dispatcher}
    (proc : world.procs i = .inr worker)
    (finished : ∀ job ∈ worker.chunk, PublishJob.finished job = true) (n : Nat) :
    Sound cfg
      { shared := world.shared
        procs := Function.update world.procs i (.inr
          { worker with chunk := worker.rest.take n, rest := worker.rest.drop n }) } := by
  have done (job : PublishJob) (member : job ∈ worker.chunk) : job = .done := by
    have ended := finished job member
    cases job <;> first | rfl | cases ended
  refine ⟨?_, sound.jobs.next proc n, fun id row found free => ?_, sound.known⟩
  · exact sound.apart.next proc (fun job member => by rw [done job member]; rfl) n
  · refine sound.rows id row found (free.before_next proc fun job member => ?_)
    rw [done job member]
    exact (Option.some_ne_none id).symm

theorem Sound.fire {after : World I Outbox Process} {action : Action} (sound : Sound cfg world)
    (keeps : Keeps cfg world i action) (fired : (service cfg).fire world i action = some after) :
    Sound cfg after ∧ PublishedKept world.shared after.shared := by
  obtain ⟨shared, next, stepped, rfl⟩ := Machine.fire_eq_some.mp fired
  cases proc : world.procs i with
  | inl producer =>
    rw [proc] at stepped
    obtain ⟨event, next, rfl, rfl, moved⟩ := Machine.either_step_inl.mp stepped
    obtain ⟨row, saved, outbox, inserted, rfl, pending, attempts, unpublished⟩ :=
      enqueueing_inserts moved
    refine ⟨sound.enqueued proc inserted pending attempts unpublished, fun id row found status => ?_⟩
    obtain ⟨member, own⟩ := Table.get?_eq_some.mp found
    exact ⟨row, Table.get?_eq_some.mpr ⟨(Table.mem_insert? inserted).mpr (.inl member), own⟩, status⟩
  | inr worker =>
    rw [proc] at stepped
    obtain ⟨own, next, rfl, rfl, moved⟩ := Machine.either_step_inr.mp stepped
    cases Batches.step_moves moved with
    | claim idle => exact sound.claimed proc idle keeps
    | @job index action job next after runs jobStep =>
      simp only [Keeps, proc] at keeps
      exact sound.job proc runs (keeps job runs) (PublishJob.step_moves jobStep)
    | next finished => exact ⟨sound.next proc finished _, .of_same rfl⟩

end

/-- Nothing has been published, no event has been tried and the dispatchers are idle. -/
structure Starts (start : World I Outbox Process) : Prop where
  unpublished : start.shared.history = []
  fresh : ∀ row ∈ start.shared.state.outbox,
    row.status = .pending ∧ row.attempts = 0 ∧ row.publishedAt = none
  idle : ∀ i worker, start.procs i = .inr worker → worker.chunk = [] ∧ worker.rest = []

omit [DecidableEq I] in
theorem Starts.sound {cfg : OutboxConfig} {start : World I Outbox Process} (starts : Starts start) :
    Sound cfg start where
  apart := .of_idle starts.idle
  jobs i worker proc job member := by simp [Worker.jobs, starts.idle i worker proc] at member
  rows id row found _ := by
    obtain ⟨pending, attempts, unpublished⟩ := starts.fresh row (Table.mem_of_get? found)
    rw [starts.unpublished]
    refine ⟨⟨fun status => ?_, fun status => ?_⟩, fun _ => ⟨unpublished, ?_, ?_⟩⟩
    · cases pending.symm.trans status
    · cases pending.symm.trans status
    · exact attempts ▸ Nat.zero_le _
    · exact fun _ member => absurd member List.not_mem_nil
  known publish member := by simp [starts.unpublished] at member

theorem sound_reaches {cfg : OutboxConfig} {start world : World I Outbox Process}
    (sound : Sound cfg start) (reached : (service cfg).Reaches (Keeps cfg) start world) :
    Sound cfg world :=
  reached.invariant (Sound cfg) sound fun _ _ _ _ sound keeps fired => (sound.fire keeps fired).1

theorem statuses_tell {cfg : OutboxConfig} {start : World I Outbox Process}
    (starts : Starts start) : StatusesTell cfg (Keeps cfg) start where
  told world reached row member :=
    (sound_reaches starts.sound reached).told (Table.get?_of_mem member)
  kept world after reached later := by
    have sound := sound_reaches starts.sound reached
    exact later.related PublishedKept (.of_same rfl) PublishedKept.trans
      fun _ _ _ _ before keeps fired => ((sound_reaches sound before).fire keeps fired).2

/-! ## A lease that ends during a publish -/

def outboxConfig : OutboxConfig where
  leaseMs := 30000
  maxRetries := 15
  initialBackoffMs := 500
  maxBackoffMs := 60000

-- The events of Alice's top-up and two dispatchers.
def twoDispatchers : World Bool Outbox Process where
  shared := { state := fundedTables, history := [] }
  procs _ := .inr { size := 10, claim := none, chunk := [], rest := [] }

theorem twoDispatchers_starts : Starts twoDispatchers where
  unpublished := rfl
  fresh row member := by
    have all : ∀ row ∈ fundedTables.outbox.rows,
        row.status = .pending ∧ row.attempts = 0 ∧ row.publishedAt = none := by decide +kernel
    exact all row member
  idle i worker proc := by
    obtain rfl := Sum.inr.inj proc
    exact ⟨rfl, rfl⟩

def claims (i : Bool) (now : Instant) : List (Bool × Action) :=
  [(i, .inr (.claim { now, limit := 1, locked := [] })), (i, .inr .next)]

def proceeds (i : Bool) (now : Instant) (answer : Except String Unit) : Bool × Action :=
  (i, .inr (.job 0 { answer, save := .saved, message := "", clock := { now, jitter := 0 } }))

-- The first publish outlasts its lease, and the second one succeeds meanwhile.
def publishedMeanwhile : List (Bool × Action) :=
  claims false 1 ++ [proceeds false 1 (.ok ())] ++ claims true 30001 ++
    [proceeds true 30001 (.ok ()), proceeds true 30002 (.ok ()), proceeds true 30003 (.ok ())]

def failsAtLast : List (Bool × Action) :=
  [proceeds false 30004 (.error "request timed out"), proceeds false 30005 (.ok ())]

def statusOf (world : World Bool Outbox Process) (id : Nat) : Option TransactionOutboxStatus :=
  (world.shared.state.outbox.get? id).map TransactionOutboxEvent.status

theorem published_lost : ¬ StatusesTell outboxConfig (fun _ _ _ => True) twoDispatchers := by
  intro tell
  have reached : ((service outboxConfig).run twoDispatchers publishedMeanwhile).map (fun world =>
      (statusOf world 0, ((service outboxConfig).run world failsAtLast).map (statusOf · 0))) =
        some (some .published, some (some .pending)) := by
    decide +kernel
  obtain ⟨world, ran, statuses⟩ := Option.map_eq_some_iff.mp reached
  obtain ⟨before, later⟩ := Prod.mk.inj statuses
  obtain ⟨after, ranLater, last⟩ := Option.map_eq_some_iff.mp later
  obtain ⟨row, found, published⟩ := Option.map_eq_some_iff.mp before
  obtain ⟨row', found', pending⟩ := Option.map_eq_some_iff.mp last
  obtain ⟨kept, stored, still⟩ := tell.kept world after (Machine.Reaches.run .refl ran)
    (Machine.Reaches.run .refl ranLater) 0 row found published
  obtain rfl := Option.some.inj (stored.symm.trans found')
  cases still.symm.trans pending

theorem statuses_tell_twoDispatchers :
    StatusesTell outboxConfig (Keeps outboxConfig) twoDispatchers :=
  statuses_tell twoDispatchers_starts

end Kufi.Workers.Delivery

import Kufi.Notifications.Messages
import Kufi.Workers.AnchoredRows

set_option autoImplicit false

/-!
# Events told to users

The transaction service beside consumers of its events. A delivery hands any
event of the outbox to a consumer, at any time and any number of times.
-/

namespace Kufi.Notifications

open Shared Transactions Settlement Workers

-- A notification with the event that it was created for.
structure Sent where
  payload : EventPayload
  notification : NotificationEntity

abbrev NotifiedState := Tables × List Sent

-- `handleTransactionEvent`, one access to a database at a time.
inductive Delivery where
  | waiting
  | saving (payload : EventPayload)
  | enriching (payload : EventPayload)
  | emailing (payload : EventPayload) (enriched : EnrichedPayload) (target : EmailTarget)

inductive DeliveryAction where
  | deliver (eventId : Nat)
  -- an error ends the handler, and the message is delivered again
  | save (committed : Bool)
  | enrich (readable : Bool)
  | email (answers : EmailAnswers)

def Delivery.step (env : Env) (toLowerCase : String → String) (s : NotifiedState)
    (delivery : Delivery) (action : DeliveryAction) : Option (NotifiedState × Delivery) :=
  match delivery, action with
  | .waiting, .deliver eventId =>
    (s.1.outbox.get? eventId).map fun evt => (s, .saving evt.payload)
  | .saving payload, .save true =>
    some ((s.1, s.2 ++ (notifications payload).map (Sent.mk payload)),
      if payload.eventType = "transaction.chain.completed" then .waiting else .enriching payload)
  | .saving _, .save false => some (s, .waiting)
  | .enriching payload, .enrich readable =>
    let enriched := enrichPayloadForEmail env s.1 readable payload
    some (s, if isInternalTransferCompleted enriched = true then .emailing payload enriched .sender
      else .waiting)
  | .emailing payload enriched target, .email answers =>
    let sent := sendBalanceChangeEmailIfEnabled env toLowerCase enriched target answers
    some ((s.1, s.2 ++ sent.toList.map (Sent.mk payload)),
      if target = .sender then .emailing payload enriched .receiver else .waiting)
  | _, _ => none

abbrev NotifiedProcess := Party ⊕ Delivery

abbrev NotifiedAction := PartyAction ⊕ DeliveryAction

def notified (env : Env) (jsonParse : String → Option Json) (toLowerCase : String → String) :
    Machine NotifiedState NotifiedProcess NotifiedAction :=
  ((serviceAndReads env jsonParse).onFirst (List Sent)).either
    { step := Delivery.step env toLowerCase }

variable {I : Type}

/-- Messages of success are for completed transactions, and none is about a failed one. -/
structure Truthful (world : World I NotifiedState NotifiedProcess) : Prop where
  completed : ∀ sent ∈ world.shared.2, sent.notification.IsSuccess → sent.payload.status = .completed
  failed : ∀ row ∈ world.shared.1.transactions, row.status = .failed →
    ∀ sent ∈ world.shared.2, sent.notification.IsSuccess → sent.payload.transactionId ≠ row.id

/-! ## Which steps tell the truth -/

-- No event says that the transaction is completed.
def Unannounced (s : Tables) (id : Nat) : Prop :=
  ∀ evt ∈ s.outbox.rows, evt.payload.transactionId = id →
    evt.payload.eventType ≠ "transaction.completed"

instance (s : Tables) (id : Nat) : Decidable (Unannounced s id) :=
  inferInstanceAs (Decidable (∀ _ ∈ _, _))

def failedId? (tx : TransactionEntity) : Option Nat :=
  if tx.status = .failed then some tx.id else none

def completedId? (tx : TransactionEntity) : Option Nat :=
  if tx.status = .completed then some tx.id else none

def jobFailing? : ChainJob → Option Nat
  | .saving _ tx => failedId? tx
  | _ => none

def jobAnnouncing? : ChainJob → Option Nat
  | .announce tx => completedId? tx
  | _ => none

-- The transaction that a step saves as FAILED.
def failing? (env : Env) : Party → PartyAction → Option Nat
  | .inl (.inl (.inl (.submit _ held))), .inl (.inl (.inl answers)) =>
    failedId? (submitted answers.partner held.transaction)
  | .inl (.inl (.inl (.saveSimulated held))), _ => some held.transaction.id
  | .inl (.inl (.inl (.anchor held))), .inl (.inl (.inl answers)) =>
    failedId? (anchored env answers.clock answers.chain held.transaction)
  | .inl (.inl (.inl (.release held))), _ => failedId? held.transaction
  | .inl (.inl (.inr cycle)), .inl (.inl (.inr action)) =>
    (cycle.mark? action).bind fun mark =>
      if settlementOutcome? env mark.2.1 = some .failed then some mark.1 else none
  | .inl (.inr worker), .inl (.inr (.job index _)) => worker.chunk[index]?.bind jobFailing?
  | .inr (.saving tx), _ => failedId? tx
  | _, _ => none

-- The transaction whose completion a step announces from an entity saved earlier.
def announcing? : Party → PartyAction → Option Nat
  | .inl (.inl (.inl (.enqueue held))), _ => completedId? held.transaction
  | .inl (.inr worker), .inl (.inr (.job index _)) => worker.chunk[index]?.bind jobAnnouncing?
  | _, _ => none

/-- What every step of a run must meet for the messages to be true. -/
def TellsTruth (env : Env) (world : World I NotifiedState NotifiedProcess) (i : I)
    (action : NotifiedAction) : Prop :=
  match world.procs i, action with
  | .inl party, .inl action =>
    -- nothing fails after its completion was announced, nor is announced after it has failed
    (∀ id ∈ failing? env party action, Unannounced world.shared.1 id) ∧
      ∀ id ∈ announcing? party action, statusAt world.shared.1 id ≠ some .failed
  | .inr .waiting, .inr (.deliver eventId) =>
    ∀ evt ∈ world.shared.1.outbox.get? eventId, evt.payload.eventType ≠ "transaction.pending"
  | _, _ => True

instance (env : Env) (world : World I NotifiedState NotifiedProcess) (i : I)
    (action : NotifiedAction) : Decidable (TellsTruth env world i action) := by
  unfold TellsTruth
  split <;> infer_instance

/-! ## Events and rows after a step -/

/-- The type of an event says the status of its transaction, or that its receipt is ready. -/
def TypedByStatus (payload : EventPayload) : Prop :=
  payload.eventType = "transaction.chain.completed" ∨
    payload.eventType = transactionEventType payload.status

/-- What a step of the service does to the failed rows and to the events. -/
structure Reports (s after : Tables) (fails announces : Option Nat) : Prop where
  rows : ∀ id, statusAt after id = some .failed → statusAt s id = some .failed ∨ fails = some id
  kept : ∀ evt ∈ s.outbox, evt ∈ after.outbox
  typed : ∀ evt ∈ after.outbox, evt ∈ s.outbox ∨ TypedByStatus evt.payload
  events : ∀ evt ∈ after.outbox, evt.payload.eventType = "transaction.completed" →
    evt ∈ s.outbox ∨ statusAt after evt.payload.transactionId ≠ some .failed ∨
      after.transactions = s.transactions ∧ announces = some evt.payload.transactionId

section

variable {env : Env} {jsonParse : String → Option Json} {s after : Tables}
  {tx : TransactionEntity} {fails announces : Option Nat}

theorem Reports.of_rows (silent : after.outbox = s.outbox)
    (rows : ∀ id, statusAt after id = some .failed → statusAt s id = some .failed ∨ fails = some id) :
    Reports s after fails announces where
  rows := rows
  kept _ old := silent ▸ old
  typed _ member := .inl (silent ▸ member)
  events _ member _ := .inl (silent ▸ member)

theorem Reports.refl (s : Tables) (fails announces : Option Nat) :
    Reports s s fails announces :=
  .of_rows rfl fun _ failed => .inl failed

theorem reports_save (saved : s.saveTransaction tx = .ok after) :
    Reports s after (failedId? tx) announces := by
  obtain ⟨_, transactions, updated, rfl⟩ := Tables.saveTransaction_eq_ok.mp saved
  refine .of_rows rfl fun id failed => ?_
  obtain ⟨row, found, status⟩ := Option.map_eq_some_iff.mp failed
  obtain ⟨member, rfl⟩ := Table.get?_eq_some.mp found
  rcases (Table.mem_update? updated).mp member with ⟨old, _⟩ | ⟨rfl, _⟩
  · exact .inl ((congrArg (Option.map _) (Table.get?_of_mem old)).trans (congrArg some status))
  · exact .inr (if_pos status)

theorem reports_enqueue {now : Instant} {aggregateId : Nat} {eventType : String}
    {payload : EventPayload} (enqueued : enqueue now aggregateId eventType payload s = .ok after)
    (typed : TypedByStatus payload)
    (announced : payload.eventType = "transaction.completed" →
      announces = some payload.transactionId) : Reports s after fails announces := by
  obtain ⟨evt, outbox, inserted, rfl⟩ := Tables.insertEvent_eq_ok.mp enqueued
  obtain ⟨rfl, _, _, _⟩ := Table.insert?_spec inserted
  constructor
  case rows => exact fun id failed => .inl failed
  case kept => exact fun other old => (Table.mem_insert? inserted).mpr (.inl old)
  case typed =>
    intro other member
    rcases (Table.mem_insert? inserted).mp member with old | rfl
    · exact .inl old
    · exact .inr typed
  case events =>
    intro other member completed
    rcases (Table.mem_insert? inserted).mp member with old | rfl
    · exact .inl old
    · exact .inr (.inr ⟨rfl, announced completed⟩)

theorem Reports.enqueue {middle : Tables} {now : Instant} {aggregateId : Nat} {eventType : String}
    {payload : EventPayload} (reports : Reports s middle fails announces)
    (enqueued : Transactions.enqueue now aggregateId eventType payload middle = .ok after)
    (typed : TypedByStatus payload)
    (unfailed : payload.eventType = "transaction.completed" →
      statusAt middle payload.transactionId ≠ some .failed) : Reports s after fails announces := by
  obtain ⟨evt, outbox, inserted, rfl⟩ := Tables.insertEvent_eq_ok.mp enqueued
  obtain ⟨rfl, _, _, _⟩ := Table.insert?_spec inserted
  constructor
  case rows => exact reports.rows
  case kept => exact fun other old => (Table.mem_insert? inserted).mpr (.inl (reports.kept other old))
  case typed =>
    intro other member
    rcases (Table.mem_insert? inserted).mp member with old | rfl
    · exact reports.typed other old
    · exact .inr typed
  case events =>
    intro other member completed
    rcases (Table.mem_insert? inserted).mp member with old | rfl
    · exact reports.events other old completed
    · exact .inr (.inl (unfailed completed))

theorem transactionEventType_completed {status : TransactionStatus} :
    transactionEventType status = "transaction.completed" ↔ status = .completed := by
  cases status <;> decide

theorem reports_enqueueTransactionEvent {now : Instant}
    (enqueued : enqueueTransactionEvent now tx s = .ok after) :
    Reports s after fails (completedId? tx) :=
  reports_enqueue enqueued (.inr rfl) fun completed =>
    if_pos (transactionEventType_completed.mp completed)

theorem reports_enqueueChainCompletedEvent {now : Instant}
    (enqueued : enqueueChainCompletedEvent now tx s = .ok after) :
    Reports s after fails announces :=
  reports_enqueue enqueued (.inl rfl) fun (completed : "transaction.chain.completed" = _) =>
    absurd completed (by decide)

/-! ## Steps of the service -/

theorem creation_reports {creation next : Creation} {answers : Answers}
    (stepped : creation.step env s answers = some (after, next)) :
    Reports s after (failing? env (.inl (.inl (.inl creation))) (.inl (.inl (.inl answers))))
      (announcing? (.inl (.inl (.inl creation))) (.inl (.inl (.inl answers)))) := by
  cases Creation.step_moves stepped with
  | failed | source | known | unknown | replay | duplicate | checked => exact .refl _ _ _
  | insert inserted =>
    obtain ⟨_, added⟩ := inserted.row
    obtain ⟨_, _, _, tables⟩ := inserted.tables
    refine .of_rows (by rw [tables]) fun id failed => ?_
    obtain ⟨row, found, status⟩ := Option.map_eq_some_iff.mp failed
    obtain ⟨member, rfl⟩ := Table.get?_eq_some.mp found
    rcases (Table.mem_insert? added).mp member with old | rfl
    · exact .inl ((congrArg (Option.map _) (Table.get?_of_mem old)).trans (congrArg some status))
    · cases inserted.status.symm.trans status
  | submit saved => exact reports_save saved
  | rollback reversed =>
    obtain ⟨_, _, rfl⟩ := rollbackWithdrawalDebit_transactions reversed
    exact .of_rows rfl fun _ failed => .inl failed
  | saveSimulated saved => exact reports_save saved
  | anchor saved => exact reports_save saved
  | @release held _ saved =>
    have reports : Reports s after (failedId? (released answers.releasedAt held.transaction)) none :=
      reports_save saved
    exact reports
  | enqueue enqueued => exact reports_enqueueTransactionEvent enqueued

theorem mark_reports {now : Instant} {id : Nat} {status note : String} {found : Bool}
    (marks : markSettlement env now id status note s = .ok (found, after)) :
    Reports s after (if settlementOutcome? env status = some .failed then some id else none)
      announces := by
  obtain ⟨outcome, known, ⟨_, rfl, _⟩ | ⟨_, tx, middle, transactions, outbox, held, once, updated,
    rfl, enqueued⟩⟩ := markSettlement_effect marks
  · exact .refl _ _ _
  obtain ⟨member, own⟩ := Table.get?_eq_some.mp held
  have sameId : (marked now outcome note tx).id = tx.id :=
    congrArg Terms.id (marked_terms now outcome note tx)
  have looked := Table.get?_update? updated member sameId.symm
  have silent : middle.outbox = s.outbox := by
    rcases once with ⟨rfl, _⟩ | ⟨_, _, _, _, _, _, rfl, _⟩ <;> rfl
  have marking : Reports s { middle with transactions }
      (if settlementOutcome? env status = some .failed then some id else none) announces := by
    refine .of_rows silent fun id' failed => ?_
    rw [statusAt, looked id'] at failed
    split at failed
    next same =>
      right
      have outcomeFailed : outcome.status = .failed :=
        (marked_status ..).symm.trans (Option.some.inj failed)
      rw [known, ← show tx.id = id' from sameId.symm.trans same, show tx.id = id from own]
      cases outcome with
      | settled => cases outcomeFailed
      | failed => exact if_pos rfl
    next => exact .inl failed
  refine marking.enqueue enqueued (.inr rfl) fun completed => ?_
  have status : (marked now outcome note tx).status = .completed :=
    transactionEventType_completed.mp completed
  have own' : statusAt { middle with transactions } (marked now outcome note tx).id =
      some (marked now outcome note tx).status :=
    congrArg (Option.map _) ((looked _).trans (if_pos rfl))
  change statusAt _ (marked now outcome note tx).id ≠ _
  rw [own', status]
  decide

theorem saves_outbox {mark : TransactionEntity → TransactionEntity} {rows : List TransactionEntity}
    (saved : rows.foldlM (fun s tx => s.saveTransaction (mark tx)) s = .ok after) :
    after.outbox = s.outbox := by
  induction rows generalizing s with
  | nil =>
    obtain rfl := Except.ok.inj saved
    rfl
  | cons tx rest ih =>
    obtain ⟨middle, first, later⟩ := bind_eq_ok.mp saved
    rw [ih later]
    obtain ⟨_, _, _, rfl⟩ := Tables.saveTransaction_eq_ok.mp first
    rfl

theorem claim_reports (claim : ChainClaim) :
    Reports s (claimBatch env s claim).2 fails announces := by
  obtain ⟨rows, claims, _⟩ := claimBatch_claims env s claim
  have silent : (claimBatch env s claim).2.outbox = s.outbox := by
    unfold claimBatch
    split
    next claimedIds after done =>
      obtain ⟨_, saved, same⟩ := bind_eq_ok.mp done
      obtain ⟨_, rfl⟩ := Prod.mk.inj (Except.ok.inj same)
      exact saves_outbox saved
    next => rfl
  refine .of_rows silent fun id failed => .inl ?_
  by_cases taken : id ∈ rows.map Row.id
  · obtain ⟨tx, among, rfl⟩ := List.mem_map.mp taken
    rw [statusAt, claims.marked tx among] at failed
    rw [statusAt, (claims.wanted tx among).1]
    exact failed
  · rwa [statusAt, claims.others id taken] at failed

theorem job_reports {job next : ChainJob} {action : ChainJobAction}
    (moves : ChainJob.Moves env action s job after next) :
    Reports s after (jobFailing? job) (jobAnnouncing? job) := by
  cases moves with
  | loaded | missing | anchored | receipt | refused => exact .refl _ _ _
  | saved saved => exact reports_save saved
  | announcedChain enqueued => exact reports_enqueueChainCompletedEvent enqueued
  | announced enqueued => exact reports_enqueueTransactionEvent enqueued

theorem read_reports {read next : ReceiptRead} {action : ReceiptAction}
    (stepped : read.step jsonParse s action = some (after, next)) :
    Reports s after (failing? env (.inr read) (.inr action)) announces := by
  rcases ReceiptRead.step_saves stepped with rfl | ⟨tx, rfl, saved⟩
  · exact .refl _ _ _
  · exact reports_save saved

theorem party_reports {party next : Party} {action : PartyAction}
    (stepped : (serviceAndReads env jsonParse).step s party action = some (after, next)) :
    Reports s after (failing? env party action) (announcing? party action) := by
  rcases party with ((creation | cycle) | worker) | read
  · obtain ⟨_, _, rfl, rfl, served⟩ := Machine.either_step_inl.mp stepped
    obtain ⟨_, _, rfl, rfl, moved⟩ := Machine.either_step_inl.mp served
    obtain ⟨_, _, rfl, rfl, creationStep⟩ := Machine.either_step_inl.mp moved
    exact creation_reports creationStep
  · obtain ⟨_, _, rfl, rfl, served⟩ := Machine.either_step_inl.mp stepped
    obtain ⟨_, _, rfl, rfl, moved⟩ := Machine.either_step_inl.mp served
    obtain ⟨action, _, rfl, rfl, cycleStep⟩ := Machine.either_step_inr.mp moved
    rcases SettlementCycle.step_marks cycleStep with rfl | ⟨id, status, note, _, _, marks, done⟩
    · exact .refl _ _ _
    · have fails : failing? env (.inl (.inl (.inr cycle))) (.inl (.inl (.inr action))) =
          if settlementOutcome? env status = some .failed then some id else none := by
        unfold failing?
        dsimp only
        rw [marks]
        rfl
      rw [fails]
      exact mark_reports done
  · obtain ⟨_, _, rfl, rfl, served⟩ := Machine.either_step_inl.mp stepped
    obtain ⟨action, _, rfl, rfl, workerStep⟩ := Machine.either_step_inr.mp served
    cases Batches.step_moves workerStep with
    | claim => exact claim_reports _
    | @job index _ job _ _ runs jobStep =>
      have reports := job_reports (ChainJob.step_moves jobStep)
      unfold failing? announcing?
      dsimp only
      rw [runs]
      exact reports
    | next => exact .refl _ _ _
  · obtain ⟨_, _, rfl, rfl, readStep⟩ := Machine.either_step_inr.mp stepped
    exact read_reports readStep

end

/-! ## Runs -/

def Stored (s : Tables) (payload : EventPayload) : Prop :=
  ∃ evt ∈ s.outbox, evt.payload = payload

/-- The events that a consumer works on are not of a pending transaction. -/
def Delivery.Holds (s : Tables) : Delivery → Prop
  | .waiting => True
  | .saving payload | .enriching payload =>
    Stored s payload ∧ payload.eventType ≠ "transaction.pending"
  | .emailing payload _ _ => Stored s payload ∧ payload.eventType = "transaction.completed"

structure Told (s : NotifiedState) : Prop where
  typed : ∀ evt ∈ s.1.outbox, TypedByStatus evt.payload
  unfailed : ∀ id, statusAt s.1 id = some .failed → Unannounced s.1 id
  sent : ∀ sent ∈ s.2, sent.notification.IsSuccess →
    Stored s.1 sent.payload ∧ sent.payload.eventType = "transaction.completed"

section

variable {env : Env} {jsonParse : String → Option Json} {toLowerCase : String → String}
  {s after : NotifiedState} {delivery next : Delivery} {action : DeliveryAction}
  {payload : EventPayload}

theorem Stored.mono {s after : Tables} (kept : ∀ evt ∈ s.outbox, evt ∈ after.outbox)
    (stored : Stored s payload) : Stored after payload := by
  obtain ⟨evt, member, same⟩ := stored
  exact ⟨evt, kept evt member, same⟩

theorem Delivery.Holds.mono {s after : Tables} (kept : ∀ evt ∈ s.outbox, evt ∈ after.outbox)
    (holds : delivery.Holds s) : delivery.Holds after := by
  cases delivery with
  | waiting => trivial
  | saving => exact ⟨holds.1.mono kept, holds.2⟩
  | enriching => exact ⟨holds.1.mono kept, holds.2⟩
  | emailing => exact ⟨holds.1.mono kept, holds.2⟩

theorem TypedByStatus.completed (typed : TypedByStatus payload)
    (pending : payload.eventType ≠ "transaction.pending")
    (failed : payload.eventType ≠ "transaction.failed")
    (unconfirmed : payload.eventType ≠ "transaction.chain.completed") :
    payload.eventType = "transaction.completed" := by
  have told := typed.resolve_left unconfirmed
  cases status : payload.status with
  | pending => exact absurd (told.trans (by rw [status]; rfl)) pending
  | completed => exact told.trans (by rw [status]; rfl)
  | failed => exact absurd (told.trans (by rw [status]; rfl)) failed
  | blocked => exact absurd (told.trans (by rw [status]; rfl)) pending

theorem Told.add (told : Told s) {notes : List NotificationEntity} (stored : Stored s.1 payload)
    (completed : ∀ note ∈ notes, note.IsSuccess → payload.eventType = "transaction.completed") :
    Told (s.1, s.2 ++ notes.map (Sent.mk payload)) := by
  refine ⟨told.typed, told.unfailed, fun sent member success => ?_⟩
  rcases List.mem_append.mp member with old | new
  · exact told.sent sent old success
  · obtain ⟨note, among, rfl⟩ := List.mem_map.mp new
    exact ⟨stored, completed note among success⟩

theorem Told.typed_stored (told : Told s) (stored : Stored s.1 payload) : TypedByStatus payload := by
  obtain ⟨evt, member, rfl⟩ := stored
  exact told.typed evt member

theorem Told.deliver (told : Told s) (holds : delivery.Holds s.1)
    (truth : ∀ eventId, delivery = .waiting → action = .deliver eventId →
      ∀ evt ∈ s.1.outbox.get? eventId, evt.payload.eventType ≠ "transaction.pending")
    (stepped : delivery.step env toLowerCase s action = some (after, next)) :
    Told after ∧ next.Holds after.1 ∧ after.1 = s.1 := by
  cases delivery with
  | waiting =>
    cases action with
    | deliver eventId =>
      obtain ⟨evt, found, same⟩ := Option.map_eq_some_iff.mp stepped
      obtain ⟨rfl, rfl⟩ := Prod.mk.inj same
      have stored : Stored s.1 evt.payload := ⟨evt, Table.mem_of_get? found, rfl⟩
      exact ⟨told, ⟨stored, truth eventId rfl rfl evt found⟩, rfl⟩
    | _ => cases stepped
  | saving payload =>
    obtain ⟨stored, pending⟩ := holds
    cases action with
    | save committed =>
      cases committed with
      | true =>
        obtain ⟨rfl, rfl⟩ := Prod.mk.inj (Option.some.inj stepped)
        refine ⟨told.add stored fun note member success => ?_, ?_, rfl⟩
        · obtain ⟨failed, unconfirmed⟩ := notifications_success member success
          exact (told.typed_stored stored).completed pending failed unconfirmed
        · split
          · trivial
          · exact ⟨stored, pending⟩
      | false =>
        obtain ⟨rfl, rfl⟩ := Prod.mk.inj (Option.some.inj stepped)
        exact ⟨told, trivial, rfl⟩
    | _ => cases stepped
  | enriching payload =>
    obtain ⟨stored, pending⟩ := holds
    cases action with
    | enrich readable =>
      obtain ⟨rfl, rfl⟩ := Prod.mk.inj (Option.some.inj stepped)
      refine ⟨told, ?_, rfl⟩
      split
      next internal =>
        refine ⟨stored, ?_⟩
        simp only [isInternalTransferCompleted, Bool.and_eq_true, decide_eq_true_eq] at internal
        rw [← internal.1.1.1, enrichPayloadForEmail_eventType]
      next => trivial
    | _ => cases stepped
  | emailing payload enriched target =>
    cases action with
    | email answers =>
      obtain ⟨rfl, rfl⟩ := Prod.mk.inj (Option.some.inj stepped)
      refine ⟨told.add holds.1 fun _ _ _ => holds.2, ?_, rfl⟩
      split
      · exact holds
      · trivial
    | _ => cases stepped

theorem Told.service {tables : Tables} {party : Party} {partyAction : PartyAction} (told : Told s)
    (fails : ∀ id ∈ failing? env party partyAction, Unannounced s.1 id)
    (announces : ∀ id ∈ announcing? party partyAction, statusAt s.1 id ≠ some .failed)
    (reports : Reports s.1 tables (failing? env party partyAction) (announcing? party partyAction)) :
    Told (tables, s.2) := by
  constructor
  case typed =>
    intro evt member
    rcases reports.typed evt member with old | typed
    · exact told.typed evt old
    · exact typed
  case unfailed =>
    intro id failed evt member own completed
    subst own
    rcases reports.events evt member completed with old | unfailed | ⟨rows, announced⟩
    · rcases reports.rows _ failed with before | fails'
      · exact told.unfailed _ before evt old rfl completed
      · exact fails _ fails' evt old rfl completed
    · exact unfailed failed
    · rw [statusAt, rows] at failed
      exact announces _ announced failed
  case sent =>
    intro sent member success
    obtain ⟨stored, completed⟩ := told.sent sent member success
    exact ⟨stored.mono reports.kept, completed⟩

end

def ProcessHolds (s : NotifiedState) (_ : I) : NotifiedProcess → Prop
  | .inl _ => True
  | .inr delivery => delivery.Holds s.1

/-- Nothing has been announced or told, and the consumers wait for events. -/
structure Silent (start : World I NotifiedState NotifiedProcess) : Prop where
  outbox : start.shared.1.outbox = .empty
  sent : start.shared.2 = []
  waiting : ∀ i delivery, start.procs i = .inr delivery → delivery = .waiting

section

variable [DecidableEq I] {env : Env} {jsonParse : String → Option Json}
  {toLowerCase : String → String} {start world : World I NotifiedState NotifiedProcess}

omit [DecidableEq I] in
theorem Silent.told (silent : Silent start) : Told start.shared := by
  have none (evt : TransactionOutboxEvent) : evt ∉ start.shared.1.outbox := by
    rw [silent.outbox]
    exact Table.not_mem_empty evt
  refine ⟨fun evt member => absurd member (none evt), fun _ _ evt member => ?_, ?_⟩
  · exact absurd member (none evt)
  · rw [silent.sent]
    exact fun _ member => nomatch member

omit [DecidableEq I] in
theorem Told.truthful (told : Told world.shared) : Truthful world := by
  constructor
  · intro sent member success
    obtain ⟨⟨evt, stored, same⟩, completed⟩ := told.sent sent member success
    have typed := told.typed evt stored
    rw [same] at typed
    rcases typed with chain | status
    · rw [completed] at chain
      exact absurd chain (by decide)
    · exact transactionEventType_completed.mp (status.symm.trans completed)
  · intro row member failed sent among success own
    obtain ⟨⟨evt, stored, same⟩, completed⟩ := told.sent sent among success
    have status : statusAt world.shared.1 row.id = some .failed :=
      (congrArg (Option.map _) (Table.get?_of_mem member)).trans (congrArg some failed)
    exact told.unfailed row.id status evt stored (same ▸ own) (same ▸ completed)

theorem notifications_truthful (silent : Silent start)
    (reached : (notified env jsonParse toLowerCase).Reaches (TellsTruth env) start world) :
    Truthful world := by
  refine (reached.assertions Told ProcessHolds ⟨silent.told, fun i => ?_⟩ ?_).1.truthful
  · cases proc : start.procs i with
    | inl party => trivial
    | inr delivery =>
      obtain rfl := silent.waiting i delivery proc
      trivial
  · intro world i action shared proc told holds truth stepped
    have others (kept : ∀ evt ∈ world.shared.1.outbox, evt ∈ shared.1.outbox) (j : I)
        (_ : j ≠ i) : ProcessHolds shared j (world.procs j) := by
      have before := holds j
      cases other : world.procs j with
      | inl party => trivial
      | inr delivery =>
        rw [other] at before
        exact Delivery.Holds.mono kept before
    have own := holds i
    unfold TellsTruth at truth
    cases party : world.procs i with
    | inl party =>
      rw [party] at stepped
      obtain ⟨partyAction, next, rfl, rfl, served⟩ := Machine.either_step_inl.mp stepped
      obtain ⟨moved, same⟩ := Machine.onFirst_step.mp served
      have reports := party_reports moved
      rw [party] at truth
      have told' := told.service truth.1 truth.2 reports
      rw [← same] at told'
      exact ⟨told', trivial, others reports.kept⟩
    | inr delivery =>
      rw [party] at stepped own
      obtain ⟨deliveryAction, next, rfl, rfl, delivered⟩ := Machine.either_step_inr.mp stepped
      obtain ⟨told', next', same⟩ := told.deliver own (fun eventId waits gives => by
        subst waits gives
        rw [party] at truth
        exact truth) delivered
      exact ⟨told', next', others fun evt member => same ▸ member⟩

end

/-! ## A top-up that fails -/

def aliceTopupRequest : CreationRequest :=
  .topup
    { idempotencyKey := "topup"
      userId := alice
      fundingSourceId := bankAccount
      amount := 100
      currency := "VND"
      memo := ""
      positive := by decide }

-- A request, a settlement cycle and a consumer.
def topupBesideConsumer : World (Fin 3) NotifiedState NotifiedProcess where
  shared := (Tables.initial [aliceSource], [])
  procs i :=
    if i = 0 then .inl (.inl (.inl (.inl (.source aliceTopupRequest))))
    else if i = 1 then .inl (.inl (.inl (.inr .start)))
    else .inr .waiting

def topupCreated : List (Fin 3 × NotifiedAction) :=
  List.replicate 6 (0, .inl (.inl (.inl (.inl accepted))))

def cycles (action : CycleAction) : Fin 3 × NotifiedAction :=
  (1, .inl (.inl (.inl (.inr action))))

def topupChecked (status : String) : List (Fin 3 × NotifiedAction) :=
  [cycles (.list 10),
    cycles (.process 0 { check := .ok { status, partnerMessage := "" }, markedAt := 1 }),
    cycles (.process 0 { check := .error "", markedAt := 1 })]

def told (eventId : Nat) : List (Fin 3 × NotifiedAction) :=
  [(2, .inr (.deliver eventId)), (2, .inr (.save true))]

theorem topupBesideConsumer_silent : Silent topupBesideConsumer where
  outbox := rfl
  sent := rfl
  waiting i delivery proc := by
    unfold topupBesideConsumer at proc
    dsimp only at proc
    split at proc
    next => cases proc
    next =>
      split at proc
      next => cases proc
      next => exact (Sum.inr.inj proc).symm

-- A message of success for an event of no completed transaction, which has failed by now.
def falselyTold (s : NotifiedState) : Bool :=
  s.2.any fun sent => decide (sent.notification.IsSuccess ∧ sent.payload.status ≠ .completed) &&
    s.1.transactions.rows.any fun row =>
      decide (row.status = .failed ∧ sent.payload.transactionId = row.id)

-- One run after which neither half of it holds.
theorem pending_told_as_success :
    ¬ ∀ (labels : List (Fin 3 × NotifiedAction)) (world : World (Fin 3) NotifiedState NotifiedProcess),
      (notified sampleEnv parseJson id).run topupBesideConsumer labels = some world →
        (∀ sent ∈ world.shared.2, sent.notification.IsSuccess → sent.payload.status = .completed) ∨
          ∀ row ∈ world.shared.1.transactions, row.status = .failed →
            ∀ sent ∈ world.shared.2, sent.notification.IsSuccess →
              sent.payload.transactionId ≠ row.id := by
  intro truthful
  have ran : (((notified sampleEnv parseJson id).run topupBesideConsumer
      (topupCreated ++ told 0 ++ topupChecked "FAILED")).map fun world =>
        falselyTold world.shared) = some true := by decide +kernel
  obtain ⟨world, ran, seen⟩ := Option.map_eq_some_iff.mp ran
  simp only [falselyTold, List.any_eq_true, Bool.and_eq_true, decide_eq_true_eq] at seen
  obtain ⟨sent, member, ⟨success, incomplete⟩, row, stored, failed, own⟩ := seen
  rcases truthful _ world ran with completed | unfailed
  · exact incomplete (completed sent member success)
  · exact unfailed row stored failed sent member success own

theorem notifications_truthful_settled :
    ∃ world, (notified sampleEnv parseJson id).run topupBesideConsumer
        (topupCreated ++ topupChecked "SETTLED" ++ told 1) = some world ∧ Truthful world := by
  have reached : ((notified sampleEnv parseJson id).checkedRun (TellsTruth sampleEnv)
      topupBesideConsumer (topupCreated ++ topupChecked "SETTLED" ++ told 1)).isSome := by
    decide +kernel
  obtain ⟨world, ran⟩ := Option.isSome_iff_exists.mp reached
  have runs := Machine.Runs.checked .nil ran
  exact ⟨world, runs.run, notifications_truthful topupBesideConsumer_silent runs.reaches⟩

end Kufi.Notifications

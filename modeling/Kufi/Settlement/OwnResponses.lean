import Kufi.Settlement.LostOutcomes
import Kufi.Transactions.Idempotency

set_option autoImplicit false

/-!
# Responses about the caller's payment

A creation answers with the row it finds under its key or with the one it has
inserted. Only the inserted one is sure to be the payment that was asked for.
-/

namespace Kufi.Settlement

open Shared Transactions

/-- What a request asks for and what a row records. -/
structure Payment where
  type : TransactionType
  payer : Uuid
  receiver : Option Uuid
  amount : Int
  currency : String
  -- the account outside, if money comes from or goes to one
  account : Option (Option String × Option String)
  deriving DecidableEq

def payment (tx : TransactionEntity) : Payment where
  type := tx.type
  payer := tx.fromUserId
  receiver := tx.toUserId
  amount := tx.amount
  currency := tx.currency
  account := if tx.isExternal then some (tx.externalPartner, tx.externalAccountNo) else none

/-- The payment of a request, once its funding source is known. -/
def requestedPayment (env : Env) : Prepared → Option Payment
  | .transfer req => do
    let payer ← Uuid.parse req.fromUserId
    let receiver ← Uuid.parse req.toUserId
    some
      { type := .transfer
        payer
        receiver
        amount := req.amount
        currency := req.currency
        account := if req.isExternal then some (req.externalPartner, req.externalAccountNo)
          else none }
  | .topup req fundingSource => do
    let payer ← Uuid.parse env.chainExternalSourceUserId
    let receiver ← Uuid.parse req.userId
    some
      { type := .deposit
        payer
        receiver
        amount := req.amount
        currency := req.currency
        account := some (fundingSource.provider, fundingSource.accountRefMasked) }
  | .withdrawal req fundingSource => do
    let payer ← Uuid.parse req.userId
    let receiver ← Uuid.parse env.chainExternalSinkUserId
    some
      { type := .withdrawal
        payer
        receiver
        amount := req.amount
        currency := req.currency
        account := some (fundingSource.provider, fundingSource.accountRefMasked) }

/-- The payment is the one that the request asks for. -/
def Asked (env : Env) (s : Tables) (request : CreationRequest) (payment : Payment) : Prop :=
  ∃ work, Prepared.ofRequest request s = .ok work ∧ requestedPayment env work = some payment

/-- The response describes a row of the payment that the request asks for. -/
def AnsweredOwn (env : Env) (s : Tables) (request : CreationRequest) (response : TransferResponse) :
    Prop :=
  ∃ row ∈ s.transactions, row.id = response.transactionId ∧ Asked env s request (payment row) ∧
    response.type = row.type ∧ response.fromUserId = row.fromUserId ∧
    response.toUserId = row.toUserId

variable {I : Type} [DecidableEq I]

/-- A row that a creation looks up under its key is of the payment that the creation is asked for. -/
def FindsOwn (env : Env) (world : World I Tables Process) (i : I) : Answers ⊕ CycleAction → Prop
  | .inl _ =>
    match world.procs i with
    | .inl (.lookup work) | .inl (.check work) =>
      ∀ row ∈ world.shared.findByIdempotencyKey work.idempotencyKey,
        requestedPayment env work = some (payment row)
    | _ => True
  | .inr _ => True

instance (env : Env) (world : World I Tables Process) (i : I) (action : Answers ⊕ CycleAction) :
    Decidable (FindsOwn env world i action) := by
  unfold FindsOwn
  split
  · split <;> infer_instance
  · infer_instance

/-! ## Payments in a step -/

def identified (tx : TransactionEntity) : Nat × Payment := (tx.id, payment tx)

theorem identified_submitted (answer : PartnerAnswer) (tx : TransactionEntity) :
    identified (submitted answer tx) = identified tx := by
  unfold submitted
  split
  · simp only
    split <;> rfl
  · rfl

theorem identified_reconciled (tx : TransactionEntity) :
    identified (reconcileBusinessStatusAfterChainUpdate tx) = identified tx := by
  unfold reconcileBusinessStatusAfterChainUpdate
  split_ifs <;> rfl

theorem identified_anchored (env : Env) (clock : Clock) (answer : ChainAnswer)
    (tx : TransactionEntity) : identified (anchored env clock answer tx) = identified tx := by
  cases answer with
  | error message => rfl
  | ok response =>
    simp only [anchored, applyChainResult]
    split_ifs
    · rw [identified_reconciled]
      rfl
    · rfl
    · rfl

theorem identified_marked (now : Instant) (outcome : SettlementOutcome) (note : String)
    (tx : TransactionEntity) : identified (marked now outcome note tx) = identified tx := by
  cases outcome <;> simp only [marked, markedSettled, markedFailed, releaseToChain] <;>
    split <;> rfl

theorem identified_fixed : Fixed identified where
  id _ _ same := congrArg Prod.fst same
  submitted := identified_submitted
  simulatedFailure _ := rfl
  anchored := identified_anchored
  released _ _ := rfl

theorem insert_payment {env : Env} {now : Instant} {work : Prepared} {held : Held}
    {s after : Tables} (done : work.insert env now s = .ok (held, after)) :
    requestedPayment env work = some (payment held.transaction) := by
  cases work with
  | transfer req =>
    simp only [Prepared.insert, insertTransfer, bind_eq_ok, Prod.exists] at done
    obtain ⟨locked, opened, _, rest⟩ := done
    split at rest
    next => cases rest
    next =>
      split_ifs at rest
      simp only [bind_eq_ok, Prod.exists, parseUuid_eq_ok, Tables.insertTransaction_eq_ok] at rest
      obtain ⟨_, _, receiver, _, _, fromUserId, parsed, toUserId, parsed', savedTx, _,
        ⟨_, _, inserted, _⟩, _, _, last⟩ := rest
      have shape := (Table.insert?_spec inserted).1
      have own : held.transaction = savedTx := by
        split at last
        next =>
          obtain ⟨rfl, _⟩ := Prod.mk.inj (Except.ok.inj last)
          rfl
        next =>
          obtain ⟨_, _, returned⟩ := bind_eq_ok.mp last
          obtain ⟨rfl, _⟩ := Prod.mk.inj (Except.ok.inj returned)
          rfl
      rw [own, shape]
      simp only [requestedPayment, parsed, parsed', Option.bind_eq_bind, Option.bind_some]
      rfl
  | topup req fundingSource =>
    obtain ⟨⟨persisted, opened⟩, inserted, same⟩ := map_eq_ok.mp done
    obtain ⟨rfl, rfl⟩ := Prod.mk.inj same
    simp only [insertTopupIntent, bind_eq_ok, Prod.exists, parseUuid_eq_ok] at inserted
    obtain ⟨userId, parsed, wallet, _, _, rest⟩ := inserted
    split_ifs at rest
    simp only [bind_eq_ok, Prod.exists, parseUuid_eq_ok, Tables.insertTransaction_eq_ok] at rest
    obtain ⟨source, parsed', savedTx, _, ⟨_, _, added, _⟩, last⟩ := rest
    obtain ⟨rfl, _⟩ := Prod.mk.inj (Except.ok.inj last)
    rw [(Table.insert?_spec added).1]
    simp only [requestedPayment, parsed, parsed', Option.bind_eq_bind, Option.bind_some]
    rfl
  | withdrawal req fundingSource =>
    obtain ⟨⟨persisted, opened⟩, inserted, same⟩ := map_eq_ok.mp done
    obtain ⟨rfl, rfl⟩ := Prod.mk.inj same
    simp only [insertWithdrawalRequest, bind_eq_ok, parseUuid_eq_ok] at inserted
    obtain ⟨userId, parsed, rest⟩ := inserted
    split at rest
    next => cases rest
    next =>
      split_ifs at rest
      simp only [bind_eq_ok, Prod.exists, parseUuid_eq_ok, Tables.insertTransaction_eq_ok] at rest
      obtain ⟨_, _, sink, parsed', savedTx, _, ⟨_, _, added, _⟩, _, _, last⟩ := rest
      obtain ⟨rfl, _⟩ := Prod.mk.inj (Except.ok.inj last)
      rw [(Table.insert?_spec added).1]
      simp only [requestedPayment, parsed, parsed', Option.bind_eq_bind, Option.bind_some]
      rfl

/-! ## What a creation shows -/

/-- The work of a creation that has not yet got a row. -/
def Creation.work? : Creation → Option Prepared
  | .lookup work | .replay work _ | .check work | .insert work => some work
  | _ => none

/-- The row that a creation holds, or is about to answer with. -/
def Creation.shown? : Creation → Option TransactionEntity
  | .replay _ existing => some existing
  | creation => creation.entity?

section

variable {env : Env} {answers : Answers} {s after : Tables} {creation next : Creation}

theorem work?_of_entity? {tx : TransactionEntity} (holds : creation.entity? = some tx) :
    Creation.work? creation = none := by
  cases creation <;> first | rfl | cases holds

theorem step_work {work : Prepared} (stepped : creation.step env s answers = some (after, next))
    (works : Creation.work? next = some work) :
    (∃ request, creation = .source request ∧ Prepared.ofRequest request s = .ok work) ∨
      Creation.work? creation = some work := by
  cases Creation.step_moves stepped with
  | @source request work' same =>
    rcases Creation.proceed_cases stepped with ⟨_, error, same⟩ | ⟨work', prepared, same⟩
    · cases same
    · obtain rfl := Creation.lookup.inj (Prod.mk.inj same).2
      obtain rfl := Option.some.inj works
      exact .inl ⟨request, rfl, prepared⟩
  | known | unknown | checked => exact .inr works
  | duplicate | insert =>
    rw [work?_of_entity? (Prepared.continued_entity? _ _)] at works
    cases works
  | submit =>
    rw [work?_of_entity? (Prepared.afterSubmit_entity? _ _)] at works
    cases works
  | rollback =>
    rw [work?_of_entity? (Prepared.afterRollback_entity? _ _)] at works
    cases works
  | _ => cases works

/-- Where the row that a creation shows comes from. -/
theorem step_shown {tx : TransactionEntity}
    (stepped : creation.step env s answers = some (after, next))
    (shows : Creation.shown? next = some tx) :
    (∃ work, (creation = .lookup work ∨ creation = .check work) ∧
        s.findByIdempotencyKey work.idempotencyKey = some tx) ∨
      (∃ work, creation = .insert work ∧ next.entity? = some tx ∧
        requestedPayment env work = some (payment tx)) ∨
      ∃ old, creation.entity? = some old ∧ identified tx = identified old := by
  have moves := Creation.step_moves stepped
  by_cases replays : ∃ work existing, next = .replay work existing
  · obtain ⟨work, existing, rfl⟩ := replays
    obtain rfl := Option.some.inj shows
    have none : (Creation.replay work existing).entity? = none := rfl
    generalize same : Creation.replay work existing = after' at moves
    cases moves with
    | known found =>
      obtain ⟨rfl, rfl⟩ := Creation.replay.inj same
      exact .inl ⟨work, .inl rfl, found⟩
    | duplicate | insert =>
      rw [same, Prepared.continued_entity?] at none
      cases none
    | submit =>
      rw [same, Prepared.afterSubmit_entity?] at none
      cases none
    | rollback =>
      rw [same, Prepared.afterRollback_entity?] at none
      cases none
    | _ => cases same
  · have holds : next.entity? = some tx := by
      cases next with
      | replay work existing => exact absurd ⟨work, existing, rfl⟩ replays
      | _ => exact shows
    rcases moves.entity_cases identified_fixed holds with
      ⟨work, same, found⟩ | ⟨work, rfl, inserted⟩ | held
    · exact .inl ⟨work, .inr same, found⟩
    · refine .inr (.inl ⟨work, rfl, holds, ?_⟩)
      rcases Creation.proceed_cases stepped with ⟨_, error, rfl⟩ | ⟨⟨held, tables⟩, done, same⟩
      · cases holds
      · obtain ⟨rfl, rfl⟩ := Prod.mk.inj same
        rw [Prepared.continued_entity?] at holds
        obtain rfl := Option.some.inj holds
        exact insert_payment done
    · exact .inr (.inr held)

theorem answer_response {work : Prepared} {existing : TransactionEntity} {response : TransferResponse}
    (answered : work.answer env existing s = .ok response) :
    ∃ sender receiver, response = mapTransferResponse existing sender receiver := by
  cases work with
  | transfer req =>
    simp only [Prepared.answer, bind_eq_ok, Except.ok.injEq] at answered
    obtain ⟨_, _, _, _, rfl⟩ := answered
    exact ⟨_, _, rfl⟩
  | topup req fundingSource =>
    simp only [Prepared.answer, bind_eq_ok, Except.ok.injEq] at answered
    obtain ⟨_, _, rfl⟩ := answered
    exact ⟨_, _, rfl⟩
  | withdrawal req fundingSource =>
    simp only [Prepared.answer, bind_eq_ok, Except.ok.injEq] at answered
    obtain ⟨_, _, rfl⟩ := answered
    exact ⟨_, _, rfl⟩

/-- A response of success is made of the row that the creation shows. -/
theorem step_response {response : TransferResponse}
    (stepped : creation.step env s answers = some (after, .finished (.ok response))) :
    ∃ tx sender receiver, Creation.shown? creation = some tx ∧
      response = mapTransferResponse tx sender receiver := by
  have none : (Creation.finished (.ok response)).entity? = none := rfl
  generalize same : Creation.finished (.ok response) = next at stepped
  cases Creation.step_moves stepped with
  | @replay work existing result =>
    obtain ⟨_, answered⟩ := Prod.mk.inj (Option.some.inj stepped)
    obtain answered := (Creation.finished.inj answered).trans (Creation.finished.inj same).symm
    obtain ⟨sender, receiver, made⟩ := answer_response answered
    exact ⟨existing, sender, receiver, rfl, made⟩
  | @enqueue held outbox response' =>
    rcases Creation.proceed_cases stepped with ⟨_, error, failed⟩ | ⟨_, _, finished⟩
    · cases failed
    · have made := Creation.finished.inj ((Prod.mk.inj finished).2.trans same.symm)
      exact ⟨held.transaction, _, _, rfl, (Except.ok.inj made).symm⟩
  | duplicate | insert =>
    rw [same, Prepared.continued_entity?] at none
    cases none
  | submit =>
    rw [same, Prepared.afterSubmit_entity?] at none
    cases none
  | rollback =>
    rw [same, Prepared.afterRollback_entity?] at none
    cases none
  | _ => cases same

theorem step_started (stepped : creation.step env s answers = some (after, next))
    (request : CreationRequest) : next ≠ .source request := by
  intro started
  have none : next.entity? = none := by rw [started]; rfl
  cases Creation.step_moves stepped with
  | duplicate | insert =>
    rw [Prepared.continued_entity?] at none
    cases none
  | submit =>
    rw [Prepared.afterSubmit_entity?] at none
    cases none
  | rollback =>
    rw [Prepared.afterRollback_entity?] at none
    cases none
  | _ => cases started

theorem moves_fundingSources (moves : Creation.Moves env answers s creation after next) :
    after.fundingSources = s.fundingSources := by
  have saved {tx : TransactionEntity} (saved : s.saveTransaction tx = .ok after) :
      after.fundingSources = s.fundingSources := by
    obtain ⟨_, transactions, _, rfl⟩ := Tables.saveTransaction_eq_ok.mp saved
    rfl
  cases moves with
  | insert inserted =>
    obtain ⟨_, _, _, rfl⟩ := inserted.tables
    rfl
  | rollback reversed =>
    obtain ⟨_, _, rfl⟩ := rollbackWithdrawalDebit_transactions reversed
    rfl
  | submit done => exact saved done
  | saveSimulated done => exact saved done
  | anchor done => exact saved done
  | release done => exact saved done
  | _ => rfl

theorem ofRequest_congr (same : after.fundingSources = s.fundingSources)
    (request : CreationRequest) : Prepared.ofRequest request after = Prepared.ofRequest request s := by
  cases request <;> simp [Prepared.ofRequest, getActiveFundingSource, same]

theorem marked_has {outcome : SettlementOutcome} {tx : TransactionEntity} {now : Instant}
    {note : String} {value : Nat × Payment} (marking : Marked outcome tx now note s after)
    (has : s.Has identified value) : after.Has identified value := by
  obtain ⟨row, member, rfl⟩ := has
  have looked := Marked.get? marking row.id
  split at looked
  next own =>
    have same : row = tx := by
      have held := marking.held
      rw [own] at held
      exact Option.some.inj ((Table.get?_of_mem member).symm.trans held)
    refine ⟨_, (Table.get?_eq_some.mp looked).1, ?_⟩
    rw [identified_marked, same]
  next => exact ⟨row, (Table.get?_eq_some.mp (looked.trans (Table.get?_of_mem member))).1, rfl⟩

theorem marked_fundingSources {outcome : SettlementOutcome} {tx : TransactionEntity} {now : Instant}
    {note : String} (marking : Marked outcome tx now note s after) :
    after.fundingSources = s.fundingSources := by
  obtain ⟨middle, transactions, outbox, once, _, rfl⟩ := marking.effect
  rcases once with ⟨rfl, _⟩ | ⟨_, _, wallets, ledger, wallet, opened, rfl, _⟩ <;> rfl

end

/-! ## Runs -/

/-- What a creation shows and answers is of the payment that it is asked for. -/
structure Describing (env : Env) (s : Tables) (request : CreationRequest) (creation : Creation) :
    Prop where
  source : ∀ own, creation = .source own → own = request
  work : ∀ work, Creation.work? creation = some work → Prepared.ofRequest request s = .ok work
  shown : ∀ tx, Creation.shown? creation = some tx →
    s.Has identified (identified tx) ∧ Asked env s request (payment tx)
  answered : ∀ response, creation = .finished (.ok response) → AnsweredOwn env s request response

section

variable {env : Env} {requests : I → CreationRequest} {world : World I Tables Process} {i : I}
  {s after : Tables}

theorem Asked.congr {request : CreationRequest} {payment : Payment}
    (same : after.fundingSources = s.fundingSources) (asked : Asked env s request payment) :
    Asked env after request payment := by
  obtain ⟨work, prepared, own⟩ := asked
  exact ⟨work, (ofRequest_congr same request).trans prepared, own⟩

theorem answeredOwn_of_shown {request : CreationRequest} {tx : TransactionEntity}
    {sender receiver : Int} (has : s.Has identified (identified tx))
    (asked : Asked env s request (payment tx)) :
    AnsweredOwn env s request (mapTransferResponse tx sender receiver) := by
  obtain ⟨row, member, same⟩ := has
  obtain ⟨sameId, samePayment⟩ := Prod.mk.inj same
  refine ⟨row, member, sameId, samePayment ▸ asked, ?_, ?_, ?_⟩
  · exact (congrArg Payment.type samePayment).symm
  · exact (congrArg Payment.payer samePayment).symm
  · exact (congrArg Payment.receiver samePayment).symm

theorem AnsweredOwn.mono {request : CreationRequest} {response : TransferResponse}
    (answered : AnsweredOwn env s request response)
    (kept : ∀ value, s.Has identified value → after.Has identified value)
    (same : after.fundingSources = s.fundingSources) : AnsweredOwn env after request response := by
  obtain ⟨row, member, own, asked, type, payer, receiver⟩ := answered
  obtain ⟨row', member', same'⟩ := kept _ ⟨row, member, rfl⟩
  obtain ⟨sameId, samePayment⟩ := Prod.mk.inj same'
  refine ⟨row', member', sameId.trans own, ?_, ?_, ?_, ?_⟩
  · rw [samePayment]
    exact asked.congr same
  · exact type.trans (congrArg Payment.type samePayment).symm
  · exact payer.trans (congrArg Payment.payer samePayment).symm
  · exact receiver.trans (congrArg Payment.receiver samePayment).symm

theorem Describing.mono {request : CreationRequest} {creation : Creation}
    (describing : Describing env s request creation)
    (kept : ∀ value, s.Has identified value → after.Has identified value)
    (same : after.fundingSources = s.fundingSources) : Describing env after request creation where
  source := describing.source
  work work works := (ofRequest_congr same request).trans (describing.work work works)
  shown tx shows := ((describing.shown tx shows).imp (kept _) (Asked.congr same))
  answered response finished := (describing.answered response finished).mono kept same

theorem Creation.shown?_of_entity? {creation : Creation} {tx : TransactionEntity}
    (holds : creation.entity? = some tx) : Creation.shown? creation = some tx := by
  cases creation with
  | replay work existing => cases holds
  | _ => exact holds

theorem step_has {request : CreationRequest} {creation next : Creation} {answers : Answers}
    (describing : Describing env s request creation)
    (stepped : creation.step env s answers = some (after, next)) (value : Nat × Payment)
    (has : s.Has identified value) : after.Has identified value :=
  (Creation.step_moves stepped).has identified_fixed
    (fun tx holds => (describing.shown tx (Creation.shown?_of_entity? holds)).1) has

theorem Describing.step {request : CreationRequest} {creation next : Creation} {answers : Answers}
    (describing : Describing env s request creation)
    (safe : ∀ work, creation = .lookup work ∨ creation = .check work →
      ∀ row, s.findByIdempotencyKey work.idempotencyKey = some row →
        requestedPayment env work = some (payment row))
    (stepped : creation.step env s answers = some (after, next)) :
    Describing env after request next := by
  have same := moves_fundingSources (Creation.step_moves stepped)
  have kept := step_has describing stepped
  constructor
  · rintro own rfl
    exact absurd rfl (step_started stepped own)
  · intro work works
    rw [ofRequest_congr same]
    rcases step_work stepped works with ⟨own, rfl, prepared⟩ | works
    · exact describing.source own rfl ▸ prepared
    · exact describing.work work works
  · intro tx shows
    rcases step_shown stepped shows with ⟨work, at_work, found⟩ | ⟨work, rfl, holds, own⟩ |
      ⟨old, holds, own⟩
    · have works : Creation.work? creation = some work := by
        rcases at_work with rfl | rfl <;> rfl
      have asked : Asked env s request (payment tx) :=
        ⟨work, describing.work work works, safe work at_work tx found⟩
      exact ⟨kept _ ⟨tx, (Table.byKey_eq_some.mp found).1, rfl⟩, asked.congr same⟩
    · have has := (Creation.step_moves stepped).entityHas identified_fixed
        (fun tx holds => (describing.shown tx (Creation.shown?_of_entity? holds)).1) holds
      exact ⟨has, Asked.congr same ⟨work, describing.work work rfl, own⟩⟩
    · obtain ⟨has, asked⟩ := describing.shown old (Creation.shown?_of_entity? holds)
      refine ⟨?_, ?_⟩
      · rw [own]
        exact kept _ has
      · have samePayment : payment tx = payment old := congrArg Prod.snd own
        rw [samePayment]
        exact asked.congr same
  · rintro response rfl
    obtain ⟨tx, sender, receiver, shows, rfl⟩ := step_response stepped
    obtain ⟨has, asked⟩ := describing.shown tx shows
    exact answeredOwn_of_shown (kept _ has) (asked.congr same)

/-- Every process is a creation at its first step, or a settlement cycle. -/
def Requested (requests : I → CreationRequest) (start : World I Tables Process) : Prop :=
  ∀ i creation, start.procs i = .inl creation → creation = .source (requests i)

omit [DecidableEq I] in
theorem Requested.describing {start : World I Tables Process}
    (requested : Requested requests start) :
    ∀ i creation, start.procs i = .inl creation →
      Describing env start.shared (requests i) creation := by
  intro i creation stage
  obtain rfl := requested i creation stage
  constructor
  · rintro own same
    exact (Creation.source.inj same).symm
  · exact fun _ none => nomatch none
  · exact fun _ none => nomatch none
  · exact fun _ finished => nomatch finished

theorem cycle_kept {cycle next : SettlementCycle} {action : CycleAction}
    (stepped : cycle.step env s action = some (after, next)) :
    (∀ value, s.Has identified value → after.Has identified value) ∧
      after.fundingSources = s.fundingSources := by
  rcases SettlementCycle.step_effect stepped with
    rfl | ⟨_, _, _, _, _, tx, _, _, _, marking⟩
  · exact ⟨fun _ has => has, rfl⟩
  · exact ⟨fun _ has => marked_has marking has, marked_fundingSources marking⟩

theorem describing_fire {after : World I Tables Process} {action : Answers ⊕ CycleAction}
    (describing : ∀ i creation, world.procs i = .inl creation →
      Describing env world.shared (requests i) creation)
    (safe : FindsOwn env world i action)
    (fired : (processes env).fire world i action = some after) :
    ∀ j creation, after.procs j = .inl creation →
      Describing env after.shared (requests j) creation := by
  obtain ⟨shared, proc, stepped, rfl⟩ := Machine.fire_eq_some.mp fired
  cases stage : world.procs i with
  | inl creation =>
    rw [stage] at stepped
    obtain ⟨answers, next, rfl, rfl, moved⟩ := Machine.either_step_inl.mp stepped
    intro j creation' stage'
    simp only [update_inl] at stage'
    split_ifs at stage' with own
    · subst own
      obtain rfl := Sum.inl.inj stage'
      refine (describing j creation stage).step (fun work at_work row found => ?_) moved
      simp only [FindsOwn, stage] at safe
      rcases at_work with rfl | rfl <;> exact safe row found
    · exact (describing j creation' stage').mono (step_has (describing i creation stage) moved)
        (moves_fundingSources (Creation.step_moves moved))
  | inr cycle =>
    rw [stage] at stepped
    obtain ⟨own, next, rfl, rfl, moved⟩ := Machine.either_step_inr.mp stepped
    obtain ⟨kept, same⟩ := cycle_kept moved
    intro j creation' stage'
    by_cases here : j = i
    · subst here
      simp only [Function.update_self] at stage'
      cases stage'
    · simp only [Function.update_of_ne here] at stage'
      exact (describing j creation' stage').mono kept same

/-- Every response of success describes the payment that its own request asks for. -/
theorem responses_describe {start world : World I Tables Process}
    (requested : Requested requests start)
    (reached : (processes env).Reaches (FindsOwn env) start world) :
    ∀ i response, world.procs i = .inl (.finished (.ok response)) →
      AnsweredOwn env world.shared (requests i) response := by
  have describing := reached.invariant (fun world => ∀ i creation, world.procs i = .inl creation →
    Describing env world.shared (requests i) creation) requested.describing
    fun _ _ _ _ describing safe fired => describing_fire describing safe fired
  exact fun i response finished => (describing i _ finished).answered response rfl

end

/-! ## A key of somebody else -/

-- Bob's transfer carries the key of Alice's top-up.
def bobTransferRequest : CreationRequest :=
  .transfer
    { idempotencyKey := "topup"
      requestingUserId := "bbbbbbbb-0000-4000-8000-000000000002"
      fromUserId := "bbbbbbbb-0000-4000-8000-000000000002"
      toUserId := "cccccccc-0000-4000-8000-000000000003"
      amount := 70
      currency := "VND"
      memo := ""
      isExternal := false
      externalPartner := none
      externalAccountNo := none
      requester := rfl
      receiverGiven := by decide
      distinct := by decide
      positive := by decide }

def bothAsk (request : CreationRequest) : World Bool Tables Process where
  shared := fundedTables
  procs := fun _ => .inl (.source request)

theorem bothAsk_requested (request : CreationRequest) :
    Requested (fun _ => request) (bothAsk request) :=
  fun _ _ stage => (Sum.inl.inj stage).symm

-- The transfer is answered with the top-up.
def repliedType : Process → Option TransactionType
  | .inl (.finished (.ok response)) => some response.type
  | _ => none

theorem key_answers_another_payment :
    ¬ ∀ (labels : List (Bool × (Answers ⊕ CycleAction))) (world : World Bool Tables Process),
      (processes sampleEnv).run (bothAsk bobTransferRequest) labels = some world →
        ∀ i response, world.procs i = .inl (.finished (.ok response)) →
          AnsweredOwn sampleEnv world.shared bobTransferRequest response := by
  intro answered
  have finished : ((processes sampleEnv).run (bothAsk bobTransferRequest)
      (List.replicate 3 (false, .inl accepted))).bind (fun world =>
        repliedType (world.procs false)) = some .deposit := by
    decide +kernel
  obtain ⟨world, ran, replied⟩ := Option.bind_eq_some_iff.mp finished
  unfold repliedType at replied
  split at replied
  next response stage =>
    obtain ⟨row, _, _, ⟨work, prepared, asked⟩, sameType, _⟩ :=
      answered _ world ran false response stage
    obtain rfl := Except.ok.inj prepared
    have transfer : (requestedPayment sampleEnv (.transfer _)).map Payment.type =
        some row.type := congrArg (Option.map Payment.type) asked
    rw [← sameType, Option.some.inj replied] at transfer
    exact absurd transfer (by decide)
  next => cases replied

-- One withdrawal is persisted, and the second request is answered with it.
theorem responses_describe_withdrawAgain :
    ∃ world response, (processes sampleEnv).run (bothAsk aliceWithdrawalRequest)
        (withdrawAgain.map fun (i, answers) => (i, .inl answers)) = some world ∧
      world.procs true = .inl (.finished (.ok response)) ∧
      AnsweredOwn sampleEnv world.shared aliceWithdrawalRequest response := by
  have reached : ((processes sampleEnv).checkedRun (FindsOwn sampleEnv)
      (bothAsk aliceWithdrawalRequest)
      (withdrawAgain.map fun (i, answers) => (i, .inl answers))).bind (fun world =>
        repliedType (world.procs true)) = some .withdrawal := by
    decide +kernel
  obtain ⟨world, ran, replied⟩ := Option.bind_eq_some_iff.mp reached
  have runs := Machine.Runs.checked .nil ran
  unfold repliedType at replied
  split at replied
  next response stage =>
    exact ⟨world, response, runs.run, stage, responses_describe
      (bothAsk_requested aliceWithdrawalRequest) runs.reaches true response stage⟩
  next => cases replied

end Kufi.Settlement

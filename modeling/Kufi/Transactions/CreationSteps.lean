import Kufi.Transactions.Insertion
import Kufi.Transactions.Postings

set_option autoImplicit false

/-!
# What a step of a creation does

Every step either leaves the tables alone, inserts the row, saves the entity it
holds, reverses the debit or writes an event.
-/

namespace Kufi.Transactions

open Shared

inductive Creation.Moves (env : Env) (answers : Answers) (s : Tables) :
    Creation → Tables → Creation → Prop
  | failed {creation : Creation} {error : ServiceError} :
      Moves env answers s creation s (.finished (.error error))
  | source {request : CreationRequest} {work : Prepared} (same : work.request = request) :
      Moves env answers s (.source request) s (.lookup work)
  | known {work : Prepared} {existing : TransactionEntity}
      (found : s.findByIdempotencyKey work.idempotencyKey = some existing) :
      Moves env answers s (.lookup work) s (.replay work existing)
  | unknown {work : Prepared} (missing : s.findByIdempotencyKey work.idempotencyKey = none) :
      Moves env answers s (.lookup work) s (.check work)
  | replay {work : Prepared} {existing : TransactionEntity}
      {result : Except ServiceError TransferResponse} :
      Moves env answers s (.replay work existing) s (.finished result)
  | duplicate {work : Prepared} {held : Held}
      (found : s.findByIdempotencyKey work.idempotencyKey = some held.transaction) :
      Moves env answers s (.check work) s (work.continued held)
  | checked {work : Prepared} (missing : s.findByIdempotencyKey work.idempotencyKey = none) :
      Moves env answers s (.check work) s (.insert work)
  | insert {work : Prepared} {held : Held} {after : Tables}
      (inserted : Inserted work s held.transaction after) :
      Moves env answers s (.insert work) after (work.continued held)
  | submit {work : Prepared} {held : Held} {after : Tables}
      (saved : s.saveTransaction (submitted answers.partner held.transaction) = .ok after) :
      Moves env answers s (.submit work held) after
        (work.afterSubmit { held with transaction := submitted answers.partner held.transaction })
  | rollback {work : Prepared} {held : Held} {reasonCode : String} {after : Tables}
      (reversed : rollbackWithdrawalDebit held.transaction reasonCode s = .ok after) :
      Moves env answers s (.rollback work held reasonCode) after (work.afterRollback held)
  | saveSimulated {held : Held} {after : Tables}
      (saved : s.saveTransaction (simulatedFailure held.transaction) = .ok after) :
      Moves env answers s (.saveSimulated held) after
        (.anchor { held with transaction := simulatedFailure held.transaction })
  | anchor {held : Held} {after : Tables}
      (saved : s.saveTransaction
        (anchored env answers.clock answers.chain held.transaction) = .ok after) :
      Moves env answers s (.anchor held) after (.enqueue
        { held with transaction := anchored env answers.clock answers.chain held.transaction })
  | release {held : Held} {after : Tables}
      (saved : s.saveTransaction (released answers.releasedAt held.transaction) = .ok after) :
      Moves env answers s (.release held) after
        (.enqueue { held with transaction := released answers.releasedAt held.transaction })
  | enqueue {held : Held} {outbox : Table TransactionOutboxEvent} {response : TransferResponse}
      (enqueued : enqueueTransactionEvent answers.enqueuedAt held.transaction s =
        .ok { s with outbox }) :
      Moves env answers s (.enqueue held) { s with outbox } (.finished (.ok response))

section

variable {env : Env} {answers : Answers} {s after : Tables} {creation next : Creation}

theorem Prepared.ofRequest_request {request : CreationRequest} {work : Prepared}
    (prepared : Prepared.ofRequest request s = .ok work) : work.request = request := by
  cases request with
  | transfer req =>
    obtain rfl := Except.ok.inj prepared
    rfl
  | topup req =>
    obtain ⟨_, _, rfl⟩ := map_eq_ok.mp prepared
    rfl
  | withdrawal req =>
    obtain ⟨_, _, rfl⟩ := map_eq_ok.mp prepared
    rfl

theorem Prepared.duplicate_transaction {work : Prepared} {dup : TransactionEntity} {held : Held}
    (done : work.duplicate dup s = .ok held) : held.transaction = dup := by
  cases work with
  | transfer req =>
    simp only [Prepared.duplicate, bind_eq_ok, Except.ok.injEq] at done
    obtain ⟨_, _, _, _, rfl⟩ := done
    rfl
  | topup req fundingSource =>
    simp only [Prepared.duplicate, bind_eq_ok, Except.ok.injEq] at done
    obtain ⟨_, _, rfl⟩ := done
    rfl
  | withdrawal req fundingSource =>
    simp only [Prepared.duplicate, bind_eq_ok, Except.ok.injEq] at done
    obtain ⟨_, _, rfl⟩ := done
    rfl

-- A step that goes on only with a value, or else ends the request with an error.
theorem Creation.proceed_cases {A : Type} {result : Except ServiceError A}
    {next' : A → Tables × Creation}
    (stepped : some (Creation.proceed s result next') = some (after, next)) :
    (after = s ∧ ∃ error, next = .finished (.error error)) ∨
      ∃ value, result = .ok value ∧ next' value = (after, next) := by
  obtain same := Option.some.inj stepped
  cases result with
  | error error =>
    obtain ⟨rfl, rfl⟩ := Prod.mk.inj same
    exact .inl ⟨rfl, error, rfl⟩
  | ok value => exact .inr ⟨value, rfl, same⟩

theorem Creation.step_moves (stepped : creation.step env s answers = some (after, next)) :
    Creation.Moves env answers s creation after next := by
  cases creation with
  | source request =>
    rcases proceed_cases stepped with ⟨rfl, _, rfl⟩ | ⟨work, prepared, same⟩
    · exact .failed
    · obtain ⟨rfl, rfl⟩ := Prod.mk.inj same
      exact .source (Prepared.ofRequest_request prepared)
  | lookup work =>
    simp only [Creation.step] at stepped
    cases found : s.findByIdempotencyKey work.idempotencyKey with
    | some existing =>
      simp only [found, Option.some.injEq, Prod.mk.injEq] at stepped
      obtain ⟨rfl, rfl⟩ := stepped
      exact .known found
    | none =>
      simp only [found, Option.some.injEq, Prod.mk.injEq] at stepped
      obtain ⟨rfl, rfl⟩ := stepped
      exact .unknown found
  | replay work existing =>
    obtain ⟨rfl, rfl⟩ := Prod.mk.inj (Option.some.inj stepped)
    exact .replay
  | check work =>
    simp only [Creation.step] at stepped
    cases found : s.findByIdempotencyKey work.idempotencyKey with
    | some dup =>
      simp only [found] at stepped
      rcases proceed_cases stepped with ⟨rfl, _, rfl⟩ | ⟨held, duplicated, same⟩
      · exact .failed
      · obtain ⟨rfl, rfl⟩ := Prod.mk.inj same
        rw [← Prepared.duplicate_transaction duplicated] at found
        exact .duplicate found
    | none =>
      simp only [found, Option.some.injEq, Prod.mk.injEq] at stepped
      obtain ⟨rfl, rfl⟩ := stepped
      exact .checked found
  | insert work =>
    rcases proceed_cases stepped with ⟨rfl, _, rfl⟩ | ⟨⟨held, _⟩, done, same⟩
    · exact .failed
    · obtain ⟨rfl, rfl⟩ := Prod.mk.inj same
      exact .insert (Prepared.insert_inserted done)
  | submit work held =>
    simp only [Creation.step] at stepped
    split at stepped
    next =>
      rcases proceed_cases stepped with ⟨rfl, _, rfl⟩ | ⟨_, saved, same⟩
      · exact .failed
      · obtain ⟨rfl, rfl⟩ := Prod.mk.inj same
        exact .submit saved
    next =>
      obtain ⟨rfl, rfl⟩ := Prod.mk.inj (Option.some.inj stepped)
      exact .failed
  | rollback work held reasonCode =>
    rcases proceed_cases stepped with ⟨rfl, _, rfl⟩ | ⟨_, reversed, same⟩
    · exact .failed
    · obtain ⟨rfl, rfl⟩ := Prod.mk.inj same
      exact .rollback reversed
  | saveSimulated held =>
    rcases proceed_cases stepped with ⟨rfl, _, rfl⟩ | ⟨_, saved, same⟩
    · exact .failed
    · obtain ⟨rfl, rfl⟩ := Prod.mk.inj same
      exact .saveSimulated saved
  | anchor held =>
    rcases proceed_cases stepped with ⟨rfl, _, rfl⟩ | ⟨_, saved, same⟩
    · exact .failed
    · obtain ⟨rfl, rfl⟩ := Prod.mk.inj same
      exact .anchor saved
  | release held =>
    rcases proceed_cases stepped with ⟨rfl, _, rfl⟩ | ⟨_, saved, same⟩
    · exact .failed
    · obtain ⟨rfl, rfl⟩ := Prod.mk.inj same
      exact .release saved
  | enqueue held =>
    rcases proceed_cases stepped with ⟨rfl, _, rfl⟩ | ⟨_, event, same⟩
    · exact .failed
    · obtain ⟨rfl, rfl⟩ := Prod.mk.inj same
      obtain ⟨outbox, enqueued⟩ := enqueueTransactionEvent_isOk answers.enqueuedAt held.transaction s
      rw [enqueued] at event
      obtain rfl := Except.ok.inj event
      exact .enqueue enqueued
  | finished result => cases stepped

end

/-! ## Parts of rows that no save changes -/

def Tables.HasTerms (s : Tables) (terms : Terms) : Prop :=
  ∃ row ∈ s.transactions, row.terms = terms

/-- A part of a row that tells it from others and that the saves of a creation leave alone. -/
structure Fixed {V : Type} (view : TransactionEntity → V) : Prop where
  id : ∀ tx tx' : TransactionEntity, view tx = view tx' → tx.id = tx'.id
  submitted : ∀ answer tx, view (submitted answer tx) = view tx
  simulatedFailure : ∀ tx, view (simulatedFailure tx) = view tx
  anchored : ∀ env clock answer tx, view (anchored env clock answer tx) = view tx
  released : ∀ now tx, view (released now tx) = view tx

theorem terms_fixed : Fixed TransactionEntity.terms where
  id _ _ same := congrArg Terms.id same
  submitted := submitted_terms
  simulatedFailure := simulatedFailure_terms
  anchored := anchored_terms
  released := released_terms

def Tables.Has {V : Type} (view : TransactionEntity → V) (s : Tables) (value : V) : Prop :=
  ∃ row ∈ s.transactions, view row = value

section

variable {V : Type} {view : TransactionEntity → V} {value : V} {s after : Tables}
  {tx tx' : TransactionEntity} {work : Prepared}

theorem Fixed.save (fixed : Fixed view) (has : s.Has view value) (held : s.Has view (view tx))
    (same : view tx' = view tx) (saved : s.saveTransaction tx' = .ok after) :
    after.Has view value := by
  obtain ⟨_, transactions, updated, rfl⟩ := Tables.saveTransaction_eq_ok.mp saved
  obtain ⟨row, member, ofRow⟩ := has
  obtain ⟨old, oldMember, ofOld⟩ := held
  have sameId : Row.id old = Row.id tx' := fixed.id old tx' (ofOld.trans same.symm)
  by_cases own : Row.id row = Row.id tx'
  · have equal : row = old := Table.eq_of_id member oldMember (own.trans sameId.symm)
    refine ⟨tx', (Table.mem_update? updated).mpr (.inr ⟨rfl, old, oldMember, sameId⟩), ?_⟩
    rw [same, ← ofOld, ← equal, ofRow]
  · exact ⟨row, (Table.mem_update? updated).mpr (.inl ⟨member, own⟩), ofRow⟩

theorem Tables.Has.insert (has : s.Has view value) (inserted : Inserted work s tx after) :
    after.Has view value := by
  obtain ⟨row, member, ofRow⟩ := has
  obtain ⟨entity, added⟩ := inserted.row
  exact ⟨row, (Table.mem_insert? added).mpr (.inl member), ofRow⟩

theorem Inserted.has (inserted : Inserted work s tx after) : after.Has view (view tx) := by
  obtain ⟨entity, added⟩ := inserted.row
  exact ⟨tx, (Table.mem_insert? added).mpr (.inr rfl), rfl⟩

theorem Inserted.hasTerms (inserted : Inserted work s tx after) : after.HasTerms tx.terms :=
  inserted.has

end

theorem rollbackWithdrawalDebit_transactions {tx : TransactionEntity} {reasonCode : String}
    {s after : Tables} (reversed : rollbackWithdrawalDebit tx reasonCode s = .ok after) :
    ∃ wallets ledger, after = { s with wallets, ledger } := by
  unfold rollbackWithdrawalDebit at reversed
  split at reversed
  next =>
    obtain rfl := Except.ok.inj reversed
    exact ⟨s.wallets, s.ledger, rfl⟩
  next =>
    rcases rollbackWithdrawalDebitUsingManager_effect reversed with
      ⟨rfl, _⟩ | ⟨_, wallets, ledger, _, rfl, _⟩
    · exact ⟨after.wallets, after.ledger, rfl⟩
    · exact ⟨wallets, ledger, rfl⟩

-- The entity a stage will save from.
def Creation.entity? : Creation → Option TransactionEntity
  | .submit _ held | .rollback _ held _ | .saveSimulated held | .anchor held | .release held
  | .enqueue held => some held.transaction
  | .source _ | .lookup _ | .replay _ _ | .check _ | .insert _ | .finished _ => none

-- The entity of a stage with a save still to come.
def Creation.saving? : Creation → Option TransactionEntity
  | .submit _ held | .rollback _ held _ | .saveSimulated held | .anchor held | .release held =>
    some held.transaction
  | .source _ | .lookup _ | .replay _ _ | .check _ | .insert _ | .enqueue _ | .finished _ => none

theorem Creation.entity?_of_saving? {creation : Creation} {tx : TransactionEntity}
    (holds : creation.saving? = some tx) : creation.entity? = some tx := by
  cases creation <;> first | exact holds | cases holds

theorem Prepared.continued_entity? (work : Prepared) (held : Held) :
    (work.continued held).entity? = some held.transaction := by
  cases work with
  | transfer req =>
    simp only [Prepared.continued]
    split_ifs <;> rfl
  | topup req fundingSource => rfl
  | withdrawal req fundingSource =>
    simp only [Prepared.continued]
    split_ifs <;> rfl

theorem Prepared.afterSubmit_entity? (work : Prepared) (held : Held) :
    (work.afterSubmit held).entity? = some held.transaction := by
  cases work <;> simp only [Prepared.afterSubmit] <;> split_ifs <;> rfl

theorem Prepared.afterRollback_entity? (work : Prepared) (held : Held) :
    (work.afterRollback held).entity? = some held.transaction := by
  cases work with
  | withdrawal req fundingSource =>
    simp only [Prepared.afterRollback]
    split_ifs <;> rfl
  | transfer req => rfl
  | topup req fundingSource => rfl

section

variable {env : Env} {answers : Answers} {s after : Tables} {creation next : Creation}

theorem Creation.Moves.has {V : Type} {view : TransactionEntity → V} {value : V}
    (fixed : Fixed view) (moves : Creation.Moves env answers s creation after next)
    (held : ∀ tx, creation.entity? = some tx → s.Has view (view tx)) (has : s.Has view value) :
    after.Has view value := by
  cases moves with
  | insert inserted => exact has.insert inserted
  | submit saved => exact fixed.save has (held _ rfl) (fixed.submitted ..) saved
  | rollback reversed =>
    obtain ⟨wallets, ledger, rfl⟩ := rollbackWithdrawalDebit_transactions reversed
    exact has
  | saveSimulated saved => exact fixed.save has (held _ rfl) (fixed.simulatedFailure _) saved
  | anchor saved => exact fixed.save has (held _ rfl) (fixed.anchored ..) saved
  | release saved => exact fixed.save has (held _ rfl) (fixed.released ..) saved
  | enqueue => exact has
  | _ => exact has

-- The entity a creation goes on with is a row it has found or inserted, or the one it had.
theorem Creation.Moves.entity_cases {V : Type} {view : TransactionEntity → V}
    {tx : TransactionEntity} (fixed : Fixed view)
    (moves : Creation.Moves env answers s creation after next)
    (holds : next.entity? = some tx) :
    (∃ work, creation = .check work ∧ s.findByIdempotencyKey work.idempotencyKey = some tx) ∨
      (∃ work, creation = .insert work ∧ Inserted work s tx after) ∨
      ∃ old, creation.entity? = some old ∧ view tx = view old := by
  cases moves with
  | duplicate found =>
    rw [Prepared.continued_entity?] at holds
    obtain rfl := Option.some.inj holds
    exact .inl ⟨_, rfl, found⟩
  | insert inserted =>
    rw [Prepared.continued_entity?] at holds
    obtain rfl := Option.some.inj holds
    exact .inr (.inl ⟨_, rfl, inserted⟩)
  | submit saved =>
    rw [Prepared.afterSubmit_entity?] at holds
    obtain rfl := Option.some.inj holds
    exact .inr (.inr ⟨_, rfl, fixed.submitted ..⟩)
  | rollback reversed =>
    rw [Prepared.afterRollback_entity?] at holds
    exact .inr (.inr ⟨tx, holds, rfl⟩)
  | saveSimulated saved =>
    obtain rfl := Option.some.inj holds
    exact .inr (.inr ⟨_, rfl, fixed.simulatedFailure _⟩)
  | anchor saved =>
    obtain rfl := Option.some.inj holds
    exact .inr (.inr ⟨_, rfl, fixed.anchored ..⟩)
  | release saved =>
    obtain rfl := Option.some.inj holds
    exact .inr (.inr ⟨_, rfl, fixed.released ..⟩)
  | _ => cases holds

-- What a row that a creation goes on with shows is in the tables.
theorem Creation.Moves.entityHas {V : Type} {view : TransactionEntity → V}
    {tx : TransactionEntity} (fixed : Fixed view)
    (moves : Creation.Moves env answers s creation after next)
    (held : ∀ tx, creation.entity? = some tx → s.Has view (view tx))
    (holds : next.entity? = some tx) : after.Has view (view tx) := by
  rcases moves.entity_cases fixed holds with ⟨_, _, found⟩ | ⟨_, _, inserted⟩ | ⟨old, own, same⟩
  · exact moves.has fixed held ⟨tx, (Table.byKey_eq_some.mp found).1, rfl⟩
  · exact inserted.has
  · rw [same]
    exact moves.has fixed held (held old own)

theorem Creation.Moves.hasTerms {terms : Terms}
    (moves : Creation.Moves env answers s creation after next)
    (held : ∀ tx, creation.entity? = some tx → s.HasTerms tx.terms) (has : s.HasTerms terms) :
    after.HasTerms terms :=
  moves.has terms_fixed held has

theorem Creation.Moves.entity {tx : TransactionEntity}
    (moves : Creation.Moves env answers s creation after next)
    (held : ∀ tx, creation.entity? = some tx → s.HasTerms tx.terms)
    (holds : next.entity? = some tx) : after.HasTerms tx.terms :=
  moves.entityHas terms_fixed held holds

-- A row is one that was inserted or shows what some row showed before.
theorem Creation.Moves.origin (moves : Creation.Moves env answers s creation after next)
    (held : ∀ tx, creation.entity? = some tx → s.HasTerms tx.terms) {row : TransactionEntity}
    (member : row ∈ after.transactions) :
    s.HasTerms row.terms ∨ ∃ work, creation = .insert work ∧ Inserted work s row after := by
  have saved {tx : TransactionEntity} (own : s.HasTerms tx.terms)
      (done : s.saveTransaction tx = .ok after) : s.HasTerms row.terms := by
    obtain ⟨_, transactions, updated, rfl⟩ := Tables.saveTransaction_eq_ok.mp done
    rcases (Table.mem_update? updated).mp member with ⟨old, _⟩ | ⟨rfl, _⟩
    · exact ⟨row, old, rfl⟩
    · exact own
  cases moves with
  | insert inserted =>
    obtain ⟨entity, added⟩ := inserted.row
    rcases (Table.mem_insert? added).mp member with old | rfl
    · exact .inl ⟨row, old, rfl⟩
    · exact .inr ⟨_, rfl, inserted⟩
  | submit done => exact .inl (saved (by simpa using held _ rfl) done)
  | rollback reversed =>
    obtain ⟨wallets, ledger, rfl⟩ := rollbackWithdrawalDebit_transactions reversed
    exact .inl ⟨row, member, rfl⟩
  | saveSimulated done => exact .inl (saved (by simpa using held _ rfl) done)
  | anchor done => exact .inl (saved (by simpa using held _ rfl) done)
  | release done => exact .inl (saved (by simpa using held _ rfl) done)
  | _ => exact .inl ⟨row, member, rfl⟩

end

/-! ## Requests and keys -/

def Creation.request? : Creation → Option CreationRequest
  | .source request => some request
  | .lookup work | .replay work _ | .check work | .insert work | .submit work _
  | .rollback work _ _ => some work.request
  | .saveSimulated _ | .anchor _ | .release _ | .enqueue _ | .finished _ => none

theorem Prepared.continued_request? {work : Prepared} {held : Held} {request : CreationRequest}
    (serves : (work.continued held).request? = some request) : work.request = request := by
  cases work with
  | transfer req =>
    simp only [Prepared.continued] at serves
    split_ifs at serves
    all_goals first | exact Option.some.inj serves | cases serves
  | topup req fundingSource => exact Option.some.inj serves
  | withdrawal req fundingSource =>
    simp only [Prepared.continued] at serves
    split_ifs at serves <;> exact Option.some.inj serves

theorem Prepared.afterSubmit_request? {work : Prepared} {held : Held} {request : CreationRequest}
    (serves : (work.afterSubmit held).request? = some request) : work.request = request := by
  simp only [Prepared.afterSubmit] at serves
  split_ifs at serves
  · cases work with
    | withdrawal req fundingSource => exact Option.some.inj serves
    | transfer req => cases serves
    | topup req fundingSource => cases serves
  · cases serves

theorem Prepared.afterRollback_request? {work : Prepared} {held : Held} :
    (work.afterRollback held).request? = none := by
  cases work with
  | withdrawal req fundingSource =>
    simp only [Prepared.afterRollback]
    split_ifs <;> rfl
  | transfer req => rfl
  | topup req fundingSource => rfl

theorem Creation.Moves.request {env : Env} {answers : Answers} {s after : Tables}
    {creation next : Creation} {request : CreationRequest}
    (moves : Creation.Moves env answers s creation after next)
    (serves : next.request? = some request) : creation.request? = some request := by
  cases moves with
  | source same =>
    rw [← serves]
    exact congrArg some same.symm
  | known found => exact serves
  | unknown missing => exact serves
  | duplicate found => exact congrArg some (Prepared.continued_request? serves)
  | checked missing => exact serves
  | insert inserted => exact congrArg some (Prepared.continued_request? serves)
  | submit saved => exact congrArg some (Prepared.afterSubmit_request? serves)
  | rollback reversed =>
    rw [Prepared.afterRollback_request?] at serves
    cases serves
  | _ => cases serves

theorem findByIdempotencyKey_ne_none {s : Tables} {key : String} :
    s.findByIdempotencyKey key ≠ none ↔ ∃ terms, s.HasTerms terms ∧ terms.idempotencyKey = key := by
  constructor
  · intro known
    obtain ⟨row, found⟩ := Option.ne_none_iff_exists'.mp known
    obtain ⟨member, own⟩ := Table.byKey_eq_some.mp found
    exact ⟨row.terms, ⟨row, member, rfl⟩, Option.some.inj own⟩
  · rintro ⟨_, ⟨row, member, rfl⟩, rfl⟩ missing
    exact Table.byKey_eq_none.mp missing row member rfl

/-! ## The ledger of a step -/

-- Ledger rows are only added, and `id` is the one transaction they may be added for.
structure LedgerStep (id : Nat) (s after : Tables) : Prop where
  rows : ∃ added, after.ledger.rows = s.ledger.rows ++ added
  apart : ∀ other, other ≠ id → after.books.postings other = s.books.postings other

theorem LedgerStep.refl (id : Nat) (s : Tables) : LedgerStep id s s where
  rows := ⟨[], (List.append_nil _).symm⟩
  apart := fun _ _ => rfl

theorem LedgerStep.credited {id other : Nat} {s after : Tables} (step : LedgerStep id s after)
    (credited : s.findCredit other ≠ none) : after.findCredit other ≠ none := by
  obtain ⟨added, rows⟩ := step.rows
  obtain ⟨entry, found⟩ := Option.ne_none_iff_exists'.mp credited
  simp only [Tables.findCredit, Table.find?] at found
  simp [Tables.findCredit, Table.find?, rows, List.find?_append, found]

theorem findCredit_congr {id : Nat} {s after : Tables}
    (same : after.books.postings id = s.books.postings id) :
    after.findCredit id = none ↔ s.findCredit id = none := by
  rw [findCredit_eq_none, findCredit_eq_none, same]

theorem LedgerStep.known {id : Nat} {s after : Tables} (step : LedgerStep id s after)
    (known : s.Known) (next : s.transactions.next ≤ after.transactions.next)
    (own : id < after.transactions.next) : after.Known := by
  intro other fresh
  rw [step.apart other (by omega)]
  exact known other (by omega)

theorem ledgerStep_of_posted {id : Nat} {direction : LedgerDirection} {amount : Int}
    {userId : Uuid} {currency : String} {wallet : Wallet} {s after : Tables} {opened : Books}
    (loaded : Loaded userId currency wallet s.books opened)
    (posted : Posted id direction amount wallet opened after.books) : LedgerStep id s after := by
  obtain ⟨entry, rows, _⟩ := posted.entry
  refine ⟨⟨[entry], ?_⟩, fun other different => ?_⟩
  · rw [loaded.ledger] at rows
    exact rows
  · rw [posted.postings, if_neg (Ne.symm different), List.append_nil, loaded.postings]

theorem Inserted.ledgerStep {work : Prepared} {s after : Tables} {tx : TransactionEntity}
    (inserted : Inserted work s tx after) : LedgerStep tx.id s after := by
  obtain ⟨added, rows, ofTransaction, _⟩ := inserted.entries
  refine ⟨⟨added, rows⟩, fun other different => ?_⟩
  have none : (added.filter fun entry => entry.transactionId == other) = [] :=
    List.filter_eq_nil_iff.mpr fun entry member => by
      simpa [ofTransaction entry member] using Ne.symm different
  have same : after.books.ledger.rows = s.books.ledger.rows ++ added := rows
  simp [Books.postings, same, none]

-- A new withdrawal has no credit.
theorem Inserted.uncredited {work : Prepared} {s after : Tables} {tx : TransactionEntity}
    (inserted : Inserted work s tx after) (known : s.Known) (withdrawal : work.type = .withdrawal) :
    after.findCredit tx.id = none := by
  obtain ⟨added, rows, _, directions⟩ := inserted.entries
  have fresh : s.findCredit tx.id = none := by
    rw [findCredit_eq_none, known tx.id inserted.id.1.ge]
    exact fun _ member => absurd member List.not_mem_nil
  have debits : ∀ entry ∈ added, entry.direction = .debit := by
    intro entry member
    have among : entry.direction ∈ work.directions := by
      rw [← directions]
      exact List.mem_map_of_mem member
    cases work with
    | withdrawal req fundingSource => simpa [Prepared.directions] using among
    | transfer req => cases withdrawal
    | topup req fundingSource => cases withdrawal
  simp only [Tables.findCredit, Table.find?] at fresh ⊢
  rw [rows, List.find?_append, fresh, Option.none_or, List.find?_eq_none]
  intro entry member
  simp [debits entry member]

theorem rollback_ledgerStep {tx : TransactionEntity} {reasonCode : String} {s after : Tables}
    (reversed : rollbackWithdrawalDebit tx reasonCode s = .ok after) :
    LedgerStep tx.id s after := by
  unfold rollbackWithdrawalDebit at reversed
  split at reversed
  next =>
    obtain rfl := Except.ok.inj reversed
    exact .refl _ _
  next =>
    rcases rollbackWithdrawalDebitUsingManager_effect reversed with
      ⟨rfl, _⟩ | ⟨_, wallets, ledger, wallet, rfl, found, posted⟩
    · exact .refl _ _
    · exact ledgerStep_of_posted (.inl ⟨found, rfl⟩) posted

theorem CreditedOnce.ledgerStep {outcome : SettlementOutcome} {tx : TransactionEntity}
    {s after : Tables} (once : CreditedOnce outcome tx s after) : LedgerStep tx.id s after := by
  rcases once with ⟨rfl, _⟩ | ⟨_, _, wallets, ledger, wallet, opened, rfl, loaded, posted⟩
  · exact .refl _ _
  · exact ledgerStep_of_posted loaded posted

end Kufi.Transactions

import Kufi.Transactions.CreationSteps
import Kufi.Transactions.CreditRule

set_option autoImplicit false

/-!
# Idempotency

Any number of requests with one key and payload run side by side. The unique
index lets one of them insert the row; a request that finds the row inside its
database transaction goes on with it as if it had inserted it.
-/

namespace Kufi.Transactions

open Shared

variable {I : Type} [DecidableEq I]

-- All of them at their first step.
def requested (request : CreationRequest) (start : Tables) : World I Tables Creation where
  shared := start
  procs := fun _ => .source request

def CreationRequest.isExternal : CreationRequest → Bool
  | .transfer req => req.isExternal
  | .topup _ => true
  | .withdrawal _ => true

theorem Prepared.isExternal_request (work : Prepared) :
    work.request.isExternal = work.isExternal := by
  cases work <;> rfl

-- A request with an external leg checks for the row only while there is none.
def ChecksFirst (world : World I Tables Creation) (i : I) : Prop :=
  match world.procs i with
  | .check work => work.isExternal = true →
    world.shared.findByIdempotencyKey work.idempotencyKey = none
  | _ => True

instance (world : World I Tables Creation) (i : I) : Decidable (ChecksFirst world i) := by
  unfold ChecksFirst
  split <;> infer_instance

/-! ## One row and one debit -/

def Tables.debits (s : Tables) : Nat :=
  (s.ledger.rows.filter fun entry => entry.direction == .debit).length

section

variable {env : Env} {answers : Answers} {s after : Tables} {creation next : Creation}

theorem saveTransaction_length {tx : TransactionEntity} (saved : s.saveTransaction tx = .ok after) :
    after.transactions.rows.length = s.transactions.rows.length ∧ after.debits = s.debits := by
  obtain ⟨_, transactions, updated, rfl⟩ := Tables.saveTransaction_eq_ok.mp saved
  refine ⟨?_, rfl⟩
  rw [(Table.update?_spec updated).1]
  simp [Table.replace]

theorem rollbackWithdrawalDebit_debits {tx : TransactionEntity} {reasonCode : String}
    (reversed : rollbackWithdrawalDebit tx reasonCode s = .ok after) : after.debits = s.debits := by
  unfold rollbackWithdrawalDebit at reversed
  split at reversed
  next =>
    obtain rfl := Except.ok.inj reversed
    rfl
  next =>
    rcases rollbackWithdrawalDebitUsingManager_effect reversed with
      ⟨rfl, _⟩ | ⟨_, wallets, ledger, _, rfl, _, posted⟩
    · rfl
    · obtain ⟨entry, rows, records⟩ := posted.entry
      have added : ledger.rows = s.ledger.rows ++ [entry] := rows
      simp [Tables.debits, added, records.ofDirection]

theorem Inserted.debits {work : Prepared} {tx : TransactionEntity}
    (inserted : Inserted work s tx after) : after.debits ≤ s.debits + 1 := by
  obtain ⟨added, rows, _, directions⟩ := inserted.entries
  have count : (added.filter fun entry => entry.direction == .debit).length =
      (work.directions.filter (· == .debit)).length := by
    rw [← directions, List.filter_map, List.length_map]
    rfl
  have one : (work.directions.filter (· == .debit)).length ≤ 1 := by
    cases work with
    | transfer req => cases external : req.isExternal <;> simp [Prepared.directions, external]
    | topup req fundingSource => simp [Prepared.directions]
    | withdrawal req fundingSource => simp [Prepared.directions]
  simp only [Tables.debits, rows, List.filter_append, List.length_append, count]
  omega

theorem Inserted.length {work : Prepared} {tx : TransactionEntity}
    (inserted : Inserted work s tx after) :
    after.transactions.rows.length = s.transactions.rows.length + 1 := by
  obtain ⟨entity, added⟩ := inserted.row
  rw [(Table.insert?_spec added).2.1]
  simp

theorem Creation.Moves.counts (moves : Creation.Moves env answers s creation after next) :
    (∃ work tx, Inserted work s tx after ∧ creation = .insert work) ∨
      (after.transactions.rows.length = s.transactions.rows.length ∧ after.debits = s.debits) := by
  cases moves with
  | insert inserted => exact .inl ⟨_, _, inserted, rfl⟩
  | submit saved => exact .inr (saveTransaction_length saved)
  | rollback reversed =>
    have debits := rollbackWithdrawalDebit_debits reversed
    obtain ⟨_, _, rfl⟩ := rollbackWithdrawalDebit_transactions reversed
    exact .inr ⟨rfl, debits⟩
  | saveSimulated saved => exact .inr (saveTransaction_length saved)
  | anchor saved => exact .inr (saveTransaction_length saved)
  | release saved => exact .inr (saveTransaction_length saved)
  | _ => exact .inr ⟨rfl, rfl⟩

end

/-! ## What every process keeps -/

-- The entities in memory have the terms of rows, and all processes serve one request.
structure Serving (request : CreationRequest) (world : World I Tables Creation) : Prop where
  entities : ∀ i tx, (world.procs i).entity? = some tx → world.shared.HasTerms tx.terms
  requests : ∀ i served, (world.procs i).request? = some served → served = request

omit [DecidableEq I] in
theorem requested_serving (request : CreationRequest) (start : Tables) :
    Serving request (requested request start : World I Tables Creation) where
  entities := fun _ tx holds => absurd holds.symm (Option.some_ne_none tx)
  requests := fun _ _ serves => (Option.some.inj serves).symm

theorem Serving.fire {env : Env} {request : CreationRequest} {world after : World I Tables Creation}
    {i : I} {answers : Answers} (serving : Serving request world)
    (fired : (creations env).fire world i answers = some after) : Serving request after := by
  obtain ⟨shared, proc, stepped, rfl⟩ := Machine.fire_eq_some.mp fired
  have moves := Creation.step_moves stepped
  constructor
  · intro j tx holds
    by_cases own : j = i
    · subst own
      simp only [Function.update_self] at holds
      exact moves.entity (serving.entities j) holds
    · simp only [Function.update_of_ne own] at holds
      exact moves.hasTerms (serving.entities i) (serving.entities j tx holds)
  · intro j served serves
    by_cases own : j = i
    · subst own
      simp only [Function.update_self] at serves
      exact serving.requests j served (moves.request serves)
    · simp only [Function.update_of_ne own] at serves
      exact serving.requests j served serves

-- The rows and debits added since the start, and the key once there are any.
def AtMostOne (request : CreationRequest) (start s : Tables) : Prop :=
  (s.transactions.rows.length = start.transactions.rows.length ∧ s.debits = start.debits) ∨
    (s.findByIdempotencyKey request.idempotencyKey ≠ none ∧
      s.transactions.rows.length = start.transactions.rows.length + 1 ∧
      s.debits ≤ start.debits + 1)

theorem Serving.atMostOne {env : Env} {request : CreationRequest}
    {world after : World I Tables Creation} {i : I} {answers : Answers} {start : Tables}
    (serving : Serving request world) (most : AtMostOne request start world.shared)
    (fired : (creations env).fire world i answers = some after) :
    AtMostOne request start after.shared := by
  obtain ⟨shared, proc, stepped, rfl⟩ := Machine.fire_eq_some.mp fired
  have moves := Creation.step_moves stepped
  rcases moves.counts with ⟨work, tx, inserted, inserting⟩ | ⟨rows, debits⟩
  · have serves : (world.procs i).request? = some work.request := by rw [inserting]; rfl
    have same : work.request = request := serving.requests i _ serves
    have key : tx.terms.idempotencyKey = request.idempotencyKey := by
      rw [← same]
      exact inserted.key
    rcases most with ⟨rows, debits⟩ | ⟨known, _⟩
    · refine .inr ⟨findByIdempotencyKey_ne_none.mpr ⟨_, inserted.hasTerms, key⟩, ?_, ?_⟩
      · rw [← rows]
        exact inserted.length
      · rw [← debits]
        exact inserted.debits
    · have new : world.shared.findByIdempotencyKey work.request.idempotencyKey = none := inserted.new
      rw [same] at new
      exact absurd new known
  · rcases most with ⟨rows', debits'⟩ | ⟨known, rows', debits'⟩
    · exact .inl ⟨rows.trans rows', debits.trans debits'⟩
    · obtain ⟨terms, has, key⟩ := findByIdempotencyKey_ne_none.mp known
      have kept := moves.hasTerms (serving.entities i) has
      exact .inr ⟨findByIdempotencyKey_ne_none.mpr ⟨terms, kept, key⟩, rows.trans rows',
        debits ▸ debits'⟩

theorem serving_reaches {env : Env} {request : CreationRequest} {start : Tables}
    {world : World I Tables Creation} {allowed : World I Tables Creation → I → Answers → Prop}
    (reached : (creations env).Reaches allowed (requested request start) world) :
    Serving request world ∧ AtMostOne request start world.shared :=
  reached.invariant (fun world => Serving request world ∧ AtMostOne request start world.shared)
    ⟨requested_serving request start, .inl ⟨rfl, rfl⟩⟩
    fun _ _ _ _ holds _ fired => ⟨holds.1.fire fired, holds.1.atMostOne holds.2 fired⟩

/-! ## The run of the request that inserted the row -/

-- The stages before the row is persisted, and the end; `fresh` says the key was free at the start.
def Creation.Early (request : CreationRequest) (fresh : Prop) : Creation → Prop
  | .source served => served = request
  | .lookup work | .replay work _ => work.request = request
  | .check work | .insert work => work.request = request ∧ fresh
  | .finished _ => True
  | _ => False

theorem Creation.Moves.early {env : Env} {answers : Answers} {s after : Tables}
    {creation next : Creation} {request : CreationRequest} {fresh : Prop}
    (moves : Creation.Moves env answers s creation after next)
    (early : creation.Early request fresh)
    (looked : s.findByIdempotencyKey request.idempotencyKey = none → fresh) :
    (after = s ∧ next.Early request fresh) ∨
      (∃ work held, creation = .check work ∧ work.request = request ∧ fresh ∧ after = s ∧
        s.findByIdempotencyKey request.idempotencyKey = some held.transaction ∧
        next = work.continued held) ∨
      (∃ work held, creation = .insert work ∧ work.request = request ∧ fresh ∧
        Inserted work s held.transaction after ∧ next = work.continued held) := by
  cases moves with
  | failed => exact .inl ⟨rfl, trivial⟩
  | source same => exact .inl ⟨rfl, same.trans early⟩
  | known found => exact .inl ⟨rfl, early⟩
  | unknown missing =>
    obtain rfl : Prepared.request _ = request := early
    exact .inl ⟨rfl, rfl, looked missing⟩
  | replay => exact .inl ⟨rfl, trivial⟩
  | duplicate found =>
    obtain ⟨rfl, free⟩ := early
    exact .inr (.inl ⟨_, _, rfl, rfl, free, rfl, found, rfl⟩)
  | checked missing => exact .inl ⟨rfl, early⟩
  | insert inserted =>
    obtain ⟨rfl, free⟩ := early
    exact .inr (.inr ⟨_, _, rfl, rfl, free, inserted, rfl⟩)
  | _ => exact absurd early id

-- What the process `i` does in the run, done without the others.
def Alone (env : Env) (request : CreationRequest) (start : Tables) (labels : List (I × Answers))
    (i : I) (after : Tables) (creation : Creation) : Prop :=
  (creations env).alone start (.source request) (Machine.actionsOf i labels) =
    some (after, creation)

theorem Alone.step {env : Env} {request : CreationRequest} {start s after : Tables}
    {labels : List (I × Answers)} {i : I} {creation next : Creation} {answers : Answers}
    (alone : Alone env request start labels i s creation)
    (stepped : creation.step env s answers = some (after, next)) :
    Alone env request start (labels ++ [(i, answers)]) i after next := by
  have extended := Machine.alone_snoc alone stepped
  rw [Alone, Machine.actionsOf_snoc, if_pos rfl]
  exact extended

theorem Alone.other {env : Env} {request : CreationRequest} {start s : Tables}
    {labels : List (I × Answers)} {i j : I} {creation : Creation} {answers : Answers}
    (alone : Alone env request start labels i s creation) (different : j ≠ i) :
    Alone env request start (labels ++ [(j, answers)]) i s creation := by
  rw [Alone, Machine.actionsOf_snoc, if_neg different, List.append_nil]
  exact alone

-- Nobody has inserted the row.
structure Unpersisted (env : Env) (request : CreationRequest) (start : Tables)
    (labels : List (I × Answers)) (world : World I Tables Creation) : Prop where
  shared : world.shared = start
  early : ∀ i, (world.procs i).Early request
    (start.findByIdempotencyKey request.idempotencyKey = none)
  alone : ∀ i, Alone env request start labels i start (world.procs i)

theorem requested_unpersisted (env : Env) (request : CreationRequest) (start : Tables) :
    Unpersisted env request start [] (requested request start : World I Tables Creation) where
  shared := rfl
  early := fun _ => rfl
  alone := fun _ => rfl

-- A step before the insert changes nothing; the insert itself is made by one process.
theorem Unpersisted.fire {env : Env} {request : CreationRequest} {start : Tables}
    {labels : List (I × Answers)} {world after : World I Tables Creation} {i : I}
    {answers : Answers} (unpersisted : Unpersisted env request start labels world)
    (fired : (creations env).fire world i answers = some after) :
    Unpersisted env request start (labels ++ [(i, answers)]) after ∨
      ∃ work held, work.request = request ∧ Inserted work start held.transaction after.shared ∧
        Alone env request start (labels ++ [(i, answers)]) i after.shared (after.procs i) ∧
        after.procs i = work.continued held ∧
        ∀ j, j ≠ i → (after.procs j).Early request True := by
  obtain ⟨same, early, alone⟩ := unpersisted
  obtain ⟨shared, proc, stepped, rfl⟩ := Machine.fire_eq_some.mp fired
  rw [same] at stepped
  have extended := (alone i).step stepped
  have moves := Creation.step_moves stepped
  rcases moves.early (early i) id with ⟨rfl, next⟩ | ⟨_, held, _, _, free, _, found, _⟩ |
    ⟨work, held, _, serves, _, inserted, rfl⟩
  · refine .inl ⟨rfl, fun j => ?_, fun j => ?_⟩
    · by_cases own : j = i
      · subst own
        simpa using next
      · simpa [Function.update_of_ne own] using early j
    · by_cases own : j = i
      · subst own
        simpa using extended
      · simpa [Function.update_of_ne own] using (alone j).other (Ne.symm own)
  · rw [free] at found
    cases found
  · refine .inr ⟨work, held, serves, inserted, by simpa using extended, by simp, fun j own => ?_⟩
    simp only [Function.update_of_ne own]
    have before := early j
    cases stage : world.procs j <;> simp_all [Creation.Early]

/-! ## Requests with an external leg -/

-- The others keep off the row, so the tables are those of its own process alone.
structure PersistedBy (env : Env) (request : CreationRequest) (start : Tables)
    (labels : List (I × Answers)) (world : World I Tables Creation) (i : I) : Prop where
  alone : Alone env request start labels i world.shared (world.procs i)
  known : world.shared.findByIdempotencyKey request.idempotencyKey ≠ none
  early : ∀ j, j ≠ i → (world.procs j).Early request True

theorem Serving.known {env : Env} {request : CreationRequest}
    {world after : World I Tables Creation} {i : I} {answers : Answers} {key : String}
    (serving : Serving request world)
    (fired : (creations env).fire world i answers = some after)
    (known : world.shared.findByIdempotencyKey key ≠ none) :
    after.shared.findByIdempotencyKey key ≠ none := by
  obtain ⟨shared, proc, stepped, rfl⟩ := Machine.fire_eq_some.mp fired
  obtain ⟨terms, has, own⟩ := findByIdempotencyKey_ne_none.mp known
  have kept := (Creation.step_moves stepped).hasTerms (serving.entities i) has
  exact findByIdempotencyKey_ne_none.mpr ⟨terms, kept, own⟩

theorem PersistedBy.fire {env : Env} {request : CreationRequest} {start : Tables}
    {labels : List (I × Answers)} {world after : World I Tables Creation} {i j : I}
    {answers : Answers} (external : request.isExternal = true)
    (persisted : PersistedBy env request start labels world i) (serving : Serving request world)
    (first : ChecksFirst world j) (fired : (creations env).fire world j answers = some after) :
    PersistedBy env request start (labels ++ [(j, answers)]) after i := by
  have known := serving.known fired persisted.known
  obtain ⟨shared, proc, stepped, rfl⟩ := Machine.fire_eq_some.mp fired
  by_cases own : j = i
  · subst own
    refine ⟨by simpa using persisted.alone.step stepped, known, fun other different => ?_⟩
    simpa [Function.update_of_ne different] using persisted.early other different
  · have moves := Creation.step_moves stepped
    rcases moves.early (persisted.early j own) (fun _ => trivial) with ⟨rfl, next⟩ |
      ⟨work, _, checking, serves, _, _, found, _⟩ | ⟨work, _, _, rfl, _, inserted, _⟩
    · refine ⟨by simpa [Ne.symm own] using persisted.alone.other own, known,
        fun other different => ?_⟩
      by_cases same : other = j
      · subst same
        simpa using next
      · simpa [Function.update_of_ne same] using persisted.early other different
    · have leg : work.isExternal = true := by
        rw [← Prepared.isExternal_request, serves]
        exact external
      rw [ChecksFirst, checking] at first
      have missing := first leg
      have key : work.idempotencyKey = request.idempotencyKey := congrArg _ serves
      rw [key, found] at missing
      cases missing
    · exact absurd inserted.new persisted.known

/-! ## Internal transfers -/

-- The tables as the insert left them, up to the row's chain columns and the outbox.
structure Quiet (key : String) (persisted : Tables) (terms : Terms) (s : Tables) : Prop where
  wallets : s.wallets = persisted.wallets
  ledger : s.ledger = persisted.ledger
  row : ∃ row, s.findByIdempotencyKey key = some row ∧ row.terms = terms ∧
    row.status = .pending ∧ row.settlementStatus = .none

def Untouched (terms : Terms) (tx : TransactionEntity) : Prop :=
  tx.terms = terms ∧ tx.status = .pending ∧ tx.settlementStatus = .none

def Creation.Late (terms : Terms) : Creation → Prop
  | .release held | .enqueue held => Untouched terms held.transaction
  | .finished _ => True
  | _ => False

-- Whether the save is refused depends on the entity alone.
theorem Quiet.save {key : String} {persisted s : Tables} {terms : Terms} {tx : TransactionEntity}
    (quiet : Quiet key persisted terms s) (untouched : Untouched terms tx) :
    if tx.columnsFit then
      ∃ after, s.saveTransaction tx = .ok after ∧ Quiet key persisted terms after
    else s.saveTransaction tx = .error .queryFailed := by
  obtain ⟨row, found, ofRow, _, _⟩ := quiet.row
  obtain ⟨member, own⟩ := Table.byKey_eq_some.mp found
  have same : tx.terms = row.terms := untouched.1.trans ofRow.symm
  split_ifs with fits
  · obtain ⟨after, saved⟩ := save_isOk member same fits
    obtain ⟨transactions, updated, rfl⟩ := saved_row saved
    have sameId : row.id = tx.id := congrArg Terms.id same.symm
    have sameKey : Row.key row = Row.key tx :=
      congrArg (fun terms : Terms => some terms.idempotencyKey) same.symm
    refine ⟨_, saved, quiet.wallets, quiet.ledger, tx, ?_, untouched⟩
    have looked := Table.byKey_update? updated member sameId sameKey key
    rw [if_pos (sameKey.symm.trans own)] at looked
    exact looked
  · simp [Tables.saveTransaction, saveRow, fits, Except.map]

-- From any two quiet tables a late stage goes on to the same stage and leaves quiet tables.
theorem Creation.Late.step {env : Env} {key : String} {persisted : Tables} {terms : Terms}
    {creation : Creation} (late : creation.Late terms) (answers : Answers) :
    (∀ s', Quiet key persisted terms s' → creation.step env s' answers = none) ∨
      ∃ next, next.Late terms ∧ ∀ s', Quiet key persisted terms s' →
        ∃ after, creation.step env s' answers = some (after, next) ∧
          Quiet key persisted terms after := by
  cases creation with
  | release held =>
    right
    have untouched : Untouched terms (released answers.releasedAt held.transaction) := late
    by_cases fits : (released answers.releasedAt held.transaction).columnsFit
    · refine ⟨.enqueue { held with transaction := released answers.releasedAt held.transaction },
        untouched, fun s' quiet' => ?_⟩
      have saves := quiet'.save untouched
      rw [if_pos fits] at saves
      obtain ⟨after, saved, last⟩ := saves
      exact ⟨after, by simp only [Creation.step, Creation.proceed, saved], last⟩
    · refine ⟨.finished (.error .queryFailed), trivial, fun s' quiet' => ?_⟩
      have saves := quiet'.save untouched
      rw [if_neg fits] at saves
      exact ⟨s', by simp only [Creation.step, Creation.proceed, saves], quiet'⟩
  | enqueue held =>
    right
    refine ⟨.finished (.ok (mapTransferResponse held.transaction held.senderBalance
      held.receiverBalance)), trivial, fun s' quiet' => ?_⟩
    obtain ⟨outbox, enqueued⟩ :=
      enqueueTransactionEvent_isOk answers.enqueuedAt held.transaction s'
    exact ⟨{ s' with outbox }, by simp only [Creation.step, Creation.proceed, enqueued],
      quiet'.wallets, quiet'.ledger, quiet'.row⟩
  | finished result => exact .inl fun _ _ => rfl
  | _ => exact absurd late id

structure PersistedInternally (env : Env) (request : CreationRequest) (start : Tables)
    (labels : List (I × Answers)) (world : World I Tables Creation) (persisted : Tables)
    (terms : Terms) (i : I) : Prop where
  alone : ∃ after, Alone env request start labels i after (world.procs i) ∧
    Quiet request.idempotencyKey persisted terms after
  quiet : Quiet request.idempotencyKey persisted terms world.shared
  late : (world.procs i).Late terms
  others : ∀ j, (world.procs j).Early request True ∨ (world.procs j).Late terms

theorem PersistedInternally.fire {env : Env} {request : CreationRequest} {start : Tables}
    {labels : List (I × Answers)} {world after : World I Tables Creation} {persisted : Tables}
    {terms : Terms} {i j : I} {answers : Answers} (internal : request.isExternal = false)
    (leg : terms.isExternal = false)
    (before : PersistedInternally env request start labels world persisted terms i)
    (fired : (creations env).fire world j answers = some after) :
    PersistedInternally env request start (labels ++ [(j, answers)]) after persisted terms i := by
  obtain ⟨shared, proc, stepped, rfl⟩ := Machine.fire_eq_some.mp fired
  have lateStep (late : (world.procs j).Late terms) :
      Quiet request.idempotencyKey persisted terms shared ∧ proc.Late terms ∧
        ∀ s', Quiet request.idempotencyKey persisted terms s' →
          ∃ after, (world.procs j).step env s' answers = some (after, proc) ∧
            Quiet request.idempotencyKey persisted terms after := by
    rcases late.step answers with stuck | ⟨next, nextLate, steps⟩
    · have none := stuck _ before.quiet
      rw [show (world.procs j).step env world.shared answers = some (shared, proc) from stepped]
        at none
      cases none
    · obtain ⟨reached, same, quiet⟩ := steps _ before.quiet
      obtain ⟨rfl, rfl⟩ := Prod.mk.inj (Option.some.inj (stepped.symm.trans same))
      exact ⟨quiet, nextLate, steps⟩
  have othersStep (quiet : Quiet request.idempotencyKey persisted terms shared)
      (next : proc.Early request True ∨ proc.Late terms) (k : I) :
      (Function.update world.procs j proc k).Early request True ∨
        (Function.update world.procs j proc k).Late terms := by
    by_cases same : k = j
    · subst same
      simpa using next
    · simpa [Function.update_of_ne same] using before.others k
  by_cases own : j = i
  · subst own
    obtain ⟨quiet, nextLate, steps⟩ := lateStep before.late
    obtain ⟨aloneAfter, alone, aloneQuiet⟩ := before.alone
    obtain ⟨last, lastStep, lastQuiet⟩ := steps _ aloneQuiet
    exact ⟨⟨last, by simpa using alone.step lastStep, lastQuiet⟩, quiet, by simpa using nextLate,
      othersStep quiet (.inr nextLate)⟩
  · have kept : ∃ after, Alone env request start (labels ++ [(j, answers)]) i after
        (Function.update world.procs j proc i) ∧
        Quiet request.idempotencyKey persisted terms after := by
      obtain ⟨aloneAfter, alone, aloneQuiet⟩ := before.alone
      exact ⟨aloneAfter, by simpa [Ne.symm own] using alone.other own, aloneQuiet⟩
    have late : (Function.update world.procs j proc i).Late terms := by
      simpa [Ne.symm own] using before.late
    rcases before.others j with early | lateOther
    · obtain ⟨row, found, ofRow, pending, unsettled⟩ := before.quiet.row
      rcases (Creation.step_moves stepped).early early (fun _ => trivial) with ⟨rfl, next⟩ |
        ⟨work, held, _, serves, _, rfl, dup, rfl⟩ | ⟨work, _, _, rfl, _, inserted, _⟩
      · exact ⟨kept, before.quiet, late, othersStep before.quiet (.inl next)⟩
      · -- The row found inside the database transaction is the one that was inserted.
        obtain rfl := Option.some.inj (found.symm.trans dup)
        have external : held.transaction.isExternal = false :=
          (congrArg Terms.isExternal ofRow).trans leg
        have next : (work.continued held).Late terms := by
          cases work with
          | transfer req =>
            simp only [Prepared.continued, external, pending, Bool.false_eq_true, if_false, ne_eq,
              reduceCtorEq, not_false_eq_true, if_true]
            exact ⟨ofRow, pending, unsettled⟩
          | topup req fundingSource =>
            rw [← serves] at internal
            cases internal
          | withdrawal req fundingSource =>
            rw [← serves] at internal
            cases internal
        exact ⟨kept, before.quiet, late, othersStep before.quiet (.inr next)⟩
      · have missing := inserted.new
        rw [show work.idempotencyKey = work.request.idempotencyKey from rfl, found] at missing
        cases missing
    · obtain ⟨quiet, nextLate, _⟩ := lateStep lateOther
      exact ⟨kept, quiet, late, othersStep quiet (.inr nextLate)⟩

/-! ## Idempotency of creations -/

-- What a repeated request must leave as it is.
structure SameFor (key : String) (alone s : Tables) : Prop where
  row : (s.findByIdempotencyKey key).map (fun tx => (tx.status, tx.settlementStatus)) =
    (alone.findByIdempotencyKey key).map fun tx => (tx.status, tx.settlementStatus)
  wallets : s.wallets = alone.wallets
  ledger : s.ledger = alone.ledger

theorem Quiet.sameFor {key : String} {persisted alone s : Tables} {terms : Terms}
    (first : Quiet key persisted terms alone) (second : Quiet key persisted terms s) :
    SameFor key alone s := by
  obtain ⟨row, found, _, status, settlement⟩ := first.row
  obtain ⟨row', found', _, status', settlement'⟩ := second.row
  refine ⟨?_, second.wallets.trans first.wallets.symm, second.ledger.trans first.ledger.symm⟩
  simp [found, found', status, settlement, status', settlement']

-- One row and one debit at most, and after the insert the tables of the inserting process alone.
structure Idempotent (env : Env) (request : CreationRequest) (start : Tables)
    (labels : List (I × Answers)) (s : Tables) : Prop where
  rows : s.transactions.rows.length ≤ start.transactions.rows.length + 1
  debits : s.debits ≤ start.debits + 1
  replayed : start.findByIdempotencyKey request.idempotencyKey ≠ none →
    SameFor request.idempotencyKey start s
  first : ∀ earlier i answers later before after, labels = earlier ++ (i, answers) :: later →
    (creations env).run (requested request start) earlier = some before →
    before.shared.findByIdempotencyKey request.idempotencyKey = none →
    (creations env).fire before i answers = some after →
    after.shared.findByIdempotencyKey request.idempotencyKey ≠ none →
    ∃ alone creation, Alone env request start labels i alone creation ∧
      SameFor request.idempotencyKey alone s

-- The tables once the row is there, whoever inserted it.
def Persisted (env : Env) (request : CreationRequest) (start : Tables)
    (labels : List (I × Answers)) (world : World I Tables Creation) (i : I) : Prop :=
  if request.isExternal then PersistedBy env request start labels world i
  else ∃ persisted terms, terms.isExternal = false ∧
    PersistedInternally env request start labels world persisted terms i

theorem Persisted.sameFor {env : Env} {request : CreationRequest} {start : Tables}
    {labels : List (I × Answers)} {world : World I Tables Creation} {i : I}
    (persisted : Persisted env request start labels world i) :
    ∃ alone creation, Alone env request start labels i alone creation ∧
      SameFor request.idempotencyKey alone world.shared := by
  unfold Persisted at persisted
  split_ifs at persisted with external
  · exact ⟨_, _, persisted.alone, rfl, rfl, rfl⟩
  · obtain ⟨_, _, _, persistedBy⟩ := persisted
    obtain ⟨alone, ran, quiet⟩ := persistedBy.alone
    exact ⟨alone, _, ran, quiet.sameFor persistedBy.quiet⟩

theorem Unpersisted.insert {env : Env} {request : CreationRequest} {start : Tables}
    {labels : List (I × Answers)} {world after : World I Tables Creation} {i : I}
    {answers : Answers} (unpersisted : Unpersisted env request start labels world)
    (fired : (creations env).fire world i answers = some after) :
    Unpersisted env request start (labels ++ [(i, answers)]) after ∨
      (Persisted env request start (labels ++ [(i, answers)]) after i ∧
        after.shared.findByIdempotencyKey request.idempotencyKey ≠ none) := by
  rcases unpersisted.fire fired with still | ⟨work, held, serves, inserted, alone, stage, early⟩
  · exact .inl still
  have key : held.transaction.idempotencyKey = request.idempotencyKey := by
    rw [← serves]
    exact inserted.key
  have known : after.shared.findByIdempotencyKey request.idempotencyKey ≠ none :=
    findByIdempotencyKey_ne_none.mpr ⟨_, inserted.hasTerms, key⟩
  refine .inr ⟨?_, known⟩
  unfold Persisted
  split_ifs with external
  · exact ⟨alone, known, early⟩
  · have leg : held.transaction.isExternal = false := by
      rw [inserted.isExternal, ← Prepared.isExternal_request, serves]
      exact Bool.eq_false_iff.mpr external
    have workLeg : work.isExternal = false := inserted.isExternal ▸ leg
    have untouched : Untouched held.transaction.terms held.transaction := by
      refine ⟨rfl, inserted.status, ?_⟩
      rw [inserted.settlement, workLeg]
      rfl
    have quiet : Quiet request.idempotencyKey after.shared held.transaction.terms after.shared := by
      obtain ⟨entity, added⟩ := inserted.row
      have looked := Table.byKey_insert? added request.idempotencyKey
      have own : Row.key held.transaction = some request.idempotencyKey := congrArg some key
      rw [if_pos own] at looked
      exact ⟨rfl, rfl, held.transaction, looked, untouched⟩
    have late : (after.procs i).Late held.transaction.terms := by
      rw [stage]
      cases work with
      | transfer req =>
        simp only [Prepared.continued, leg, inserted.status, Bool.false_eq_true, if_false, ne_eq,
          reduceCtorEq, not_false_eq_true, if_true]
        exact untouched
      | topup req fundingSource => cases workLeg
      | withdrawal req fundingSource => cases workLeg
    refine ⟨after.shared, held.transaction.terms, leg, ⟨_, alone, quiet⟩, quiet, late, fun j => ?_⟩
    by_cases own : j = i
    · subst own
      exact .inr late
    · exact .inl (early j own)

theorem Persisted.fire {env : Env} {request : CreationRequest} {start : Tables}
    {labels : List (I × Answers)} {world after : World I Tables Creation} {i j : I}
    {answers : Answers} (persisted : Persisted env request start labels world i)
    (serving : Serving request world) (first : ChecksFirst world j)
    (fired : (creations env).fire world j answers = some after) :
    Persisted env request start (labels ++ [(j, answers)]) after i := by
  unfold Persisted at persisted ⊢
  split_ifs at persisted ⊢ with external
  · exact persisted.fire external serving first fired
  · obtain ⟨tables, terms, leg, persistedBy⟩ := persisted
    exact ⟨tables, terms, leg, persistedBy.fire (Bool.eq_false_iff.mpr external) leg fired⟩

theorem persisted_run {env : Env} {request : CreationRequest} {start : Tables}
    {earlier later : List (I × Answers)} {middle world : World I Tables Creation} {i : I}
    (persisted : Persisted env request start earlier middle i) (serving : Serving request middle)
    (run : (creations env).Runs (fun world i _ => ChecksFirst world i) middle later world) :
    Persisted env request start (earlier ++ later) world i ∧ Serving request world := by
  induction run with
  | nil => exact ⟨by rwa [List.append_nil], serving⟩
  | snoc _ first fired ih =>
    rw [← List.append_assoc]
    exact ⟨ih.1.fire ih.2 first fired, ih.2.fire fired⟩

theorem unpersisted_run {env : Env} {request : CreationRequest} {start : Tables}
    {labels : List (I × Answers)} {world : World I Tables Creation}
    (run : (creations env).Runs (fun world i _ => ChecksFirst world i) (requested request start)
      labels world) :
    Unpersisted env request start labels world ∨
      (start.findByIdempotencyKey request.idempotencyKey = none ∧
        world.shared.findByIdempotencyKey request.idempotencyKey ≠ none) := by
  induction run with
  | nil => exact .inl (requested_unpersisted env request start)
  | snoc before first fired ih =>
    rcases ih with unpersisted | ⟨fresh, known⟩
    · rcases unpersisted.insert fired with still | ⟨_, known⟩
      · exact .inl still
      · refine (em (start.findByIdempotencyKey request.idempotencyKey = none)).elim
          (fun fresh => .inr ⟨fresh, known⟩) fun taken => ?_
        rcases unpersisted.fire fired with still | ⟨work, held, rfl, inserted, _⟩
        · exact .inl still
        · exact absurd inserted.new taken
    · exact .inr ⟨fresh, (serving_reaches before.reaches).1.known fired known⟩

theorem creations_idempotent (env : Env) (request : CreationRequest) (start : Tables)
    (labels : List (I × Answers)) (world : World I Tables Creation)
    (run : (creations env).Runs (fun world i _ => ChecksFirst world i) (requested request start)
      labels world) :
    Idempotent env request start labels world.shared := by
  have most := (serving_reaches run.reaches).2
  refine ⟨?_, ?_, fun taken => ?_, ?_⟩
  · rcases most with ⟨rows, _⟩ | ⟨_, rows, _⟩ <;> omega
  · rcases most with ⟨_, debits⟩ | ⟨_, _, debits⟩ <;> omega
  · rcases unpersisted_run run with unpersisted | ⟨fresh, _⟩
    · rw [unpersisted.shared]
      exact ⟨rfl, rfl, rfl⟩
    · exact absurd fresh taken
  · intro earlier i answers later before after split reached new fired known
    obtain ⟨middle, head, tail⟩ := run.split split
    obtain rfl : before = middle := Option.some.inj (reached.symm.trans head.run)
    obtain ⟨inserted, insert, rest⟩ := Machine.Runs.split tail (List.singleton_append.symm)
    obtain rfl : after = inserted := by
      have ran := insert.run
      rw [Machine.run_cons, fired] at ran
      exact Option.some.inj ran
    have serving := (serving_reaches head.reaches).1
    have unpersisted : Unpersisted env request start earlier before := by
      rcases unpersisted_run head with unpersisted | ⟨_, taken⟩
      · exact unpersisted
      · exact absurd new taken
    rcases unpersisted.insert fired with still | ⟨persisted, _⟩
    · rw [still.shared, ← unpersisted.shared] at known
      exact absurd new known
    · have last := (persisted_run persisted (serving.fire fired) rest).1
      rw [List.append_assoc, List.singleton_append, ← split] at last
      exact last.sameFor

-- Both requests miss the row at first; `false` persists it and its partner accepts, then `true`
-- finds it inside its database transaction and its partner call times out.
def withdrawTwice : List (Bool × Answers) :=
  [(false, accepted), (false, accepted), (true, accepted), (true, accepted), (false, accepted),
    (false, accepted), (false, accepted), (true, accepted), (true, timedOut), (true, timedOut)]

-- The accepted withdrawal of the first request ends FAILED and refunded.
theorem withdrawTwice_not_idempotent :
    ∃ world, (creations sampleEnv).run (requested aliceWithdrawalRequest fundedTables)
      withdrawTwice = some world ∧
      ¬ Idempotent sampleEnv aliceWithdrawalRequest fundedTables withdrawTwice world.shared := by
  have reached : ((creations sampleEnv).run (requested aliceWithdrawalRequest fundedTables)
      withdrawTwice).map (fun world => (world.shared.findByIdempotencyKey "withdrawal").map
        TransactionEntity.status) = some (some .failed) := by decide
  obtain ⟨world, ran, failed⟩ := Option.map_eq_some_iff.mp reached
  refine ⟨world, ran, fun idempotent => ?_⟩
  have checked : ((creations sampleEnv).run (requested aliceWithdrawalRequest fundedTables)
      (withdrawTwice.take 5)).map (fun world =>
        ((world.shared.findByIdempotencyKey "withdrawal").isNone,
          ((creations sampleEnv).fire world false accepted).map fun after =>
            (after.shared.findByIdempotencyKey "withdrawal").isSome)) =
      some (true, some true) := by decide
  obtain ⟨before, toBefore, facts⟩ := Option.map_eq_some_iff.mp checked
  obtain ⟨new, inserts⟩ := Prod.mk.inj facts
  obtain ⟨after, fired, known⟩ := Option.map_eq_some_iff.mp inserts
  obtain ⟨alone, creation, ranAlone, same⟩ := idempotent.first (withdrawTwice.take 5) false accepted
    (withdrawTwice.drop 6) before after rfl toBefore (Option.isNone_iff_eq_none.mp new) fired
    (Option.isSome_iff_ne_none.mp known)
  have pending : ((creations sampleEnv).alone fundedTables (.source aliceWithdrawalRequest)
      (Machine.actionsOf false withdrawTwice)).map (fun ended =>
        (ended.1.findByIdempotencyKey "withdrawal").map TransactionEntity.status) =
      some (some .pending) := by decide
  rw [show (creations sampleEnv).alone fundedTables (.source aliceWithdrawalRequest)
    (Machine.actionsOf false withdrawTwice) = some (alone, creation) from ranAlone] at pending
  have statuses := congrArg (Option.map Prod.fst) same.row
  simp only [Option.map_map, Function.comp_def] at statuses
  have first : (alone.findByIdempotencyKey "withdrawal").map TransactionEntity.status =
      some .pending := Option.some.inj pending
  have last : (world.shared.findByIdempotencyKey "withdrawal").map TransactionEntity.status =
      (alone.findByIdempotencyKey "withdrawal").map TransactionEntity.status := statuses
  rw [failed, first] at last
  cases last

-- `true` starts after the row is there and is answered from it.
def withdrawAgain : List (Bool × Answers) :=
  [(false, accepted), (false, accepted), (false, accepted), (false, accepted), (true, accepted),
    (true, timedOut), (true, timedOut), (false, accepted), (false, accepted)]

theorem creations_idempotent_withdrawAgain :
    ∃ world, (creations sampleEnv).run (requested aliceWithdrawalRequest fundedTables)
      withdrawAgain = some world ∧
      Idempotent sampleEnv aliceWithdrawalRequest fundedTables withdrawAgain world.shared := by
  have reached : ((creations sampleEnv).checkedRun (fun world i _ => ChecksFirst world i)
      (requested aliceWithdrawalRequest fundedTables) withdrawAgain).isSome := by decide
  obtain ⟨world, ran⟩ := Option.isSome_iff_exists.mp reached
  have runs := Machine.Runs.checked .nil ran
  exact ⟨world, runs.run, creations_idempotent sampleEnv aliceWithdrawalRequest fundedTables
    withdrawAgain world runs⟩

end Kufi.Transactions

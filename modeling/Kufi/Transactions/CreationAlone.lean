import Kufi.Transactions.Creation
import Kufi.Transactions.Postings

set_option autoImplicit false

/-!
# A creation on its own

When no other process takes a step, the stages of a creation add up to the
operation that runs it to completion.
-/

namespace Kufi.Transactions

open Shared

-- Alone, the creation ends with a result and leaves tables behind.
def Creation.Finishes (env : Env) (answers : Answers) (s : Tables) (creation : Creation)
    (ended : Except ServiceError TransferResponse × Tables) : Prop :=
  ∃ steps, (creations env).alone s creation (List.replicate steps answers) =
    some (ended.2, .finished ended.1)

section

variable {env : Env} {answers : Answers} {s : Tables} {creation : Creation}

theorem Creation.Finishes.step {middle : Tables} {next : Creation}
    {ended : Except ServiceError TransferResponse × Tables}
    (stepped : creation.step env s answers = some (middle, next))
    (finishes : next.Finishes env answers middle ended) :
    creation.Finishes env answers s ended := by
  obtain ⟨steps, ran⟩ := finishes
  refine ⟨steps + 1, ?_⟩
  have first : (creations env).step s creation answers = some (middle, next) := stepped
  simp [List.replicate_succ, Machine.alone, first, ran]

theorem Creation.finishes_finished (result : Except ServiceError TransferResponse) :
    (Creation.finished result).Finishes env answers s (result, s) :=
  ⟨0, rfl⟩

theorem Creation.finishes_read {A : Type} {query : Tables → Except ServiceError A}
    {next : A → Creation} {rest : A → Service TransferResponse}
    (stepped : creation.step env s answers =
      some (proceed s (query s) fun value => (s, next value)))
    (finishes : ∀ value, query s = .ok value →
      (next value).Finishes env answers s (rest value s)) :
    creation.Finishes env answers s ((Service.read query >>= rest) s) := by
  cases done : query s with
  | error error =>
    have ran : (Service.read query >>= rest) s = (.error error, s) := by
      simp [Service.read, Program.query, bind, done]
    rw [ran]
    rw [done] at stepped
    exact .step stepped (finishes_finished _)
  | ok value =>
    have ran : (Service.read query >>= rest) s = rest value s := by
      simp [Service.read, Program.query, bind, done]
    rw [ran]
    rw [done] at stepped
    exact .step stepped (finishes value done)

theorem Creation.finishes_transaction {A : Type} {body : Tables → Except ServiceError (A × Tables)}
    {next : A → Creation} {rest : A → Service TransferResponse}
    (stepped : creation.step env s answers =
      some (proceed s (body s) fun (value, after) => (after, next value)))
    (finishes : ∀ value after, body s = .ok (value, after) →
      (next value).Finishes env answers after (rest value after)) :
    creation.Finishes env answers s ((Service.transaction body >>= rest) s) := by
  cases done : body s with
  | error error =>
    have ran : (Service.transaction body >>= rest) s = (.error error, s) := by
      simp [Service.transaction, Program.atomically, bind, done]
    rw [ran]
    rw [done] at stepped
    exact .step stepped (finishes_finished _)
  | ok result =>
    have ran : (Service.transaction body >>= rest) s = rest result.1 result.2 := by
      simp [Service.transaction, Program.atomically, bind, done]
    rw [ran]
    rw [done] at stepped
    exact .step stepped (finishes _ _ done)

theorem Creation.finishes_write {body : Tables → Except ServiceError Tables}
    {next : Creation} {rest : Service TransferResponse}
    (stepped : creation.step env s answers =
      some (proceed s (body s) fun after => (after, next)))
    (finishes : ∀ after, body s = .ok after → next.Finishes env answers after (rest after)) :
    creation.Finishes env answers s ((Service.write body >>= fun _ => rest) s) := by
  refine @finishes_transaction _ _ _ _ _ _ (fun _ => next) _ ?_ fun _ after done => ?_
  · rw [stepped]
    cases body s <;> rfl
  · obtain ⟨_, ran, same⟩ := map_eq_ok.mp done
    obtain rfl := (Prod.mk.inj same).2
    exact finishes _ ran

theorem Creation.finishes_save {tx : TransactionEntity} {next : Creation}
    {rest : TransactionEntity → Service TransferResponse}
    (stepped : creation.step env s answers =
      some (proceed s (s.saveTransaction tx) fun after => (after, next)))
    (finishes : ∀ after, s.saveTransaction tx = .ok after →
      next.Finishes env answers after (rest tx after)) :
    creation.Finishes env answers s ((save tx >>= rest) s) := by
  refine @finishes_transaction _ _ _ _ _ _ (fun _ => next) _ ?_ fun _ after done => ?_
  · rw [stepped]
    cases s.saveTransaction tx <;> rfl
  · obtain ⟨_, ran, same⟩ := map_eq_ok.mp done
    obtain ⟨rfl, rfl⟩ := Prod.mk.inj same
    exact finishes _ ran

end

/-! ## The last stages -/

section

variable {env : Env} {answers : Answers} {s : Tables} {work : Prepared} {held : Held}

theorem enqueue_finishes :
    (Creation.enqueue held).Finishes env answers s ((do
      Service.write (enqueueTransactionEvent answers.enqueuedAt held.transaction)
      pure (mapTransferResponse held.transaction held.senderBalance held.receiverBalance)) s) :=
  Creation.finishes_write rfl fun _ _ => Creation.finishes_finished _

theorem anchor_finishes :
    (Creation.anchor held).Finishes env answers s ((do
      let tx ← anchorToChain env answers.clock answers.chain held.transaction
      Service.write (enqueueTransactionEvent answers.enqueuedAt tx)
      pure (mapTransferResponse tx held.senderBalance held.receiverBalance)) s) :=
  Creation.finishes_save rfl fun _ _ => enqueue_finishes

theorem saveSimulated_finishes :
    (Creation.saveSimulated held).Finishes env answers s ((do
      let tx ← save (simulatedFailure held.transaction)
      let tx ← anchorToChain env answers.clock answers.chain tx
      Service.write (enqueueTransactionEvent answers.enqueuedAt tx)
      pure (mapTransferResponse tx held.senderBalance held.receiverBalance)) s) :=
  Creation.finishes_save rfl fun _ _ => anchor_finishes

theorem submit_finishes {rest : TransactionEntity → Service TransferResponse}
    (finishes : ∀ after, (work.afterSubmit
      { held with transaction := submitted answers.partner held.transaction }).Finishes env answers
        after (rest (submitted answers.partner held.transaction) after)) :
    (Creation.submit work held).Finishes env answers s
      ((submitOutsideTransfer answers.partner held.transaction >>= rest) s) := by
  unfold submitOutsideTransfer
  by_cases partner : hasPartner held.transaction
  · rw [if_pos partner]
    exact Creation.finishes_save (by simp only [Creation.step, if_pos partner]) fun after _ =>
      finishes after
  · rw [if_neg partner]
    exact .step (by simp only [Creation.step, if_neg partner]) (Creation.finishes_finished _)

-- The check and the rest of the database transaction see the same tables.
theorem persist_finishes {A : Type} {persist insert : Tables → Except ServiceError (A × Tables)}
    {toHeld : A → Held} {rest : A → Service TransferResponse}
    (new : s.findByIdempotencyKey work.idempotencyKey = none)
    (persisting : persist s = insert s)
    (inserting : work.insert env answers.persistedAt s =
      (insert s).map fun (value, after) => (toHeld value, after))
    (finishes : ∀ value after, persist s = .ok (value, after) →
      (work.continued (toHeld value)).Finishes env answers after (rest value after)) :
    (Creation.lookup work).Finishes env answers s ((Service.transaction persist >>= rest) s) := by
  have looked : (Creation.lookup work).step env s answers = some (s, .check work) := by
    simp only [Creation.step, new]
  have checked : (Creation.check work).step env s answers = some (s, .insert work) := by
    simp only [Creation.step, new]
  refine .step looked (.step checked ?_)
  refine @Creation.finishes_transaction _ _ _ _ _ _ (fun value => work.continued (toHeld value)) _
    ?_ finishes
  simp only [Creation.step, inserting, persisting]
  cases insert s <;> rfl

theorem lookup_finishes {rest : Option TransactionEntity → Service TransferResponse}
    (known : ∀ existing, s.findByIdempotencyKey work.idempotencyKey = some existing →
      rest (some existing) s = (work.answer env existing s, s))
    (fresh : s.findByIdempotencyKey work.idempotencyKey = none →
      (Creation.lookup work).Finishes env answers s (rest none s)) :
    (Creation.lookup work).Finishes env answers s
      ((Service.read (fun s => .ok (s.findByIdempotencyKey work.idempotencyKey)) >>= rest) s) := by
  cases found : s.findByIdempotencyKey work.idempotencyKey with
  | some existing =>
    have looked : (Creation.lookup work).step env s answers = some (s, .replay work existing) := by
      simp only [Creation.step, found]
    have ran : (Service.read (fun s => .ok (s.findByIdempotencyKey work.idempotencyKey)) >>= rest) s
        = (work.answer env existing s, s) := by
      rw [← known existing found]
      simp [Service.read, Program.query, bind, found]
    rw [ran]
    exact .step looked (.step rfl (Creation.finishes_finished _))
  | none =>
    have ran : (Service.read (fun s => .ok (s.findByIdempotencyKey work.idempotencyKey)) >>= rest) s
        = rest none s := by
      simp [Service.read, Program.query, bind, found]
    rw [ran]
    exact fresh found

theorem valid_finishes {A : Type} {creation : Creation} {result : Except ServiceError A} {value : A}
    {rest : A → Service TransferResponse} (valid : result = .ok value)
    (finishes : creation.Finishes env answers s (rest value s)) :
    creation.Finishes env answers s ((Program.ofExcept result >>= rest) s) := by
  subst valid
  exact finishes

theorem pure_finishes {A : Type} {creation : Creation} {value : A}
    {rest : A → Service TransferResponse}
    (finishes : creation.Finishes env answers s (rest value s)) :
    creation.Finishes env answers s (((pure value : Service A) >>= rest) s) :=
  finishes

-- A read of the funding source, and the request it completes.
theorem source_finishes {request : CreationRequest} {query : Tables → Except ServiceError FundingSource}
    {toWork : FundingSource → Prepared} {rest : FundingSource → Service TransferResponse}
    (reads : Prepared.ofRequest request s = (query s).map toWork)
    (finishes : ∀ source, (Creation.lookup (toWork source)).Finishes env answers s (rest source s)) :
    (Creation.source request).Finishes env answers s ((Service.read query >>= rest) s) := by
  refine @Creation.finishes_read _ _ _ _ _ _ (fun source => .lookup (toWork source)) _ ?_
    fun source _ => finishes source
  simp only [Creation.step, reads]
  cases query s <;> rfl

end

/-! ## The operations -/

section

variable {env : Env} {answers : Answers} {s : Tables}

theorem transfer_finishes (req : TransferRequest) (persisted : PersistedTransfer) :
    (Prepared.continued (.transfer req) persisted).Finishes env answers s ((do
      let tx := persisted.transaction
      let tx ← if tx.isExternal then submitOutsideTransfer answers.partner tx else pure tx
      let tx ← if tx.isExternal = false ∧ tx.status ≠ TransactionStatus.failed then
          save (released answers.releasedAt tx)
        else pure tx
      Service.write (enqueueTransactionEvent answers.enqueuedAt tx)
      pure (mapTransferResponse tx persisted.senderBalance persisted.receiverBalance)) s) := by
  cases external : persisted.transaction.isExternal with
  | true =>
    have sameLeg : (submitted answers.partner persisted.transaction).isExternal = true :=
      (congrArg Terms.isExternal (submitted_terms answers.partner persisted.transaction)).trans
        external
    simp only [Prepared.continued, external, if_true]
    refine submit_finishes fun after => ?_
    have next : Prepared.afterSubmit (.transfer req)
        { persisted with transaction := submitted answers.partner persisted.transaction } =
        .enqueue { persisted with transaction := submitted answers.partner persisted.transaction } := by
      simp [Prepared.afterSubmit]
    rw [next]
    simp only [sameLeg, Bool.true_eq_false, false_and, if_false]
    exact enqueue_finishes
  | false =>
    by_cases failed : persisted.transaction.status = .failed
    · simp only [Prepared.continued, external, failed, ne_eq, not_true_eq_false, if_false,
        Bool.false_eq_true]
      refine pure_finishes ?_
      simp only [failed, not_true_eq_false, and_false, if_false]
      exact enqueue_finishes
    · simp only [Prepared.continued, external, failed, ne_eq, not_false_eq_true, if_true, if_false,
        Bool.false_eq_true]
      refine pure_finishes ?_
      simp only [external, failed, not_false_eq_true, and_self, if_true]
      exact Creation.finishes_save rfl fun _ _ => enqueue_finishes

-- The stages of a transfer alone are `createTransfer`.
theorem createTransfer_alone {request : CreateTransferRequest} {req : TransferRequest}
    (valid : validateCreateTransfer env request = .ok req) :
    (Creation.source (.transfer req)).Finishes env answers s
      (createTransfer env answers request s) := by
  refine valid_finishes valid (.step rfl (@lookup_finishes _ _ _ (.transfer req) _ ?_
    fun fresh => ?_))
  · intro existing found
    simp only [Prepared.answer, Service.read, Program.query, bind, Except.bind, pure]
    rcases getWallet env req.fromUserId req.currency s with error | sender
    · rfl
    · simp only
      rcases getWallet env req.toUserId req.currency s with error | receiver <;> rfl
  · refine @persist_finishes _ _ _ (.transfer req) _ _ (insertTransfer env answers.persistedAt req)
      id _ fresh ?_ ?_ fun persisted after _ => transfer_finishes req persisted
    · have new : s.findByIdempotencyKey req.idempotencyKey = none := fresh
      simp only [persistTransfer, new]
    · simp only [Prepared.insert, id]
      cases insertTransfer env answers.persistedAt req s <;> rfl

theorem createTopupIntent_alone {request : CreateTopupIntentRequest} {req : FundingRequest}
    (valid : validateCreateTopupIntent env request = .ok req) :
    (Creation.source (.topup req)).Finishes env answers s
      (createTopupIntent env answers request s) := by
  refine valid_finishes valid (source_finishes rfl fun fundingSource =>
    @lookup_finishes _ _ _ (.topup req fundingSource) _ ?_ fun fresh => ?_)
  · intro existing found
    simp only [Prepared.answer, Service.read, Program.query, bind, Except.bind, pure]
    rcases getWallet env req.userId req.currency s with error | wallet <;> rfl
  · refine @persist_finishes _ _ _ (.topup req fundingSource) _ _
      (insertTopupIntent env answers.persistedAt req fundingSource)
      (fun persisted => ⟨persisted.transaction, persisted.walletBalance, persisted.walletBalance⟩) _
      fresh ?_ rfl fun persisted after _ => submit_finishes fun after => ?_
    · have new : s.findByIdempotencyKey req.idempotencyKey = none := fresh
      simp only [persistTopupIntent, new]
    · by_cases failed : (submitted answers.partner persisted.transaction).status = .failed
      · simp only [Prepared.afterSubmit, failed, if_true]
        exact anchor_finishes
      · simp only [Prepared.afterSubmit, failed, if_false]
        exact enqueue_finishes

theorem createWithdrawalRequest_alone {request : CreateWithdrawalRequest} {req : WithdrawalRequest}
    (valid : validateCreateWithdrawalRequest env request = .ok req) :
    (Creation.source (.withdrawal req)).Finishes env answers s
      (createWithdrawalRequest env answers request s) := by
  refine valid_finishes valid (source_finishes rfl fun fundingSource =>
    @lookup_finishes _ _ _ (.withdrawal req fundingSource) _ ?_ fun fresh => ?_)
  · intro existing found
    simp only [Prepared.answer, Service.read, Program.query, bind, Except.bind, pure]
    rcases getWallet env req.userId req.currency s with error | wallet <;> rfl
  · refine @persist_finishes _ _ _ (.withdrawal req fundingSource) _ _
      (insertWithdrawalRequest env answers.persistedAt req fundingSource)
      (fun persisted => ⟨persisted.transaction, persisted.walletBalance, 0⟩) _
      fresh ?_ rfl fun persisted after _ => ?_
    · have new : s.findByIdempotencyKey req.idempotencyKey = none := fresh
      simp only [persistWithdrawalRequest, new]
    · cases simulated : req.simulateFailure with
      | true =>
        simp only [Prepared.continued, simulated, if_true]
        refine Creation.finishes_write rfl fun after _ => ?_
        simp only [Prepared.afterRollback, simulated, if_true]
        exact saveSimulated_finishes
      | false =>
        simp only [Prepared.continued, simulated, Bool.false_eq_true, if_false]
        refine submit_finishes fun after => ?_
        by_cases failed : (submitted answers.partner persisted.transaction).status = .failed
        · simp only [Prepared.afterSubmit, failed, if_true]
          refine Creation.finishes_write rfl fun after _ => ?_
          simp only [Prepared.afterRollback, simulated, Bool.false_eq_true, if_false]
          exact anchor_finishes
        · simp only [Prepared.afterSubmit, failed, if_false]
          exact enqueue_finishes

end

end Kufi.Transactions

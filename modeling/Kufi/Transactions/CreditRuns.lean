import Kufi.Transactions.CreditRule

set_option autoImplicit false

/-!
# Runs that keep rows and ledger together

Each operation, run to completion, keeps a rule's rows and the ledger
consistent as long as an external transfer is accepted, a failed withdrawal can
be refunded and a settlement mark fits the row it finds.
-/

namespace Kufi.Transactions

open Shared Program

variable {rule : CreditRule}

def Accepts (answer : PartnerAnswer) : Prop :=
  ∃ response, answer = .ok response ∧ response.status = "SUBMITTED"

theorem submitted_accepted {answer : PartnerAnswer} (accepts : Accepts answer)
    (tx : TransactionEntity) :
    (submitted answer tx).status = tx.status ∧
      (submitted answer tx).settlementStatus = tx.settlementStatus := by
  obtain ⟨response, rfl, status⟩ := accepts
  simp [submitted, status]

theorem submitted_rejected {answer : PartnerAnswer} (rejects : ¬ Accepts answer)
    (tx : TransactionEntity) :
    (submitted answer tx).status = .failed ∧
      (submitted answer tx).settlementStatus = .failed := by
  cases answer with
  | error message => exact ⟨rfl, rfl⟩
  | ok response =>
    have status : response.status ≠ "SUBMITTED" := fun same => rejects ⟨response, rfl, same⟩
    simp [submitted, status]

theorem anchored_failed {tx : TransactionEntity} (env : Env) (clock : Clock) (answer : ChainAnswer)
    (failed : tx.status = .failed) :
    (anchored env clock answer tx).status = .failed ∧
      (anchored env clock answer tx).settlementStatus = tx.settlementStatus := by
  cases answer with
  | error message => exact ⟨failed, rfl⟩
  | ok response =>
    simp only [anchored, applyChainResult]
    split_ifs
    · simp [reconcileBusinessStatusAfterChainUpdate, failed]
    · exact ⟨failed, rfl⟩
    · exact ⟨failed, rfl⟩

/-! ## Triples for the parts of a creation -/

section Parts

variable {credited : Bool} {tx tx' : TransactionEntity}

-- A save that may be refused: the row then stays as it was, so it has to agree with the ledger.
theorem save_inFlight_with (Q : Books → Prop) (terms : tx'.terms = tx.terms)
    (coherent : tx.Coherent → tx'.Coherent)
    (agrees : rule.covers tx.terms → rule.of tx = credited) :
    Triple (fun s => InFlight rule credited tx s ∧ Q s.books) (save tx')
      (fun saved s => saved = tx' ∧ InFlight rule credited tx' s ∧ Q s.books)
      (Consistent rule) := by
  apply Triple.atomically
  · rintro s saved after ⟨inFlight, books⟩ done
    obtain ⟨_, stored, same⟩ := map_eq_ok.mp done
    obtain ⟨rfl, rfl⟩ := Prod.mk.inj same
    have later := inFlight.save terms (coherent (inFlight.coherent tx inFlight.held)) stored
    obtain ⟨transactions, _, rfl⟩ := saved_row stored
    exact ⟨rfl, later, books⟩
  · exact fun s holds => holds.1.consistent agrees

theorem save_inFlight (terms : tx'.terms = tx.terms) (coherent : tx.Coherent → tx'.Coherent)
    (agrees : rule.covers tx.terms → rule.of tx = credited) :
    Triple (InFlight rule credited tx) (save tx')
      (fun saved s => saved = tx' ∧ InFlight rule credited tx' s) (Consistent rule) :=
  (save_inFlight_with (fun _ => True) terms coherent agrees).conseq (fun _ inFlight => ⟨inFlight, trivial⟩)
    (fun _ _ holds => ⟨holds.1, holds.2.1⟩) fun _ holds => holds

-- A save that cannot be refused.
theorem save_inFlight_fits (terms : tx'.terms = tx.terms) (coherent : tx'.Coherent)
    (fits : tx'.columnsFit = true) :
    Triple (InFlight rule credited tx) (save tx')
      (fun saved s => saved = tx' ∧ InFlight rule credited tx' s) (Consistent rule) := by
  intro s inFlight
  obtain ⟨after, stored⟩ := save_isOk inFlight.held terms fits
  have ran : save tx' s = (.ok tx', after) := by
    simp [save, Service.transaction, Program.atomically, stored, Except.map]
  rw [ran]
  exact ⟨rfl, inFlight.save terms coherent stored⟩

theorem enqueue_consistent {now : Instant} :
    Triple (Consistent rule) (Service.write (enqueueTransactionEvent now tx))
      (fun _ => Consistent rule) (Consistent rule) := by
  apply Triple.atomically
  · intro s _ after consistent done
    obtain ⟨_, enqueued, same⟩ := map_eq_ok.mp done
    obtain ⟨outbox, event⟩ := enqueueTransactionEvent_isOk now tx s
    rw [event] at enqueued
    obtain rfl := Except.ok.inj enqueued
    obtain rfl := (Prod.mk.inj same).2
    exact ⟨consistent.known, consistent.positive, consistent.coherent, consistent.booked⟩
  · exact fun s consistent => consistent

-- The end of a creation whose row and ledger agree again.
theorem enqueue_last {now : Instant} {response : TransferResponse} :
    Triple (Consistent rule)
      (do Service.write (enqueueTransactionEvent now tx); pure response)
      (fun _ => Consistent rule) (Consistent rule) :=
  enqueue_consistent.bind fun _ => Triple.pure fun _ consistent => consistent

theorem anchor_consistent {env : Env} {clock : Clock} {answer : ChainAnswer}
    (failed : tx.status = .failed) (agrees : rule.covers tx.terms → rule.of tx = credited) :
    Triple (InFlight rule credited tx) (anchorToChain env clock answer tx)
      (fun _ => Consistent rule) (Consistent rule) := by
  obtain ⟨status, settlement⟩ := anchored_failed env clock answer failed
  have terms := anchored_terms env clock answer tx
  have sameType : (anchored env clock answer tx).type = tx.type := congrArg Terms.type terms
  have coherent : tx.Coherent → (anchored env clock answer tx).Coherent := by
    rintro ⟨settled, _⟩
    refine ⟨fun settled' => ?_, fun _ => status⟩
    rw [settlement] at settled'
    rw [settled settled'] at failed
    cases failed
  apply (save_inFlight terms coherent agrees).conseq (fun _ holds => holds) _ fun _ holds => holds
  rintro saved s ⟨rfl, inFlight⟩
  apply inFlight.consistent
  rw [terms, CreditRule.of, status, settlement, sameType, ← failed]
  exact agrees

theorem submitted_coherent (answer : PartnerAnswer) (tx : TransactionEntity)
    (coherent : tx.Coherent) : (submitted answer tx).Coherent := by
  unfold TransactionEntity.Coherent
  by_cases accepts : Accepts answer
  · obtain ⟨status, settlement⟩ := submitted_accepted accepts tx
    rw [status, settlement]
    exact coherent
  · obtain ⟨status, settlement⟩ := submitted_rejected accepts tx
    rw [status, settlement]
    exact ⟨nofun, fun _ => rfl⟩

theorem submit_inFlight_with (Q : Books → Prop) {answer : PartnerAnswer}
    (agrees : rule.covers tx.terms → rule.of tx = credited) :
    Triple (fun s => InFlight rule credited tx s ∧ Q s.books) (submitOutsideTransfer answer tx)
      (fun saved s => saved = submitted answer tx ∧
        InFlight rule credited (submitted answer tx) s ∧ Q s.books) (Consistent rule) := by
  apply Triple.ite
  · exact fun _ => save_inFlight_with Q (submitted_terms answer tx) (submitted_coherent answer tx)
      agrees
  · exact fun _ => Triple.fail fun _ holds => holds.1.consistent agrees

theorem submit_inFlight {answer : PartnerAnswer}
    (agrees : rule.covers tx.terms → rule.of tx = credited) :
    Triple (InFlight rule credited tx) (submitOutsideTransfer answer tx)
      (fun saved s => saved = submitted answer tx ∧
        InFlight rule credited (submitted answer tx) s) (Consistent rule) :=
  (submit_inFlight_with (fun _ => True) agrees).conseq (fun _ inFlight => ⟨inFlight, trivial⟩)
    (fun _ _ holds => ⟨holds.1, holds.2.1⟩) fun _ holds => holds

end Parts

theorem of_submitted_accepted {answer : PartnerAnswer} (accepts : Accepts answer)
    (tx : TransactionEntity) : rule.of (submitted answer tx) = rule.of tx := by
  obtain ⟨status, settlement⟩ := submitted_accepted accepts tx
  have sameType : (submitted answer tx).type = tx.type := congrArg Terms.type (submitted_terms answer tx)
  rw [CreditRule.of, status, settlement, sameType]
  rfl

theorem of_submitted_rejected {answer : PartnerAnswer} (rejects : ¬ Accepts answer)
    (tx : TransactionEntity) :
    rule.of (submitted answer tx) = rule.credited tx.type .failed .failed := by
  obtain ⟨status, settlement⟩ := submitted_rejected rejects tx
  have sameType : (submitted answer tx).type = tx.type := congrArg Terms.type (submitted_terms answer tx)
  rw [CreditRule.of, status, settlement, sameType]

/-! ## Top-ups -/

-- A rejected top-up withholds its credit, so its row and the ledger agree at once.
theorem topup_agrees {tx : TransactionEntity} (answer : PartnerAnswer)
    (fresh : Fresh rule .deposit tx) (covered : rule.covers (submitted answer tx).terms) :
    rule.of (submitted answer tx) = false := by
  rw [submitted_terms] at covered
  by_cases accepts : Accepts answer
  · rw [of_submitted_accepted accepts]
    exact fresh.uncredited covered
  · rw [of_submitted_rejected accepts, fresh.ofType]
    exact rule.withheld _ covered fresh.ofType

theorem createTopupIntent_consistent (env : Env) (answers : Answers)
    (request : CreateTopupIntentRequest) :
    Triple (Consistent rule) (createTopupIntent env answers request)
      (fun _ => Consistent rule) (Consistent rule) := by
  apply Triple.bind (Triple.ofExcept (fun _ _ holds _ => holds) fun _ holds => holds)
  intro req
  apply Triple.bind (Triple.query (fun _ _ holds _ => holds) fun _ holds => holds)
  intro fundingSource
  apply Triple.bind (Triple.query
    (fun s found holds same => (⟨Except.ok.inj same, holds⟩ :
      s.findByIdempotencyKey req.idempotencyKey = found ∧ Consistent rule s)) fun _ holds => holds)
  intro existing
  cases existing with
  | some existing =>
    apply Triple.bind (Triple.query (fun _ _ holds _ => holds.2) fun _ holds => holds.2)
    exact fun wallet => Triple.pure fun _ holds => holds
  | none =>
    apply Triple.bind (Triple.atomically (fun s persisted after holds done =>
      persistTopupIntent_persisted holds.2 holds.1 done) fun _ holds => holds.2)
    intro persisted
    apply Triple.assume
    intro fresh
    apply (submit_inFlight fresh.uncredited).bind
    intro tx
    apply Triple.assume
    rintro rfl
    apply Triple.ite
    · intro failed
      apply (anchor_consistent failed (topup_agrees answers.partner fresh)).bind
      exact fun tx => enqueue_last
    · intro _
      exact enqueue_last.weaken fun _ inFlight =>
        inFlight.consistent (topup_agrees answers.partner fresh)

/-! ## Transfers -/

-- A rejected transfer keeps its debit, so one the rule covers has to be accepted.
def TransferAccepted (rule : CreditRule) (env : Env) (answers : Answers)
    (request : CreateTransferRequest) (s : Tables) : Prop :=
  ∀ req terms, validateCreateTransfer env request = .ok req → req.isExternal = true →
    s.findByIdempotencyKey req.idempotencyKey = none → rule.covers terms →
    terms.type = .transfer → Accepts answers.partner

theorem finish_transfer {tx : TransactionEntity} {credited : Bool} (answers : Answers)
    (senderBalance receiverBalance : Int) (agrees : rule.covers tx.terms → rule.of tx = credited) :
    Triple (InFlight rule credited tx) (do
      let tx ← if tx.isExternal = false ∧ tx.status ≠ .failed then
          save (released answers.releasedAt tx)
        else pure tx
      Service.write (enqueueTransactionEvent answers.enqueuedAt tx)
      pure (mapTransferResponse tx senderBalance receiverBalance))
      (fun _ => Consistent rule) (Consistent rule) := by
  apply Triple.ite
  · intro _
    apply (save_inFlight (released_terms answers.releasedAt tx) (fun coherent => coherent)
      agrees).bind
    intro saved
    apply Triple.assume
    rintro rfl
    exact enqueue_last.weaken fun _ inFlight => inFlight.consistent agrees
  · intro _
    exact enqueue_last.weaken fun _ inFlight => inFlight.consistent agrees

theorem createTransfer_consistent (env : Env) (answers : Answers)
    (request : CreateTransferRequest) :
    Triple (fun s => Consistent rule s ∧ TransferAccepted rule env answers request s)
      (createTransfer env answers request) (fun _ => Consistent rule) (Consistent rule) := by
  have validated : Triple
      (fun s => Consistent rule s ∧ TransferAccepted rule env answers request s)
      (ofExcept (validateCreateTransfer env request))
      (fun req s => validateCreateTransfer env request = .ok req ∧ Consistent rule s ∧
        TransferAccepted rule env answers request s) (Consistent rule) :=
    Triple.ofExcept (fun s req holds valid => ⟨valid, holds⟩) fun _ holds => holds.1
  apply validated.bind
  intro req
  apply Triple.assume
  intro valid
  apply Triple.bind (Triple.query
    (fun s found holds same => (⟨Except.ok.inj same, holds⟩ :
      s.findByIdempotencyKey req.idempotencyKey = found ∧ Consistent rule s ∧
        TransferAccepted rule env answers request s)) fun _ holds => holds.1)
  intro existing
  cases existing with
  | some existing =>
    apply Triple.bind (Triple.query (fun _ _ holds _ => holds.2.1) fun _ holds => holds.2.1)
    intro _
    apply Triple.bind (Triple.query (fun _ _ holds _ => holds) fun _ holds => holds)
    exact fun _ => Triple.pure fun _ holds => holds
  | none =>
    have persist : Triple
        (fun s => s.findByIdempotencyKey req.idempotencyKey = none ∧ Consistent rule s ∧
          TransferAccepted rule env answers request s)
        (Service.transaction (persistTransfer env answers.persistedAt req))
        (fun persisted s => (Fresh rule .transfer persisted.transaction ∧
          (persisted.transaction.isExternal = true → rule.covers persisted.transaction.terms →
            Accepts answers.partner)) ∧ InFlight rule false persisted.transaction s)
        (Consistent rule) := by
      apply Triple.atomically _ fun _ holds => holds.2.1
      rintro s persisted after ⟨new, consistent, accepted⟩ done
      obtain ⟨⟨fresh, sameExternal⟩, inFlight⟩ := persistTransfer_persisted consistent new done
      exact ⟨⟨fresh, fun external covered => accepted req _ valid (sameExternal ▸ external) new
        covered fresh.ofType⟩, inFlight⟩
    apply persist.bind
    intro persisted
    apply Triple.assume
    rintro ⟨fresh, accepts⟩
    apply Triple.ite
    · intro external
      apply (submit_inFlight fresh.uncredited).bind
      intro tx
      apply Triple.assume
      rintro rfl
      apply finish_transfer answers
      intro covered
      rw [submitted_terms] at covered
      rw [of_submitted_accepted (accepts external covered)]
      exact fresh.uncredited covered
    · exact fun _ => finish_transfer answers _ _ fresh.uncredited

/-! ## Withdrawals -/

-- The wallet has room for the amount to come back.
def Refundable (terms : Terms) (books : Books) : Prop :=
  ∃ wallet, books.wallets.byKey (terms.fromUserId, terms.currency) = some wallet ∧
    wallet.columnsFit = true ∧ fitsBigint terms.amount = true ∧
    (Transactions.credited terms.amount wallet).columnsFit = true

theorem rollbackWithdrawalDebit_isOk {s : Tables} {tx : TransactionEntity} {reasonCode : String}
    (refundable : Refundable tx.terms s.books)
    (short : fitsVarchar 512 ("Withdrawal rollback (" ++ reasonCode ++ ")") = true) :
    ∃ after, rollbackWithdrawalDebit tx reasonCode s = .ok after := by
  obtain ⟨wallet, found, before, amount, fits⟩ := refundable
  have held : s.findWallet tx.fromUserId tx.currency = some wallet := found
  unfold rollbackWithdrawalDebit rollbackWithdrawalDebitUsingManager
  split_ifs
  · exact ⟨s, rfl⟩
  · split
    next => exact ⟨s, rfl⟩
    next =>
      simp only [held, creditWallet]
      obtain ⟨wallets, saved⟩ := Tables.saveWallet_isOk fits (mem_of_findWallet held).1 rfl rfl
      have saved' : s.saveWallet (Transactions.credited tx.amount wallet) =
          .ok { s with wallets } := saved
      have entryFits : (ledgerEntry tx.id .credit tx.amount wallet
          (Transactions.credited tx.amount wallet)
          ("Withdrawal rollback (" ++ reasonCode ++ ")")).columnsFit = true := by
        have amount' : fitsBigint tx.amount = true := amount
        simp only [Wallet.columnsFit, Bool.and_eq_true] at before fits
        have after : fitsBigint (Transactions.credited tx.amount wallet).balance = true := fits.2
        simp [LedgerEntry.columnsFit, ledgerEntry, amount', before.2, after, short]
      obtain ⟨ledger, inserted⟩ : ∃ ledger, Tables.insertLedger { s with wallets } _ =
          .ok { s with wallets, ledger } := Tables.insertLedger_isOk entryFits
      exact ⟨_, by rw [saved', ok_bind, inserted]⟩

theorem rollback_inFlight {tx : TransactionEntity} {reasonCode : String}
    (withdrawal : tx.type = .withdrawal) (agrees : rule.covers tx.terms → rule.of tx = false) :
    Triple (InFlight rule false tx) (Service.write (rollbackWithdrawalDebit tx reasonCode))
      (fun _ => InFlight rule true tx) (Consistent rule) := by
  apply Triple.atomically
  · intro s _ after inFlight done
    obtain ⟨_, rolledBack, same⟩ := map_eq_ok.mp done
    obtain rfl := (Prod.mk.inj same).2
    exact inFlight.rollback withdrawal rolledBack
  · exact fun s inFlight => inFlight.consistent agrees

theorem rollback_refundable {tx : TransactionEntity} {reasonCode : String}
    (withdrawal : tx.type = .withdrawal)
    (short : fitsVarchar 512 ("Withdrawal rollback (" ++ reasonCode ++ ")") = true) :
    Triple (fun s => InFlight rule false tx s ∧ Refundable tx.terms s.books)
      (Service.write (rollbackWithdrawalDebit tx reasonCode))
      (fun _ => InFlight rule true tx) (Consistent rule) := by
  rintro s ⟨inFlight, refundable⟩
  obtain ⟨after, rolledBack⟩ := rollbackWithdrawalDebit_isOk refundable short
  have ran : Service.write (rollbackWithdrawalDebit tx reasonCode) s = (.ok (), after) := by
    simp [Service.write, Program.atomically, rolledBack, Except.map]
  rw [ran]
  exact inFlight.rollback withdrawal rolledBack

theorem simulatedFailure_fits {tx : TransactionEntity} (fits : tx.columnsFit = true) :
    (simulatedFailure tx).columnsFit = true := by
  simp only [TransactionEntity.columnsFit, Bool.and_eq_true] at fits ⊢
  have code : fitsVarchar 64 "WITHDRAWAL_SIMULATED_FAILURE" = true := by decide
  have message : fitsVarchar 1024 "Withdrawal failure simulated by request" = true := by decide
  simp only [simulatedFailure, Option.all_some, code, message]
  simp_all

-- A refused withdrawal can be refunded.
def WithdrawalRefundable (env : Env) (answers : Answers) (request : CreateWithdrawalRequest)
    (s : Tables) : Prop :=
  ∀ req userId wallet, validateCreateWithdrawalRequest env request = .ok req →
    req.simulateFailure = false → ¬ Accepts answers.partner →
    Uuid.parse req.userId = some userId → s.findWallet userId req.currency = some wallet →
    (credited req.amount (debited req.amount wallet)).columnsFit = true

theorem persistWithdrawalRequest_refundable {env : Env} {now : Instant} {req : WithdrawalRequest}
    {fundingSource : FundingSource} {s after : Tables} {persisted : PersistedFunding}
    (new : s.findByIdempotencyKey req.idempotencyKey = none)
    (done : persistWithdrawalRequest env now req fundingSource s = .ok (persisted, after)) :
    persisted.transaction.columnsFit = true ∧
      ((∀ userId wallet, Uuid.parse req.userId = some userId →
        s.findWallet userId req.currency = some wallet →
        (credited req.amount (debited req.amount wallet)).columnsFit = true) →
        Refundable persisted.transaction.terms after.books) := by
  rcases persistWithdrawalRequest_effect done with ⟨_, used⟩ | ⟨_, rest⟩
  · rw [new] at used
    cases used
  · obtain ⟨userId, sink, wallet, wallets, transactions, ledger, rfl, parsed, found, inserted,
      txFits, walletFits, debit⟩ := rest
    refine ⟨txFits, fun room => ⟨debited req.amount wallet, ?_, walletFits, ?_, ?_⟩⟩
    · rw [(Table.insert?_spec inserted).1, debit.byKey, if_pos]
      · rfl
      · exact (Table.byKey_eq_some.mp found).2
    · simp only [TransactionEntity.columnsFit, Bool.and_eq_true] at txFits
      exact txFits.1.1.1.1.1.1.1.1.1.1.2
    · rw [(Table.insert?_spec inserted).1]
      exact room userId wallet parsed found

section NewRow

variable {env : Env} {answers : Answers} {tx : TransactionEntity} {senderBalance : Int}

-- The refund comes first here, and the save after it cannot be refused.
theorem simulate_withdrawal (fresh : Fresh rule .withdrawal tx) (fits : tx.columnsFit = true) :
    Triple (InFlight rule false tx) (do
      Service.write (rollbackWithdrawalDebit tx "WITHDRAWAL_SIMULATED_FAILURE")
      let tx ← save (simulatedFailure tx)
      let tx ← anchorToChain env answers.clock answers.chain tx
      Service.write (enqueueTransactionEvent answers.enqueuedAt tx)
      pure (mapTransferResponse tx senderBalance 0))
      (fun _ => Consistent rule) (Consistent rule) := by
  have credited : rule.of (simulatedFailure tx) = true := by
    have sameType : (simulatedFailure tx).type = .withdrawal := fresh.ofType
    rw [CreditRule.of, sameType]
    exact rule.returned
  apply (rollback_inFlight fresh.ofType fresh.uncredited).bind
  intro _
  apply (save_inFlight_fits (simulatedFailure_terms tx) ⟨by rintro ⟨⟩, fun _ => rfl⟩
    (simulatedFailure_fits fits)).bind
  intro saved
  apply Triple.assume
  rintro rfl
  apply (anchor_consistent rfl fun _ => credited).bind
  exact fun tx => enqueue_last

theorem rejected_code {answer : PartnerAnswer} (rejects : ¬ Accepts answer)
    (tx : TransactionEntity) :
    fitsVarchar 512 ("Withdrawal rollback (" ++
      ((submitted answer tx).errorCode.getD "WITHDRAWAL_FAILED") ++ ")") = true := by
  cases answer with
  | error message =>
    change fitsVarchar 512 ("Withdrawal rollback (" ++ "OUTSIDE_PAYMENT_ERROR" ++ ")") = true
    decide
  | ok response =>
    have status : response.status ≠ "SUBMITTED" := fun same => rejects ⟨response, rfl, same⟩
    have code : (submitted (.ok response) tx).errorCode = some "OUTSIDE_PAYMENT_REJECTED" := by
      simp [submitted, status]
    rw [code]
    decide

theorem submit_withdrawal (fresh : Fresh rule .withdrawal tx) {refundedBalance : Int} :
    Triple (fun s => InFlight rule false tx s ∧
        (¬ Accepts answers.partner → Refundable tx.terms s.books)) (do
      let tx ← submitOutsideTransfer answers.partner tx
      if tx.status = .failed then
        Service.write (rollbackWithdrawalDebit tx (tx.errorCode.getD "WITHDRAWAL_FAILED"))
        let tx ← anchorToChain env answers.clock answers.chain tx
        Service.write (enqueueTransactionEvent answers.enqueuedAt tx)
        pure (mapTransferResponse tx refundedBalance 0)
      else
        Service.write (enqueueTransactionEvent answers.enqueuedAt tx)
        pure (mapTransferResponse tx senderBalance 0))
      (fun _ => Consistent rule) (Consistent rule) := by
  have terms := submitted_terms answers.partner tx
  have sameType : (submitted answers.partner tx).type = .withdrawal :=
    (congrArg Terms.type terms).trans fresh.ofType
  apply (submit_inFlight_with (fun books => ¬ Accepts answers.partner →
    Refundable tx.terms books) fresh.uncredited).bind
  intro saved
  apply Triple.assume
  rintro rfl
  by_cases accepts : Accepts answers.partner
  · have pending : (submitted answers.partner tx).status ≠ .failed := by
      rw [(submitted_accepted accepts tx).1, fresh.pending]
      decide
    rw [if_neg pending]
    refine enqueue_last.weaken fun s holds => holds.1.consistent fun covered => ?_
    rw [of_submitted_accepted accepts]
    exact fresh.uncredited (terms ▸ covered)
  · have failed := (submitted_rejected accepts tx).1
    have credited : rule.of (submitted answers.partner tx) = true := by
      rw [of_submitted_rejected accepts, fresh.ofType]
      exact rule.returned
    rw [if_pos failed]
    apply Triple.bind ((rollback_refundable sameType (rejected_code accepts tx)).weaken
      fun s holds => ⟨holds.1, terms ▸ holds.2 accepts⟩)
    intro _
    apply (anchor_consistent failed fun _ => credited).bind
    exact fun tx => enqueue_last

end NewRow

theorem createWithdrawalRequest_consistent (env : Env) (answers : Answers)
    (request : CreateWithdrawalRequest) :
    Triple (fun s => Consistent rule s ∧ WithdrawalRefundable env answers request s)
      (createWithdrawalRequest env answers request) (fun _ => Consistent rule)
      (Consistent rule) := by
  have validated : Triple
      (fun s => Consistent rule s ∧ WithdrawalRefundable env answers request s)
      (ofExcept (validateCreateWithdrawalRequest env request))
      (fun req s => validateCreateWithdrawalRequest env request = .ok req ∧ Consistent rule s ∧
        WithdrawalRefundable env answers request s) (Consistent rule) :=
    Triple.ofExcept (fun s req holds valid => ⟨valid, holds⟩) fun _ holds => holds.1
  apply validated.bind
  intro req
  apply Triple.assume
  intro valid
  apply Triple.bind (Triple.query (fun _ _ holds _ => holds) fun _ holds => holds.1)
  intro fundingSource
  apply Triple.bind (Triple.query
    (fun s found holds same => (⟨Except.ok.inj same, holds⟩ :
      s.findByIdempotencyKey req.idempotencyKey = found ∧ Consistent rule s ∧
        WithdrawalRefundable env answers request s)) fun _ holds => holds.1)
  intro existing
  cases existing with
  | some existing =>
    apply Triple.bind (Triple.query (fun _ _ holds _ => holds.2.1) fun _ holds => holds.2.1)
    exact fun wallet => Triple.pure fun _ holds => holds
  | none =>
    have persist : Triple
        (fun s => s.findByIdempotencyKey req.idempotencyKey = none ∧ Consistent rule s ∧
          WithdrawalRefundable env answers request s)
        (Service.transaction
          (persistWithdrawalRequest env answers.persistedAt req fundingSource))
        (fun persisted s => (Fresh rule .withdrawal persisted.transaction ∧
            persisted.transaction.columnsFit = true) ∧
          InFlight rule false persisted.transaction s ∧
          (req.simulateFailure = false → ¬ Accepts answers.partner →
            Refundable persisted.transaction.terms s.books)) (Consistent rule) := by
      apply Triple.atomically _ fun _ holds => holds.2.1
      rintro s persisted after ⟨new, consistent, room⟩ done
      obtain ⟨fresh, inFlight⟩ := persistWithdrawalRequest_persisted consistent new done
      obtain ⟨fits, refundable⟩ := persistWithdrawalRequest_refundable new done
      exact ⟨⟨fresh, fits⟩, inFlight, fun simulated rejects => refundable
        fun userId wallet => room req userId wallet valid simulated rejects⟩
    apply persist.bind
    intro persisted
    apply Triple.assume
    rintro ⟨fresh, fits⟩
    apply Triple.ite
    · exact fun _ => (simulate_withdrawal fresh fits).weaken fun _ holds => holds.1
    · intro simulated
      exact (submit_withdrawal fresh).weaken fun _ holds =>
        ⟨holds.1, holds.2 (Bool.eq_false_iff.mpr simulated)⟩

/-! ## Settlements and wallets -/

-- The mark changes the row as it changes the ledger.
def MarkFits (rule : CreditRule) (outcome : SettlementOutcome) (tx : TransactionEntity) : Prop :=
  rule.credited tx.type outcome.status outcome.settlementStatus =
    (rule.of tx || decide (Credits outcome tx.type))

theorem of_marked (now : Instant) (outcome : SettlementOutcome) (note : String)
    (tx : TransactionEntity) :
    rule.of (marked now outcome note tx) =
      rule.credited tx.type outcome.status outcome.settlementStatus := by
  have sameType : (marked now outcome note tx).type = tx.type :=
    congrArg Terms.type (marked_terms now outcome note tx)
  rw [CreditRule.of, marked_status, marked_settlementStatus, sameType]

theorem InFlight.creditedOnce {outcome : SettlementOutcome} {tx : TransactionEntity}
    {s after : Tables} (inFlight : InFlight rule (rule.of tx) tx s)
    (covered : rule.covers tx.terms) (once : CreditedOnce outcome tx s after) :
    InFlight rule (rule.of tx || decide (Credits outcome tx.type)) tx after := by
  have agrees := (inFlight.booked covered).findCredit
  rcases once with ⟨rfl, held⟩ | ⟨credits, missing, wallets, ledger, wallet, opened, rfl, loaded,
    posted⟩
  · by_cases credits : Credits outcome tx.type
    · have already : rule.of tx = true := by
        rw [← Bool.not_eq_false]
        exact fun uncredited => held credits (agrees.mpr uncredited)
      rw [already] at inFlight ⊢
      exact inFlight
    · simpa [credits] using inFlight
  · rw [agrees.mp missing] at inFlight ⊢
    simpa [credits] using inFlight.credit loaded posted

theorem InFlight.creditedOnce_uncovered {outcome : SettlementOutcome} {tx : TransactionEntity}
    {credited : Bool} {s after : Tables} (inFlight : InFlight rule credited tx s)
    (uncovered : ¬ rule.covers tx.terms) (once : CreditedOnce outcome tx s after) :
    InFlight rule credited tx after := by
  have free : ∀ credited', InFlight rule credited' tx s := fun _ =>
    { inFlight with booked := fun covered => absurd covered uncovered }
  rcases once with ⟨rfl, _⟩ | ⟨_, _, wallets, ledger, wallet, opened, rfl, loaded, posted⟩
  · exact inFlight
  · exact { (free false).credit loaded posted with
      booked := fun covered => absurd covered uncovered }

theorem marked_coherent (now : Instant) (outcome : SettlementOutcome) (note : String)
    (tx : TransactionEntity) : (marked now outcome note tx).Coherent := by
  rw [TransactionEntity.Coherent, marked_status, marked_settlementStatus]
  cases outcome <;> simp [SettlementOutcome.status, SettlementOutcome.settlementStatus]

theorem markSettlement_consistent {env : Env} {now : Instant} {transactionId : Nat}
    {settlementStatus note : String} {s after : Tables} {found : Bool}
    (consistent : Consistent rule s)
    (fits : ∀ outcome tx, settlementOutcome? env settlementStatus = some outcome →
      s.transactions.get? transactionId = some tx → rule.covers tx.terms →
      MarkFits rule outcome tx)
    (done : markSettlement env now transactionId settlementStatus note s = .ok (found, after)) :
    Consistent rule after := by
  obtain ⟨outcome, known, ⟨_, rfl, _⟩ | ⟨_, tx, middle, transactions, outbox, held, once, updated,
    rfl, _⟩⟩ := markSettlement_effect done
  · exact consistent
  · have inFlight := consistent.inFlight (Table.mem_of_get? held)
    have sameRows : middle.transactions = s.transactions := once.transactions
    have later : ∀ credited, InFlight rule credited tx middle →
        InFlight rule credited (marked now outcome note tx)
          { middle with transactions, outbox } := by
      intro credited inFlight
      rw [← sameRows] at updated
      have coherent : (marked now outcome note tx).Coherent := marked_coherent now outcome note tx
      have saved := inFlight.update (marked_terms now outcome note tx) coherent updated
      exact { saved with known := saved.known, positive := saved.positive }
    by_cases covered : rule.covers tx.terms
    · apply (later _ (inFlight.creditedOnce covered once)).consistent
      rw [of_marked]
      exact fun _ => fits outcome tx known held covered
    · apply (later _ (inFlight.creditedOnce_uncovered covered once)).consistent
      rw [marked_terms]
      exact fun other => absurd other covered

theorem createWallet_consistent (env : Env) (now : Instant) (userId currencyRaw : String) :
    Triple (Consistent rule) (createWallet env now userId currencyRaw)
      (fun _ => Consistent rule) (Consistent rule) := by
  apply Triple.bind (Triple.ofExcept (fun _ _ holds _ => holds) fun _ holds => holds)
  intro currency
  apply Triple.bind (Triple.ofExcept (fun _ _ holds _ => holds) fun _ holds => holds)
  intro id
  apply Triple.bind (Triple.query (fun _ _ holds _ => holds) fun _ holds => holds)
  intro found
  cases found with
  | some wallet => exact Triple.pure fun _ holds => holds
  | none =>
    apply Triple.atomically _ fun _ holds => holds
    intro s wallet after consistent done
    rcases insertOrFindWallet_effect done with rfl | ⟨wallets, rfl, opened⟩
    · exact consistent
    · have loaded : Loaded id currency wallet s.books _ := .inr opened
      exact
        { known := fun other fresh => (loaded.postings other).trans (consistent.known other fresh)
          positive := consistent.positive
          coherent := consistent.coherent
          booked := fun tx member covered => (consistent.booked tx member covered).frame
            loaded.walletsKept (loaded.postings _) }

/-! ## Runs -/

-- The condition on one operation, read off the tables it starts from.
def Operation.Fits (rule : CreditRule) (env : Env) (s : Tables) : Operation → Prop
  | .createTransfer answers request => TransferAccepted rule env answers request s
  | .createWithdrawalRequest answers request => WithdrawalRefundable env answers request s
  | .markSettlement _ transactionId settlementStatus _ => ∀ outcome tx,
    settlementOutcome? env settlementStatus = some outcome →
      s.transactions.get? transactionId = some tx → rule.covers tx.terms → MarkFits rule outcome tx
  | _ => True

theorem operation_consistent (env : Env) (s : Tables) (operation : Operation)
    (consistent : Consistent rule s) (fits : operation.Fits rule env s) :
    Consistent rule (operation.run env s) := by
  cases operation with
  | createWallet now userId currency =>
    exact (createWallet_consistent env now userId currency).finalState consistent
  | createTransfer answers request =>
    exact (createTransfer_consistent env answers request).finalState ⟨consistent, fits⟩
  | createTopupIntent answers request =>
    exact (createTopupIntent_consistent env answers request).finalState consistent
  | createWithdrawalRequest answers request =>
    exact (createWithdrawalRequest_consistent env answers request).finalState ⟨consistent, fits⟩
  | markSettlement now transactionId settlementStatus note =>
    change Consistent rule (Program.finalState
      (Service.transaction (markSettlement env now transactionId settlementStatus note)) s)
    simp only [Program.finalState, Service.transaction, Program.atomically]
    cases done : markSettlement env now transactionId settlementStatus note s with
    | error error => exact consistent
    | ok result => exact markSettlement_consistent consistent fits done
  | fundingSources sources =>
    exact ⟨consistent.known, consistent.positive, consistent.coherent, consistent.booked⟩

theorem initial_consistent (rule : CreditRule) (sources : List FundingSource) :
    Consistent rule (Tables.initial sources) where
  known := fun _ _ => rfl
  positive := fun tx member => absurd member (Table.not_mem_empty tx)
  coherent := fun tx member => absurd member (Table.not_mem_empty tx)
  booked := fun tx member => absurd member (Table.not_mem_empty tx)

theorem runAll_consistent {env : Env} {sources : List FundingSource} {operations : List Operation}
    (run : Operation.AllowedRun env (fun s operation => operation.Fits rule env s) operations
      (Tables.initial sources)) :
    Consistent rule (Operation.runAll env operations (Tables.initial sources)) :=
  run.invariant (Consistent rule) (operation_consistent env) (initial_consistent rule sources)

end Kufi.Transactions

import Kufi.Transactions.CreditRuns
import Kufi.Workers.Announcements

set_option autoImplicit false

/-!
# The business outcome under chain updates

Chain progress shares the status row and its pair of error fields with the
business outcome. The worker stays away from failed transactions; the anchoring
that follows a refused request does not.
-/

namespace Kufi.Workers

open Shared Transactions

/-- The columns that no chain update writes: amount, parties and settlement. -/
def business (tx : TransactionEntity) :
    Terms × SettlementStatus × Option String × Option String × Option String :=
  (tx.terms, tx.settlementStatus, tx.externalPartner, tx.externalAccountNo, tx.externalRef)

def errors (tx : TransactionEntity) : Option String × Option String :=
  (tx.errorCode, tx.errorMessage)

/-- What a chain update has to leave alone. -/
structure OutcomeKept (before after : TransactionEntity) : Prop where
  business : business after = business before
  failed : before.status = .failed → after.status = .failed
  errors : before.status = .failed → errors after = errors before

def KeepsOutcome (tx : TransactionEntity) (after : Tables) : Prop :=
  ∃ row ∈ after.transactions.get? tx.id, OutcomeKept tx row

/-! ## What the chain's answer decides -/

section

variable (env : Env)

def answeredStatus : ChainAnswer → ChainStatus
  | .error _ => .pending
  | .ok response =>
    if env.toUpperCase (Text.trim response.chainStatus) = "ANCHORED" then .anchored
    else if env.toUpperCase (Text.trim response.chainStatus) = "FAILED" then .failed
    else .pending

def pendingMessage (answer : ChainAnswer) : String :=
  Text.orElse (match answer with | .ok _ => "" | .error message => Text.trim message)
    "On-chain receipt is still processing. System will retry automatically."

def answeredErrors (answer : ChainAnswer) : Option String × Option String :=
  match answeredStatus env answer with
  | .anchored => (none, none)
  | .failed => (some "CHAIN_FAILED", some "On-chain transaction validation failed")
  | .pending => (some "CHAIN_PENDING", some (pendingMessage answer))

def answerFits : ChainAnswer → Bool
  | .ok response => fitsVarchar 128 response.txId && fitsText response.receiptJson
  | .error message => fitsVarchar 1024 (Text.trim message)

/-- The columns have no room for the answer, or for one more retry. -/
def Unstorable (answer : ChainAnswer) (tx : TransactionEntity) : Prop :=
  answerFits answer = false ∨ answeredStatus env answer = .pending ∧ 2 ^ 31 ≤ tx.chainRetryCount + 1

end

variable {env : Env} {clock : Clock} {answer : ChainAnswer} {tx row : TransactionEntity}

theorem OutcomeKept.refl (tx : TransactionEntity) : OutcomeKept tx tx := ⟨rfl, id, fun _ => rfl⟩

theorem OutcomeKept.id (kept : OutcomeKept tx row) : row.id = tx.id :=
  congrArg (fun columns => Terms.id columns.1) kept.business

theorem reconciled_business (tx : TransactionEntity) :
    business (reconcileBusinessStatusAfterChainUpdate tx) = business tx := by
  unfold reconcileBusinessStatusAfterChainUpdate
  split_ifs <;> rfl

theorem anchored_business (env : Env) (clock : Clock) (answer : ChainAnswer)
    (tx : TransactionEntity) : business (anchored env clock answer tx) = business tx := by
  cases answer with
  | error message => rfl
  | ok response =>
    simp only [anchored, applyChainResult]
    split_ifs
    · rw [reconciled_business]
      rfl
    · rfl
    · rfl

theorem processed_business (env : Env) (clock : Clock) (answer : ChainAnswer)
    (tx : TransactionEntity) : business (processed env clock answer tx) = business tx := by
  simp only [processed, reconciled_business]
  split_ifs <;> exact anchored_business env clock answer tx

theorem reconciled_errors (tx : TransactionEntity) :
    errors (reconcileBusinessStatusAfterChainUpdate tx) = errors tx := by
  unfold reconcileBusinessStatusAfterChainUpdate
  split_ifs <;> rfl

theorem anchored_errors (env : Env) (clock : Clock) (answer : ChainAnswer)
    (tx : TransactionEntity) :
    errors (anchored env clock answer tx) = answeredErrors env answer := by
  cases answer with
  | error message => rfl
  | ok response =>
    simp only [anchored, applyChainResult, answeredErrors, answeredStatus]
    split_ifs
    · rw [reconciled_errors]
      rfl
    · rfl
    · rfl

theorem anchored_kept_iff (env : Env) (clock : Clock) (answer : ChainAnswer)
    (tx : TransactionEntity) : OutcomeKept tx (anchored env clock answer tx) ↔
      tx.status ≠ .failed ∨ errors tx = answeredErrors env answer := by
  rw [← anchored_errors env clock answer tx]
  constructor
  · intro kept
    by_cases failed : tx.status = .failed
    · exact .inr (kept.errors failed).symm
    · exact .inl failed
  · intro condition
    exact
      { business := anchored_business env clock answer tx
        failed := fun failed => (anchored_failed env clock answer failed).1
        errors := fun failed => (condition.resolve_left (not_not_intro failed)).symm }

/-! ## Whether the answer can be stored -/

theorem fits_or_nonEmpty {fits : String → Bool} {text : String} {before : Option String}
    (empty : fits "" = true) (held : before.all fits = true) :
    ((Text.nonEmpty? text).or before).all fits = fits text := by
  unfold Text.nonEmpty?
  split_ifs with blank
  · rw [Option.none_or, held, blank, empty]
  · rfl

theorem reconciled_columnsFit (tx : TransactionEntity) :
    (reconcileBusinessStatusAfterChainUpdate tx).columnsFit = tx.columnsFit := by
  unfold reconcileBusinessStatusAfterChainUpdate
  split_ifs <;> rfl

theorem pendingMessage_fits (answer : ChainAnswer) : fitsVarchar 1024 (pendingMessage answer) =
    match answer with
    | .ok _ => true
    | .error message => fitsVarchar 1024 (Text.trim message) := by
  have default : fitsVarchar 1024
      "On-chain receipt is still processing. System will retry automatically." = true := by decide
  cases answer with
  | ok response => exact default
  | error message =>
    simp only [pendingMessage, Text.orElse]
    split_ifs with blank
    · rw [blank, default]
      rfl
    · rfl

/-- Of an entity that fitted, only the columns of a chain update can have become too long. -/
theorem columnsFit_chain (fits : tx.columnsFit = true) {chainStatus : ChainStatus}
    {chainTxId receiptJson errorCode errorMessage : Option String} {chainRetryCount : Nat}
    {chainLastAttemptAt chainNextAttemptAt : Option Instant} :
    { tx with
      chainStatus, chainTxId, receiptJson, chainRetryCount, chainLastAttemptAt
      chainNextAttemptAt, errorCode, errorMessage }.columnsFit =
      (chainTxId.all (fitsVarchar 128) && receiptJson.all fitsText &&
        decide (chainRetryCount < 2 ^ 31) && errorCode.all (fitsVarchar 64) &&
        errorMessage.all (fitsVarchar 1024)) := by
  simp only [TransactionEntity.columnsFit, Bool.and_eq_true] at fits
  obtain ⟨⟨⟨⟨⟨columns, -⟩, -⟩, -⟩, -⟩, -⟩ := fits
  simp only [TransactionEntity.columnsFit, columns, Bool.true_and]

variable (env clock answer) in
theorem anchored_fits_iff (fits : tx.columnsFit = true) :
    (anchored env clock answer tx).columnsFit = true ↔ ¬Unstorable env answer tx := by
  have code : fitsVarchar 64 "CHAIN_FAILED" = true ∧ fitsVarchar 64 "CHAIN_PENDING" = true := by
    decide
  have failure : fitsVarchar 1024 "On-chain transaction validation failed" = true := by decide
  have waits := pendingMessage_fits answer
  have before := fits
  simp only [TransactionEntity.columnsFit, Bool.and_eq_true] at before
  obtain ⟨⟨⟨⟨⟨-, txId⟩, receipt⟩, retries⟩, -⟩, -⟩ := before
  cases answer with
  | error error =>
    rw [pendingMessage] at waits
    simp only [anchored, markChainPending, columnsFit_chain fits, txId, receipt, code.2, waits,
      Unstorable, answerFits, answeredStatus, Option.all_some, Bool.true_and, Bool.and_true,
      Bool.and_eq_true, decide_eq_true_eq]
    grind
  | ok response =>
    have id : ((Text.nonEmpty? response.txId).or tx.chainTxId).all (fitsVarchar 128) =
        fitsVarchar 128 response.txId := fits_or_nonEmpty (by decide) txId
    have json : ((Text.nonEmpty? response.receiptJson).or tx.receiptJson).all fitsText =
        fitsText response.receiptJson := fits_or_nonEmpty (by decide) receipt
    rw [pendingMessage] at waits
    simp only [anchored, applyChainResult, Unstorable, answerFits, answeredStatus]
    split_ifs
    · rw [reconciled_columnsFit, columnsFit_chain fits, id, json]
      simp
    · rw [columnsFit_chain fits, id, json, retries]
      simp [code.1, failure]
    · have blank : Text.trim "" = "" := by decide
      rw [markChainPending, columnsFit_chain fits, id, json, blank]
      simp only [code.2, waits, Option.all_some]
      grind

/-! ## The worker -/

def chainJobs (env : Env) : Machine Tables ChainJob ChainJobAction where
  step := ChainJob.step env

/-- What a job knows of the row it was started for. -/
def Faithful (row : TransactionEntity) (s : Tables) : ChainJob → Prop
  | .loading id => id = row.id ∧ s.transactions.get? row.id = some row
  | .anchoring tx | .receipt tx =>
    tx = row ∧ row.status ≠ .failed ∧ s.transactions.get? row.id = some row
  | .saving _ tx => OutcomeKept row tx ∧ s.transactions.get? row.id = some row
  | .announceChain _ _ | .announce _ | .done => KeepsOutcome row s

theorem loaded_faithful {s : Tables} (held : s.transactions.get? row.id = some row) :
    Faithful row s (ChainJob.loaded row) := by
  unfold ChainJob.loaded isProcessable
  split_ifs with processable
  · exact ⟨rfl, by simpa using (Bool.and_eq_true_iff.mp processable).2, held⟩
  · exact ⟨rfl, by simpa using (Bool.and_eq_true_iff.mp processable).2, held⟩
  · exact ⟨row, held, .refl row⟩

theorem processed_kept (alive : row.status ≠ .failed) :
    OutcomeKept row (processed env clock answer row) where
  business := processed_business env clock answer row
  failed failed := absurd failed alive
  errors failed := absurd failed alive

theorem stored_of_save {s after : Tables} (held : s.transactions.get? row.id = some row)
    (sameId : tx.id = row.id) (saved : s.saveTransaction tx = .ok after) :
    after.transactions.get? row.id = some tx := by
  obtain ⟨transactions, updated, rfl⟩ := saved_row saved
  have member := (Table.get?_eq_some.mp held).1
  exact (Table.get?_update? updated member sameId.symm row.id).trans (if_pos sameId)

theorem save_keepsOutcome {s after : Tables} (held : s.transactions.get? row.id = some row)
    (kept : OutcomeKept row tx) (saved : s.saveTransaction tx = .ok after) :
    KeepsOutcome row after :=
  ⟨tx, stored_of_save held kept.id saved, kept⟩

theorem afterSave_faithful {s : Tables} (previous : TransactionStatus) (tx : TransactionEntity)
    (kept : KeepsOutcome row s) : Faithful row s (ChainJob.afterSave previous tx) := by
  unfold ChainJob.afterSave
  split_ifs
  · exact kept
  · exact kept

theorem Faithful.step {s after : Tables} {job next : ChainJob} {action : ChainJobAction}
    (faithful : Faithful row s job) (stepped : (chainJobs env).step s job action = some (after, next)) :
    Faithful row after next := by
  cases ChainJob.step_moves stepped with
  | loaded found =>
    obtain ⟨rfl, held⟩ := faithful
    obtain rfl := Option.some.inj (found.symm.trans held)
    exact loaded_faithful held
  | missing missing =>
    obtain ⟨rfl, held⟩ := faithful
    cases missing.symm.trans held
  | anchored | receipt =>
    obtain ⟨rfl, alive, held⟩ := faithful
    exact ⟨processed_kept alive, held⟩
  | @saved previous tx _ saved =>
    have kept := save_keepsOutcome faithful.2 faithful.1 saved
    split_ifs
    · exact kept
    · exact afterSave_faithful previous tx kept
  | refused => exact ⟨row, faithful.2, .refl row⟩
  | @announcedChain previous tx => exact afterSave_faithful previous tx faithful
  | announced => exact faithful

theorem Faithful.kept {s : Tables} {job : ChainJob} (faithful : Faithful row s job) :
    KeepsOutcome row s := by
  cases job with
  | loading id => exact ⟨row, faithful.2, .refl row⟩
  | anchoring tx | receipt tx => exact ⟨row, faithful.2.2, .refl row⟩
  | saving previous tx => exact ⟨row, faithful.2, .refl row⟩
  | announceChain | announce | done => exact faithful

/-! ## The anchoring of a request -/

theorem anchorToChain_finalState (s : Tables) (held : s.transactions.get? tx.id = some tx)
    (fits : tx.columnsFit = true) :
    KeepsOutcome tx ((anchorToChain env clock answer tx).finalState s) ↔
      Unstorable env answer tx ∨ OutcomeKept tx (anchored env clock answer tx) := by
  have member := (Table.get?_eq_some.mp held).1
  have stores := anchored_fits_iff env clock answer fits
  by_cases unstorable : Unstorable env answer tx
  · have refused : (anchored env clock answer tx).columnsFit = false := by
      simpa [unstorable] using stores
    refine iff_of_true ⟨tx, ?_, .refl tx⟩ (.inl unstorable)
    simp [Program.finalState, anchorToChain, save, Service.transaction, Program.atomically,
      Tables.saveTransaction, saveRow, refused, Except.map, held]
  · obtain ⟨after, saved⟩ := save_isOk member (anchored_terms env clock answer tx)
      (stores.mpr unstorable)
    have ends : (anchorToChain env clock answer tx).finalState s = after := by
      simp [Program.finalState, anchorToChain, save, Service.transaction, Program.atomically,
        saved, Except.map]
    rw [ends, or_iff_right unstorable]
    refine ⟨fun kept => ?_, fun kept => save_keepsOutcome held kept saved⟩
    obtain ⟨row, stored, kept⟩ := kept
    have sameId := congrArg Terms.id (anchored_terms env clock answer tx)
    obtain rfl := Option.some.inj (stored.symm.trans (stored_of_save held sameId saved))
    exact kept

-- The worker keeps every outcome; anchoring keeps that of a failed transaction only where the
-- answer is refused by the columns or would write the errors that are there.
theorem chain_update_keeps_outcome_iff (env : Env) (clock : Clock) (answer : ChainAnswer)
    (s : Tables) (tx : TransactionEntity) (held : s.transactions.get? tx.id = some tx)
    (fits : tx.columnsFit = true) :
    ((∀ actions after job,
        (chainJobs env).alone s (.loading tx.id) actions = some (after, job) →
          KeepsOutcome tx after) ∧
      KeepsOutcome tx ((anchorToChain env clock answer tx).finalState s)) ↔
        tx.status ≠ .failed ∨ Unstorable env answer tx ∨ errors tx = answeredErrors env answer := by
  have worker : ∀ actions after job,
      (chainJobs env).alone s (.loading tx.id) actions = some (after, job) →
        KeepsOutcome tx after := by
    intro actions after job ran
    have started : Faithful tx s (.loading tx.id) := ⟨rfl, held⟩
    exact (Machine.alone_invariant (Faithful tx) Faithful.step started ran).kept
  rw [and_iff_right worker, anchorToChain_finalState s held fits, anchored_kept_iff]
  exact or_left_comm

/-! ## A refused top-up -/

def aliceFunding : FundingRequest where
  idempotencyKey := "topup"
  userId := alice
  fundingSourceId := bankAccount
  amount := 100
  currency := "VND"
  memo := ""
  positive := hundred_positive

/-- The partner has declined it. -/
def refusedTopup : TransactionEntity :=
  submitted refused.partner (topupEntity sampleEnv 0 aliceFunding aliceSource aliceId aliceId)

def refusedTables : Tables :=
  { Tables.initial [aliceSource] with
    transactions :=
      { rows := [refusedTopup]
        next := 1
        fresh := by decide
        ids := by decide
        unique := by decide } }

def anchoredAs (chainStatus : String) : ChainAnswer :=
  .ok { chainStatus, txId := "0xabc", blockNumber := 1, commitmentHash := "", receiptJson := "" }

-- A message that no text column takes is refused and the row stays.
theorem chain_update_keeps_outcome_iff_refused :
    ((∀ actions after job,
        (chainJobs sampleEnv).alone refusedTables (.loading 0) actions = some (after, job) →
          KeepsOutcome refusedTopup after) ∧
      KeepsOutcome refusedTopup ((anchorToChain sampleEnv { now := 0, jitter := 0 }
        (.error "\x00") refusedTopup).finalState refusedTables)) ↔
        refusedTopup.status ≠ .failed ∨ Unstorable sampleEnv (.error "\x00") refusedTopup ∨
          errors refusedTopup = answeredErrors sampleEnv (.error "\x00") :=
  chain_update_keeps_outcome_iff sampleEnv { now := 0, jitter := 0 } (.error "\x00") refusedTables
    refusedTopup (by decide +kernel) (by decide +kernel)

theorem refusal_overwritten :
    ¬∀ answer, KeepsOutcome refusedTopup ((anchorToChain sampleEnv { now := 0, jitter := 0 } answer
      refusedTopup).finalState refusedTables) := by
  intro always
  obtain ⟨row, stored, kept⟩ := always (anchoredAs "ANCHORED")
  have cleared : (((anchorToChain sampleEnv { now := 0, jitter := 0 } (anchoredAs "ANCHORED")
      refusedTopup).finalState refusedTables).transactions.get? 0).map errors =
      some (none, none) := by decide +kernel
  have found : (((anchorToChain sampleEnv { now := 0, jitter := 0 } (anchoredAs "ANCHORED")
      refusedTopup).finalState refusedTables).transactions.get? 0) = some row := stored
  rw [found] at cleared
  have lost := (kept.errors (by decide +kernel)).symm.trans (Option.some.inj cleared)
  exact absurd lost (by decide +kernel)

end Kufi.Workers

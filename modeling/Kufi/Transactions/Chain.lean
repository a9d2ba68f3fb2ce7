import Mathlib.Data.List.Sort
import Kufi.Transactions.Events

set_option autoImplicit false

/-!
# Chain anchoring

What a chain call does to the transaction entity in memory, and the two ends
of the asynchronous worker: claiming due rows and processing one of them.
-/

namespace Kufi.Transactions

open Shared

structure AnchorTransferResponse where
  chainStatus : String
  txId : String
  blockNumber : Int
  commitmentHash : String
  receiptJson : String
  deriving DecidableEq

-- A gRPC call ends with a response or with the message of the error it throws.
abbrev ChainAnswer := Except String AnchorTransferResponse

-- The values a handler takes from `Date.now()` and from the jitter of `Math.random()`.
structure Clock where
  now : Instant
  jitter : Int
  deriving DecidableEq

def computeNextAttemptAt (env : Env) (clock : Clock) (retryCount : Nat) : Instant :=
  let exponent := retryCount - 1
  let rawDelay := env.chainAsyncInitialBackoffMs * 2 ^ exponent
  let cappedDelay := min rawDelay env.chainAsyncMaxBackoffMs
  clock.now + cappedDelay + clock.jitter

def markChainPending (env : Env) (clock : Clock) (message : String) (tx : TransactionEntity) :
    TransactionEntity :=
  let chainRetryCount := tx.chainRetryCount + 1
  { tx with
    chainStatus := .pending
    chainRetryCount := chainRetryCount
    chainLastAttemptAt := some clock.now
    chainNextAttemptAt := some (computeNextAttemptAt env clock chainRetryCount)
    errorCode := some "CHAIN_PENDING"
    errorMessage := some (Text.orElse (Text.trim message)
      "On-chain receipt is still processing. System will retry automatically.") }

def reconcileBusinessStatusAfterChainUpdate (tx : TransactionEntity) : TransactionEntity :=
  if tx.status = .failed then tx
  else if tx.isExternal = false then { tx with status := .completed }
  else if tx.settlementStatus = .settled ∧ tx.chainStatus = .anchored then
    { tx with status := .completed }
  else tx

def applyChainResult (env : Env) (clock : Clock) (response : AnchorTransferResponse)
    (tx : TransactionEntity) : TransactionEntity :=
  let normalized := env.toUpperCase (Text.trim response.chainStatus)
  let tx :=
    { tx with
      chainTxId := (Text.nonEmpty? response.txId).or tx.chainTxId
      receiptJson := (Text.nonEmpty? response.receiptJson).or tx.receiptJson
      chainLastAttemptAt := some clock.now }
  if normalized = "ANCHORED" then
    reconcileBusinessStatusAfterChainUpdate
      { tx with
        chainStatus := .anchored
        chainRetryCount := 0
        chainNextAttemptAt := none
        errorCode := none
        errorMessage := none }
  else if normalized = "FAILED" then
    { tx with
      chainStatus := .failed
      chainNextAttemptAt := none
      errorCode := some "CHAIN_FAILED"
      errorMessage := some "On-chain transaction validation failed" }
  else markChainPending env clock "" tx

-- The entity `anchorToChain` saves, with or without an error from the call.
def anchored (env : Env) (clock : Clock) (answer : ChainAnswer) (tx : TransactionEntity) :
    TransactionEntity :=
  match answer with
  | .ok response => applyChainResult env clock response tx
  | .error message => markChainPending env clock message tx

/-! ## The worker -/

def isChainDue (now : Instant) (tx : TransactionEntity) : Bool :=
  tx.chainStatus = .pending && tx.status ≠ .failed &&
    (!tx.isExternal || tx.settlementStatus = .settled || tx.settlementStatus = .failed) &&
    tx.chainNextAttemptAt.all (· ≤ now)

def claimed (env : Env) (now : Instant) (tx : TransactionEntity) : TransactionEntity :=
  { tx with
    chainLastAttemptAt := some now
    chainNextAttemptAt := some (now + env.chainAsyncLeaseMs) }

-- Rows another transaction has locked are skipped.
def claimDueChainTransactions (env : Env) (now : Instant) (limit : Nat) (locked : Nat → Bool)
    (s : Tables) : Except ServiceError (List Nat × Tables) := do
  let due := s.transactions.rows.filter fun tx => isChainDue now tx && !locked tx.id
  let ordered := due.insertionSort fun left right =>
    left.chainNextAttemptAt.getD left.createdAt ≤ right.chainNextAttemptAt.getD right.createdAt
  let dueRows := ordered.take (max 1 limit)
  let s ← dueRows.foldlM (fun s tx => s.saveTransaction (claimed env now tx)) s
  .ok (dueRows.map TransactionEntity.id, s)

def isProcessable (tx : TransactionEntity) : Bool :=
  tx.chainStatus = .pending && tx.status ≠ .failed

-- The entity `processPendingChainTransaction` saves after its chain call.
def processed (env : Env) (clock : Clock) (answer : ChainAnswer) (tx : TransactionEntity) :
    TransactionEntity :=
  let tx := anchored env clock answer tx
  let tx :=
    if 0 < env.chainAsyncMaxRetries ∧ tx.chainStatus = .pending ∧
        env.chainAsyncMaxRetries ≤ tx.chainRetryCount then
      { tx with
        chainStatus := .failed
        chainNextAttemptAt := none
        errorCode := some "CHAIN_FAILED"
        errorMessage := some "On-chain processing exceeded maximum retry attempts" }
    else tx
  reconcileBusinessStatusAfterChainUpdate tx

end Kufi.Transactions

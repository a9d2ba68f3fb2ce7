import Kufi.Transactions.Chain
import Kufi.Transactions.Movements

set_option autoImplicit false

/-!
# Settlement

`markSettlement` runs in one database transaction that locks the row first.
-/

namespace Kufi.Transactions

open Shared

inductive SettlementOutcome where
  | settled
  | failed
  deriving DecidableEq

def settlementOutcome? (env : Env) (settlementStatus : String) : Option SettlementOutcome :=
  let normalizedStatus := env.toUpperCase (Text.trim settlementStatus)
  if normalizedStatus = "SETTLED" then some .settled
  else if normalizedStatus = "FAILED" then some .failed
  else none

-- An open chain leg becomes due at once.
def releaseToChain (now : Instant) (tx : TransactionEntity) : TransactionEntity :=
  if tx.chainStatus = .pending then { tx with chainNextAttemptAt := some now } else tx

def markedSettled (now : Instant) (tx : TransactionEntity) : TransactionEntity :=
  { releaseToChain now { tx with settlementStatus := .settled, status := .completed } with
    errorCode := none
    errorMessage := none }

def markedFailed (now : Instant) (note : String) (tx : TransactionEntity) : TransactionEntity :=
  { releaseToChain now { tx with settlementStatus := .failed, status := .failed } with
    errorCode := some "SETTLEMENT_FAILED"
    errorMessage := some (Text.orElse note "Settlement failed") }

-- The writes of `markSettlement` on the locked row `tx`, and the entity it saves.
def settleRow (now : Instant) (outcome : SettlementOutcome) (note : String)
    (tx : TransactionEntity) (s : Tables) : Except ServiceError (TransactionEntity × Tables) :=
  match outcome with
  | .settled => do
    let s ← if tx.type = .deposit then applyDepositCreditIfNeeded now tx s else .ok s
    .ok (markedSettled now tx, s)
  | .failed => do
    let s ← if tx.type = .withdrawal then
      rollbackWithdrawalDebitUsingManager tx "SETTLEMENT_FAILED" s else .ok s
    .ok (markedFailed now note tx, s)

def markSettlement (env : Env) (now : Instant) (transactionId : Nat) (settlementStatus note : String)
    (s : Tables) : Except ServiceError (Bool × Tables) :=
  match settlementOutcome? env settlementStatus with
  | none => .error (.badRequest "Unsupported settlement status")
  | some outcome =>
    match s.transactions.get? transactionId with
    | none => .ok (false, s)
    | some tx => do
      let (marked, s) ← settleRow now outcome note tx s
      let s ← s.saveTransaction marked
      let s ← enqueueTransactionEvent now marked s
      .ok (true, s)

/-! ## Candidates of the settlement service -/

def isSettlementCandidate (tx : TransactionEntity) : Bool :=
  tx.isExternal && tx.settlementStatus = .pending

def listSettlementCandidates (limit : Nat) (s : Tables) : List TransactionEntity :=
  ((s.transactions.rows.filter isSettlementCandidate).insertionSort
    fun left right => left.createdAt ≤ right.createdAt).take (max 1 (min limit 500))

end Kufi.Transactions

import Kufi.Shared.Interleaving
import Kufi.Transactions.Settlement

set_option autoImplicit false

/-!
# Reversals statement by statement

The database transactions that return the debit of a withdrawal, at READ
COMMITTED. A reversal looks for an earlier one before it locks the wallet; a
mark of the settlement has locked the transaction's row, a rollback has not.
-/

namespace Kufi.Transactions

open Shared

/-- A row that a database transaction locks for update. -/
inductive RowKey where
  | transaction (id : Nat)
  | wallet (id : Nat)
  deriving DecidableEq

structure Database where
  -- what has been committed
  tables : Tables
  locked : List RowKey

-- The end of a database transaction that holds `keys`.
def Database.finish (db : Database) (keys : List RowKey) (tables : Tables) : Database where
  tables := tables
  locked := db.locked.filter (· ∉ keys)

/-- The withdrawal to reverse, and the note of the mark if a mark reverses it. -/
structure Reversing where
  tx : TransactionEntity
  reasonCode : String
  mark : Option String

inductive Reversal where
  -- a call of `rollbackWithdrawalDebit`
  | rollback (tx : TransactionEntity) (reasonCode : String)
  -- a call of `markSettlement` with FAILED
  | marking (transactionId : Nat) (note : String)
  | check (work : Reversing)
  | lockWallet (work : Reversing)
  -- the wallet to credit, unless there is nothing to credit
  | write (work : Reversing) (wallet : Option Wallet)
  | ended (result : Except ServiceError Unit)

inductive ReversalAction where
  | statement (now : Instant)
  -- the statement fails and its transaction is rolled back
  | abort

namespace Reversing

def keys (work : Reversing) : List RowKey :=
  if work.mark.isSome then [.transaction work.tx.id] else []

def credit (work : Reversing) (wallet : Option Wallet) (s : Tables) : Except ServiceError Tables :=
  match wallet with
  | some wallet => creditWallet work.tx ("Withdrawal rollback (" ++ work.reasonCode ++ ")") wallet s
  | none => .ok s

-- What is left of the transaction once the debit is returned.
def complete (now : Instant) (work : Reversing) (s : Tables) : Except ServiceError Tables :=
  match work.mark with
  | some note => do
    let marked := markedFailed now note work.tx
    let s ← s.saveTransaction marked
    enqueueTransactionEvent now marked s
  | none => .ok s

-- Nobody sees the writes of a transaction before its commit, so they are one step with it.
def write (now : Instant) (work : Reversing) (wallet : Option Wallet) (s : Tables) :
    Except ServiceError Tables := do
  let s ← work.credit wallet s
  work.complete now s

end Reversing

namespace Reversal

/-- The locks that a transaction holds. -/
def held : Reversal → List RowKey
  | .check work | .lockWallet work => work.keys
  | .write work wallet => (wallet.map fun wallet => .wallet wallet.id).toList ++ work.keys
  | .rollback _ _ | .marking _ _ | .ended _ => []

-- A statement that waits for a lock cannot be taken.
def statement (now : Instant) (db : Database) : Reversal → Option (Database × Reversal)
  | .rollback tx reasonCode =>
    if tx.type ≠ .withdrawal then some (db, .ended (.ok ()))
    else some (db, .check { tx, reasonCode, mark := none })
  | .marking transactionId note =>
    match db.tables.transactions.get? transactionId with
    | none => some (db, .ended (.ok ()))
    | some tx =>
      if .transaction tx.id ∈ db.locked then none
      else
        let work : Reversing := { tx, reasonCode := "SETTLEMENT_FAILED", mark := some note }
        some ({ db with locked := .transaction tx.id :: db.locked },
          if tx.type = .withdrawal then .check work else .write work none)
  | .check work =>
    match db.tables.findCredit work.tx.id with
    | some _ => some (db, .write work none)
    | none => some (db, .lockWallet work)
  | .lockWallet work =>
    match db.tables.findWallet work.tx.fromUserId work.tx.currency with
    | none =>
      some (db.finish work.keys db.tables,
        .ended (.error (.badRequest "Wallet not found for rollback")))
    | some wallet =>
      if .wallet wallet.id ∈ db.locked then none
      else some ({ db with locked := .wallet wallet.id :: db.locked }, .write work (some wallet))
  | .write work wallet =>
    let held := (Reversal.write work wallet).held
    match work.write now wallet db.tables with
    | .ok after => some (db.finish held after, .ended (.ok ()))
    | .error error => some (db.finish held db.tables, .ended (.error error))
  | .ended _ => none

def step (db : Database) (reversal : Reversal) (action : ReversalAction) :
    Option (Database × Reversal) :=
  match action, reversal with
  | .statement now, reversal => reversal.statement now db
  | .abort, .ended _ => none
  | .abort, reversal => some (db.finish reversal.held db.tables, .ended (.error .queryFailed))

end Reversal

def reversals : Machine Database Reversal ReversalAction where
  step := Reversal.step

/-! ## A reversal on its own -/

-- The end of a transaction on `s` whose writes have the given result.
def Reversal.concluded (s : Tables) (result : Except ServiceError Tables) : Database × Reversal :=
  match result with
  | .ok after => (⟨after, []⟩, .ended (.ok ()))
  | .error error => (⟨s, []⟩, .ended (.error error))

section

variable {s : Tables}

theorem alone_write {now : Instant} {work : Reversing} {wallet : Option Wallet} {locked : List RowKey}
    (own : ∀ key ∈ locked, key ∈ (Reversal.write work wallet).held) :
    reversals.alone ⟨s, locked⟩ (.write work wallet) [.statement now] =
      some (Reversal.concluded s (work.write now wallet s)) := by
  have free : locked.filter (· ∉ (Reversal.write work wallet).held) = [] := by
    simpa using own
  simp only [Machine.alone, reversals, Reversal.step, Reversal.statement, Database.finish, free]
  cases work.write now wallet s <;> rfl

theorem alone_check (now : Instant) (s : Tables) (work : Reversing) :
    ∃ actions, reversals.alone ⟨s, work.keys⟩ (.check work) actions =
      some (Reversal.concluded s
        (rollbackWithdrawalDebitUsingManager work.tx work.reasonCode s >>= work.complete now)) := by
  cases credit : s.findCredit work.tx.id with
  | some entry =>
    refine ⟨[.statement now] ++ [.statement now], ?_⟩
    have looked : reversals.alone ⟨s, work.keys⟩ (.check work) [.statement now] =
        some (⟨s, work.keys⟩, .write work none) := by
      simp [Machine.alone, reversals, Reversal.step, Reversal.statement, credit]
    rw [Machine.alone_append, looked, Option.bind_some]
    refine (alone_write fun key member => member).trans ?_
    simp [Reversing.write, Reversing.credit, rollbackWithdrawalDebitUsingManager, credit]
  | none =>
    have looked : reversals.alone ⟨s, work.keys⟩ (.check work) [.statement now] =
        some (⟨s, work.keys⟩, .lockWallet work) := by
      simp [Machine.alone, reversals, Reversal.step, Reversal.statement, credit]
    cases found : s.findWallet work.tx.fromUserId work.tx.currency with
    | none =>
      refine ⟨[.statement now] ++ [.statement now], ?_⟩
      have free : work.keys.filter (· ∉ work.keys) = [] := by simp
      rw [Machine.alone_append, looked, Option.bind_some]
      simp only [Machine.alone, reversals, Reversal.step, Reversal.statement, found,
        Database.finish, free, rollbackWithdrawalDebitUsingManager, credit]
      rfl
    | some wallet =>
      refine ⟨[.statement now] ++ ([.statement now] ++ [.statement now]), ?_⟩
      have unlocked : RowKey.wallet wallet.id ∉ work.keys := by
        unfold Reversing.keys
        split_ifs <;> simp
      have locks : reversals.alone ⟨s, work.keys⟩ (.lockWallet work) [.statement now] =
          some (⟨s, .wallet wallet.id :: work.keys⟩, .write work (some wallet)) := by
        simp [Machine.alone, reversals, Reversal.step, Reversal.statement, found, unlocked]
      rw [Machine.alone_append, looked, Option.bind_some, Machine.alone_append, locks,
        Option.bind_some]
      refine (alone_write fun key member => member).trans ?_
      simp [Reversing.write, Reversing.credit, rollbackWithdrawalDebitUsingManager, credit, found]

/-- A rollback that nothing else runs beside is the call of `rollbackWithdrawalDebit`. -/
theorem alone_rollback (now : Instant) (tx : TransactionEntity) (reasonCode : String) :
    ∃ actions, reversals.alone ⟨s, []⟩ (.rollback tx reasonCode) actions =
      some (Reversal.concluded s (rollbackWithdrawalDebit tx reasonCode s)) := by
  by_cases withdrawal : tx.type = .withdrawal
  · obtain ⟨actions, checked⟩ := alone_check now s ⟨tx, reasonCode, none⟩
    refine ⟨.statement now :: actions, ?_⟩
    have begun : reversals.step ⟨s, []⟩ (.rollback tx reasonCode) (.statement now) =
        some (⟨s, []⟩, .check ⟨tx, reasonCode, none⟩) := by
      simp [reversals, Reversal.step, Reversal.statement, withdrawal]
    rw [Machine.alone, begun, Option.bind_some]
    refine checked.trans ?_
    rw [rollbackWithdrawalDebit, if_neg (not_not.mpr withdrawal)]
    cases rollbackWithdrawalDebitUsingManager tx reasonCode s <;> rfl
  · refine ⟨[.statement now], ?_⟩
    simp [Machine.alone, reversals, Reversal.step, Reversal.statement, withdrawal,
      rollbackWithdrawalDebit, Reversal.concluded]

-- How `markSettlement` goes on with the row it is to save.
theorem complete_marking (now : Instant) (tx : TransactionEntity) (reasonCode note : String) :
    (⟨tx, reasonCode, some note⟩ : Reversing).complete now s =
      (do let saved ← s.saveTransaction (markedFailed now note tx)
          let after ← enqueueTransactionEvent now (markedFailed now note tx) saved
          Except.ok (true, after)).map Prod.snd := by
  simp only [Reversing.complete]
  cases s.saveTransaction (markedFailed now note tx) with
  | error error => rfl
  | ok saved =>
    simp only [ok_bind]
    cases enqueueTransactionEvent now (markedFailed now note tx) saved <;> rfl

/-- A mark that nothing else runs beside is the call of `markSettlement` with FAILED. -/
theorem alone_marking {env : Env} {status : String} (now : Instant) (transactionId : Nat)
    (note : String) (failed : settlementOutcome? env status = some .failed) :
    ∃ actions, reversals.alone ⟨s, []⟩ (.marking transactionId note) actions =
      some (Reversal.concluded s
        ((markSettlement env now transactionId status note s).map Prod.snd)) := by
  cases found : s.transactions.get? transactionId with
  | none =>
    refine ⟨[.statement now], ?_⟩
    simp [Machine.alone, reversals, Reversal.step, Reversal.statement, found, markSettlement, failed,
      Reversal.concluded, Except.map]
  | some tx =>
    have begun : reversals.step ⟨s, []⟩ (.marking transactionId note) (.statement now) =
        some (⟨s, [.transaction tx.id]⟩,
          if tx.type = .withdrawal then .check ⟨tx, "SETTLEMENT_FAILED", some note⟩
          else .write ⟨tx, "SETTLEMENT_FAILED", some note⟩ none) := by
      simp [reversals, Reversal.step, Reversal.statement, found]
    by_cases withdrawal : tx.type = .withdrawal
    · obtain ⟨actions, checked⟩ :=
        alone_check now s ⟨tx, "SETTLEMENT_FAILED", some note⟩
      refine ⟨.statement now :: actions, ?_⟩
      rw [Machine.alone, begun, if_pos withdrawal, Option.bind_some]
      refine checked.trans ?_
      simp only [markSettlement, failed, found, settleRow, if_pos withdrawal]
      cases rollbackWithdrawalDebitUsingManager tx "SETTLEMENT_FAILED" s with
      | error error => rfl
      | ok middle =>
        simp only [ok_bind]
        rw [complete_marking]
    · refine ⟨.statement now :: [.statement now], ?_⟩
      rw [Machine.alone, begun, if_neg withdrawal, Option.bind_some]
      refine (alone_write fun key member => member).trans ?_
      simp only [markSettlement, failed, found, settleRow, if_neg withdrawal, Reversing.write,
        Reversing.credit, ok_bind]
      rw [complete_marking]

end

end Kufi.Transactions

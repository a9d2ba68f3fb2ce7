import Kufi.Transactions.Effects
import Kufi.Transactions.Settlement

set_option autoImplicit false

/-!
# Effects of a settlement

A committed `markSettlement` credits at most one wallet and overwrites the row
it locked.
-/

namespace Kufi.Transactions

open Shared

-- The outcomes that credit a wallet: a settled deposit and a failed withdrawal.
def Credits (outcome : SettlementOutcome) (type : TransactionType) : Prop :=
  (outcome = .settled ∧ type = .deposit) ∨ (outcome = .failed ∧ type = .withdrawal)

instance (outcome : SettlementOutcome) (type : TransactionType) : Decidable (Credits outcome type) :=
  inferInstanceAs (Decidable (_ ∨ _))

def creditedUser (tx : TransactionEntity) : Uuid :=
  if tx.type = .deposit then tx.toUserId.getD tx.requestingUserId else tx.fromUserId

def marked (now : Instant) (outcome : SettlementOutcome) (note : String) (tx : TransactionEntity) :
    TransactionEntity :=
  match outcome with
  | .settled => markedSettled now tx
  | .failed => markedFailed now note tx

def SettlementOutcome.status : SettlementOutcome → TransactionStatus
  | .settled => .completed
  | .failed => .failed

def SettlementOutcome.settlementStatus : SettlementOutcome → SettlementStatus
  | .settled => .settled
  | .failed => .failed

theorem marked_status (now : Instant) (outcome : SettlementOutcome) (note : String)
    (tx : TransactionEntity) : (marked now outcome note tx).status = outcome.status := by
  cases outcome <;> simp only [marked, markedSettled, markedFailed, releaseToChain] <;>
    split <;> rfl

theorem marked_settlementStatus (now : Instant) (outcome : SettlementOutcome) (note : String)
    (tx : TransactionEntity) :
    (marked now outcome note tx).settlementStatus = outcome.settlementStatus := by
  cases outcome <;> simp only [marked, markedSettled, markedFailed, releaseToChain] <;>
    split <;> rfl

-- The wallet credit of a transaction, made unless one is on the ledger already.
def CreditedOnce (outcome : SettlementOutcome) (tx : TransactionEntity) (s after : Tables) : Prop :=
  (after = s ∧ (Credits outcome tx.type → s.findCredit tx.id ≠ none)) ∨
    (Credits outcome tx.type ∧ s.findCredit tx.id = none ∧
      ∃ wallets ledger wallet opened, after = { s with wallets, ledger } ∧
        Loaded (creditedUser tx) tx.currency wallet s.books opened ∧
        Posted tx.id .credit tx.amount wallet opened after.books)

theorem CreditedOnce.transactions {outcome : SettlementOutcome} {tx : TransactionEntity}
    {s after : Tables} (once : CreditedOnce outcome tx s after) :
    after.transactions = s.transactions := by
  rcases once with ⟨rfl, _⟩ | ⟨_, _, _, _, _, _, rfl, _⟩ <;> rfl

theorem settleRow_effect {now : Instant} {outcome : SettlementOutcome} {note : String}
    {tx saved : TransactionEntity} {s after : Tables}
    (done : settleRow now outcome note tx s = .ok (saved, after)) :
    saved = marked now outcome note tx ∧ CreditedOnce outcome tx s after := by
  cases outcome with
  | settled =>
    by_cases deposit : tx.type = .deposit
    · simp only [settleRow, deposit, if_true, bind_eq_ok, Except.ok.injEq, Prod.mk.injEq] at done
      obtain ⟨_, credited, rfl, rfl⟩ := done
      refine ⟨rfl, ?_⟩
      rcases applyDepositCreditIfNeeded_effect credited with ⟨rfl, held⟩ | ⟨_, missing, rest⟩
      · exact .inl ⟨rfl, fun _ => held deposit⟩
      · have user : creditedUser tx = tx.toUserId.getD tx.requestingUserId := if_pos deposit
        rw [← user] at rest
        exact .inr ⟨.inl ⟨rfl, deposit⟩, missing, rest⟩
    · simp only [settleRow, deposit, if_false, ok_bind, Except.ok.injEq, Prod.mk.injEq] at done
      obtain ⟨rfl, rfl⟩ := done
      exact ⟨rfl, .inl ⟨rfl, fun credits => by simp [Credits, deposit] at credits⟩⟩
  | failed =>
    by_cases withdrawal : tx.type = .withdrawal
    · simp only [settleRow, withdrawal, if_true, bind_eq_ok, Except.ok.injEq, Prod.mk.injEq] at done
      obtain ⟨_, credited, rfl, rfl⟩ := done
      refine ⟨rfl, ?_⟩
      rcases rollbackWithdrawalDebitUsingManager_effect credited with
        ⟨rfl, held⟩ | ⟨missing, wallets, ledger, wallet, rfl, found, posted⟩
      · exact .inl ⟨rfl, fun _ => held⟩
      · have user : creditedUser tx = tx.fromUserId := if_neg (by simp [withdrawal])
        rw [← user] at found
        exact .inr ⟨.inr ⟨rfl, withdrawal⟩, missing, wallets, ledger, wallet, s.books, rfl,
          .inl ⟨found, rfl⟩, posted⟩
    · simp only [settleRow, withdrawal, if_false, ok_bind, Except.ok.injEq, Prod.mk.injEq] at done
      obtain ⟨rfl, rfl⟩ := done
      exact ⟨rfl, .inl ⟨rfl, fun credits => by simp [Credits, withdrawal] at credits⟩⟩

theorem markSettlement_effect {env : Env} {now : Instant} {transactionId : Nat}
    {settlementStatus note : String} {s after : Tables} {found : Bool}
    (done : markSettlement env now transactionId settlementStatus note s = .ok (found, after)) :
    ∃ outcome, settlementOutcome? env settlementStatus = some outcome ∧
      ((found = false ∧ after = s ∧ s.transactions.get? transactionId = none) ∨
        (found = true ∧ ∃ tx middle transactions outbox,
          s.transactions.get? transactionId = some tx ∧ CreditedOnce outcome tx s middle ∧
          s.transactions.update? (marked now outcome note tx) = some transactions ∧
          after = { middle with transactions, outbox } ∧
          enqueueTransactionEvent now (marked now outcome note tx) { middle with transactions } =
            .ok { middle with transactions, outbox })) := by
  unfold markSettlement at done
  split at done
  next => cases done
  next outcome known =>
    refine ⟨outcome, known, ?_⟩
    split at done
    next missing =>
      obtain ⟨rfl, rfl⟩ := Prod.mk.inj (Except.ok.inj done)
      exact .inl ⟨rfl, rfl, missing⟩
    next tx held =>
      simp only [bind_eq_ok, Prod.exists, Except.ok.injEq, Prod.mk.injEq] at done
      obtain ⟨saved, middle, settled, stored, storing, final, event, rfl, rfl⟩ := done
      obtain ⟨rfl, credited⟩ := settleRow_effect settled
      obtain ⟨_, transactions, updated, rfl⟩ := Tables.saveTransaction_eq_ok.mp storing
      obtain ⟨outbox, enqueued⟩ := enqueueTransactionEvent_isOk now (marked now outcome note tx)
        { middle with transactions }
      rw [enqueued] at event
      obtain rfl := Except.ok.inj event
      rw [credited.transactions] at updated
      exact .inr ⟨rfl, tx, middle, transactions, outbox, held, credited, updated, rfl, enqueued⟩

end Kufi.Transactions

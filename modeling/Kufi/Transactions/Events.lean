import Kufi.Transactions.Database

set_option autoImplicit false

/-!
# Outbox events

`enqueueTransactionEvent` writes an event row with the transaction manager it
is given, so inside a database transaction it commits or rolls back with it.
-/

namespace Kufi.Transactions

open Shared

def transactionEventType : TransactionStatus → String
  | .failed => "transaction.failed"
  | .completed => "transaction.completed"
  | .pending | .blocked => "transaction.pending"

def resolveEventBalances (tx : TransactionEntity) (s : Tables) : Option Int × Option Int :=
  ((s.findWallet tx.fromUserId tx.currency).map Wallet.balance,
    (tx.toUserId.bind (s.findWallet · tx.currency)).map Wallet.balance)

def eventPayload (eventType : String) (tx : TransactionEntity) (details : Option EventDetails) :
    EventPayload where
  eventType := eventType
  transactionId := tx.id
  status := tx.status
  requestingUserId := tx.requestingUserId
  fromUserId := tx.fromUserId
  toUserId := tx.toUserId
  amount := tx.amount
  currency := tx.currency
  memo := tx.memo
  createdAt := tx.createdAt
  receiptJson := tx.receiptJson
  details := details

-- `TransactionOutboxService.enqueue`.
def enqueue (now : Instant) (aggregateId : Nat) (eventType : String) (payload : EventPayload)
    (s : Tables) : Except ServiceError Tables :=
  s.insertEvent
    { id := 0
      aggregateType := "TRANSACTION"
      aggregateId := aggregateId
      eventType := eventType
      payload := payload
      status := .pending
      attempts := 0
      nextAttemptAt := now
      leasedUntil := none
      lastError := none
      publishedAt := none }

def enqueueTransactionEvent (now : Instant) (tx : TransactionEntity) (s : Tables) :
    Except ServiceError Tables :=
  let (senderBalance, receiverBalance) := resolveEventBalances tx s
  let eventType := transactionEventType tx.status
  let details :=
    { type := tx.type
      isExternal := tx.isExternal
      settlementStatus := tx.settlementStatus
      chainStatus := tx.chainStatus
      senderBalance
      receiverBalance }
  enqueue now tx.id eventType (eventPayload eventType tx (some details)) s

def enqueueChainCompletedEvent (now : Instant) (tx : TransactionEntity) (s : Tables) :
    Except ServiceError Tables :=
  enqueue now tx.id "transaction.chain.completed"
    (eventPayload "transaction.chain.completed" tx none) s

theorem enqueue_isOk (now : Instant) (aggregateId : Nat) (eventType : String)
    (payload : EventPayload) (s : Tables) :
    ∃ outbox, enqueue now aggregateId eventType payload s = .ok { s with outbox } := by
  unfold enqueue
  generalize wanted : (TransactionOutboxEvent.mk _ _ _ _ _ _ _ _ _ _ _) = event
  have free : ∀ other ∈ s.outbox, ¬ Clash other event := fun _ _ clash => clash.1 rfl
  obtain ⟨⟨saved, outbox⟩, inserted⟩ := Option.isSome_iff_exists.mp (Table.insert?_isSome free)
  exact ⟨outbox, Tables.insertEvent_eq_ok.mpr ⟨saved, outbox, inserted, rfl⟩⟩

-- Nothing can refuse an event row, and writing one touches no other table.
theorem enqueueTransactionEvent_isOk (now : Instant) (tx : TransactionEntity) (s : Tables) :
    ∃ outbox, enqueueTransactionEvent now tx s = .ok { s with outbox } :=
  enqueue_isOk _ _ _ _ _

theorem enqueueChainCompletedEvent_isOk (now : Instant) (tx : TransactionEntity) (s : Tables) :
    ∃ outbox, enqueueChainCompletedEvent now tx s = .ok { s with outbox } :=
  enqueue_isOk _ _ _ _ _

end Kufi.Transactions

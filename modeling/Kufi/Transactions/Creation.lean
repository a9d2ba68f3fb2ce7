import Kufi.Shared.Interleaving
import Kufi.Transactions.Service

set_option autoImplicit false

/-!
# Creations step by step

A creation is a chain of separate database transactions with network calls in
between; from its commit on it works with the entity it holds in memory. A stage
names the next step and carries what the process holds.
-/

namespace Kufi.Transactions

open Shared

-- A request that has passed its validation.
inductive CreationRequest where
  | transfer (req : TransferRequest)
  | topup (req : FundingRequest)
  | withdrawal (req : WithdrawalRequest)

inductive Prepared where
  | transfer (req : TransferRequest)
  | topup (req : FundingRequest) (fundingSource : FundingSource)
  | withdrawal (req : WithdrawalRequest) (fundingSource : FundingSource)

def CreationRequest.idempotencyKey : CreationRequest → String
  | .transfer req => req.idempotencyKey
  | .topup req => req.idempotencyKey
  | .withdrawal req => req.idempotencyKey

def Prepared.request : Prepared → CreationRequest
  | .transfer req => .transfer req
  | .topup req _ => .topup req
  | .withdrawal req _ => .withdrawal req

def Prepared.idempotencyKey (work : Prepared) : String := work.request.idempotencyKey

-- The entity a creation holds, and the balances it will answer with.
abbrev Held := PersistedTransfer

inductive Creation where
  | source (request : CreationRequest)
  | lookup (work : Prepared)
  | replay (work : Prepared) (existing : TransactionEntity)
  -- the first statement of the database transaction, and the rest of it
  | check (work : Prepared)
  | insert (work : Prepared)
  | submit (work : Prepared) (held : Held)
  | rollback (work : Prepared) (held : Held) (reasonCode : String)
  | saveSimulated (held : Held)
  | anchor (held : Held)
  | release (held : Held)
  | enqueue (held : Held)
  | finished (result : Except ServiceError TransferResponse)

namespace Prepared

def ofRequest (request : CreationRequest) (s : Tables) : Except ServiceError Prepared :=
  match request with
  | .transfer req => .ok (.transfer req)
  | .topup req => (getActiveFundingSource req.userId req.fundingSourceId s).map (.topup req)
  | .withdrawal req =>
    (getActiveFundingSource req.userId req.fundingSourceId s).map (.withdrawal req)

-- The answer to a request whose key is known.
def answer (env : Env) (work : Prepared) (existing : TransactionEntity) (s : Tables) :
    Except ServiceError TransferResponse :=
  match work with
  | .transfer req => do
    let sender ← getWallet env req.fromUserId req.currency s
    let receiver ← getWallet env req.toUserId req.currency s
    .ok (mapTransferResponse existing (walletBalance sender) (walletBalance receiver))
  | .topup req _ => do
    let wallet ← getWallet env req.userId req.currency s
    .ok (mapTransferResponse existing (walletBalance wallet) (walletBalance wallet))
  | .withdrawal req _ => do
    let wallet ← getWallet env req.userId req.currency s
    .ok (mapTransferResponse existing (walletBalance wallet) 0)

-- What the database transaction returns for a row it finds with its key.
def duplicate (work : Prepared) (dup : TransactionEntity) (s : Tables) :
    Except ServiceError Held :=
  match work with
  | .transfer req => do
    let sender ← s.getWallet req.fromUserId req.currency
    let receiver ← s.getWallet req.toUserId req.currency
    .ok { transaction := dup
          senderBalance := walletBalance sender
          receiverBalance := walletBalance receiver }
  | .topup req _ => do
    let wallet ← s.getWallet req.userId req.currency
    .ok { transaction := dup
          senderBalance := walletBalance wallet
          receiverBalance := walletBalance wallet }
  | .withdrawal req _ => do
    let wallet ← s.getWallet req.userId req.currency
    .ok { transaction := dup, senderBalance := walletBalance wallet, receiverBalance := 0 }

def insert (env : Env) (now : Instant) (work : Prepared) (s : Tables) :
    Except ServiceError (Held × Tables) :=
  match work with
  | .transfer req => insertTransfer env now req s
  | .topup req fundingSource =>
    (insertTopupIntent env now req fundingSource s).map fun (persisted, s) =>
      ({ transaction := persisted.transaction
         senderBalance := persisted.walletBalance
         receiverBalance := persisted.walletBalance }, s)
  | .withdrawal req fundingSource =>
    (insertWithdrawalRequest env now req fundingSource s).map fun (persisted, s) =>
      ({ transaction := persisted.transaction
         senderBalance := persisted.walletBalance
         receiverBalance := 0 }, s)

-- Where the creation goes on with the row it has persisted or found.
def continued (work : Prepared) (held : Held) : Creation :=
  match work with
  | .transfer _ =>
    if held.transaction.isExternal then .submit work held
    else if held.transaction.status ≠ .failed then .release held
    else .enqueue held
  | .topup _ _ => .submit work held
  | .withdrawal req _ =>
    if req.simulateFailure then .rollback work held "WITHDRAWAL_SIMULATED_FAILURE"
    else .submit work held

def afterSubmit (work : Prepared) (held : Held) : Creation :=
  if held.transaction.status = .failed then
    match work with
    | .transfer _ => .enqueue held
    | .topup _ _ => .anchor held
    | .withdrawal _ _ =>
      .rollback work held (held.transaction.errorCode.getD "WITHDRAWAL_FAILED")
  else .enqueue held

-- The response to a failed withdrawal shows the balance with the amount returned.
def afterRollback (work : Prepared) (held : Held) : Creation :=
  match work with
  | .withdrawal req _ =>
    let held := { held with senderBalance := Number.add held.senderBalance req.amount }
    if req.simulateFailure then .saveSimulated held else .anchor held
  | _ => .anchor held

end Prepared

namespace Creation

-- An error ends the request; what has been committed stays.
def proceed {A : Type} (s : Tables) (result : Except ServiceError A) (next : A → Tables × Creation) :
    Tables × Creation :=
  match result with
  | .ok value => next value
  | .error error => (s, .finished (.error error))

def step (env : Env) (s : Tables) (creation : Creation) (answers : Answers) :
    Option (Tables × Creation) :=
  match creation with
  | .source request => proceed s (Prepared.ofRequest request s) fun work => (s, .lookup work)
  | .lookup work =>
    match s.findByIdempotencyKey work.idempotencyKey with
    | some existing => some (s, .replay work existing)
    | none => some (s, .check work)
  | .replay work existing => some (s, .finished (work.answer env existing s))
  | .check work =>
    match s.findByIdempotencyKey work.idempotencyKey with
    | some dup => proceed s (work.duplicate dup s) fun held => (s, work.continued held)
    | none => some (s, .insert work)
  | .insert work =>
    proceed s (work.insert env answers.persistedAt s) fun (held, s) => (s, work.continued held)
  | .submit work held =>
    if hasPartner held.transaction then
      let tx := submitted answers.partner held.transaction
      proceed s (s.saveTransaction tx) fun s =>
        (s, work.afterSubmit { held with transaction := tx })
    else some (s, .finished (.error (.badRequest "Missing external partner information")))
  | .rollback work held reasonCode =>
    proceed s (rollbackWithdrawalDebit held.transaction reasonCode s) fun s =>
      (s, work.afterRollback held)
  | .saveSimulated held =>
    let tx := simulatedFailure held.transaction
    proceed s (s.saveTransaction tx) fun s => (s, .anchor { held with transaction := tx })
  | .anchor held =>
    let tx := anchored env answers.clock answers.chain held.transaction
    proceed s (s.saveTransaction tx) fun s => (s, .enqueue { held with transaction := tx })
  | .release held =>
    let tx := released answers.releasedAt held.transaction
    proceed s (s.saveTransaction tx) fun s => (s, .enqueue { held with transaction := tx })
  | .enqueue held =>
    proceed s (enqueueTransactionEvent answers.enqueuedAt held.transaction s) fun s =>
      (s, .finished (.ok (mapTransferResponse held.transaction held.senderBalance
        held.receiverBalance)))
  | .finished _ => none

end Creation

def creations (env : Env) : Machine Tables Creation Answers where
  step := Creation.step env

def aliceWithdrawalRequest : CreationRequest :=
  .withdrawal
    { idempotencyKey := "withdrawal"
      userId := alice
      fundingSourceId := bankAccount
      amount := 30
      currency := "VND"
      memo := ""
      positive := by decide
      simulateFailure := false }

def timedOut : Answers :=
  { accepted with partner := .error "Timeout has occurred" }

end Kufi.Transactions

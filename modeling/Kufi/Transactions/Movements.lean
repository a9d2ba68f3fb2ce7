import Mathlib.Data.List.Sort
import Kufi.Shared.Number
import Kufi.Transactions.Database

set_option autoImplicit false

/-!
# Money movements

The database transactions that move money: each debits or credits wallets it
has locked and writes the ledger rows of the movement. Every one of them is
atomic; an error rolls it back.
-/

namespace Kufi.Transactions

open Shared

structure PersistedTransfer where
  transaction : TransactionEntity
  senderBalance : Int
  receiverBalance : Int
  deriving DecidableEq

structure PersistedFunding where
  transaction : TransactionEntity
  walletBalance : Int
  deriving DecidableEq

def walletBalance (wallet : Option Wallet) : Int :=
  (wallet.map Wallet.balance).getD 0

def emptyWallet (now : Instant) (userId : Uuid) (currency : String) : Wallet where
  id := 0
  userId := userId
  currency := currency
  balance := 0
  status := .active
  createdAt := now

-- `SELECT .. FOR UPDATE`, and the row created when there is none.
def findOrCreateWallet (now : Instant) (userId : Uuid) (currency : String) (s : Tables) :
    Except ServiceError (Wallet × Tables) :=
  match s.findWallet userId currency with
  | some wallet => .ok (wallet, s)
  | none => s.insertWallet (emptyWallet now userId currency)

def ledgerEntry (transactionId : Nat) (direction : LedgerDirection) (amount : Int)
    (before after : Wallet) (note : String) : LedgerEntry where
  id := 0
  transactionId := transactionId
  walletId := some before.id
  direction := direction
  amount := amount
  balanceBefore := before.balance
  balanceAfter := after.balance
  note := some note

def debited (amount : Int) (wallet : Wallet) : Wallet :=
  { wallet with balance := Number.sub wallet.balance amount }

def credited (amount : Int) (wallet : Wallet) : Wallet :=
  { wallet with balance := Number.add wallet.balance amount }

/-! ## Transfers -/

def usersToLock (env : Env) (req : TransferRequest) : List String :=
  (if req.isExternal = false ∧ req.toUserId ≠ req.fromUserId then [req.fromUserId, req.toUserId]
    else [req.fromUserId]).insertionSort fun left right => env.localeCompare left right ≤ 0

def lockWallet (now : Instant) (req : TransferRequest) (userId : String) (s : Tables) :
    Except ServiceError (Wallet × Tables) := do
  let id ← parseUuid userId
  if userId = req.fromUserId ∧ s.findWallet id req.currency = none then
    .error (.badRequest "Sender wallet not found")
  else findOrCreateWallet now id req.currency s

-- `lockedWallets`, the map from the spelling of a user id to the row loaded for it.
def lockWallets (now : Instant) (req : TransferRequest) :
    List String → Tables → Except ServiceError (List (String × Wallet) × Tables)
  | [], s => .ok ([], s)
  | userId :: rest, s => do
    let (wallet, s) ← lockWallet now req userId s
    let (locked, s) ← lockWallets now req rest s
    .ok ((userId, wallet) :: locked, s)

-- The receiver's row before and after its credit; `none` for an external transfer.
def creditReceiver (now : Instant) (req : TransferRequest) (locked : List (String × Wallet))
    (s : Tables) : Except ServiceError (Option (Wallet × Wallet) × Tables) :=
  if req.isExternal then .ok (none, s)
  else do
    let (receiver, s) ← match locked.lookup req.toUserId with
      | some wallet => .ok (wallet, s)
      | none => do
        let id ← parseUuid req.toUserId
        s.insertWallet (emptyWallet now id req.currency)
    if receiver.status ≠ .active then .error (.badRequest "Receiver wallet is not active")
    else
      let after := credited req.amount receiver
      let s ← s.saveWallet after
      .ok (some (receiver, after), s)

def transferEntity (now : Instant) (req : TransferRequest) (fromUserId toUserId : Uuid) :
    TransactionEntity where
  id := 0
  idempotencyKey := req.idempotencyKey
  type := .transfer
  status := .pending
  settlementStatus := if req.isExternal then .pending else .none
  chainStatus := .pending
  requestingUserId := fromUserId
  fromUserId := fromUserId
  toUserId := some toUserId
  amount := req.amount
  currency := req.currency
  memo := some req.memo
  isExternal := req.isExternal
  externalPartner := req.externalPartner
  externalAccountNo := req.externalAccountNo
  externalRef := none
  chainTxId := none
  receiptJson := none
  chainRetryCount := 0
  chainLastAttemptAt := none
  -- The worker may claim the row from the moment it is committed.
  chainNextAttemptAt := some now
  errorCode := none
  errorMessage := none
  createdAt := now

-- What `persistTransfer` does once it has found no row with its key.
def insertTransfer (env : Env) (now : Instant) (req : TransferRequest) (s : Tables) :
    Except ServiceError (PersistedTransfer × Tables) := do
  let (locked, s) ← lockWallets now req (usersToLock env req) s
  match locked.lookup req.fromUserId with
  -- The sender's id is always among the locked ones.
  | none => .error .queryFailed
  | some fromWallet =>
    if fromWallet.status ≠ .active then .error (.badRequest "Sender wallet is not active")
    else if fromWallet.balance < req.amount then .error (.badRequest "Insufficient balance")
    else
      let fromAfter := debited req.amount fromWallet
      let s ← s.saveWallet fromAfter
      let (receiver, s) ← creditReceiver now req locked s
      let fromUserId ← parseUuid req.fromUserId
      let toUserId ← parseUuid req.toUserId
      let (savedTx, s) ← s.insertTransaction (transferEntity now req fromUserId toUserId)
      let s ← s.insertLedger (ledgerEntry savedTx.id .debit req.amount fromWallet fromAfter
        ("Transfer debit (" ++ req.currency ++ ")"))
      match receiver with
      | none =>
        .ok ({ transaction := savedTx
               senderBalance := fromAfter.balance
               receiverBalance := 0 }, s)
      | some (before, after) =>
        let s ← s.insertLedger (ledgerEntry savedTx.id .credit req.amount before after
          ("Transfer credit (" ++ req.currency ++ ")"))
        .ok ({ transaction := savedTx
               senderBalance := fromAfter.balance
               receiverBalance := after.balance }, s)

def persistTransfer (env : Env) (now : Instant) (req : TransferRequest) (s : Tables) :
    Except ServiceError (PersistedTransfer × Tables) :=
  match s.findByIdempotencyKey req.idempotencyKey with
  | some dup => do
    let sender ← s.getWallet req.fromUserId req.currency
    let receiver ← s.getWallet req.toUserId req.currency
    .ok ({ transaction := dup
           senderBalance := walletBalance sender
           receiverBalance := walletBalance receiver }, s)
  | none => insertTransfer env now req s

/-! ## Top-ups and withdrawals -/

def topupEntity (env : Env) (now : Instant) (req : FundingRequest) (fundingSource : FundingSource)
    (userId source : Uuid) : TransactionEntity where
  id := 0
  idempotencyKey := req.idempotencyKey
  type := .deposit
  status := .pending
  settlementStatus := .pending
  chainStatus := .pending
  requestingUserId := userId
  fromUserId := source
  toUserId := some userId
  amount := req.amount
  currency := req.currency
  memo := some (Text.orElse req.memo ("Topup via " ++ fundingSource.provider))
  isExternal := true
  externalPartner := some fundingSource.provider
  externalAccountNo := some fundingSource.accountRefMasked
  externalRef := none
  chainTxId := none
  receiptJson := none
  chainRetryCount := 0
  chainLastAttemptAt := none
  chainNextAttemptAt := some (now + env.chainAsyncLeaseMs)
  errorCode := none
  errorMessage := none
  createdAt := now

def withdrawalEntity (env : Env) (now : Instant) (req : WithdrawalRequest)
    (fundingSource : FundingSource) (userId sink : Uuid) : TransactionEntity where
  id := 0
  idempotencyKey := req.idempotencyKey
  type := .withdrawal
  status := .pending
  settlementStatus := .pending
  chainStatus := .pending
  requestingUserId := userId
  fromUserId := userId
  toUserId := some sink
  amount := req.amount
  currency := req.currency
  memo := some (Text.orElse req.memo ("Withdrawal via " ++ fundingSource.provider))
  isExternal := true
  externalPartner := some fundingSource.provider
  externalAccountNo := some fundingSource.accountRefMasked
  externalRef := none
  chainTxId := none
  receiptJson := none
  chainRetryCount := 0
  chainLastAttemptAt := none
  chainNextAttemptAt := some (now + env.chainAsyncLeaseMs)
  errorCode := none
  errorMessage := none
  createdAt := now

def insertTopupIntent (env : Env) (now : Instant) (req : FundingRequest)
    (fundingSource : FundingSource) (s : Tables) :
    Except ServiceError (PersistedFunding × Tables) := do
  let userId ← parseUuid req.userId
  let (wallet, s) ← findOrCreateWallet now userId req.currency s
  if wallet.status ≠ .active then .error (.badRequest "Wallet is not active")
  else
    let source ← parseUuid env.chainExternalSourceUserId
    let (savedTx, s) ← s.insertTransaction (topupEntity env now req fundingSource userId source)
    .ok ({ transaction := savedTx, walletBalance := wallet.balance }, s)

def persistTopupIntent (env : Env) (now : Instant) (req : FundingRequest)
    (fundingSource : FundingSource) (s : Tables) :
    Except ServiceError (PersistedFunding × Tables) :=
  match s.findByIdempotencyKey req.idempotencyKey with
  | some dup => do
    let wallet ← s.getWallet req.userId req.currency
    .ok ({ transaction := dup, walletBalance := walletBalance wallet }, s)
  | none => insertTopupIntent env now req fundingSource s

def insertWithdrawalRequest (env : Env) (now : Instant) (req : WithdrawalRequest)
    (fundingSource : FundingSource) (s : Tables) :
    Except ServiceError (PersistedFunding × Tables) := do
  let userId ← parseUuid req.userId
  match s.findWallet userId req.currency with
  | none => .error (.badRequest "Wallet not found")
  | some wallet =>
    if wallet.status ≠ .active then .error (.badRequest "Wallet is not active")
    else if wallet.balance < req.amount then .error (.badRequest "Insufficient balance")
    else
      let after := debited req.amount wallet
      let s ← s.saveWallet after
      let sink ← parseUuid env.chainExternalSinkUserId
      let (savedTx, s) ← s.insertTransaction
        (withdrawalEntity env now req fundingSource userId sink)
      let s ← s.insertLedger (ledgerEntry savedTx.id .debit req.amount wallet after
        ("Withdrawal debit (" ++ req.currency ++ ")"))
      .ok ({ transaction := savedTx, walletBalance := after.balance }, s)

def persistWithdrawalRequest (env : Env) (now : Instant) (req : WithdrawalRequest)
    (fundingSource : FundingSource) (s : Tables) :
    Except ServiceError (PersistedFunding × Tables) :=
  match s.findByIdempotencyKey req.idempotencyKey with
  | some dup => do
    let wallet ← s.getWallet req.userId req.currency
    .ok ({ transaction := dup, walletBalance := walletBalance wallet }, s)
  | none => insertWithdrawalRequest env now req fundingSource s

/-! ## Credits at settlement -/

-- The two credits below end with the same three statements.
def creditWallet (tx : TransactionEntity) (note : String) (wallet : Wallet) (s : Tables) :
    Except ServiceError Tables := do
  let after := credited tx.amount wallet
  let s ← s.saveWallet after
  s.insertLedger (ledgerEntry tx.id .credit tx.amount wallet after note)

def applyDepositCreditIfNeeded (now : Instant) (tx : TransactionEntity) (s : Tables) :
    Except ServiceError Tables :=
  if tx.type ≠ .deposit then .ok s
  else match s.findCredit tx.id with
  | some _ => .ok s
  | none => do
    let userId := tx.toUserId.getD tx.requestingUserId
    let (wallet, s) ← findOrCreateWallet now userId tx.currency s
    if wallet.status ≠ .active then .error (.badRequest "Wallet is not active")
    else creditWallet tx ("Topup settlement credit (" ++ tx.currency ++ ")") wallet s

def rollbackWithdrawalDebitUsingManager (tx : TransactionEntity) (reasonCode : String)
    (s : Tables) : Except ServiceError Tables :=
  match s.findCredit tx.id with
  | some _ => .ok s
  | none =>
    match s.findWallet tx.fromUserId tx.currency with
    | none => .error (.badRequest "Wallet not found for rollback")
    | some wallet => creditWallet tx ("Withdrawal rollback (" ++ reasonCode ++ ")") wallet s

def rollbackWithdrawalDebit (tx : TransactionEntity) (reasonCode : String) (s : Tables) :
    Except ServiceError Tables :=
  if tx.type ≠ .withdrawal then .ok s
  else rollbackWithdrawalDebitUsingManager tx reasonCode s

end Kufi.Transactions

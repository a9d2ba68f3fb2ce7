import Kufi.Shared.Table
import Kufi.Shared.Text

set_option autoImplicit false

/-!
# Entities of the transaction service

The rows of the service's database with the constraints the entity
declarations put on them. `updatedAt` columns are left out: nothing reads them.
-/

namespace Kufi.Transactions

open Shared

/-- Milliseconds since the epoch, as in a `Date`. -/
abbrev Instant := Int

inductive WalletStatus where
  | active
  | frozen
  deriving DecidableEq

structure Wallet where
  id : Nat
  userId : Uuid
  currency : String
  balance : Int
  status : WalletStatus
  createdAt : Instant
  deriving DecidableEq

inductive TransactionType where
  | transfer
  | deposit
  | withdrawal
  deriving DecidableEq

inductive TransactionStatus where
  | pending
  | completed
  | failed
  | blocked
  deriving DecidableEq

inductive SettlementStatus where
  | none
  | pending
  | settled
  | failed
  deriving DecidableEq

inductive ChainStatus where
  | pending
  | anchored
  | failed
  deriving DecidableEq

structure TransactionEntity where
  id : Nat
  idempotencyKey : String
  type : TransactionType
  status : TransactionStatus
  settlementStatus : SettlementStatus
  chainStatus : ChainStatus
  requestingUserId : Uuid
  fromUserId : Uuid
  toUserId : Option Uuid
  amount : Int
  currency : String
  memo : Option String
  isExternal : Bool
  externalPartner : Option String
  externalAccountNo : Option String
  externalRef : Option String
  chainTxId : Option String
  receiptJson : Option String
  chainRetryCount : Nat
  chainLastAttemptAt : Option Instant
  chainNextAttemptAt : Option Instant
  errorCode : Option String
  errorMessage : Option String
  createdAt : Instant
  deriving DecidableEq

inductive LedgerDirection where
  | debit
  | credit
  deriving DecidableEq

structure LedgerEntry where
  id : Nat
  transactionId : Nat
  walletId : Option Nat
  direction : LedgerDirection
  amount : Int
  balanceBefore : Int
  balanceAfter : Int
  note : Option String
  deriving DecidableEq

inductive FundingSourceStatus where
  | active
  | inactive
  deriving DecidableEq

structure FundingSource where
  id : Uuid
  userId : Uuid
  provider : String
  accountRefMasked : String
  status : FundingSourceStatus
  deriving DecidableEq

inductive TransactionOutboxStatus where
  | pending
  | published
  | failed
  deriving DecidableEq

-- What only the events of `enqueueTransactionEvent` say.
structure EventDetails where
  type : TransactionType
  isExternal : Bool
  settlementStatus : SettlementStatus
  chainStatus : ChainStatus
  senderBalance : Option Int
  receiverBalance : Option Int
  deriving DecidableEq

/-- The `payload` of a transaction event. -/
structure EventPayload where
  eventType : String
  transactionId : Nat
  status : TransactionStatus
  requestingUserId : Uuid
  fromUserId : Uuid
  toUserId : Option Uuid
  amount : Int
  currency : String
  memo : Option String
  createdAt : Instant
  receiptJson : Option String
  details : Option EventDetails
  deriving DecidableEq

structure TransactionOutboxEvent where
  id : Nat
  aggregateType : String
  aggregateId : Nat
  eventType : String
  payload : EventPayload
  status : TransactionOutboxStatus
  attempts : Nat
  nextAttemptAt : Instant
  leasedUntil : Option Instant
  lastError : Option String
  publishedAt : Option Instant
  deriving DecidableEq

/-! ## Column types -/

def fitsBigint (n : Int) : Bool :=
  -2 ^ 63 ≤ n && n < 2 ^ 63

def fitsText (text : String) : Bool :=
  !text.toList.contains '\x00'

def fitsVarchar (limit : Nat) (text : String) : Bool :=
  Text.codePoints text ≤ limit && fitsText text

def Wallet.columnsFit (wallet : Wallet) : Bool :=
  fitsVarchar 16 wallet.currency && fitsBigint wallet.balance

def TransactionEntity.columnsFit (tx : TransactionEntity) : Bool :=
  fitsVarchar 128 tx.idempotencyKey && fitsBigint tx.amount && fitsVarchar 16 tx.currency &&
    tx.memo.all (fitsVarchar 512) && tx.externalPartner.all (fitsVarchar 64) &&
    tx.externalAccountNo.all (fitsVarchar 128) && tx.externalRef.all (fitsVarchar 128) &&
    tx.chainTxId.all (fitsVarchar 128) && tx.receiptJson.all fitsText && decide (tx.chainRetryCount < 2 ^ 31) &&
    tx.errorCode.all (fitsVarchar 64) && tx.errorMessage.all (fitsVarchar 1024)

def LedgerEntry.columnsFit (entry : LedgerEntry) : Bool :=
  fitsBigint entry.amount && fitsBigint entry.balanceBefore && fitsBigint entry.balanceAfter &&
    entry.note.all (fitsVarchar 512)

/-! ## Keys and unique indexes -/

/-- `@Unique(['userId', 'currency'])`. -/
instance : Row Wallet (Uuid × String) where
  id := Wallet.id
  withId wallet id := { wallet with id }
  key wallet := some (wallet.userId, wallet.currency)
  id_withId _ _ := rfl
  key_withId _ _ := rfl

/-- `@Index({ unique: true })` on `idempotencyKey`. -/
instance : Row TransactionEntity String where
  id := TransactionEntity.id
  withId tx id := { tx with id }
  key tx := some tx.idempotencyKey
  id_withId _ _ := rfl
  key_withId _ _ := rfl

instance : Row LedgerEntry Unit where
  id := LedgerEntry.id
  withId entry id := { entry with id }
  key _ := none
  id_withId _ _ := rfl
  key_withId _ _ := rfl

instance : Row TransactionOutboxEvent Unit where
  id := TransactionOutboxEvent.id
  withId event id := { event with id }
  key _ := none
  id_withId _ _ := rfl
  key_withId _ _ := rfl

structure Tables where
  wallets : Table Wallet
  transactions : Table TransactionEntity
  ledger : Table LedgerEntry
  outbox : Table TransactionOutboxEvent
  fundingSources : List FundingSource

/-- Tables before the first operation; funding sources are registered elsewhere. -/
def Tables.initial (fundingSources : List FundingSource) : Tables where
  wallets := .empty
  transactions := .empty
  ledger := .empty
  outbox := .empty
  fundingSources := fundingSources

end Kufi.Transactions

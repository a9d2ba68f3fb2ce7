import Kufi.Shared.Program
import Kufi.Transactions.Effects
import Kufi.Transactions.Settlement

set_option autoImplicit false

/-!
# Service operations

The operations behind the controllers, run to completion. What the partner and
the chain answer and when each `Date` is read are arguments of an operation.
-/

namespace Kufi.Transactions

open Shared

abbrev Service (A : Type) := Program Tables ServiceError A

namespace Service

def read {A : Type} (result : Tables → Except ServiceError A) : Service A :=
  Program.query result

def transaction {A : Type} (body : Tables → Except ServiceError (A × Tables)) : Service A :=
  Program.atomically body

def write (body : Tables → Except ServiceError Tables) : Service Unit :=
  Program.atomically fun s => (body s).map fun after => ((), after)

end Service

structure InitiateTransferResponse where
  status : String
  partnerRef : String
  partnerMessage : String
  deriving DecidableEq

-- `.error` carries the message of whatever the call throws, its timeout included.
abbrev PartnerAnswer := Except String InitiateTransferResponse

structure Answers where
  persistedAt : Instant
  partner : PartnerAnswer
  releasedAt : Instant
  chain : ChainAnswer
  clock : Clock
  enqueuedAt : Instant

structure TransferResponse where
  transactionId : Nat
  type : TransactionType
  status : TransactionStatus
  settlementStatus : SettlementStatus
  senderBalance : Int
  receiverBalance : Int
  chainStatus : ChainStatus
  receiptJson : String
  fromUserId : Uuid
  toUserId : Option Uuid
  errorCode : String
  errorMessage : String
  createdAt : Instant
  deriving DecidableEq

def mapTransferResponse (tx : TransactionEntity) (senderBalance receiverBalance : Int) :
    TransferResponse where
  transactionId := tx.id
  type := tx.type
  status := tx.status
  settlementStatus := tx.settlementStatus
  senderBalance := senderBalance
  receiverBalance := receiverBalance
  chainStatus := tx.chainStatus
  receiptJson := tx.receiptJson.getD ""
  fromUserId := tx.fromUserId
  toUserId := tx.toUserId
  errorCode := tx.errorCode.getD ""
  errorMessage := tx.errorMessage.getD ""
  createdAt := tx.createdAt

/-! ## Wallets and funding sources -/

-- A refused insert may have lost a race; then the row that won it is returned.
def insertOrFindWallet (now : Instant) (id : Uuid) (currency : String) (s : Tables) :
    Except ServiceError (Wallet × Tables) :=
  match s.insertWallet (emptyWallet now id currency) with
  | .ok inserted => .ok inserted
  | .error error =>
    match s.findWallet id currency with
    | some existing => .ok (existing, s)
    | none => .error error

theorem insertOrFindWallet_effect {now : Instant} {id : Uuid} {currency : String} {wallet : Wallet}
    {s after : Tables} (done : insertOrFindWallet now id currency s = .ok (wallet, after)) :
    after = s ∨
      ∃ wallets, after = { s with wallets } ∧ Opened id currency wallet s.books after.books := by
  unfold insertOrFindWallet at done
  cases inserted : s.insertWallet (emptyWallet now id currency) with
  | ok result =>
    simp only [inserted, Except.ok.injEq] at done
    subst done
    exact .inr (insertWallet_effect inserted)
  | error error =>
    simp only [inserted] at done
    cases existing : s.findWallet id currency with
    | none => simp [existing] at done
    | some wallet =>
      simp only [existing, Except.ok.injEq, Prod.mk.injEq] at done
      exact .inl done.2.symm

def createWallet (env : Env) (now : Instant) (userId currencyRaw : String) : Service Wallet := do
  let currency ← Program.ofExcept (normalizeCurrency env currencyRaw)
  let id ← Program.ofExcept (parseUuid userId)
  match ← Service.read fun s => .ok (s.findWallet id currency) with
  | some wallet => pure wallet
  | none => Service.transaction (insertOrFindWallet now id currency)

-- The service's own `getWallet` normalizes the currency once more.
def getWallet (env : Env) (userId currencyRaw : String) (s : Tables) :
    Except ServiceError (Option Wallet) := do
  let currency ← normalizeCurrency env currencyRaw
  s.getWallet userId currency

def getActiveFundingSource (userId fundingSourceId : String) (s : Tables) :
    Except ServiceError FundingSource := do
  let id ← parseUuid fundingSourceId
  let user ← parseUuid userId
  match s.fundingSources.find? fun source =>
      source.id == id && source.userId == user && source.status == .active with
  | some source => .ok source
  | none => .error (.badRequest "Funding source not found or inactive")

/-! ## Creations -/

def save (tx : TransactionEntity) : Service TransactionEntity :=
  Service.transaction fun s => (s.saveTransaction tx).map fun after => (tx, after)

-- The entity `submitOutsideTransfer` saves.
def submitted (answer : PartnerAnswer) (tx : TransactionEntity) : TransactionEntity :=
  match answer with
  | .ok response =>
    let tx := { tx with externalRef := Text.nonEmpty? response.partnerRef }
    if response.status ≠ "SUBMITTED" then
      { tx with
        status := .failed
        settlementStatus := .failed
        errorCode := some "OUTSIDE_PAYMENT_REJECTED"
        errorMessage := some (Text.orElse response.partnerMessage "Outside payment rejected") }
    else tx
  | .error message =>
    { tx with
      status := .failed
      settlementStatus := .failed
      errorCode := some "OUTSIDE_PAYMENT_ERROR"
      errorMessage := some (Text.orElse message "Outside payment service unavailable") }

def hasPartner (tx : TransactionEntity) : Bool :=
  tx.externalPartner.any (· ≠ "") && tx.externalAccountNo.any (· ≠ "")

def submitOutsideTransfer (answer : PartnerAnswer) (tx : TransactionEntity) :
    Service TransactionEntity :=
  if hasPartner tx then save (submitted answer tx)
  else Program.fail (.badRequest "Missing external partner information")

def anchorToChain (env : Env) (clock : Clock) (answer : ChainAnswer) (tx : TransactionEntity) :
    Service TransactionEntity :=
  save (anchored env clock answer tx)

def simulatedFailure (tx : TransactionEntity) : TransactionEntity :=
  { tx with
    status := .failed
    settlementStatus := .failed
    errorCode := some "WITHDRAWAL_SIMULATED_FAILURE"
    errorMessage := some "Withdrawal failure simulated by request" }

def createTopupIntent (env : Env) (answers : Answers) (request : CreateTopupIntentRequest) :
    Service TransferResponse := do
  let req ← Program.ofExcept (validateCreateTopupIntent env request)
  let fundingSource ← Service.read (getActiveFundingSource req.userId req.fundingSourceId)
  match ← Service.read fun s => .ok (s.findByIdempotencyKey req.idempotencyKey) with
  | some existing =>
    let wallet ← Service.read (getWallet env req.userId req.currency)
    pure (mapTransferResponse existing (walletBalance wallet) (walletBalance wallet))
  | none =>
    let persisted ← Service.transaction
      (persistTopupIntent env answers.persistedAt req fundingSource)
    let tx ← submitOutsideTransfer answers.partner persisted.transaction
    let tx ← if tx.status = .failed then anchorToChain env answers.clock answers.chain tx
      else pure tx
    Service.write (enqueueTransactionEvent answers.enqueuedAt tx)
    pure (mapTransferResponse tx persisted.walletBalance persisted.walletBalance)

def createWithdrawalRequest (env : Env) (answers : Answers) (request : CreateWithdrawalRequest) :
    Service TransferResponse := do
  let req ← Program.ofExcept (validateCreateWithdrawalRequest env request)
  let fundingSource ← Service.read (getActiveFundingSource req.userId req.fundingSourceId)
  match ← Service.read fun s => .ok (s.findByIdempotencyKey req.idempotencyKey) with
  | some existing =>
    let wallet ← Service.read (getWallet env req.userId req.currency)
    pure (mapTransferResponse existing (walletBalance wallet) 0)
  | none =>
    let persisted ← Service.transaction
      (persistWithdrawalRequest env answers.persistedAt req fundingSource)
    let tx := persisted.transaction
    if req.simulateFailure then
      Service.write (rollbackWithdrawalDebit tx "WITHDRAWAL_SIMULATED_FAILURE")
      let tx ← save (simulatedFailure tx)
      let tx ← anchorToChain env answers.clock answers.chain tx
      Service.write (enqueueTransactionEvent answers.enqueuedAt tx)
      pure (mapTransferResponse tx (Number.add persisted.walletBalance req.amount) 0)
    else
      let tx ← submitOutsideTransfer answers.partner tx
      if tx.status = .failed then
        Service.write (rollbackWithdrawalDebit tx (tx.errorCode.getD "WITHDRAWAL_FAILED"))
        let tx ← anchorToChain env answers.clock answers.chain tx
        Service.write (enqueueTransactionEvent answers.enqueuedAt tx)
        pure (mapTransferResponse tx (Number.add persisted.walletBalance req.amount) 0)
      else
        Service.write (enqueueTransactionEvent answers.enqueuedAt tx)
        pure (mapTransferResponse tx persisted.walletBalance 0)

def released (now : Instant) (tx : TransactionEntity) : TransactionEntity :=
  { tx with chainNextAttemptAt := some now }

def createTransfer (env : Env) (answers : Answers) (request : CreateTransferRequest) :
    Service TransferResponse := do
  let req ← Program.ofExcept (validateCreateTransfer env request)
  match ← Service.read fun s => .ok (s.findByIdempotencyKey req.idempotencyKey) with
  | some existing =>
    let sender ← Service.read (getWallet env req.fromUserId req.currency)
    let receiver ← Service.read (getWallet env req.toUserId req.currency)
    pure (mapTransferResponse existing (walletBalance sender) (walletBalance receiver))
  | none =>
    let persisted ← Service.transaction (persistTransfer env answers.persistedAt req)
    let tx := persisted.transaction
    let tx ← if tx.isExternal then submitOutsideTransfer answers.partner tx else pure tx
    let tx ← if tx.isExternal = false ∧ tx.status ≠ .failed then
        save (released answers.releasedAt tx)
      else pure tx
    Service.write (enqueueTransactionEvent answers.enqueuedAt tx)
    pure (mapTransferResponse tx persisted.senderBalance persisted.receiverBalance)

/-! ## Sequences of operations -/

inductive Operation where
  | createWallet (now : Instant) (userId currency : String)
  | createTransfer (answers : Answers) (request : CreateTransferRequest)
  | createTopupIntent (answers : Answers) (request : CreateTopupIntentRequest)
  | createWithdrawalRequest (answers : Answers) (request : CreateWithdrawalRequest)
  | markSettlement (now : Instant) (transactionId : Nat) (settlementStatus note : String)
  -- `createFundingSource`; nothing else changes the funding sources.
  | fundingSources (sources : List FundingSource)

def Operation.run (env : Env) : Operation → Tables → Tables
  | .createWallet now userId currency =>
    (Transactions.createWallet env now userId currency).finalState
  | .createTransfer answers request => (Transactions.createTransfer env answers request).finalState
  | .createTopupIntent answers request =>
    (Transactions.createTopupIntent env answers request).finalState
  | .createWithdrawalRequest answers request =>
    (Transactions.createWithdrawalRequest env answers request).finalState
  | .markSettlement now transactionId settlementStatus note =>
    (Service.transaction
      (Transactions.markSettlement env now transactionId settlementStatus note)).finalState
  | .fundingSources sources => fun s => { s with fundingSources := sources }

def Operation.runAll (env : Env) (operations : List Operation) (s : Tables) : Tables :=
  operations.foldl (fun s operation => operation.run env s) s

theorem Operation.runAll_append (env : Env) (earlier later : List Operation) (s : Tables) :
    Operation.runAll env (earlier ++ later) s =
      Operation.runAll env later (Operation.runAll env earlier s) := by
  simp [Operation.runAll]

-- A run in which every operation meets a condition on the tables it starts from.
def Operation.AllowedRun (env : Env) (allowed : Tables → Operation → Prop) :
    List Operation → Tables → Prop
  | [], _ => True
  | operation :: rest, s =>
    allowed s operation ∧ Operation.AllowedRun env allowed rest (operation.run env s)

theorem Operation.AllowedRun.invariant {env : Env} {allowed : Tables → Operation → Prop}
    (Inv : Tables → Prop)
    (preserved : ∀ s operation, Inv s → allowed s operation → Inv (operation.run env s))
    {operations : List Operation} {s : Tables} (run : Operation.AllowedRun env allowed operations s)
    (initial : Inv s) : Inv (Operation.runAll env operations s) := by
  induction operations generalizing s with
  | nil => exact initial
  | cons operation rest ih => exact ih run.2 (preserved s operation initial run.1)

theorem Operation.AllowedRun.mono {env : Env} {allowed wider : Tables → Operation → Prop}
    (weaker : ∀ s operation, allowed s operation → wider s operation) {operations : List Operation}
    {s : Tables} (run : Operation.AllowedRun env allowed operations s) :
    Operation.AllowedRun env wider operations s := by
  induction operations generalizing s with
  | nil => trivial
  | cons operation rest ih => exact ⟨weaker s operation run.1, ih run.2⟩

theorem Operation.AllowedRun.append {env : Env} {allowed : Tables → Operation → Prop}
    {earlier later : List Operation} {s : Tables}
    (run : Operation.AllowedRun env allowed (earlier ++ later) s) :
    Operation.AllowedRun env allowed earlier s ∧
      Operation.AllowedRun env allowed later (Operation.runAll env earlier s) := by
  induction earlier generalizing s with
  | nil => exact ⟨trivial, run⟩
  | cons operation rest ih => exact ⟨⟨run.1, (ih run.2).1⟩, (ih run.2).2⟩

/-! ## A configuration to run examples in -/

-- ASCII restrictions of the two string functions, with lower case sorted before upper case.
def asciiUpper (text : String) : String :=
  String.ofList (text.toList.map Char.toUpper)

def asciiCompare (left right : String) : Int :=
  let folded := (asciiUpper left).toList
  let folded' := (asciiUpper right).toList
  if folded < folded' then -1
  else if folded' < folded then 1
  else if left = right then 0
  else if right.toList < left.toList then -1
  else 1

def sampleEnv : Env where
  toUpperCase := asciiUpper
  localeCompare := asciiCompare
  chainAsyncLeaseMs := 30000
  chainAsyncInitialBackoffMs := 5000
  chainAsyncMaxBackoffMs := 300000
  chainAsyncMaxRetries := 0
  chainExternalSourceUserId := "00000000-0000-0000-0000-000000000001"
  chainExternalSinkUserId := "00000000-0000-0000-0000-000000000002"

-- The amounts of the sample requests.
theorem ten_positive : (0 : Int) < 10 := by decide
theorem forty_positive : (0 : Int) < 40 := by decide
theorem hundred_positive : (0 : Int) < 100 := by decide

def alice : String := "aaaaaaaa-0000-4000-8000-000000000001"

def aliceId : Uuid := (Uuid.parse alice).getD ⟨[]⟩

def bankAccount : String := "f0000000-0000-4000-8000-000000000001"

def aliceSource : FundingSource where
  id := (Uuid.parse bankAccount).getD ⟨[]⟩
  userId := aliceId
  provider := "BANK"
  accountRefMasked := "****1234"
  status := .active

def accepted : Answers where
  persistedAt := 0
  partner := .ok { status := "SUBMITTED", partnerRef := "BANK-1", partnerMessage := "" }
  releasedAt := 0
  chain := .error "unavailable"
  clock := { now := 0, jitter := 0 }
  enqueuedAt := 0

def refused : Answers :=
  { accepted with
    partner := .ok { status := "FAILED", partnerRef := "", partnerMessage := "declined" } }

def aliceTopup : CreateTopupIntentRequest where
  idempotencyKey := "topup"
  userId := alice
  fundingSourceId := bankAccount
  amount := .number (some 100)
  currency := "VND"
  memo := ""

-- Alice tops her wallet up with 100 and the top-up settles.
def fundAlice : List Operation :=
  [.createTopupIntent accepted aliceTopup, .markSettlement 1 0 "SETTLED" ""]

def fundedTables : Tables :=
  Operation.runAll sampleEnv fundAlice (Tables.initial [aliceSource])

example : fundedTables.findWallet aliceId "VND" = some
    { id := 0, userId := aliceId, currency := "VND", balance := 100, status := .active
      createdAt := 0 } := by decide +kernel

end Kufi.Transactions

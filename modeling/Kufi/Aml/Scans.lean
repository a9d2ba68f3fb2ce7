import Kufi.Aml.FeatureEngineer
import Kufi.Shared.Dict
import Kufi.Shared.Interleaving
import Kufi.Transactions.Entities
import Mathlib.Algebra.Order.Floor.Defs
import Mathlib.Data.Rat.Floor

set_option autoImplicit false

/-!
# Scans of the wallet transactions

`scan_once` reads the table of the transaction service and writes the history
file and the table of flags, one after the other. `SCAN_LOCK` lets one scan run
at a time, and of the tables it reads only `transactions` has other writers, so
a run is a sequence of whole scans with changes to that table between them.
-/

namespace Kufi.Aml

open Shared Transactions

/-! ## Text and numbers of Python -/

/-- The characters of `str.isspace`. -/
def isSpace (c : Char) : Bool :=
  (0x09 ≤ c.toNat && c.toNat ≤ 0x0D) || (0x1C ≤ c.toNat && c.toNat ≤ 0x20) ||
    (0x2000 ≤ c.toNat && c.toNat ≤ 0x200A) ||
    [0x85, 0xA0, 0x1680, 0x2028, 0x2029, 0x202F, 0x205F, 0x3000].contains c.toNat

/-- `str.strip`. -/
def strip (text : String) : String :=
  String.ofList ((text.toList.dropWhile isSpace).rdropWhile isSpace)

/-- The nearest integer, the even one of two. -/
def rint (x : ℚ) : Int :=
  if x - ⌊x⌋ < 1 / 2 ∨ (x - ⌊x⌋ = 1 / 2 ∧ ⌊x⌋ % 2 = 0) then ⌊x⌋ else ⌊x⌋ + 1

def roundDigits (digits : Nat) (x : ℚ) : ℚ := rint (x * 10 ^ digits) / 10 ^ digits

/-! ## The model -/

structure AmlEnv (F : Type) where
  -- the order that `ORDER BY` and `sort_values` give rows with equal values
  orderBy : SortValues
  sorting : SortValues
  -- `str.upper`
  upper : String → String
  stableCode : String → Nat
  log1p : ℚ → F
  artifacts : Artifacts
  -- `predict_proba` on the feature columns of a row
  predictProba : EngineeredRow F → ℚ
  optimalThreshold : ℚ
  scanOnlyUnscanned : Bool
  scanLookbackHours : Int
  scanLimit : Int

structure Prediction where
  row : RawRow
  fraudProbability : ℚ
  isFlagged : Bool
  -- outside the bins of `pd.cut` the value is missing
  riskLevel : Option String
  deriving DecidableEq

def riskLevel (proba : ℚ) : Option String :=
  if proba < 0 ∨ 1 < proba then none
  else if proba ≤ 3 / 10 then some "LOW"
  else if proba ≤ 6 / 10 then some "MEDIUM"
  else if proba ≤ 8 / 10 then some "HIGH"
  else some "CRITICAL"

/-- A row of `AML_FLAGS_TABLE` under its primary key. -/
structure FlagRow where
  createdAt : Instant
  fromAccount : String
  toAccount : String
  amountPaid : ℚ
  amountReceived : ℚ
  paymentFormat : String
  paymentCurrency : String
  fraudProbability : ℚ
  riskLevel : String
  isFlagged : Bool
  scannedAt : Instant
  scanLookbackHours : Int
  deriving DecidableEq

structure AmlState where
  transactions : Table TransactionEntity
  flags : Dict String FlagRow
  file : HistoryFile
  -- the batches that a finished save has put into the file and those of scans that succeeded;
  -- records only
  saved : List String
  scanned : List String

def AmlState.initial (transactions : Table TransactionEntity) : AmlState where
  transactions := transactions
  flags := ∅
  file := .missing
  saved := []
  scanned := []

/-! ## A scan -/

/-- Where a scan can raise. -/
inductive ScanPoint where
  | ensureAmlStorage
  | fetchWalletTransactions
  | combineWithHistory
  | engineerFeatures
  | predict
  | save
  | persistPredictions
  -- after the predictions are committed
  | overview
  deriving DecidableEq

/-- The arguments of a call of `scan_once` with what the environment does during it. -/
structure ScanCall where
  lookbackHours : Option Int
  limit : Option Int
  fetchedAt : Instant
  scannedAt : Instant
  raises : Option ScanPoint
  combineReads : Bool
  saveReads : Bool
  write : FileWrite

inductive ScanStatus where
  | ok
  | error
  deriving DecidableEq

structure Scan where
  batch : List RawRow
  -- the history that `combine_with_history` has read and the frame it returns
  history : Option (List RawRow)
  combined : Option (List MarkedRow)
  status : ScanStatus
  after : AmlState

section

variable {F : Type} (env : AmlEnv F)

/-- `value or default`, at least `least`. -/
def setting (least : Int) (value : Option Int) (default : Int) : Int :=
  match value with
  | some value => max least (if value = 0 then default else value)
  | none => max least default

def effectiveLookback (call : ScanCall) : Int :=
  setting 1 call.lookbackHours (max 1 env.scanLookbackHours)

def effectiveLimit (call : ScanCall) : Int :=
  setting 100 call.limit (max 100 env.scanLimit)

def mapPaymentFormat : TransactionType → String
  | .transfer => "Wire"
  | .deposit => "ACH"
  | .withdrawal => "Cash"

def mapCurrency (value : String) : String :=
  let code := env.upper (strip value)
  if code = "USD" ∨ code = "USDT" then "US Dollar"
  else if code = "EUR" then "Euro"
  else if code = "BTC" then "Bitcoin"
  else Text.orElse code "VND"

/-- `tx.id::text`. -/
def transactionId (tx : TransactionEntity) : String := toString tx.id

def accountFromRow (tx : TransactionEntity) : String :=
  let toUser := strip ((tx.toUserId.map Uuid.format).getD "")
  if toUser ≠ "" then toUser
  else
    let externalPartner := Text.orElse (strip (tx.externalPartner.getD "")) "external"
    let externalAccountNo := Text.orElse (strip (tx.externalAccountNo.getD "")) "unknown"
    "ext:" ++ externalPartner ++ ":" ++ externalAccountNo

/-- The row of the frame that `fetch_wallet_transactions` makes of a row of the table. -/
def prepared (tx : TransactionEntity) : RawRow :=
  let toAccount := accountFromRow tx
  let externalPartner := strip (tx.externalPartner.getD "")
  let amount : ℚ := max 0 tx.amount
  let paymentCurrency := mapCurrency env tx.currency
  { transactionId := transactionId tx
    timestamp := tx.createdAt / 60000
    account := Text.orElse (strip tx.fromUserId.format) ("unknown-from:" ++ transactionId tx)
    account1 := toAccount
    fromBank := 100
    toBank := if tx.isExternal then
        200 + env.stableCode (Text.orElse externalPartner toAccount) % 700
      else 100
    amountPaid := amount
    amountReceived := amount
    paymentFormat := mapPaymentFormat tx.type
    paymentCurrency
    receivingCurrency := paymentCurrency }

/-- The condition of the query. -/
def wanted (call : ScanCall) (s : AmlState) (tx : TransactionEntity) : Bool :=
  decide (tx.status = .completed) &&
    if env.scanOnlyUnscanned then (s.flags.get (transactionId tx)).isNone
    else decide (call.fetchedAt - effectiveLookback env call * 3600000 ≤ tx.createdAt)

def fetchWalletTransactions (call : ScanCall) (s : AmlState) : List RawRow :=
  let rows := env.orderBy.sort TransactionEntity.createdAt
    (s.transactions.rows.filter (wanted env call s))
  (rows.take (effectiveLimit env call).toNat).map (prepared env)

def predict (engineered : EngineeredRow F) : Prediction :=
  let proba := env.predictProba engineered
  { row := engineered.row
    fraudProbability := roundDigits 4 proba
    isFlagged := decide (env.optimalThreshold ≤ proba)
    riskLevel := riskLevel proba }

def flagRow (call : ScanCall) (tx : Prediction) : FlagRow where
  createdAt := tx.row.timestamp * 60000
  fromAccount := strip tx.row.account
  toAccount := strip tx.row.account1
  amountPaid := roundDigits 6 tx.row.amountPaid
  amountReceived := roundDigits 6 tx.row.amountReceived
  paymentFormat := strip tx.row.paymentFormat
  paymentCurrency := strip tx.row.paymentCurrency
  fraudProbability := roundDigits 6 tx.fraudProbability
  riskLevel := tx.riskLevel.getD "NAN"
  isFlagged := tx.isFlagged
  scannedAt := call.scannedAt
  scanLookbackHours := effectiveLookback env call

-- A blank id is skipped.
def upsertFlag (call : ScanCall) (flags : Dict String FlagRow) (tx : Prediction) :
    Dict String FlagRow :=
  let transactionId := strip tx.row.transactionId
  if transactionId = "" then flags else flags.set transactionId (flagRow env call tx)

/-- `persist_predictions`: one transaction of `INSERT ... ON CONFLICT DO UPDATE`. -/
def persistPredictions (call : ScanCall) (predictions : List Prediction) (s : AmlState) :
    AmlState :=
  { s with flags := predictions.foldl (upsertFlag env call) s.flags }

/-- `STORE.save`. -/
def saveBatch (call : ScanCall) (batch : List RawRow) (s : AmlState) : AmlState :=
  { s with
    file := TransactionStore.save env.sorting call.saveReads call.write batch s.file
    saved := if call.write = .written then s.saved ++ ids batch else s.saved }

def finish (call : ScanCall) (batch : List RawRow) (history : Option (List RawRow))
    (combined : Option (List MarkedRow)) (s : AmlState) : Scan :=
  if call.raises = some .overview then { batch, history, combined, status := .error, after := s }
  else
    { batch, history, combined, status := .ok
      after := { s with scanned := s.scanned ++ ids batch } }

def scanOnce (call : ScanCall) (s : AmlState) : Scan :=
  let failed (batch : List RawRow) (history : Option (List RawRow))
      (combined : Option (List MarkedRow)) (after : AmlState) : Scan :=
    { batch, history, combined, status := .error, after }
  if call.raises = some .ensureAmlStorage ∨ call.raises = some .fetchWalletTransactions then
    failed [] none none s
  else
    let batch := fetchWalletTransactions env call s
    if batch = [] then finish call batch none none s
    else if call.raises = some .combineWithHistory then failed batch none none s
    else
      let history := TransactionStore.loadHistory call.combineReads s.file
      let combined := TransactionStore.combineWithHistory env.sorting history batch
      if call.raises = some .engineerFeatures ∨ call.raises = some .predict then
        failed batch history (some combined) s
      else
        let predictions :=
          (engineerFeatures env.log1p env.artifacts env.sorting combined).map (predict env)
        if call.raises = some .save then failed batch history (some combined) s
        else if call.raises = some .persistPredictions then
          failed batch history (some combined) (saveBatch env call batch s)
        else
          finish call batch history (some combined)
            (persistPredictions env call predictions (saveBatch env call batch s))

/-! ## Runs -/

inductive AmlStep where
  | scan (call : ScanCall)
  | transactionsChange (transactions : Table TransactionEntity)

/-- The last scan of a run: the state it began in and the call. -/
abbrev LastScan := Option (AmlState × ScanCall)

def amlService : Machine AmlState LastScan AmlStep where
  step s last
    | .scan call => some ((scanOnce env call s).after, some (s, call))
    | .transactionsChange transactions => some ({ s with transactions }, last)

end

end Kufi.Aml

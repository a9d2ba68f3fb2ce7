import Kufi.Aml.TransactionStore
import Mathlib.Data.List.Induction

set_option autoImplicit false

/-!
# Features of the transactions of a frame

`engineer_features` over exact numbers. Flags of type `int8` are booleans, and
`log1p` is a parameter with values in any type.
-/

namespace Kufi.Aml

open Shared

def offHours : List Int := [0, 1, 2, 3, 4, 5]
def muleMinRecv : ℚ := 10000
def muleFlowLow : ℚ := 9 / 10
def muleFlowHigh : ℚ := 11 / 10
def muleMinTx : Nat := 2
def epsilon : ℚ := 1 / 1000000000

/-- The encoders of `AMLArtifacts`. -/
structure Artifacts where
  encPaymentFormat : List (String × Int)
  encPaymentCurrency : List (String × Int)
  encReceivingCurrency : List (String × Int)
  fmtFraudRateTrain : List (String × ℚ)

/-- `encode`. -/
def encode (value : String) (mapping : List (String × Int)) : Int :=
  (mapping.lookup value).getD (-1)

structure Features (F : Type) where
  hourOfDay : Int
  dayOfWeek : Int
  isOffHours : Bool
  isWeekend : Bool
  amountDiff : ℚ
  amountRatio : ℚ
  logAmountPaid : F
  logAmountReceived : F
  isSameBank : Bool
  senderTxCount : Nat
  senderTotalVolume : ℚ
  receiverTxCount : Nat
  receiverTotalVolume : ℚ
  senderSentToReceivedRatio : ℚ
  senderUniqueReceivers : Nat
  receiverUniqueSenders : Nat
  isReciprocal : Bool
  paymentFormatEnc : Int
  paymentCurrencyEnc : Int
  receivingCurrencyEnc : Int
  paymentFormatFraudRate : ℚ
  isMuleAccount : Bool
  deriving DecidableEq

structure EngineeredRow (F : Type) where
  row : RawRow
  isCurrent : Bool
  features : Features F
  deriving DecidableEq

/-! ## Accounts -/

/-- A row of `acct_stats`, with zeros where an account has only sent or only received. -/
structure AccountStats where
  totalReceived : ℚ
  totalSent : ℚ
  txCount : Nat

def accountStats (frame : List RawRow) (account : String) : AccountStats where
  totalReceived := groupSum RawRow.account1 RawRow.amountReceived frame account
  totalSent := groupSum RawRow.account RawRow.amountPaid frame account
  txCount := groupCount RawRow.account frame account

def AccountStats.flowRatio (stats : AccountStats) : ℚ :=
  stats.totalSent / (stats.totalReceived + epsilon)

def AccountStats.isMule (stats : AccountStats) : Bool :=
  decide (muleMinRecv ≤ stats.totalReceived) &&
    (decide (muleFlowLow ≤ stats.flowRatio) && decide (stats.flowRatio ≤ muleFlowHigh)) &&
    decide (muleMinTx ≤ stats.txCount)

def muleAccounts (frame : List RawRow) : List String :=
  (frame.map RawRow.account1 ++ frame.map RawRow.account).dedup.filter fun account =>
    (accountStats frame account).isMule

/-! ## Rows -/

section

variable {F : Type} (log1p : ℚ → F) (artifacts : Artifacts)

/-- The features of a row of the frame, with the rows before it. -/
def featuresAt (frame earlier : List RawRow) (row : RawRow) : Features F :=
  let hourOfDay := row.timestamp / 60 % 24
  -- 1970-01-01 was a Thursday, and Monday is 0
  let dayOfWeek := (row.timestamp / 1440 + 3) % 7
  let senderTotalVolume := cumsum RawRow.account RawRow.amountPaid earlier row
  let receiverTotalVolume := cumsum RawRow.account1 RawRow.amountReceived earlier row
  { hourOfDay
    dayOfWeek
    isOffHours := offHours.contains hourOfDay
    isWeekend := decide (5 ≤ dayOfWeek)
    amountDiff := row.amountPaid - row.amountReceived
    amountRatio := row.amountReceived / (row.amountPaid + epsilon)
    logAmountPaid := log1p row.amountPaid
    logAmountReceived := log1p row.amountReceived
    isSameBank := row.fromBank == row.toBank
    senderTxCount := cumcount RawRow.account earlier row
    senderTotalVolume
    receiverTxCount := cumcount RawRow.account1 earlier row
    receiverTotalVolume
    senderSentToReceivedRatio := senderTotalVolume / (receiverTotalVolume + epsilon)
    senderUniqueReceivers := nunique RawRow.account RawRow.account1 frame row.account
    receiverUniqueSenders := nunique RawRow.account1 RawRow.account frame row.account1
    isReciprocal := frame.any fun edge =>
      edge.account == row.account1 && edge.account1 == row.account
    paymentFormatEnc := encode row.paymentFormat artifacts.encPaymentFormat
    paymentCurrencyEnc := encode row.paymentCurrency artifacts.encPaymentCurrency
    receivingCurrencyEnc := encode row.receivingCurrency artifacts.encReceivingCurrency
    paymentFormatFraudRate := (artifacts.fmtFraudRateTrain.lookup row.paymentFormat).getD 0
    isMuleAccount := (muleAccounts frame).contains row.account }

variable (sorting : SortValues)

/-- `engineer_features` with `current_mask`; `validate` finds every column of a `RawRow`. -/
def engineerFeatures (combined : List MarkedRow) : List (EngineeredRow F) :=
  let df := sorting.sort (fun marked => marked.row.timestamp) combined
  let frame := df.map MarkedRow.row
  let engineered := withEarlier (fun earlier marked =>
    { row := marked.row
      isCurrent := marked.isCurrent
      features := featuresAt log1p artifacts frame (earlier.map MarkedRow.row) marked.row }) df
  engineered.filter EngineeredRow.isCurrent

end

/-! ## Which rows come back -/

section

variable {F : Type} {log1p : ℚ → F} {artifacts : Artifacts} {sorting : SortValues}

theorem engineerFeatures_rows (combined : List MarkedRow) :
    ((engineerFeatures log1p artifacts sorting combined).map EngineeredRow.row).Perm
      ((combined.filter MarkedRow.isCurrent).map MarkedRow.row) := by
  have marks (rows : List MarkedRow) (compute : List MarkedRow → MarkedRow → Features F) :
      ((withEarlier (fun earlier marked =>
        { row := marked.row, isCurrent := marked.isCurrent, features := compute earlier marked :
          EngineeredRow F }) rows).filter EngineeredRow.isCurrent).map EngineeredRow.row =
        (rows.filter MarkedRow.isCurrent).map MarkedRow.row := by
    induction rows using List.reverseRecOn with
    | nil => rfl
    | append_singleton rows row ih =>
      rw [withEarlier_append, List.filter_append, List.filter_append, List.map_append,
        List.map_append, ih]
      cases shown : row.isCurrent <;> simp [withEarlier, shown]
  unfold engineerFeatures
  rw [marks]
  exact ((sorting.perm _ combined).filter _).map _

end

end Kufi.Aml

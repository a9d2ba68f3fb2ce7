import Kufi.Aml.Scans
import Kufi.Transactions.Service
import Mathlib.Analysis.SpecialFunctions.Log.Basic

set_option autoImplicit false

/-!
# What runs of scans keep

The history file and the table of flags are written without a common
transaction, so a scan that fails between them leaves its batch in the history
and fetches it again.
-/

namespace Kufi.Aml

open Shared Transactions

/-! ## Identifiers -/

theorem isSpace_of_isDigit {c : Char} (digit : c.isDigit = true) : isSpace c = false := by
  simp only [Char.isDigit, Bool.and_eq_true, decide_eq_true_eq, UInt32.le_iff_toNat_le] at digit
  have bounds : 48 ≤ c.toNat ∧ c.toNat ≤ 57 := digit
  simp only [isSpace, Bool.or_eq_false_iff, Bool.and_eq_false_iff, decide_eq_false_iff_not,
    List.contains_eq_mem, List.mem_cons, List.not_mem_nil, or_false]
  omega

theorem strip_of_no_space {text : String} (solid : ∀ c ∈ text.toList, isSpace c = false) :
    strip text = text := by
  have front : text.toList.dropWhile isSpace = text.toList := by
    rw [List.dropWhile_eq_self_iff]
    intro nonempty
    simpa using solid _ (List.getElem_mem nonempty)
  have back : text.toList.rdropWhile isSpace = text.toList := by
    rw [List.rdropWhile_eq_self_iff]
    intro nonempty
    simpa using solid _ (List.getLast_mem nonempty)
  rw [strip, front, back, String.ofList_toList]

theorem transactionId_digits (tx : TransactionEntity) :
    (transactionId tx).toList = Nat.toDigits 10 tx.id := Nat.toList_repr

theorem strip_transactionId (tx : TransactionEntity) : strip (transactionId tx) = transactionId tx := by
  refine strip_of_no_space fun c member => isSpace_of_isDigit ?_
  rw [transactionId_digits] at member
  exact Nat.isDigit_of_mem_toDigits (by decide) (by decide) member

theorem transactionId_ne_empty (tx : TransactionEntity) : transactionId tx ≠ "" := by
  intro empty
  have digits := transactionId_digits tx
  rw [empty] at digits
  exact Nat.toDigits_ne_nil digits.symm

theorem transactionId_inj {left right : TransactionEntity}
    (same : transactionId left = transactionId right) : left.id = right.id := by
  have digits := congrArg String.toList same
  rw [transactionId_digits, transactionId_digits] at digits
  have values := congrArg (Nat.ofDigitChars 10 · 0) digits
  simpa using values

/-! ## The fetched batch -/

section Fetch

variable {F : Type} {env : AmlEnv F} {call : ScanCall} {s : AmlState} {row : RawRow}

theorem mem_fetched (member : row ∈ fetchWalletTransactions env call s) :
    ∃ tx ∈ s.transactions, row = prepared env tx ∧ wanted env call s tx = true := by
  obtain ⟨tx, taken, rfl⟩ := List.mem_map.mp member
  have sorted := (SortValues.mem_sort _).mp (List.mem_of_mem_take taken)
  obtain ⟨stored, asked⟩ := List.mem_filter.mp sorted
  exact ⟨tx, stored, rfl, asked⟩

theorem fetched_ids_nodup : (ids (fetchWalletTransactions env call s)).Nodup := by
  have distinct : (s.transactions.rows.map transactionId).Nodup := by
    rw [List.nodup_map_iff_inj_on (s.transactions.ids.imp fun below => ?_)]
    · intro left first right second same
      exact Table.eq_of_id first second (transactionId_inj same)
    · rintro rfl
      exact Nat.lt_irrefl _ below
  have chosen := distinct.sublist ((List.filter_sublist (p := wanted env call s)).map transactionId)
  have sorted := (((env.orderBy.perm TransactionEntity.createdAt _).map transactionId).nodup_iff).mpr
    chosen
  have shown : ids (fetchWalletTransactions env call s) =
      ((env.orderBy.sort TransactionEntity.createdAt
        (s.transactions.rows.filter (wanted env call s))).take
          (effectiveLimit env call).toNat).map transactionId := by
    rw [ids, fetchWalletTransactions, List.map_map]
    rfl
  rw [shown, List.map_take]
  exact sorted.sublist (List.take_sublist _ _)

theorem fetched_all {tx : TransactionEntity} (stored : tx ∈ s.transactions)
    (asked : wanted env call s tx = true)
    (few : (s.transactions.rows.filter (wanted env call s)).length ≤ effectiveLimit env call) :
    prepared env tx ∈ fetchWalletTransactions env call s := by
  refine List.mem_map_of_mem ?_
  rw [List.take_of_length_le]
  · exact (SortValues.mem_sort _).mpr (List.mem_filter.mpr ⟨stored, asked⟩)
  · rw [(env.orderBy.perm _ _).length_eq]
    omega

end Fetch

/-! ## The flags -/

section Flags

variable {F : Type} {env : AmlEnv F} {call : ScanCall} {predictions : List Prediction}
  {s : AmlState} {id : String}

def flagRows (flags : Dict String FlagRow) (id : String) : List (Sigma fun _ : String => FlagRow) :=
  flags.entries.filter fun entry => entry.1 = id

theorem flagRows_length {flags : Dict String FlagRow} (known : flags.get id ≠ none) :
    (flagRows flags id).length = 1 := by
  obtain ⟨row, found⟩ := Option.ne_none_iff_exists'.mp known
  have member : (⟨id, row⟩ : Sigma fun _ : String => FlagRow) ∈ flagRows flags id :=
    List.mem_filter.mpr ⟨Dict.get_eq_some.mp found, by simp⟩
  have distinct : (flagRows flags id).Nodup := (flags.nodupKeys.nodup).filter _
  have only : ∀ entry ∈ flagRows flags id, entry = ⟨id, row⟩ := by
    rintro ⟨key, value⟩ inside
    obtain ⟨stored, named⟩ := List.mem_filter.mp inside
    obtain rfl : key = id := by simpa using named
    have same := (Dict.get_eq_some.mpr stored).symm.trans found
    rw [Option.some.inj same]
  rw [List.eq_replicate_of_mem only] at distinct ⊢
  have atMost := List.nodup_replicate.mp distinct
  have atLeast := List.length_pos_of_mem member
  rw [List.length_replicate]
  omega

theorem upsertFlag_keeps {tx : Prediction} {flags : Dict String FlagRow}
    (known : flags.get id ≠ none) : (upsertFlag env call flags tx).get id ≠ none := by
  unfold upsertFlag
  dsimp only
  split
  · exact known
  · rw [Dict.get_set]
    split
    · exact Option.some_ne_none _
    · exact known

theorem persistPredictions_keeps (known : s.flags.get id ≠ none) :
    (persistPredictions env call predictions s).flags.get id ≠ none := by
  have kept (flags : Dict String FlagRow) (known : flags.get id ≠ none) :
      (predictions.foldl (upsertFlag env call) flags).get id ≠ none := by
    induction predictions generalizing flags with
    | nil => exact known
    | cons tx rest ih => exact ih _ (upsertFlag_keeps known)
  exact kept s.flags known

theorem persistPredictions_sets {tx : Prediction} (member : tx ∈ predictions)
    (named : strip tx.row.transactionId = id) (nonblank : id ≠ "") :
    (persistPredictions env call predictions s).flags.get id ≠ none := by
  refine Dict.get_foldl_ne_none (fun flags other known => upsertFlag_keeps known) member
    (fun flags => ?_) _
  rw [upsertFlag, named, if_neg nonblank, Dict.get_set, if_pos rfl]
  exact Option.some_ne_none _

end Flags

/-! ## What one scan does -/

def ScanPoint.place : ScanPoint → Nat
  | .ensureAmlStorage => 0
  | .fetchWalletTransactions => 1
  | .combineWithHistory => 2
  | .engineerFeatures => 3
  | .predict => 4
  | .save => 5
  | .persistPredictions => 6
  | .overview => 7

/-- The call does not raise at the point or before. -/
def ScanCall.Passes (call : ScanCall) (point : ScanPoint) : Prop :=
  ∀ raised ∈ call.raises, point.place < raised.place

instance (call : ScanCall) (point : ScanPoint) : Decidable (call.Passes point) :=
  inferInstanceAs (Decidable (∀ _ ∈ _, _))

-- A scan that got as far as combining its batch, and maybe further.
structure Combined {F : Type} (env : AmlEnv F) (call : ScanCall) (s : AmlState) (scan : Scan)
    (frame : List MarkedRow) : Prop where
  passed : call.Passes .combineWithHistory
  nonempty : scan.batch ≠ []
  batch : scan.batch = fetchWalletTransactions env call s
  history : scan.history = TransactionStore.loadHistory call.combineReads s.file
  frame : frame = TransactionStore.combineWithHistory env.sorting scan.history scan.batch

/-- Everything a scan can do. -/
structure ScanEffect {F : Type} (env : AmlEnv F) (call : ScanCall) (s : AmlState) (scan : Scan) :
    Prop where
  batch : scan.batch = [] ∨ scan.batch = fetchWalletTransactions env call s
  combined : ∀ frame ∈ scan.combined, Combined env call s scan frame
  store : (scan.after.file = s.file ∧ scan.after.saved = s.saved) ∨
    (scan.batch ≠ [] ∧ call.Passes .save ∧
      scan.after.file = (saveBatch env call scan.batch s).file ∧
      scan.after.saved = (saveBatch env call scan.batch s).saved)
  flags : (scan.after.flags = s.flags ∧ (scan.status = .ok → scan.batch = [])) ∨
    ∃ predictions, (predictions.map Prediction.row).Perm scan.batch ∧
      scan.after.flags = (persistPredictions env call predictions s).flags
  scanned : scan.after.scanned = s.scanned ∨
    (scan.status = .ok ∧ scan.after.scanned = s.scanned ++ ids scan.batch)

section Effect

variable {F : Type} {env : AmlEnv F} {call : ScanCall} {s : AmlState}

theorem predictions_rows (history : Option (List RawRow)) (batch : List RawRow) :
    (((engineerFeatures env.log1p env.artifacts env.sorting
      (TransactionStore.combineWithHistory env.sorting history batch)).map
        (predict env)).map Prediction.row).Perm batch := by
  rw [List.map_map]
  exact (engineerFeatures_rows _).trans TransactionStore.combined_current

variable (env call s) in
theorem scanOnce_effect : ScanEffect env call s (scanOnce env call s) := by
  unfold scanOnce
  split
  next => exact ⟨.inl rfl, by simp, .inl ⟨rfl, rfl⟩, .inl ⟨rfl, fun _ => rfl⟩, .inl rfl⟩
  next fetched =>
  dsimp only
  split
  next empty =>
    unfold finish
    split
    · exact ⟨.inr rfl, by simp, .inl ⟨rfl, rfl⟩, .inl ⟨rfl, fun _ => empty⟩, .inl rfl⟩
    · exact ⟨.inr rfl, by simp, .inl ⟨rfl, rfl⟩, .inl ⟨rfl, fun _ => empty⟩, .inr ⟨rfl, rfl⟩⟩
  next nonempty =>
  split
  next => exact ⟨.inr rfl, by simp, .inl ⟨rfl, rfl⟩, .inl ⟨rfl, by simp⟩, .inl rfl⟩
  next joined =>
  have passed : call.Passes .combineWithHistory := by
    intro raised found
    cases raised <;> simp_all [ScanPoint.place]
  have combined (scan : Scan) (same : scan.batch = fetchWalletTransactions env call s)
      (read : scan.history = TransactionStore.loadHistory call.combineReads s.file)
      (shown : scan.combined =
        some (TransactionStore.combineWithHistory env.sorting scan.history scan.batch)) :
      ∀ frame ∈ scan.combined, Combined env call s scan frame := by
    intro frame member
    rw [shown] at member
    exact ⟨passed, same ▸ nonempty, same, read, (Option.some.inj member).symm⟩
  split
  next => exact ⟨.inr rfl, combined _ rfl rfl rfl, .inl ⟨rfl, rfl⟩, .inl ⟨rfl, by simp⟩, .inl rfl⟩
  next predicted =>
  split
  next => exact ⟨.inr rfl, combined _ rfl rfl rfl, .inl ⟨rfl, rfl⟩, .inl ⟨rfl, by simp⟩, .inl rfl⟩
  next unraised =>
  have saves : call.Passes .save := by
    intro raised found
    cases raised <;> simp_all [ScanPoint.place]
  split
  next =>
    exact ⟨.inr rfl, combined _ rfl rfl rfl, .inr ⟨nonempty, saves, rfl, rfl⟩,
      .inl ⟨rfl, by simp⟩, .inl rfl⟩
  next =>
    unfold finish
    split
    · exact ⟨.inr rfl, combined _ rfl rfl rfl, .inr ⟨nonempty, saves, rfl, rfl⟩,
        .inr ⟨_, predictions_rows _ _, rfl⟩, .inl rfl⟩
    · exact ⟨.inr rfl, combined _ rfl rfl rfl, .inr ⟨nonempty, saves, rfl, rfl⟩,
        .inr ⟨_, predictions_rows _ _, rfl⟩, .inr ⟨rfl, rfl⟩⟩

end Effect

/-! ## The rows of the file -/

def HistoryFile.held : HistoryFile → List RawRow
  | .rows stored => stored
  | .missing | .unreadable => []

/-- Everything that was saved is in the file. -/
def AmlState.SavedHeld (s : AmlState) : Prop :=
  ∀ id ∈ s.saved, id ∈ ids s.file.held

/-- The write of a save keeps what is in the file. -/
def ScanCall.SavesWhole (call : ScanCall) : Prop :=
  call.write = .refused ∨ call.write = .written ∧ call.saveReads = true

instance (call : ScanCall) : Decidable call.SavesWhole :=
  inferInstanceAs (Decidable (_ ∨ _))

section Held

variable {F : Type} {env : AmlEnv F} {call : ScanCall} {s : AmlState} {batch : List RawRow}

theorem loadHistory_held (file : HistoryFile) :
    (TransactionStore.loadHistory true file).getD [] = file.held := by
  cases file <;> rfl

theorem saveBatch_held (held : s.SavedHeld) (safe : s.saved = [] ∨ call.SavesWhole) :
    (saveBatch env call batch s).SavedHeld := by
  intro id member
  cases how : call.write with
  | written =>
    simp only [saveBatch, how, if_true, List.mem_append] at member
    simp only [saveBatch, how, TransactionStore.save, HistoryFile.held]
    refine TransactionStore.mem_ids_merged.mpr (member.imp_left fun before => ?_)
    rcases safe with none | refused | ⟨-, reads⟩
    · rw [none] at before
      cases before
    · rw [how] at refused
      cases refused
    · rw [reads, loadHistory_held]
      exact held id before
  | refused =>
    simp only [saveBatch, how, reduceCtorEq, if_false] at member
    simpa only [saveBatch, how, TransactionStore.save] using held id member
  | interrupted left =>
    simp only [saveBatch, how, reduceCtorEq, if_false] at member
    rcases safe with none | refused | ⟨written, -⟩
    · rw [none] at member
      cases member
    · rw [how] at refused
      cases refused
    · rw [how] at written
      cases written

theorem scanOnce_held (held : s.SavedHeld)
    (safe : s.saved = [] ∨ fetchWalletTransactions env call s = [] ∨
      (call.Passes .save → call.SavesWhole)) :
    (scanOnce env call s).after.SavedHeld := by
  have effect := scanOnce_effect env call s
  rcases effect.store with ⟨file, saved⟩ | ⟨nonempty, passed, file, saved⟩
  · rw [AmlState.SavedHeld, file, saved]
    exact held
  · have whole : s.saved = [] ∨ call.SavesWhole := by
      rcases safe with none | nothing | whole
      · exact .inl none
      · exact absurd (effect.batch.elim id fun fetched => fetched.trans nothing) nonempty
      · exact .inr (whole passed)
    rw [AmlState.SavedHeld, file, saved]
    exact saveBatch_held held whole

end Held

/-! ## Each transaction once -/

/-- What a scan from a state does with the transactions it fetches. -/
structure ProcessedOnce {F : Type} (env : AmlEnv F) (s : AmlState) (call : ScanCall)
    (scan : Scan) : Prop where
  fetched : ∀ row ∈ scan.batch, ∃ tx ∈ s.transactions, row = prepared env tx ∧
    tx.status = .completed ∧
    (env.scanOnlyUnscanned = true → s.flags.get (transactionId tx) = none)
  -- nothing that the query asks for is left out below the limit
  all : ∀ frame ∈ scan.combined,
    (s.transactions.rows.filter (wanted env call s)).length ≤ effectiveLimit env call →
    ∀ tx ∈ s.transactions, wanted env call s tx = true → prepared env tx ∈ scan.batch
  once : ∀ frame ∈ scan.combined, (frame.map fun marked => marked.row.transactionId).Nodup
  current : ∀ frame ∈ scan.combined,
    ((frame.filter MarkedRow.isCurrent).map MarkedRow.row).Perm scan.batch
  history : ∀ frame ∈ scan.combined, ∀ id ∈ s.saved,
    ∃ marked ∈ frame, marked.row.transactionId = id
  flagged : scan.status = .ok → ∀ row ∈ scan.batch,
    (flagRows scan.after.flags row.transactionId).length = 1

/-- The store file stays readable during the step. -/
def AmlStep.FileReadable : AmlStep → Prop
  | .scan call => call.combineReads = true ∧ call.saveReads = true ∧
      (call.write = .refused ∨ call.write = .written)
  | .transactionsChange _ => True

instance (step : AmlStep) : Decidable step.FileReadable := by
  cases step <;> unfold AmlStep.FileReadable <;> infer_instance

structure Recorded (s : AmlState) : Prop where
  distinct : (ids s.file.held).Nodup
  held : s.SavedHeld
  scanned : ∀ id ∈ s.scanned, s.flags.get id ≠ none

section Once

variable {F : Type} {env : AmlEnv F} {call : ScanCall} {s : AmlState}

theorem flagged_of_ok (ok : (scanOnce env call s).status = .ok) {row : RawRow}
    (member : row ∈ (scanOnce env call s).batch) :
    (scanOnce env call s).after.flags.get row.transactionId ≠ none := by
  have effect := scanOnce_effect env call s
  rcases effect.flags with ⟨-, empty⟩ | ⟨predictions, rows, flags⟩
  · rw [empty ok] at member
    cases member
  · have fetched : row ∈ fetchWalletTransactions env call s := by
      rcases effect.batch with none | same
      · rw [none] at member
        cases member
      · exact same ▸ member
    obtain ⟨tx, -, rfl, -⟩ := mem_fetched fetched
    obtain ⟨prediction, predicted, same⟩ := List.mem_map.mp (rows.mem_iff.mpr member)
    rw [flags]
    refine persistPredictions_sets predicted ?_ (transactionId_ne_empty tx)
    rw [same]
    exact strip_transactionId tx

theorem scanOnce_recorded (readable : (AmlStep.scan call).FileReadable) (recorded : Recorded s) :
    Recorded (scanOnce env call s).after := by
  have effect := scanOnce_effect env call s
  have whole : call.SavesWhole := readable.2.2.imp_right fun written => ⟨written, readable.2.1⟩
  have flags (id : String) (known : s.flags.get id ≠ none) :
      (scanOnce env call s).after.flags.get id ≠ none := by
    rcases effect.flags with ⟨same, -⟩ | ⟨predictions, -, same⟩
    · rw [same]
      exact known
    · rw [same]
      exact persistPredictions_keeps known
  constructor
  case distinct =>
    rcases effect.store with ⟨file, -⟩ | ⟨-, -, file, -⟩
    · rw [file]
      exact recorded.distinct
    · rw [file]
      rcases readable.2.2 with refused | written
      · simpa only [saveBatch, TransactionStore.save, refused] using recorded.distinct
      · simp only [saveBatch, TransactionStore.save, written]
        exact TransactionStore.nodup_ids_merged
  case held => exact scanOnce_held recorded.held (.inr (.inr fun _ => whole))
  case scanned =>
    intro id member
    rcases effect.scanned with same | ⟨ok, same⟩
    · rw [same] at member
      exact flags id (recorded.scanned id member)
    · rw [same, List.mem_append] at member
      rcases member with before | new
      · exact flags id (recorded.scanned id before)
      · obtain ⟨row, inside, rfl⟩ := mem_ids.mp new
        exact flagged_of_ok ok inside

theorem scanOnce_once (readable : (AmlStep.scan call).FileReadable) (recorded : Recorded s) :
    ProcessedOnce env s call (scanOnce env call s) := by
  have effect := scanOnce_effect env call s
  have known {frame : List MarkedRow} (joined : Combined env call s (scanOnce env call s) frame) :
      (scanOnce env call s).history.getD [] = s.file.held := by
    rw [joined.history, readable.1, loadHistory_held]
  constructor
  case fetched =>
    intro row member
    have inside : row ∈ fetchWalletTransactions env call s := by
      rcases effect.batch with none | same
      · rw [none] at member
        cases member
      · exact same ▸ member
    obtain ⟨tx, stored, rfl, asked⟩ := mem_fetched inside
    rw [wanted, Bool.and_eq_true, decide_eq_true_eq] at asked
    refine ⟨tx, stored, rfl, asked.1, fun only => ?_⟩
    have unscanned := asked.2
    rw [if_pos only] at unscanned
    exact Option.isNone_iff_eq_none.mp unscanned
  case all =>
    intro frame member few tx stored asked
    rw [(effect.combined frame member).batch]
    exact fetched_all stored asked few
  case once =>
    intro frame member
    have joined := effect.combined frame member
    rw [joined.frame]
    refine TransactionStore.combined_ids_nodup ?_ ?_
    · rw [known joined]
      exact recorded.distinct
    · rw [joined.batch]
      exact fetched_ids_nodup
  case current =>
    intro frame member
    rw [(effect.combined frame member).frame]
    exact TransactionStore.combined_current
  case history =>
    intro frame member id saved
    have joined := effect.combined frame member
    obtain ⟨row, held, rfl⟩ := mem_ids.mp (recorded.held id saved)
    rw [joined.frame]
    exact TransactionStore.mem_combined (.inl (by rwa [known joined]))
  case flagged =>
    intro ok row member
    exact flagRows_length (flagged_of_ok ok member)

theorem AmlState.initial_recorded (transactions : Table TransactionEntity) :
    Recorded (AmlState.initial transactions) :=
  ⟨List.nodup_nil, fun _ member => absurd member List.not_mem_nil,
    fun _ member => absurd member List.not_mem_nil⟩

end Once

/-! ## A service to run examples in -/

/-- Completed transfers of 100 from Alice, minute by minute. -/
def sampleTransfer (id : Nat) (toUserId : Uuid) : TransactionEntity where
  id := id
  idempotencyKey := toString id
  type := .transfer
  status := .completed
  settlementStatus := .none
  chainStatus := .anchored
  requestingUserId := aliceId
  fromUserId := aliceId
  toUserId := some toUserId
  amount := 100
  currency := "VND"
  memo := none
  isExternal := false
  externalPartner := none
  externalAccountNo := none
  externalRef := none
  chainTxId := none
  receiptJson := none
  chainRetryCount := 0
  chainLastAttemptAt := none
  chainNextAttemptAt := none
  errorCode := none
  errorMessage := none
  createdAt := 60000 * id

def bobId : Uuid := (Uuid.parse "bbbbbbbb-0000-4000-8000-000000000001").getD ⟨[]⟩

def oneTransfer : Table TransactionEntity where
  rows := [sampleTransfer 0 bobId]
  next := 1
  fresh := by decide
  ids := by decide
  unique := by decide

def twoTransfers : Table TransactionEntity where
  rows := [sampleTransfer 0 bobId, sampleTransfer 1 bobId]
  next := 2
  fresh := by decide
  ids := by decide
  unique := by decide

def threeTransfers : Table TransactionEntity where
  rows := [sampleTransfer 0 bobId, sampleTransfer 1 bobId, sampleTransfer 2 bobId]
  next := 3
  fresh := by decide
  ids := by decide
  unique := by decide

noncomputable def sampleAml : AmlEnv ℝ where
  orderBy := .stable
  sorting := .stable
  upper := asciiUpper
  stableCode _ := 0
  log1p x := Real.log (1 + x)
  artifacts :=
    { encPaymentFormat := [], encPaymentCurrency := [], encReceivingCurrency := []
      fmtFraudRateTrain := [] }
  predictProba _ := 1 / 10
  optimalThreshold := 1 / 2
  scanOnlyUnscanned := true
  scanLookbackHours := 24
  scanLimit := 20000

def sampleScan : ScanCall where
  lookbackHours := none
  limit := none
  fetchedAt := 0
  scannedAt := 0
  raises := none
  combineReads := true
  saveReads := true
  write := .written

/-! ## Runs while the file stays readable -/

/-- The service before its first scan. -/
def freshService (transactions : Table TransactionEntity) : World Unit AmlState LastScan where
  shared := .initial transactions
  procs _ := none

/-- Every scan of a run processes each transaction once, and a transaction of a scan that
succeeded has one flag row from then on. -/
theorem scans_process_once {F : Type} (env : AmlEnv F) (transactions : Table TransactionEntity)
    {world : World Unit AmlState LastScan}
    (reached : (amlService env).Reaches (fun _ _ step => step.FileReadable)
      (freshService transactions) world) :
    (∀ before call, world.procs () = some (before, call) →
      ProcessedOnce env before call (scanOnce env call before)) ∧
    ∀ id ∈ world.shared.scanned, (flagRows world.shared.flags id).length = 1 := by
  have kept := reached.assertions Recorded
    (fun _ _ last => ∀ before call, last = some (before, call) →
      ProcessedOnce env before call (scanOnce env call before))
    ⟨AmlState.initial_recorded transactions, fun _ _ _ => by simp [freshService]⟩ (by
      intro world _ step shared last recorded asserted readable stepped
      cases step with
      | scan call =>
        obtain ⟨rfl, rfl⟩ := Prod.mk.inj (Option.some.inj stepped)
        refine ⟨scanOnce_recorded readable recorded, ?_, fun other different => absurd rfl different⟩
        rintro before call' same
        obtain ⟨rfl, rfl⟩ := Prod.mk.inj (Option.some.inj same)
        exact scanOnce_once readable recorded
      | transactionsChange changed =>
        obtain ⟨rfl, rfl⟩ := Prod.mk.inj (Option.some.inj stepped)
        exact ⟨⟨recorded.distinct, recorded.held, recorded.scanned⟩, asserted _,
          fun other _ => asserted other⟩)
  exact ⟨kept.2 (), fun id member => flagRows_length (kept.1.scanned id member)⟩

def steps (taken : List AmlStep) : List (Unit × AmlStep) := taken.map fun step => ((), step)

-- The first scan stops between the history and the flags, so its batch is fetched again.
theorem scans_process_once_retried :
    ∃ world, (amlService sampleAml).run (freshService oneTransfer)
        (steps [.scan { sampleScan with raises := some .persistPredictions },
          .transactionsChange twoTransfers, .scan sampleScan]) = some world ∧
      (∀ before call, world.procs () = some (before, call) →
        ProcessedOnce sampleAml before call (scanOnce sampleAml call before)) ∧
      ∀ id ∈ world.shared.scanned, (flagRows world.shared.flags id).length = 1 := by
  have reached : ((amlService sampleAml).checkedRun (fun _ _ step => step.FileReadable)
      (freshService oneTransfer)
      (steps [.scan { sampleScan with raises := some .persistPredictions },
        .transactionsChange twoTransfers, .scan sampleScan])).isSome := by
    decide +kernel
  obtain ⟨world, ran⟩ := Option.isSome_iff_exists.mp reached
  have runs := Machine.Runs.checked .nil ran
  exact ⟨world, runs.run, scans_process_once sampleAml oneTransfer runs.reaches⟩

end Kufi.Aml

import Kufi.Aml.ScanRuns

set_option autoImplicit false

/-!
# Features and the cuts between scans

A stream of transactions may be scanned in one batch or in several. Counts and
sums run over the rows before a transaction; the other four columns of an
account are taken over the whole combined frame.
-/

namespace Kufi.Aml

open Shared

/-- Transactions in their order, no two at one time. -/
structure Stream where
  rows : List RawRow
  increasing : rows.Pairwise fun left right => left.timestamp < right.timestamp
  distinct : (ids rows).Nodup

/-- A way to cut a stream into consecutive batches. -/
structure Cut (stream : Stream) where
  batches : List (List RawRow)
  joined : batches.flatten = stream.rows

/-- The number of transactions up to the end of the batch that holds transaction `i`. -/
def batchEnd : List (List RawRow) → Nat → Nat
  | [], _ => 0
  | batch :: rest, i =>
    if i < batch.length then batch.length else batch.length + batchEnd rest (i - batch.length)

section

variable {F : Type} (env : AmlEnv F)

/-- What `engineer_features` returns in the scans of the batches, each saved after its scan. -/
def scanBatches : HistoryFile → List (List RawRow) → List (EngineeredRow F)
  | _, [] => []
  | file, batch :: rest =>
    -- an empty batch is not scanned
    if batch = [] then scanBatches file rest
    else
      let combined := TransactionStore.combineWithHistory env.sorting
        (TransactionStore.loadHistory true file) batch
      engineerFeatures env.log1p env.artifacts env.sorting combined ++
        scanBatches (TransactionStore.save env.sorting true .written batch file) rest

def Cut.engineered {stream : Stream} (cut : Cut stream) : List (EngineeredRow F) :=
  scanBatches env .missing cut.batches

end

/-- The row without the columns that are taken over the whole frame. -/
def EngineeredRow.withoutFrameColumns {F : Type} (engineered : EngineeredRow F) :
    EngineeredRow F :=
  { engineered with
    features :=
      { engineered.features with
        senderUniqueReceivers := 0
        receiverUniqueSenders := 0
        isReciprocal := false
        isMuleAccount := false } }

/-! ## One scan -/

section

variable {F : Type} {env : AmlEnv F} {seen batch : List RawRow} {file : HistoryFile}

/-- The engineered row of a current transaction. -/
def engineeredAt (env : AmlEnv F) (frame earlier : List RawRow) (row : RawRow) :
    EngineeredRow F where
  row := row
  isCurrent := true
  features := featuresAt env.log1p env.artifacts frame earlier row

theorem withEarlier_mark {B : Type} (compute : List MarkedRow → MarkedRow → B)
    (isCurrent : Bool) (rows : List RawRow) : withEarlier compute (mark isCurrent rows) =
      withEarlier (fun earlier row => compute (mark isCurrent earlier) { row, isCurrent }) rows :=
  withEarlier_map compute _ rows

/-- The scan of a batch in order sees the rows before it and itself. -/
theorem engineerFeatures_in_order
    (increasing : (seen ++ batch).Pairwise fun left right => left.timestamp < right.timestamp) :
    engineerFeatures env.log1p env.artifacts env.sorting (mark false seen ++ mark true batch) =
      withEarlier (fun earlier row => engineeredAt env (seen ++ batch) (seen ++ earlier) row)
        batch := by
  have times : ((mark false seen ++ mark true batch).map MarkedRow.row).Pairwise
      fun left right => left.timestamp < right.timestamp := by
    rwa [List.map_append, map_row_mark, map_row_mark]
  rw [List.pairwise_map] at times
  unfold engineerFeatures
  rw [env.sorting.sort_of_increasing (.refl _) times]
  dsimp only
  rw [withEarlier_append, List.filter_append, List.map_append, map_row_mark, map_row_mark]
  rw [List.filter_eq_nil_iff.mpr, List.nil_append, List.filter_eq_self.mpr]
  · rw [withEarlier_mark]
    simp only [List.map_append, map_row_mark]
    rfl
  · intro engineered member
    obtain ⟨earlier, marked, inside, rfl⟩ := mem_withEarlier member
    obtain ⟨row, -, rfl⟩ := List.mem_map.mp inside
    rfl
  · intro engineered member
    obtain ⟨earlier, marked, inside, rfl⟩ := mem_withEarlier member
    obtain ⟨row, -, rfl⟩ := List.mem_map.mp inside
    exact Bool.false_ne_true

/-! ## All scans of a stream -/

variable (env seen) in
/-- Row `i` of the scans: its own history, and a frame that goes to the end of its batch. -/
theorem scanBatches_getElem {batches : List (List RawRow)}
    (increasing : (seen ++ batches.flatten).Pairwise fun left right =>
      left.timestamp < right.timestamp)
    (distinct : (ids (seen ++ batches.flatten)).Nodup) (held : file.held = seen) (i : Nat) :
    (scanBatches env file batches)[i]? = batches.flatten[i]?.map fun row =>
      engineeredAt env (seen ++ batches.flatten.take (batchEnd batches i))
        (seen ++ batches.flatten.take i) row := by
  induction batches generalizing seen file i with
  | nil => rfl
  | cons batch rest ih =>
    rw [List.flatten_cons, ← List.append_assoc] at increasing distinct
    have first := increasing.sublist (List.sublist_append_left _ _)
    have firstIds := distinct.sublist ((List.sublist_append_left (seen ++ batch) _).map _)
    have loaded : (TransactionStore.loadHistory true file).getD [] = seen := by
      rw [loadHistory_held, held]
    rw [scanBatches]
    split
    next empty =>
      subst empty
      rw [List.append_nil] at increasing distinct
      rw [ih _ increasing distinct held]
      simp [batchEnd]
    next =>
    dsimp only
    rw [TransactionStore.combineWithHistory_in_order first firstIds loaded,
      engineerFeatures_in_order first]
    have saved : (TransactionStore.save env.sorting true .written batch file).held =
        seen ++ batch := TransactionStore.merged_in_order first firstIds loaded
    have later := ih _ increasing distinct saved
    have length : (withEarlier (fun earlier row =>
        engineeredAt env (seen ++ batch) (seen ++ earlier) row) batch).length = batch.length := by
      simp [withEarlier]
    rw [batchEnd, List.flatten_cons]
    by_cases inside : i < batch.length
    · rw [List.getElem?_append_left (by omega), List.getElem?_append_left inside,
        getElem?_withEarlier, if_pos inside, List.take_left,
        List.take_append_of_le_length (Nat.le_of_lt inside)]
    · have beyond : batch.length ≤ i := by omega
      rw [List.getElem?_append_right (by omega), length, later,
        List.getElem?_append_right beyond, if_neg inside, List.take_length_add_append,
        List.append_assoc, List.append_assoc, List.take_append, List.take_of_length_le beyond]

end

/-! ## The batches of scans without faults -/

structure ScanCall.Clean (call : ScanCall) : Prop where
  raises : call.raises = none
  combineReads : call.combineReads = true
  saveReads : call.saveReads = true
  write : call.write = .written

section

variable {F : Type} (env : AmlEnv F)

/-- The scans of a run, each with the transactions it finds. -/
def scansOf : AmlState → List (Table Transactions.TransactionEntity × ScanCall) → List Scan
  | _, [] => []
  | s, (transactions, call) :: rest =>
    let scan := scanOnce env call { s with transactions }
    scan :: scansOf scan.after rest

def engineeredIn (scan : Scan) : List (EngineeredRow F) :=
  match scan.combined with
  | none => []
  | some combined => engineerFeatures env.log1p env.artifacts env.sorting combined

end

section

variable {F : Type} (env : AmlEnv F) (s : AmlState)

theorem scanOnce_clean {call : ScanCall} (clean : call.Clean) (rest : List (List RawRow)) :
    scanBatches env s.file ((scanOnce env call s).batch :: rest) =
      engineeredIn env (scanOnce env call s) ++
        scanBatches env (scanOnce env call s).after.file rest := by
  obtain ⟨raises, combineReads, saveReads, write⟩ := clean
  by_cases empty : fetchWalletTransactions env call s = []
  · simp [scanOnce, raises, empty, finish, scanBatches, engineeredIn]
  · simp [scanOnce, raises, empty, finish, scanBatches, engineeredIn, combineReads, saveReads,
      write, persistPredictions, saveBatch]

/-- What the scans of a run engineer is what `scanBatches` gives for the batches they fetched. -/
theorem scansOf_engineered {runs : List (Table Transactions.TransactionEntity × ScanCall)}
    (clean : ∀ run ∈ runs, run.2.Clean) :
    (scansOf env s runs).flatMap (engineeredIn env) =
      scanBatches env s.file ((scansOf env s runs).map Scan.batch) := by
  induction runs generalizing s with
  | nil => rfl
  | cons run rest ih =>
    obtain ⟨transactions, call⟩ := run
    have first := scanOnce_clean env { s with transactions } (clean _ List.mem_cons_self)
    have later := ih (scanOnce env call { s with transactions }).after
      fun run member => clean run (List.mem_cons_of_mem _ member)
    simp only [scansOf, List.flatMap_cons, List.map_cons]
    rw [later, first]

end

/-! ## Two cuts of one stream -/

section

variable {F : Type} {env : AmlEnv F} {stream : Stream}

theorem engineered_getElem (cut : Cut stream) (i : Nat) :
    (cut.engineered env)[i]? = stream.rows[i]?.map fun row =>
      engineeredAt env (stream.rows.take (batchEnd cut.batches i)) (stream.rows.take i) row := by
  have increasing := stream.increasing
  have distinct := stream.distinct
  rw [← cut.joined] at increasing distinct ⊢
  exact scanBatches_getElem env [] increasing distinct rfl i

theorem engineered_rows (cut : Cut stream) :
    (cut.engineered env).map EngineeredRow.row = stream.rows := by
  apply List.ext_getElem?
  intro i
  rw [List.getElem?_map, engineered_getElem, Option.map_map]
  exact Option.map_id'

theorem engineeredAt_withoutFrameColumns (frame frame' earlier : List RawRow) (row : RawRow) :
    (engineeredAt env frame earlier row).withoutFrameColumns =
      (engineeredAt env frame' earlier row).withoutFrameColumns := rfl

end

/-- Two cuts give every transaction the same columns apart from the four of the whole frame,
and these too where the transaction's batches end together. -/
theorem features_of_two_cuts {F : Type} (env : AmlEnv F) (stream : Stream)
    (first second : Cut stream) :
    (first.engineered env).map EngineeredRow.row = stream.rows ∧
    (second.engineered env).map EngineeredRow.row = stream.rows ∧
    (first.engineered env).map EngineeredRow.withoutFrameColumns =
      (second.engineered env).map EngineeredRow.withoutFrameColumns ∧
    ∀ i, batchEnd first.batches i = batchEnd second.batches i →
      (first.engineered env)[i]? = (second.engineered env)[i]? := by
  refine ⟨engineered_rows first, engineered_rows second, ?_, ?_⟩
  · apply List.ext_getElem?
    intro i
    rw [List.getElem?_map, List.getElem?_map, engineered_getElem, engineered_getElem,
      Option.map_map, Option.map_map]
    exact congrArg (stream.rows[i]?.map ·)
      (funext fun row => engineeredAt_withoutFrameColumns _ _ _ row)
  · intro i same
    rw [engineered_getElem, engineered_getElem, same]

/-! ## A payment to a second receiver -/

def samplePayment (minute : Int) (account1 : String) : RawRow where
  transactionId := account1
  timestamp := minute
  account := "alice"
  account1 := account1
  fromBank := 100
  toBank := 100
  amountPaid := 100
  amountReceived := 100
  paymentFormat := "Wire"
  paymentCurrency := "VND"
  receivingCurrency := "VND"

def samplePayments : Stream where
  rows := [samplePayment 0 "bob", samplePayment 1 "carol"]
  increasing := by decide
  distinct := by decide

def oneBatch : Cut samplePayments where
  batches := [[samplePayment 0 "bob", samplePayment 1 "carol"]]
  joined := rfl

def twoBatches : Cut samplePayments where
  batches := [[samplePayment 0 "bob"], [samplePayment 1 "carol"]]
  joined := rfl

-- The second payment is in the same batch in the end, the first is not.
theorem features_of_two_cuts_last :
    (oneBatch.engineered sampleAml)[1]? = (twoBatches.engineered sampleAml)[1]? :=
  (features_of_two_cuts sampleAml samplePayments oneBatch twoBatches).2.2.2 1 rfl

theorem features_depend_on_cut :
    ¬∀ (stream : Stream) (first second : Cut stream),
      first.engineered sampleAml = second.engineered sampleAml := by
  intro always
  have same := congrArg (List.map fun row => row.features.senderUniqueReceivers)
    (always samplePayments oneBatch twoBatches)
  have counts : (oneBatch.engineered sampleAml).map
      (fun row => row.features.senderUniqueReceivers) = [2, 2] := by decide +kernel
  have counts' : (twoBatches.engineered sampleAml).map
      (fun row => row.features.senderUniqueReceivers) = [1, 2] := by decide +kernel
  rw [counts, counts'] at same
  exact absurd same (by decide)

end Kufi.Aml

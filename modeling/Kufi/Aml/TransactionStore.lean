import Kufi.Shared.Frames

set_option autoImplicit false

/-!
# The history of scanned transactions

`TransactionStore` keeps the rows of earlier batches in one file, which every
save rewrites from what it has read.
-/

namespace Kufi.Aml

open Shared

/-- The columns `RAW_COLS`. A `Timestamp` counts minutes since the epoch, which
is what both its text and the parsed column give. -/
structure RawRow where
  transactionId : String
  timestamp : Int
  account : String
  account1 : String
  fromBank : Nat
  toBank : Nat
  amountPaid : ℚ
  amountReceived : ℚ
  paymentFormat : String
  paymentCurrency : String
  receivingCurrency : String
  deriving DecidableEq

/-- A row of the combined frame, with the column `is_current`. -/
structure MarkedRow where
  row : RawRow
  isCurrent : Bool
  deriving DecidableEq

def mark (isCurrent : Bool) (rows : List RawRow) : List MarkedRow :=
  rows.map fun row => { row, isCurrent }

@[simp] theorem map_row_mark (isCurrent : Bool) (rows : List RawRow) :
    (mark isCurrent rows).map MarkedRow.row = rows := by
  simp [mark, Function.comp_def]

@[simp] theorem map_id_mark (isCurrent : Bool) (rows : List RawRow) :
    (mark isCurrent rows).map (fun marked => marked.row.transactionId) =
      rows.map RawRow.transactionId := by
  simp [mark, Function.comp_def]

/-- What is at `HISTORY_PATH`. -/
inductive HistoryFile where
  | missing
  | rows (rows : List RawRow)
  | unreadable
  deriving DecidableEq

/-- How writing the file ends; an exception is only warned about. -/
inductive FileWrite where
  | written
  -- the file was not opened
  | refused
  -- the file was truncated and then written in part
  | interrupted (left : HistoryFile)
  deriving DecidableEq

namespace TransactionStore

-- The exception of a failed read is `None` as well.
def loadHistory (reads : Bool) : HistoryFile → Option (List RawRow)
  | .missing => none
  | .rows rows => if reads then some rows else none
  | .unreadable => none

variable (sorting : SortValues)

/-- The frame that `save` writes. -/
def merged (existing : Option (List RawRow)) (batch : List RawRow) : List RawRow :=
  let combined := match existing with
    | some existing => existing ++ batch
    | none => batch
  sorting.sort RawRow.timestamp (dropDuplicates RawRow.transactionId combined)

def save (reads : Bool) (write : FileWrite) (batch : List RawRow) (file : HistoryFile) :
    HistoryFile :=
  let combined := merged sorting (loadHistory reads file) batch
  match write with
  | .written => .rows combined
  | .refused => file
  | .interrupted left => left

/-- `combine_with_history`, with what `load_history` has returned. -/
def combineWithHistory (history : Option (List RawRow)) (batch : List RawRow) : List MarkedRow :=
  let current := mark true batch
  match history with
  | none | some [] => sorting.sort (fun marked => marked.row.timestamp) current
  | some history =>
    let currentKeys := batch.map RawRow.transactionId
    let kept := history.filter fun row => row.transactionId ∉ currentKeys
    sorting.sort (fun marked => marked.row.timestamp) (mark false kept ++ current)

end TransactionStore

/-! ## What the store does with a batch -/

def ids (rows : List RawRow) : List String := rows.map RawRow.transactionId

@[simp] theorem mem_ids {rows : List RawRow} {id : String} :
    id ∈ ids rows ↔ ∃ row ∈ rows, row.transactionId = id := List.mem_map

namespace TransactionStore

variable {sorting : SortValues} {existing history : Option (List RawRow)} {batch : List RawRow}
  {id : String}

theorem mem_ids_merged :
    id ∈ ids (merged sorting existing batch) ↔ id ∈ ids (existing.getD []) ∨ id ∈ ids batch := by
  have joined : merged sorting existing batch = sorting.sort RawRow.timestamp
      (dropDuplicates RawRow.transactionId (existing.getD [] ++ batch)) := by
    cases existing <;> rfl
  rw [joined]
  simp only [mem_ids, SortValues.mem_sort]
  constructor
  · rintro ⟨row, member, named⟩
    rcases List.mem_append.mp (dropDuplicates_sublist.subset member) with before | new
    · exact .inl ⟨row, before, named⟩
    · exact .inr ⟨row, new, named⟩
  · intro found
    have member : ∃ row ∈ existing.getD [] ++ batch, row.transactionId = id := by
      rcases found with ⟨row, before, named⟩ | ⟨row, new, named⟩
      · exact ⟨row, List.mem_append_left _ before, named⟩
      · exact ⟨row, List.mem_append_right _ new, named⟩
    obtain ⟨row, inside, named⟩ := member
    obtain ⟨first, kept, same⟩ := exists_mem_dropDuplicates RawRow.transactionId inside
    exact ⟨first, kept, same.trans named⟩

theorem nodup_ids_merged : (ids (merged sorting existing batch)).Nodup := by
  have same := (sorting.perm RawRow.timestamp
    (dropDuplicates RawRow.transactionId (existing.getD [] ++ batch))).map RawRow.transactionId
  have distinct := same.nodup_iff.mpr nodup_dropDuplicates
  cases existing with
  | none => exact distinct
  | some existing => exact distinct

/-- The rows of the history that a batch does not repeat. -/
def kept (history : Option (List RawRow)) (batch : List RawRow) : List RawRow :=
  (history.getD []).filter fun row => row.transactionId ∉ ids batch

theorem combineWithHistory_eq : combineWithHistory sorting history batch =
    sorting.sort (fun marked => marked.row.timestamp)
      (mark false (kept history batch) ++ mark true batch) := by
  rcases history with _ | (_ | ⟨first, rest⟩)
  · rfl
  · rfl
  · rfl

theorem combineWithHistory_perm : (combineWithHistory sorting history batch).Perm
    (mark false (kept history batch) ++ mark true batch) := by
  rw [combineWithHistory_eq]
  exact sorting.perm _ _

theorem combined_ids_nodup (known : (ids (history.getD [])).Nodup) (fetched : (ids batch).Nodup) :
    ((combineWithHistory sorting history batch).map fun marked =>
      marked.row.transactionId).Nodup := by
  refine (combineWithHistory_perm.map _).nodup_iff.mpr ?_
  rw [List.map_append, map_id_mark, map_id_mark, List.nodup_append']
  refine ⟨known.sublist (List.filter_sublist.map _), fetched, ?_⟩
  intro id old new
  obtain ⟨row, member, rfl⟩ := List.mem_map.mp old
  have apart := (List.mem_filter.mp member).2
  exact absurd new (by simpa using apart)

theorem combined_current :
    (((combineWithHistory sorting history batch).filter MarkedRow.isCurrent).map
      MarkedRow.row).Perm batch := by
  refine ((combineWithHistory_perm.filter MarkedRow.isCurrent).map MarkedRow.row).trans ?_
  rw [List.filter_append, mark, mark, List.filter_map, List.filter_map]
  simp [Function.comp_def]

theorem mem_combined {row : RawRow} (known : row ∈ history.getD [] ∨ row ∈ batch) :
    ∃ marked ∈ combineWithHistory sorting history batch,
      marked.row.transactionId = row.transactionId := by
  by_cases repeated : row.transactionId ∈ ids batch
  · obtain ⟨current, member, same⟩ := mem_ids.mp repeated
    refine ⟨{ row := current, isCurrent := true }, combineWithHistory_perm.mem_iff.mpr ?_, same⟩
    exact List.mem_append_right _ (List.mem_map_of_mem member)
  · have before : row ∈ history.getD [] := known.resolve_right fun member =>
      repeated (mem_ids.mpr ⟨row, member, rfl⟩)
    refine ⟨{ row, isCurrent := false }, combineWithHistory_perm.mem_iff.mpr ?_, rfl⟩
    refine List.mem_append_left _ (List.mem_map_of_mem ?_)
    exact List.mem_filter.mpr ⟨before, by simpa using repeated⟩

/-! ### Rows that come in order -/

variable {seen : List RawRow}

theorem combineWithHistory_in_order
    (increasing : (seen ++ batch).Pairwise fun left right => left.timestamp < right.timestamp)
    (distinct : (ids (seen ++ batch)).Nodup) (held : history.getD [] = seen) :
    combineWithHistory sorting history batch = mark false seen ++ mark true batch := by
  have old : kept history batch = seen := by
    rw [kept, held, List.filter_eq_self]
    intro row member
    rw [ids, List.map_append] at distinct
    have apart := (List.nodup_append'.mp distinct).2.2 (List.mem_map_of_mem member)
    simpa [ids] using apart
  rw [combineWithHistory_eq, old]
  refine sorting.sort_of_increasing (.refl _) ?_
  have times : ((mark false seen ++ mark true batch).map MarkedRow.row).Pairwise
      fun left right => left.timestamp < right.timestamp := by
    rwa [List.map_append, map_row_mark, map_row_mark]
  rw [List.pairwise_map] at times
  exact times

theorem merged_in_order
    (increasing : (seen ++ batch).Pairwise fun left right => left.timestamp < right.timestamp)
    (distinct : (ids (seen ++ batch)).Nodup) (held : existing.getD [] = seen) :
    merged sorting existing batch = seen ++ batch := by
  have joined : merged sorting existing batch = sorting.sort RawRow.timestamp
      (dropDuplicates RawRow.transactionId (seen ++ batch)) := by
    subst held
    cases existing <;> rfl
  rw [joined, dropDuplicates_of_nodup distinct]
  exact sorting.sort_of_increasing (.refl _) increasing

end TransactionStore

end Kufi.Aml

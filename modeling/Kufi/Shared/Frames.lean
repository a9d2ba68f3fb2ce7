import Mathlib.Data.List.Sort
import Mathlib.Data.List.Nodup
import Mathlib.Data.List.Pairwise
import Mathlib.Algebra.Order.Ring.Rat
import Mathlib.Data.List.Dedup

set_option autoImplicit false

/-!
# Frames

Operations of data frames that depend on the order of the rows; a frame is the
list of its rows. Sorting need not be stable, so the order it gives rows with
equal values is a parameter.
-/

namespace Shared

/-- `sort_values` by one column, the new index in place of the old. -/
structure SortValues where
  sort : {A : Type} → (A → Int) → List A → List A
  perm : ∀ {A : Type} (column : A → Int) (rows : List A), (sort column rows).Perm rows
  sorted : ∀ {A : Type} (column : A → Int) (rows : List A),
    (sort column rows).Pairwise fun left right => column left ≤ column right

namespace SortValues

variable {A : Type} {column : A → Int} {rows other : List A}

def stable : SortValues where
  sort column := List.insertionSort fun left right => column left ≤ column right
  perm _ rows := List.perm_insertionSort _ rows
  sorted column rows := by
    have total : Std.Total fun left right : _ => column left ≤ column right :=
      ⟨fun left right => Int.le_total (column left) (column right)⟩
    have trans : IsTrans _ fun left right => column left ≤ column right :=
      ⟨fun _ _ _ => Int.le_trans⟩
    exact List.pairwise_insertionSort _ rows

@[simp] theorem mem_sort (sorting : SortValues) {row : A} :
    row ∈ sorting.sort column rows ↔ row ∈ rows :=
  (sorting.perm column rows).mem_iff

/-- Rows with distinct values have one order. -/
theorem sort_of_increasing (sorting : SortValues) (same : rows.Perm other)
    (increasing : other.Pairwise fun left right => column left < column right) :
    sorting.sort column rows = other := by
  have ascending : other.Pairwise fun left right => column left ≤ column right :=
    increasing.imp Int.le_of_lt
  have distinct : other.Pairwise fun left right => column left ≠ column right :=
    increasing.imp Int.ne_of_lt
  refine List.Perm.eq_of_pairwise ?_ (sorting.sorted column rows) ascending
    ((sorting.perm column rows).trans same)
  intro left right first second below above
  by_contra different
  have symm : Std.Symm fun left right : A => column left ≠ column right := ⟨fun _ _ h => h.symm⟩
  have member : left ∈ other := ((sorting.perm column rows).trans same).mem_iff.mp first
  exact distinct.forall member second different (Int.le_antisymm below above)

end SortValues

/-! ## Duplicates -/

section Duplicates

variable {A K : Type} [DecidableEq K] {key : A → K} {rows : List A}

/-- `drop_duplicates`: the first row of each key stays. -/
def dropDuplicates (key : A → K) : List A → List A
  | [] => []
  | row :: rest => row :: (dropDuplicates key rest).filter fun other => key other ≠ key row

theorem dropDuplicates_sublist : (dropDuplicates key rows).Sublist rows := by
  induction rows with
  | nil => exact .slnil
  | cons row rest ih => exact (List.filter_sublist.trans ih).cons_cons row

theorem nodup_dropDuplicates : ((dropDuplicates key rows).map key).Nodup := by
  induction rows with
  | nil => exact .nil
  | cons row rest ih =>
    rw [dropDuplicates, List.map_cons, List.nodup_cons]
    constructor
    · intro again
      obtain ⟨other, member, same⟩ := List.mem_map.mp again
      exact absurd same (by simpa using (List.mem_filter.mp member).2)
    · exact ih.sublist (List.filter_sublist.map key)

theorem dropDuplicates_of_nodup (distinct : (rows.map key).Nodup) :
    dropDuplicates key rows = rows := by
  induction rows with
  | nil => rfl
  | cons row rest ih =>
    rw [List.map_cons, List.nodup_cons] at distinct
    rw [dropDuplicates, ih distinct.2, List.cons_inj_right, List.filter_eq_self]
    intro other member
    have apart : key other ≠ key row := fun same =>
      distinct.1 (same ▸ List.mem_map_of_mem member)
    simpa using apart

/-- Every key still has a row. -/
theorem exists_mem_dropDuplicates (key : A → K) {row : A} (member : row ∈ rows) :
    ∃ first ∈ dropDuplicates key rows, key first = key row := by
  induction rows with
  | nil => cases member
  | cons head rest ih =>
    by_cases same : key row = key head
    · exact ⟨head, List.mem_cons_self, same.symm⟩
    · have inside : row ∈ rest := (List.mem_cons.mp member).resolve_left
        fun equal => same (congrArg key equal)
      obtain ⟨first, found, equal⟩ := ih inside
      have other : key first ≠ key head := fun again => same (equal.symm.trans again)
      exact ⟨first, List.mem_cons_of_mem _ (List.mem_filter.mpr ⟨found, by simpa using other⟩), equal⟩

end Duplicates

/-! ## Groups -/

section Groups

variable {A B K L : Type} [DecidableEq K] [DecidableEq L]

/-- The rows that a `groupby` puts under `k`. -/
def group (key : A → K) (k : K) (rows : List A) : List A :=
  rows.filter fun row => key row = k

/-- `cumcount` at a row with the given rows before it. -/
def cumcount (key : A → K) (earlier : List A) (row : A) : Nat :=
  (group key (key row) earlier).length

/-- `cumsum` at a row with the given rows before it. -/
def cumsum (key : A → K) (value : A → ℚ) (earlier : List A) (row : A) : ℚ :=
  ((group key (key row) (earlier ++ [row])).map value).sum

def groupSum (key : A → K) (value : A → ℚ) (rows : List A) (k : K) : ℚ :=
  ((group key k rows).map value).sum

def groupCount (key : A → K) (rows : List A) (k : K) : Nat :=
  (group key k rows).length

def nunique (key : A → K) (column : A → L) (rows : List A) (k : K) : Nat :=
  ((group key k rows).map column).dedup.length

/-- The rows of a frame, each computed with the rows before it. -/
def withEarlier (compute : List A → A → B) (rows : List A) : List B :=
  rows.mapIdx fun i row => compute (rows.take i) row

theorem withEarlier_append (compute : List A → A → B) (before rows : List A) :
    withEarlier compute (before ++ rows) =
      withEarlier compute before ++ withEarlier (fun earlier => compute (before ++ earlier)) rows := by
  unfold withEarlier
  rw [List.mapIdx_append]
  congr 1
  · apply List.mapIdx_eq_mapIdx_iff.mpr
    intro i inside
    rw [List.take_append_of_le_length (Nat.le_of_lt inside)]
  · apply List.mapIdx_eq_mapIdx_iff.mpr
    intro i _
    rw [Nat.add_comm, List.take_length_add_append]

theorem getElem?_withEarlier (compute : List A → A → B) (rows : List A) (i : Nat) :
    (withEarlier compute rows)[i]? = rows[i]?.map (compute (rows.take i)) := by
  rw [withEarlier, List.getElem?_mapIdx]

theorem withEarlier_map {C : Type} (compute : List B → B → C) (f : A → B) (rows : List A) :
    withEarlier compute (rows.map f) =
      withEarlier (fun earlier row => compute (earlier.map f) (f row)) rows := by
  apply List.ext_getElem?
  intro i
  rw [getElem?_withEarlier, getElem?_withEarlier, List.getElem?_map, Option.map_map, List.map_take]
  rfl

theorem mem_withEarlier {compute : List A → A → B} {rows : List A} {value : B}
    (member : value ∈ withEarlier compute rows) :
    ∃ earlier, ∃ row ∈ rows, compute earlier row = value := by
  obtain ⟨i, inside, rfl⟩ := List.mem_mapIdx.mp member
  exact ⟨_, _, List.getElem_mem inside, rfl⟩

end Groups

end Shared

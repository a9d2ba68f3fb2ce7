import Mathlib.Data.List.Sort
import Kufi.Shared.Table

set_option autoImplicit false

/-!
# Claiming rows of a table

A claim selects rows in some order up to a limit and marks each of them in one
database transaction.
-/

namespace Shared

variable {A K S E : Type} [Row A K] [DecidableEq K]

structure Table.Claims (table : Table A) (wanted : A → Bool) (mark : A → A) (rows : List A)
    (after : Table A) : Prop where
  apart : (rows.map Row.id).Nodup
  wanted : ∀ row ∈ rows, table.get? (Row.id row) = some row ∧ wanted row = true
  marked : ∀ row ∈ rows, after.get? (Row.id row) = some (mark row)
  others : ∀ id, id ∉ rows.map Row.id → after.get? id = table.get? id
  next : after.next = table.next

omit [DecidableEq K] in
theorem Table.claims_none {table : Table A} {wanted : A → Bool} {mark : A → A} :
    table.Claims wanted mark [] table where
  apart := List.nodup_nil
  wanted _ member := nomatch member
  marked _ member := nomatch member
  others _ _ := rfl
  next := rfl

/-- Rows to be marked later are as they were. -/
theorem Table.known_of_mark {table after : Table A} {mark : A → A}
    (sameId : ∀ row, Row.id (mark row) = Row.id row) {row : A} {rest : List A}
    (updated : table.update? (mark row) = some after) (new : Row.id row ∉ rest.map Row.id)
    (known : ∀ other ∈ rest, table.get? (Row.id other) = some other) :
    ∀ other ∈ rest, after.get? (Row.id other) = some other := by
  intro other member
  rw [Table.get?_update?_other updated]
  · exact known other member
  · rw [sameId]
    exact fun equal => new (equal ▸ List.mem_map_of_mem member)

-- Every row is marked and the others stay as they are.
theorem Table.marked_rows {view : S → Table A} {save : S → A → Except E S} {mark : A → A}
    (saves : ∀ {s row after}, save s row = .ok after → (view s).update? row = some (view after))
    (sameId : ∀ row, Row.id (mark row) = Row.id row) {rows : List A} {s after : S}
    (apart : (rows.map Row.id).Nodup)
    (known : ∀ row ∈ rows, (view s).get? (Row.id row) = some row)
    (done : rows.foldlM (fun s row => save s (mark row)) s = .ok after) :
    (∀ row ∈ rows, (view after).get? (Row.id row) = some (mark row)) ∧
      (∀ id, id ∉ rows.map Row.id → (view after).get? id = (view s).get? id) ∧
        (view after).next = (view s).next := by
  induction rows generalizing s with
  | nil =>
    obtain rfl := Except.ok.inj done
    exact ⟨(fun _ member => nomatch member), fun _ _ => rfl, rfl⟩
  | cons row rest ih =>
    rw [List.foldlM_cons] at done
    cases saved : save s (mark row) with
    | error => simp [saved, bind, Except.bind] at done
    | ok middle =>
      rw [saved] at done
      obtain ⟨new, apart⟩ := List.nodup_cons.mp apart
      have updated := saves saved
      have same (id : Nat) (other : Row.id row ≠ id) : (view middle).get? id = (view s).get? id :=
        Table.get?_update?_other updated (by rwa [sameId])
      have rest_known := Table.known_of_mark sameId updated new fun other member =>
        known other (List.mem_cons_of_mem row member)
      obtain ⟨marks, others, next⟩ := ih apart rest_known done
      refine ⟨fun other member => ?_, fun id outside => ?_,
        next.trans (Table.update?_spec updated).2.1⟩
      · rcases List.mem_cons.mp member with rfl | member
        · obtain ⟨stored, own⟩ := Table.get?_eq_some.mp (known other (by simp))
          rw [others _ new, Table.get?_update? updated stored (sameId other).symm,
            if_pos (sameId other)]
        · exact marks other member
      · rw [List.map_cons, List.mem_cons, not_or] at outside
        rw [others id outside.2, same id (Ne.symm outside.1)]

/-- A claim goes through if every row to be marked can be saved. -/
theorem Table.marks_succeed {view : S → Table A} {save : S → A → Except E S} (mark : A → A)
    (saves : ∀ {s row after}, save s row = .ok after → (view s).update? row = some (view after))
    (sameId : ∀ row, Row.id (mark row) = Row.id row) {rows : List A} {s : S}
    (accepts : ∀ s, ∀ row ∈ rows, (view s).get? (Row.id row) = some row →
      ∃ after, save s (mark row) = .ok after)
    (apart : (rows.map Row.id).Nodup)
    (known : ∀ row ∈ rows, (view s).get? (Row.id row) = some row) :
    ∃ after, rows.foldlM (fun s row => save s (mark row)) s = .ok after := by
  induction rows generalizing s with
  | nil => exact ⟨s, rfl⟩
  | cons row rest ih =>
    obtain ⟨new, apart⟩ := List.nodup_cons.mp apart
    obtain ⟨middle, saved⟩ := accepts s row (by simp) (known row (by simp))
    have rest_known := Table.known_of_mark sameId (saves saved) new fun other member =>
      known other (List.mem_cons_of_mem row member)
    obtain ⟨after, done⟩ := ih (fun s other member => accepts s other (List.mem_cons_of_mem row member))
      apart rest_known
    refine ⟨after, ?_⟩
    rw [List.foldlM_cons, saved]
    exact done

section Taken

variable {wanted : A → Bool} {order : A → A → Prop} [DecidableRel order] {limit : Nat}
  {rows : List A} {table : Table A}

omit [DecidableEq K] in
theorem Table.taken_rows
    (taken : ((table.rows.filter wanted).insertionSort order).take limit = rows) :
    (rows.map Row.id).Nodup ∧
      ∀ row ∈ rows, table.get? (Row.id row) = some row ∧ wanted row = true := by
  have perm := List.perm_insertionSort order (table.rows.filter wanted)
  have sub := taken ▸ List.take_sublist limit ((table.rows.filter wanted).insertionSort order)
  constructor
  · have ids : (table.rows.map Row.id).Nodup :=
      List.pairwise_map.mpr (table.ids.imp Nat.ne_of_lt)
    have sorted := (perm.map Row.id).nodup_iff.mpr (ids.sublist (List.filter_sublist.map Row.id))
    exact sorted.sublist (sub.map Row.id)
  · intro row member
    obtain ⟨stored, chosen⟩ := List.mem_filter.mp (perm.subset (sub.subset member))
    exact ⟨Table.get?_of_mem stored, chosen⟩

omit [DecidableEq K] in
theorem Table.mem_taken
    (taken : ((table.rows.filter wanted).insertionSort order).take limit = rows)
    (enough : (table.rows.filter wanted).length ≤ limit) {row : A} (member : row ∈ table)
    (chosen : wanted row = true) : row ∈ rows := by
  have sorted := List.perm_insertionSort order (table.rows.filter wanted)
  rw [← taken, List.take_of_length_le (sorted.length_eq.trans_le enough)]
  exact sorted.symm.subset (List.mem_filter.mpr ⟨member, chosen⟩)

end Taken

theorem Table.claims_of_fold {view : S → Table A} (save : S → A → Except E S) (mark : A → A)
    (saves : ∀ {s row after}, save s row = .ok after → (view s).update? row = some (view after))
    (sameId : ∀ row, Row.id (mark row) = Row.id row) {wanted : A → Bool} {order : A → A → Prop}
    [DecidableRel order] {limit : Nat} {rows : List A} {s after : S}
    (taken : (((view s).rows.filter wanted).insertionSort order).take limit = rows)
    (done : rows.foldlM (fun s row => save s (mark row)) s = .ok after) :
    (view s).Claims wanted mark rows (view after) := by
  obtain ⟨apart, due⟩ := Table.taken_rows taken
  obtain ⟨marked, others, next⟩ :=
    Table.marked_rows saves sameId apart (fun row member => (due row member).1) done
  exact ⟨apart, due, marked, others, next⟩

end Shared

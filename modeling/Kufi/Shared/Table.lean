import Mathlib.Data.List.Nodup
import Mathlib.Data.List.Pairwise
import Mathlib.Algebra.BigOperators.Group.List.Basic
import Mathlib.Algebra.Order.Group.Int
import Mathlib.Tactic.Ring

set_option autoImplicit false

/-!
# Keyed tables

A table of rows with a generated primary key and at most one unique index.
Both constraints are fields, so every table that can be written down satisfies
them and no later proof carries them as hypotheses.
-/

namespace Shared

class Row (A : Type) (K : outParam Type) where
  id : A → Nat
  withId : A → Nat → A
  -- The value the unique index holds; `none` outside the index.
  key : A → Option K
  id_withId : ∀ row n, id (withId row n) = n
  key_withId : ∀ row n, key (withId row n) = key row

attribute [simp] Row.id_withId Row.key_withId

variable {A K : Type} [Row A K]

-- Two rows that a unique index cannot hold together.
def Clash (left right : A) : Prop :=
  Row.key left ≠ none ∧ Row.key left = Row.key right

instance [DecidableEq K] (left right : A) : Decidable (Clash left right) :=
  inferInstanceAs (Decidable (_ ∧ _))

theorem Clash.symm {left right : A} (clash : Clash left right) : Clash right left :=
  ⟨clash.2 ▸ clash.1, clash.2.symm⟩

structure Table (A : Type) {K : Type} [Row A K] where
  rows : List A
  next : Nat
  fresh : ∀ row ∈ rows, Row.id row < next
  -- Rows stand in the order in which their keys were generated.
  ids : rows.Pairwise fun left right => Row.id left < Row.id right
  unique : rows.Pairwise fun left right => ¬ Clash left right

namespace Table

def empty : Table A where
  rows := []
  next := 0
  fresh := by simp
  ids := .nil
  unique := .nil

instance : Inhabited (Table A) := ⟨empty⟩

instance : Membership A (Table A) := ⟨fun table row => row ∈ table.rows⟩

theorem not_mem_empty (row : A) : row ∉ (empty : Table A) :=
  List.not_mem_nil

theorem mem_def {table : Table A} {row : A} : row ∈ table ↔ row ∈ table.rows := Iff.rfl

def find? (table : Table A) (wanted : A → Bool) : Option A :=
  table.rows.find? wanted

def get? (table : Table A) (id : Nat) : Option A :=
  table.find? fun row => Row.id row == id

theorem mem_of_find? {table : Table A} {wanted : A → Bool} {row : A}
    (found : table.find? wanted = some row) : row ∈ table :=
  List.mem_of_find?_eq_some found

theorem wanted_of_find? {table : Table A} {wanted : A → Bool} {row : A}
    (found : table.find? wanted = some row) : wanted row = true :=
  List.find?_some found

theorem not_wanted_of_find?_none {table : Table A} {wanted : A → Bool} {row : A}
    (missing : table.find? wanted = none) (member : row ∈ table) : wanted row = false := by
  simpa using List.find?_eq_none.mp missing row member

theorem mem_of_get? {table : Table A} {id : Nat} {row : A}
    (found : table.get? id = some row) : row ∈ table :=
  mem_of_find? found

theorem id_of_get? {table : Table A} {id : Nat} {row : A}
    (found : table.get? id = some row) : Row.id row = id := by
  simpa using wanted_of_find? found

theorem eq_of_id {table : Table A} {left right : A} (first : left ∈ table)
    (second : right ∈ table) (same : Row.id left = Row.id right) : left = right := by
  by_contra different
  have apart : table.rows.Pairwise fun left right => Row.id left ≠ Row.id right :=
    table.ids.imp Nat.ne_of_lt
  have : Std.Symm fun left right : A => Row.id left ≠ Row.id right := ⟨fun _ _ h => h.symm⟩
  exact apart.forall first second different same

theorem eq_of_clash {table : Table A} {left right : A} (first : left ∈ table)
    (second : right ∈ table) (clash : Clash left right) : left = right := by
  by_contra different
  have : Std.Symm fun left right : A => ¬ Clash left right := ⟨fun _ _ h c => h c.symm⟩
  exact table.unique.forall first second different clash

theorem get?_of_mem {table : Table A} {row : A} (member : row ∈ table) :
    table.get? (Row.id row) = some row := by
  cases found : table.get? (Row.id row) with
  | none => simpa using not_wanted_of_find?_none found member
  | some other => rw [eq_of_id (mem_of_get? found) member (id_of_get? found)]

theorem get?_eq_some {table : Table A} {id : Nat} {row : A} :
    table.get? id = some row ↔ row ∈ table ∧ Row.id row = id := by
  constructor
  · intro found
    exact ⟨mem_of_get? found, id_of_get? found⟩
  · rintro ⟨member, rfl⟩
    exact get?_of_mem member

theorem get?_eq_none {table : Table A} {id : Nat} :
    table.get? id = none ↔ ∀ row ∈ table, Row.id row ≠ id := by
  simp [get?, find?, mem_def]

section Key

variable [DecidableEq K]

def byKey (table : Table A) (key : K) : Option A :=
  table.find? fun row => Row.key row == some key

theorem byKey_eq_some {table : Table A} {key : K} {row : A} :
    table.byKey key = some row ↔ row ∈ table ∧ Row.key row = some key := by
  constructor
  · intro found
    exact ⟨mem_of_find? found, by simpa using wanted_of_find? found⟩
  · rintro ⟨member, matched⟩
    cases found : table.byKey key with
    | none => simpa [matched] using not_wanted_of_find?_none found member
    | some other =>
      have otherKey : Row.key other = some key := by simpa using wanted_of_find? found
      have clash : Clash other row := ⟨by simp [otherKey], otherKey.trans matched.symm⟩
      rw [eq_of_clash (mem_of_find? found) member clash]

theorem byKey_eq_none {table : Table A} {key : K} :
    table.byKey key = none ↔ ∀ row ∈ table, Row.key row ≠ some key := by
  simp [byKey, find?, mem_def]

end Key

section Insert

variable [DecidableEq K]

-- `INSERT`: the row gets the next generated id; a clash with the unique index is refused.
def insert? (table : Table A) (row : A) : Option (A × Table A) :=
  if free : ∀ other ∈ table.rows, ¬ Clash other row then
    some (Row.withId row table.next,
      { rows := table.rows ++ [Row.withId row table.next]
        next := table.next + 1
        fresh := by
          intro other member
          rcases List.mem_append.mp member with old | new
          · exact Nat.lt_succ_of_lt (table.fresh other old)
          · simp [List.mem_singleton.mp new]
        ids := by
          refine List.pairwise_append.mpr ⟨table.ids, List.pairwise_singleton _ _, ?_⟩
          intro other old saved same
          rw [List.mem_singleton.mp same, Row.id_withId]
          exact table.fresh other old
        unique := by
          refine List.pairwise_append.mpr ⟨table.unique, List.pairwise_singleton _ _, ?_⟩
          intro other old new same
          rw [List.mem_singleton.mp same]
          simpa [Clash] using free other old })
  else none

theorem insert?_spec {table after : Table A} {row saved : A}
    (inserted : table.insert? row = some (saved, after)) :
    saved = Row.withId row table.next ∧ after.rows = table.rows ++ [saved] ∧
      after.next = table.next + 1 ∧ ∀ other ∈ table, ¬ Clash other row := by
  unfold insert? at inserted
  split at inserted
  next free =>
    simp only [Option.some.injEq, Prod.mk.injEq] at inserted
    obtain ⟨rfl, rfl⟩ := inserted
    exact ⟨rfl, rfl, rfl, free⟩
  next => cases inserted

theorem insert?_isSome {table : Table A} {row : A}
    (free : ∀ other ∈ table, ¬ Clash other row) : (table.insert? row).isSome := by
  unfold insert?
  split
  next => rfl
  next taken => exact absurd free taken

end Insert

section Update

variable [DecidableEq K]

-- The row list after `UPDATE .. WHERE id = row.id`.
def replace (rows : List A) (row : A) : List A :=
  rows.map fun other => if Row.id other = Row.id row then row else other

omit [DecidableEq K] in
theorem mem_replace {rows : List A} {row other : A} :
    other ∈ replace rows row ↔
      (other ∈ rows ∧ Row.id other ≠ Row.id row) ∨
        (other = row ∧ ∃ old ∈ rows, Row.id old = Row.id row) := by
  simp only [replace, List.mem_map]
  constructor
  · rintro ⟨old, member, rfl⟩
    split_ifs with same
    · exact .inr ⟨rfl, old, member, same⟩
    · exact .inl ⟨member, same⟩
  · rintro (⟨member, different⟩ | ⟨rfl, old, member, same⟩)
    · exact ⟨other, member, by simp [different]⟩
    · exact ⟨old, member, by simp [same]⟩

omit [DecidableEq K] in
theorem map_id_replace (rows : List A) (row : A) :
    (replace rows row).map Row.id = rows.map Row.id := by
  simp only [replace, List.map_map]
  apply List.map_congr_left
  intro other _
  by_cases same : Row.id other = Row.id row <;> simp [same]

omit [DecidableEq K] in
theorem pairwise_ids_iff (rows : List A) :
    (rows.Pairwise fun left right => Row.id left < Row.id right) ↔
      (rows.map Row.id).Pairwise (· < ·) := by
  simp [List.pairwise_map]

-- `UPDATE`: the row with the same id is overwritten; a clash with another row is refused.
def update? (table : Table A) (row : A) : Option (Table A) :=
  if free : ∀ other ∈ table.rows, Row.id other ≠ Row.id row → ¬ Clash other row then
    some
      { rows := replace table.rows row
        next := table.next
        fresh := by
          intro other member
          rcases mem_replace.mp member with ⟨old, _⟩ | ⟨rfl, old, oldMember, same⟩
          · exact table.fresh other old
          · exact same ▸ table.fresh old oldMember
        ids := by
          rw [pairwise_ids_iff, map_id_replace, ← pairwise_ids_iff]
          exact table.ids
        unique := by
          unfold replace
          rw [List.pairwise_map]
          refine (table.ids.and table.unique).imp_of_mem ?_
          intro left right leftMember rightMember apart
          by_cases first : Row.id left = Row.id row <;>
            by_cases second : Row.id right = Row.id row
          · exact absurd (first.trans second.symm) (Nat.ne_of_lt apart.1)
          · simpa [first, second] using fun clash =>
              free right rightMember second (Clash.symm clash)
          · simpa [first, second] using free left leftMember first
          · simpa [first, second] using apart.2 }
  else none

theorem update?_spec {table after : Table A} {row : A}
    (updated : table.update? row = some after) :
    after.rows = replace table.rows row ∧ after.next = table.next ∧
      ∀ other ∈ table, Row.id other ≠ Row.id row → ¬ Clash other row := by
  unfold update? at updated
  split at updated
  next free =>
    cases updated
    exact ⟨rfl, rfl, free⟩
  next => cases updated

theorem mem_update? {table after : Table A} {row other : A}
    (updated : table.update? row = some after) :
    other ∈ after ↔ (other ∈ table ∧ Row.id other ≠ Row.id row) ∨
      (other = row ∧ ∃ old ∈ table, Row.id old = Row.id row) := by
  rw [mem_def, (update?_spec updated).1, mem_replace]
  rfl

-- A row is written as it stands.
theorem update?_self {table after : Table A} {row : A} (member : row ∈ table)
    (updated : table.update? row = some after) : after = table := by
  obtain ⟨rows, next, _⟩ := update?_spec updated
  have same : replace table.rows row = table.rows := by
    refine (List.map_congr_left fun other held => ?_).trans (List.map_id _)
    split_ifs with own
    · exact eq_of_id member held own.symm
    · rfl
  obtain ⟨rows', next', _, _, _⟩ := after
  obtain rfl : rows' = table.rows := rows.trans same
  obtain rfl : next' = table.next := next
  rfl

-- Overwriting a row without touching its unique index is never refused.
theorem update?_isSome {table : Table A} {row old : A} (member : old ∈ table)
    (same : Row.id old = Row.id row) (key : Row.key old = Row.key row) :
    (table.update? row).isSome := by
  unfold update?
  split
  next => rfl
  next taken =>
    refine absurd ?_ taken
    intro other otherMember different clash
    have clashOld : Clash other old := ⟨clash.1, clash.2.trans key.symm⟩
    exact different (eq_of_clash otherMember member clashOld ▸ same)

theorem get?_update? {table after : Table A} {row old : A}
    (updated : table.update? row = some after) (member : old ∈ table)
    (same : Row.id old = Row.id row) (id : Nat) :
    after.get? id = if Row.id row = id then some row else table.get? id := by
  ext other
  split_ifs with own
  · subst own
    simp only [get?_eq_some, mem_update? updated, Option.some.injEq]
    constructor
    · rintro ⟨⟨_, different⟩ | ⟨rfl, _⟩, matched⟩
      · exact absurd matched different
      · rfl
    · rintro rfl
      exact ⟨.inr ⟨rfl, old, member, same⟩, rfl⟩
  · simp only [get?_eq_some, mem_update? updated]
    constructor
    · rintro ⟨⟨stays, _⟩ | ⟨rfl, _⟩, matched⟩
      · exact ⟨stays, matched⟩
      · exact absurd matched own
    · rintro ⟨stays, rfl⟩
      exact ⟨.inl ⟨stays, fun equal => own equal.symm⟩, rfl⟩

theorem get?_update?_other {table after : Table A} {row : A}
    (updated : table.update? row = some after) {id : Nat} (other : Row.id row ≠ id) :
    after.get? id = table.get? id := by
  ext found
  simp only [get?_eq_some, mem_update? updated]
  constructor
  · rintro ⟨⟨stays, _⟩ | ⟨rfl, _⟩, matched⟩
    · exact ⟨stays, matched⟩
    · exact absurd matched other
  · rintro ⟨stays, rfl⟩
    exact ⟨.inl ⟨stays, fun equal => other equal.symm⟩, rfl⟩

theorem byKey_update? {table after : Table A} {row old : A}
    (updated : table.update? row = some after) (member : old ∈ table)
    (same : Row.id old = Row.id row) (sameKey : Row.key old = Row.key row) (key : K) :
    after.byKey key = if Row.key row = some key then some row else table.byKey key := by
  ext other
  split_ifs with own
  · simp only [byKey_eq_some, mem_update? updated, Option.some.injEq]
    constructor
    · rintro ⟨⟨stays, different⟩ | ⟨rfl, _⟩, matched⟩
      · have clash : Clash other old := ⟨by simp [matched], by rw [matched, sameKey, own]⟩
        exact absurd (eq_of_clash stays member clash ▸ same) different
      · rfl
    · rintro rfl
      exact ⟨.inr ⟨rfl, old, member, same⟩, own⟩
  · simp only [byKey_eq_some, mem_update? updated]
    constructor
    · rintro ⟨⟨stays, _⟩ | ⟨rfl, _⟩, matched⟩
      · exact ⟨stays, matched⟩
      · exact absurd matched own
    · rintro ⟨stays, matched⟩
      refine ⟨.inl ⟨stays, fun equal => own ?_⟩, matched⟩
      rw [← sameKey, ← eq_of_id stays member (equal.trans same.symm), matched]

-- Every row is still there under its id and key, though perhaps with other values.
theorem kept_update? {table after : Table A} {row old other : A}
    (updated : table.update? row = some after) (member : old ∈ table)
    (same : Row.id old = Row.id row) (sameKey : Row.key old = Row.key row)
    (held : other ∈ table) :
    ∃ kept ∈ after, Row.id kept = Row.id other ∧ Row.key kept = Row.key other := by
  by_cases own : Row.id other = Row.id row
  · have equal := eq_of_id held member (own.trans same.symm)
    subst equal
    exact ⟨row, (mem_update? updated).mpr (.inr ⟨rfl, other, member, own⟩), same.symm,
      sameKey.symm⟩
  · exact ⟨other, (mem_update? updated).mpr (.inl ⟨held, own⟩), rfl, rfl⟩

omit [DecidableEq K] in
theorem sum_replace {rows : List A}
    (ids : rows.Pairwise fun left right => Row.id left < Row.id right) {row old : A}
    (member : old ∈ rows) (same : Row.id old = Row.id row) (value : A → Int) :
    ((replace rows row).map value).sum = (rows.map value).sum - value old + value row := by
  induction rows with
  | nil => cases member
  | cons head rest ih =>
    obtain ⟨apart, restIds⟩ := List.pairwise_cons.mp ids
    rcases List.mem_cons.mp member with rfl | later
    · have untouched : replace rest row = rest := by
        refine (List.map_congr_left fun other otherMember => if_neg ?_).trans (List.map_id rest)
        exact fun equal => Nat.ne_of_lt (apart other otherMember) (same.trans equal.symm)
      rw [replace, List.map_cons, ← replace, untouched]
      simp only [same, if_true, List.map_cons, List.sum_cons]
      ring
    · have different : Row.id head ≠ Row.id row := same ▸ Nat.ne_of_lt (apart old later)
      rw [replace, List.map_cons, ← replace]
      simp only [different, if_false, List.map_cons, List.sum_cons, ih restIds later]
      ring

end Update

section Insert

variable [DecidableEq K]

theorem mem_insert? {table after : Table A} {row saved other : A}
    (inserted : table.insert? row = some (saved, after)) :
    other ∈ after ↔ other ∈ table ∨ other = saved := by
  simp [mem_def, (insert?_spec inserted).2.1]

theorem get?_insert? {table after : Table A} {row saved : A}
    (inserted : table.insert? row = some (saved, after)) (id : Nat) :
    after.get? id = if Row.id saved = id then some saved else table.get? id := by
  obtain ⟨shape, _, _, _⟩ := insert?_spec inserted
  ext other
  split_ifs with own
  · simp only [get?_eq_some, mem_insert? inserted, Option.some.injEq]
    constructor
    · rintro ⟨old | rfl, matched⟩
      · have bound := table.fresh other old
        rw [matched, ← own, shape, Row.id_withId] at bound
        exact absurd bound (Nat.lt_irrefl _)
      · rfl
    · rintro rfl
      exact ⟨.inr rfl, own⟩
  · simp only [get?_eq_some, mem_insert? inserted]
    constructor
    · rintro ⟨old | rfl, matched⟩
      · exact ⟨old, matched⟩
      · exact absurd matched own
    · rintro ⟨old, matched⟩
      exact ⟨.inl old, matched⟩

theorem byKey_of_insert? {table after : Table A} {row saved : A}
    (inserted : table.insert? row = some (saved, after)) {key : K} (own : Row.key row = some key) :
    table.byKey key = none := by
  obtain ⟨_, _, _, free⟩ := insert?_spec inserted
  refine byKey_eq_none.mpr fun other member same => free other member ⟨?_, same.trans own.symm⟩
  rw [same]
  exact Option.some_ne_none key

theorem byKey_insert? {table after : Table A} {row saved : A}
    (inserted : table.insert? row = some (saved, after)) (key : K) :
    after.byKey key = if Row.key saved = some key then some saved else table.byKey key := by
  obtain ⟨shape, _, _, free⟩ := insert?_spec inserted
  ext other
  split_ifs with own
  · simp only [byKey_eq_some, mem_insert? inserted, Option.some.injEq]
    constructor
    · rintro ⟨old | rfl, matched⟩
      · refine absurd ⟨by simp [matched], ?_⟩ (free other old)
        rw [matched, ← own, shape, Row.key_withId]
      · rfl
    · rintro rfl
      exact ⟨.inr rfl, own⟩
  · simp only [byKey_eq_some, mem_insert? inserted]
    constructor
    · rintro ⟨old | rfl, matched⟩
      · exact ⟨old, matched⟩
      · exact absurd matched own
    · rintro ⟨old, matched⟩
      exact ⟨.inl old, matched⟩

end Insert

section Map

/-- `UPDATE` of any rows, none of which gets another id or key. -/
def mapRows (table : Table A) (f : A → A) (sameId : ∀ row, Row.id (f row) = Row.id row)
    (sameKey : ∀ row, Row.key (f row) = Row.key row) : Table A where
  rows := table.rows.map f
  next := table.next
  fresh := by
    intro row member
    obtain ⟨old, held, rfl⟩ := List.mem_map.mp member
    rw [sameId]
    exact table.fresh old held
  ids := by
    rw [List.pairwise_map]
    simpa only [sameId] using table.ids
  unique := by
    rw [List.pairwise_map]
    simpa only [Clash, sameKey] using table.unique

theorem mem_mapRows {table : Table A} {f : A → A} {sameId : ∀ row, Row.id (f row) = Row.id row}
    {sameKey : ∀ row, Row.key (f row) = Row.key row} {row : A} :
    row ∈ table.mapRows f sameId sameKey ↔ ∃ old ∈ table, f old = row :=
  List.mem_map

/-- `DELETE` of the rows that are not wanted. -/
def keepRows (table : Table A) (wanted : A → Bool) : Table A where
  rows := table.rows.filter wanted
  next := table.next
  fresh := by
    intro row member
    exact table.fresh row (List.mem_filter.mp member).1
  ids := table.ids.filter wanted
  unique := table.unique.filter wanted

theorem mem_keepRows {table : Table A} {wanted : A → Bool} {row : A} :
    row ∈ table.keepRows wanted ↔ row ∈ table ∧ wanted row = true :=
  List.mem_filter

end Map

end Table

end Shared

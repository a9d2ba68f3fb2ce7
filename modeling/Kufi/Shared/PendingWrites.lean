import Kufi.Shared.Dict

set_option autoImplicit false

/-!
# Writes that are still to come

Writes to cells wait in a list and are carried out one by one. What a cell ends
with, once nothing waits, is settled as long as the writes of one cell keep
their order.
-/

namespace Shared

variable {K V W : Type} [DecidableEq K]

/-- What a write puts into a cell; `target` says where it goes and what it writes. -/
def written (target : W → Option (K × V)) (write : W) (key : K) : Option V :=
  (target write).bind fun entry => if entry.1 = key then some entry.2 else none

def lastWrite (target : W → Option (K × V)) (writes : List W) (key : K) : Option V :=
  writes.foldr (fun write later => later.or (written target write key)) none

/-- What a cell holds when the waiting writes are done in their order. -/
def settled (target : W → Option (K × V)) (cells : Dict K V) (writes : List W) (key : K) : Option V :=
  (lastWrite target writes key).or (cells.get key)

section

variable {target : W → Option (K × V)} {cells : Dict K V} {writes : List W} {key other : K}
  {value : V} {write : W}

theorem settled_nil : settled target cells [] key = cells.get key := rfl

theorem lastWrite_append (first rest : List W) :
    lastWrite target (first ++ rest) key =
      (lastWrite target rest key).or (lastWrite target first key) := by
  induction first with
  | nil => simp [lastWrite]
  | cons write first ih =>
    have unfolded (writes : List W) : lastWrite target (write :: writes) key =
        (lastWrite target writes key).or (written target write key) := rfl
    rw [List.cons_append, unfolded, unfolded, ih, Option.or_assoc]

theorem written_of_target (goes : target write = some (key, value)) :
    written target write other = if other = key then some value else none := by
  rw [written, goes]
  simp [eq_comm]

theorem settled_append (goes : target write = some (key, value)) :
    settled target cells (writes ++ [write]) other =
      if other = key then some value else settled target cells writes other := by
  have last : lastWrite target [write] other = written target write other := by
    simp [lastWrite]
  rw [settled, lastWrite_append, last, written_of_target goes]
  split
  · rfl
  · rfl

theorem lastWrite_eq_none (untouched : ∀ write ∈ writes, written target write key = none) :
    lastWrite target writes key = none := by
  induction writes with
  | nil => rfl
  | cons write rest ih =>
    have later := ih fun write member => untouched write (List.mem_cons_of_mem _ member)
    have unfolded : lastWrite target (write :: rest) key =
        (lastWrite target rest key).or (written target write key) := rfl
    rw [unfolded, later, untouched write List.mem_cons_self]
    rfl

/-- The first of the writes of its cell is carried out. -/
theorem settled_finish {i : Nat} (waits : writes[i]? = some write)
    (goes : target write = some (key, value))
    (first : ∀ earlier ∈ writes.take i, written target earlier key = none) :
    settled target (cells.set key value) (writes.eraseIdx i) other =
      settled target cells writes other := by
  obtain ⟨bound, rfl⟩ := List.getElem?_eq_some_iff.mp waits
  have parts : writes = writes.take i ++ writes[i] :: writes.drop (i + 1) := by
    rw [List.getElem_cons_drop, List.take_append_drop]
  have own : lastWrite target (writes.take i) key = none := lastWrite_eq_none first
  have rest : lastWrite target (writes[i] :: writes.drop (i + 1)) other =
      (lastWrite target (writes.drop (i + 1)) other).or (written target writes[i] other) := rfl
  rw [List.eraseIdx_eq_take_drop_succ]
  conv_rhs => rw [parts]
  rw [settled, settled, lastWrite_append, lastWrite_append, rest, written_of_target goes,
    Dict.get_set]
  by_cases same : other = key
  · subst same
    rw [own, if_pos rfl, if_pos rfl]
    simp
  · simp [same]

/-- A cell that no write waits for is removed. -/
theorem settled_remove (quiet : ∀ write ∈ writes, written target write key = none) :
    settled target (cells.remove key) writes other =
      if other = key then none else settled target cells writes other := by
  rw [settled, Dict.get_remove]
  split
  next same =>
    subst same
    rw [lastWrite_eq_none quiet]
    rfl
  next => rfl

/-- The change of other cells does not matter. -/
theorem settled_congr {cells' : Dict K V} (same : cells'.get key = cells.get key) :
    settled target cells' writes key = settled target cells writes key := by
  rw [settled, settled, same]

theorem settled_of_subset {cells' : Dict K V}
    (subset : ∀ value, cells'.get key = some value → cells.get key = some value)
    (found : settled target cells' writes key = some value) :
    settled target cells writes key = some value := by
  rcases Option.or_eq_some_iff.mp found with waiting | ⟨none, stored⟩
  · exact Option.or_eq_some_iff.mpr (.inl waiting)
  · exact Option.or_eq_some_iff.mpr (.inr ⟨none, subset value stored⟩)

end

end Shared

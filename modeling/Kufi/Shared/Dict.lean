import Mathlib.Data.List.AList

set_option autoImplicit false

/-!
# Finite maps

The maps of the gateway: association lists without repeated keys.
-/

namespace Shared

abbrev Dict (K V : Type) := AList fun _ : K => V

namespace Dict

variable {K V : Type} [DecidableEq K]

def get (dict : Dict K V) (key : K) : Option V := dict.lookup key

def set (dict : Dict K V) (key : K) (value : V) : Dict K V := dict.insert key value

def remove (dict : Dict K V) (key : K) : Dict K V := dict.erase key

/-- The entries that a loop over the map does not delete. -/
def keep (dict : Dict K V) (wanted : K → V → Bool) : Dict K V where
  entries := dict.entries.filter fun entry => wanted entry.1 entry.2
  nodupKeys := dict.nodupKeys.sublist List.filter_sublist

def size (dict : Dict K V) : Nat := dict.entries.length

@[simp] theorem get_empty (key : K) : get (∅ : Dict K V) key = none := rfl

theorem get_set (dict : Dict K V) (key other : K) (value : V) :
    (set dict key value).get other = if other = key then some value else dict.get other := by
  unfold get set
  split
  next same => rw [same, AList.lookup_insert]
  next different => exact AList.lookup_insert_ne different

/-- What holds of every entry is asked of the new one only. -/
theorem forall_set {dict : Dict K V} {key : K} {value : V} (P : K → V → Prop) (new : P key value)
    (old : ∀ other found, dict.get other = some found → P other found) :
    ∀ other found, (dict.set key value).get other = some found → P other found := by
  intro other found stored
  rw [get_set] at stored
  split_ifs at stored with same
  · obtain rfl := Option.some.inj stored
    exact same ▸ new
  · exact old other found stored

theorem get_remove (dict : Dict K V) (key other : K) :
    (remove dict key).get other = if other = key then none else dict.get other := by
  unfold get remove
  split
  next same => rw [same, AList.lookup_erase]
  next different => exact AList.lookup_erase_ne different

theorem size_set_of_none {dict : Dict K V} {key : K} (absent : dict.get key = none) (value : V) :
    (set dict key value).size = dict.size + 1 := by
  have notMem : key ∉ dict := AList.lookup_eq_none.mp absent
  simp [set, size, AList.insert_of_notMem notMem]

theorem get_eq_some {dict : Dict K V} {key : K} {value : V} :
    dict.get key = some value ↔ ⟨key, value⟩ ∈ dict.entries :=
  AList.mem_lookup_iff

theorem get_keep {dict : Dict K V} {wanted : K → V → Bool} {key : K} {value : V} :
    (dict.keep wanted).get key = some value ↔
      dict.get key = some value ∧ wanted key value = true := by
  rw [get_eq_some, get_eq_some]
  exact List.mem_filter

theorem get_keep_of_wanted {dict : Dict K V} {wanted : K → V → Bool} {key : K}
    (kept : ∀ value, dict.get key = some value → wanted key value = true) :
    (dict.keep wanted).get key = dict.get key := by
  apply Option.ext
  intro value
  rw [get_keep]
  exact and_iff_left_of_imp (kept value)

theorem get_foldl_remove {A : Type} (file : A → K) (elements : List A) (dict : Dict K V) (key : K) :
    (elements.foldl (fun dict element => dict.remove (file element)) dict).get key =
      if ∃ element ∈ elements, file element = key then none else dict.get key := by
  induction elements generalizing dict with
  | nil => simp
  | cons element rest ih =>
    rw [List.foldl_cons, ih, get_remove]
    by_cases later : ∃ element ∈ rest, file element = key
    · rw [if_pos later, if_pos]
      obtain ⟨other, member, same⟩ := later
      exact ⟨other, List.mem_cons_of_mem _ member, same⟩
    · have only : (∃ other ∈ element :: rest, file other = key) ↔ key = file element := by
        rw [List.exists_mem_cons_iff, or_iff_left later, eq_comm]
      rw [if_neg later]
      simp only [only]

/-- What a loop over a list puts under a key comes from one of the elements. -/
theorem get_foldl {A : Type} {step : Dict K V → A → Dict K V} {key : K} {value : V} (P : A → Prop)
    (stepped : ∀ dict element, (step dict element).get key = some value →
      P element ∨ dict.get key = some value)
    (elements : List A) (dict : Dict K V) (found : (elements.foldl step dict).get key = some value) :
    (∃ element ∈ elements, P element) ∨ dict.get key = some value := by
  induction elements generalizing dict with
  | nil => exact .inr found
  | cons element elements ih =>
    rcases ih _ found with ⟨later, member, holds⟩ | before
    · exact .inl ⟨later, List.mem_cons_of_mem _ member, holds⟩
    · exact (stepped dict element before).imp_left fun holds => ⟨element, by simp, holds⟩

/-- A key that one element sets and none removes has a value after the loop. -/
theorem get_foldl_ne_none {A : Type} {step : Dict K V → A → Dict K V} {key : K}
    (keeps : ∀ dict element, get dict key ≠ none → (step dict element).get key ≠ none)
    {elements : List A} {element : A} (member : element ∈ elements)
    (sets : ∀ dict, (step dict element).get key ≠ none) (dict : Dict K V) :
    (elements.foldl step dict).get key ≠ none := by
  have kept (elements : List A) (dict : Dict K V) (known : get dict key ≠ none) :
      (elements.foldl step dict).get key ≠ none := by
    induction elements generalizing dict with
    | nil => exact known
    | cons element elements ih => exact ih _ (keeps dict element known)
  induction elements generalizing dict with
  | nil => cases member
  | cons first rest ih =>
    rcases List.mem_cons.mp member with rfl | later
    · exact kept rest _ (sets dict)
    · exact ih later _

end Dict

end Shared

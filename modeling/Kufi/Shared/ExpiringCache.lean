import Mathlib.Data.List.Basic

set_option autoImplicit false

/-!
# Caches whose entries expire

A map in the order in which its keys came. An entry is served until its time; a
full map drops the key that came first.
-/

namespace Shared

structure CacheEntry (K V : Type) where
  key : K
  value : V
  expiresAt : Int

abbrev ExpiringCache (K V : Type) := List (CacheEntry K V)

namespace ExpiringCache

variable {K V : Type} [DecidableEq K]

def fresh? (cache : ExpiringCache K V) (key : K) (now : Int) : Option V :=
  match cache.find? fun entry => entry.key = key with
  | some entry => if now < entry.expiresAt then some entry.value else none
  | none => none

-- A key that is there keeps its place.
def set : ExpiringCache K V → CacheEntry K V → ExpiringCache K V
  | [], entry => [entry]
  | other :: rest, entry =>
    if other.key = entry.key then entry :: rest else other :: set rest entry

def put (cache : ExpiringCache K V) (limit : Int) (entry : CacheEntry K V) : ExpiringCache K V :=
  let filled := cache.set entry
  if filled.length ≤ limit then filled else filled.tail

variable {cache : ExpiringCache K V} {entry other : CacheEntry K V} {limit now : Int} {key : K}
  {value : V}

theorem mem_set (member : other ∈ cache.set entry) : other = entry ∨ other ∈ cache := by
  induction cache with
  | nil => exact .inl (List.mem_singleton.mp member)
  | cons first rest ih =>
    simp only [set] at member
    split_ifs at member
    · exact (List.mem_cons.mp member).imp_right (List.mem_cons_of_mem first)
    · rcases List.mem_cons.mp member with rfl | later
      · exact .inr List.mem_cons_self
      · exact (ih later).imp_right (List.mem_cons_of_mem first)

theorem mem_put (member : other ∈ cache.put limit entry) : other = entry ∨ other ∈ cache := by
  simp only [put] at member
  split_ifs at member
  · exact mem_set member
  · exact mem_set (List.mem_of_mem_tail member)

/-- What is served was put under the key. -/
theorem mem_of_fresh? (served : cache.fresh? key now = some value) :
    ∃ entry ∈ cache, entry.key = key ∧ entry.value = value := by
  unfold fresh? at served
  split at served
  next entry found =>
    split_ifs at served
    obtain rfl := Option.some.inj served
    have own := List.find?_some found
    exact ⟨entry, List.mem_of_find?_eq_some found, by simpa using own, rfl⟩
  next => cases served

end ExpiringCache

end Shared

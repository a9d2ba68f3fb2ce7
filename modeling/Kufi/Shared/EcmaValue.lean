import Kufi.Shared.EcmaNumber
import Mathlib.Data.List.Pairwise

set_option autoImplicit false

/-!
# ECMAScript objects

Values as `JSON.parse` makes them. The own members of an object are listed in
the order of `Object.keys`: array indices first and ascending, then the other
names as they were set.
-/

namespace Shared.Ecma

inductive Value where
  | null
  | bool (value : Bool)
  | number (value : Number)
  | string (text : Str)
  | array (items : List Value)
  | object (members : List (Str × Value))

abbrev Members := List (Str × Value)

/-- Induction over a value and what it holds. -/
theorem Value.induction {P : Value → Prop} (null : P .null) (bool : ∀ value, P (.bool value))
    (number : ∀ n, P (.number n)) (string : ∀ text, P (.string text))
    (array : ∀ items : List Value, (∀ item ∈ items, P item) → P (.array items))
    (object : ∀ members : Members, (∀ member ∈ members, P member.2) → P (.object members)) :
    ∀ value, P value
  | .null => null
  | .bool value => bool value
  | .number n => number n
  | .string text => string text
  | .array items => array items fun item _ =>
    Value.induction null bool number string array object item
  | .object members => object members fun member _ =>
    Value.induction null bool number string array object member.2
termination_by value => sizeOf value
decreasing_by
  · rename_i listed
    have smaller := List.sizeOf_lt_of_mem listed
    simp only [Value.array.sizeOf_spec]
    omega
  · rename_i listed
    have smaller := List.sizeOf_lt_of_mem listed
    obtain ⟨name, value⟩ := member
    simp only [Value.object.sizeOf_spec, Prod.mk.sizeOf_spec] at smaller ⊢
    omega

/-- The array index that a name is. -/
def index? (name : Str) : Option ℕ :=
  let n := valueOf name
  if digits n = name ∧ n < 2 ^ 32 - 1 then some n else none

theorem index?_injective {first second : Str} {n : ℕ} (left : index? first = some n)
    (right : index? second = some n) : first = second := by
  unfold index? at left right
  dsimp only at left right
  split_ifs at left right with same same'
  rw [← same.1, ← same'.1, Option.some.inj left, Option.some.inj right]

/-- A name that `Object.keys` may list before another one. -/
def Before (first second : Str) : Prop :=
  ∀ j, index? second = some j → ∃ i, index? first = some i ∧ i < j

namespace Members

def names (members : Members) : List Str := members.map Prod.fst

def get (members : Members) (name : Str) : Option Value := members.lookup name

@[simp] theorem names_nil : names [] = [] := rfl

@[simp] theorem names_cons (member : Str × Value) (rest : Members) :
    names (member :: rest) = member.1 :: names rest := rfl

@[simp] theorem names_append (first second : Members) :
    names (first ++ second) = names first ++ names second := List.map_append

@[simp] theorem get_nil (name : Str) : get [] name = none := rfl

@[simp] theorem get_cons (member : Str × Value) (rest : Members) (name : Str) :
    get (member :: rest) name = if name = member.1 then some member.2 else get rest name := by
  obtain ⟨first, value⟩ := member
  unfold get
  by_cases same : name = first
  · simp [same]
  · have other : (name == first) = false := by simpa using same
    simp [List.lookup_cons, same, other]

/-- The members as an object keeps them. -/
structure Kept (members : Members) : Prop where
  distinct : (names members).Nodup
  ordered : (names members).Pairwise Before

/-! ## Setting a member -/

-- The new index comes after the smaller ones.
def insertIndex (i : ℕ) (entry : Str × Value) : Members → Members
  | [] => [entry]
  | member :: rest =>
    if (index? member.1).any (· < i) then member :: insertIndex i entry rest
    else entry :: member :: rest

def replace (members : Members) (name : Str) (value : Value) : Members :=
  members.map fun member => if member.1 = name then (name, value) else member

def set (members : Members) (name : Str) (value : Value) : Members :=
  if name ∈ names members then replace members name value
  else
    match index? name with
    | none => members ++ [(name, value)]
    | some i => insertIndex i (name, value) members

def ofEntries (entries : Members) : Members :=
  entries.foldl (fun members entry => set members entry.1 entry.2) []

/-- `{...base, ...extra}`. -/
def spread (base extra : Members) : Members :=
  extra.foldl (fun members entry => set members entry.1 entry.2) base

/-- `delete object[name]`. -/
def delete (members : Members) (name : Str) : Members :=
  members.filter fun member => member.1 ≠ name

theorem names_replace (members : Members) (name : Str) (value : Value) :
    names (replace members name value) = names members := by
  rw [names, replace, List.map_map]
  refine List.map_congr_left fun member _ => ?_
  by_cases same : member.1 = name <;> simp [same]

theorem insertIndex_perm (i : ℕ) (entry : Str × Value) (members : Members) :
    (insertIndex i entry members).Perm (entry :: members) := by
  induction members with
  | nil => exact List.Perm.refl _
  | cons member rest ih =>
    unfold insertIndex
    split_ifs
    · exact (ih.cons member).trans (List.Perm.swap entry member rest)
    · exact List.Perm.refl _

theorem set_perm {members : Members} {name : Str} (fresh : name ∉ names members) (value : Value) :
    (set members name value).Perm ((name, value) :: members) := by
  rw [set, if_neg fresh]
  split
  · exact List.perm_append_singleton _ _
  · exact insertIndex_perm _ _ _

theorem mem_names_set {members : Members} {name other : Str} {value : Value} :
    other ∈ names (set members name value) ↔ other = name ∨ other ∈ names members := by
  by_cases known : name ∈ names members
  · rw [set, if_pos known, names_replace]
    exact ⟨.inr, fun either => either.elim (fun same => same ▸ known) id⟩
  · rw [names, ((set_perm known value).map Prod.fst).mem_iff]
    simp [names]

theorem get_of_mem {members : Members} (distinct : (names members).Nodup) {name : Str}
    {value : Value} (listed : (name, value) ∈ members) : get members name = some value := by
  induction members with
  | nil => cases listed
  | cons member rest ih =>
    simp only [names_cons, List.nodup_cons] at distinct
    rcases List.mem_cons.mp listed with rfl | later
    · simp
    · have other : name ≠ member.1 := by
        rintro rfl
        exact distinct.1 (List.mem_map.mpr ⟨_, later, rfl⟩)
      simp [other, ih distinct.2 later]

theorem mem_of_get {members : Members} {name : Str} {value : Value}
    (found : get members name = some value) : (name, value) ∈ members := by
  induction members with
  | nil => cases found
  | cons member rest ih =>
    rw [get_cons] at found
    split_ifs at found with same
    · rw [same, ← Option.some.inj found]
      exact List.mem_cons_self
    · exact List.mem_cons_of_mem _ (ih found)

theorem get_eq_none {members : Members} {name : Str} :
    get members name = none ↔ name ∉ names members := by
  induction members with
  | nil => simp
  | cons member rest ih => by_cases same : name = member.1 <;> simp [same, ih]

/-- A lookup does not see the order. -/
theorem get_perm {first second : Members} (distinct : (names first).Nodup)
    (perm : first.Perm second) (name : Str) : get first name = get second name := by
  have distinct' : (names second).Nodup := (perm.map Prod.fst).nodup_iff.mp distinct
  cases found : get first name with
  | some value => exact (get_of_mem distinct' (perm.mem_iff.mp (mem_of_get found))).symm
  | none =>
    refine (get_eq_none.mpr fun listed => get_eq_none.mp found ?_).symm
    exact (perm.map Prod.fst).mem_iff.mpr listed

theorem get_replace (members : Members) (name other : Str) (value : Value) :
    get (replace members name value) other =
      if other = name ∧ name ∈ names members then some value else get members other := by
  induction members with
  | nil => simp [replace]
  | cons member rest ih =>
    simp only [replace, List.map_cons, get_cons, names_cons, List.mem_cons] at ih ⊢
    rw [ih]
    by_cases first : member.1 = name <;> by_cases same : other = name <;>
      by_cases here : other = member.1 <;> simp_all

theorem get_set {members : Members} (distinct : (names members).Nodup) (name other : Str)
    (value : Value) :
    get (set members name value) other = if other = name then some value else get members other := by
  by_cases known : name ∈ names members
  · rw [set, if_pos known, get_replace]
    simp [known]
  · have perm := set_perm known value
    have distinct' : (names ((name, value) :: members)).Nodup := by
      simpa using ⟨known, distinct⟩
    rw [get_perm ((perm.map Prod.fst).nodup_iff.mpr distinct') perm, get_cons]

/-! ## What an object keeps -/

theorem kept_nil : Kept [] := ⟨List.nodup_nil, List.Pairwise.nil⟩

/-- Names that are no indices may stand in any order. -/
theorem kept_of_unindexed {members : Members} (distinct : (names members).Nodup)
    (unindexed : ∀ name ∈ names members, index? name = none) : Kept members := by
  refine ⟨distinct, List.pairwise_of_forall_mem_list fun _ _ name listed j indexed => ?_⟩
  rw [unindexed name listed] at indexed
  cases indexed

theorem Kept.sublist {first second : Members} (kept : Kept second) (sub : first.Sublist second) :
    Kept first :=
  ⟨kept.distinct.sublist (sub.map _), kept.ordered.sublist (sub.map _)⟩

theorem kept_delete {members : Members} (kept : Kept members) (name : Str) :
    Kept (delete members name) :=
  kept.sublist List.filter_sublist

theorem ordered_insertIndex {members : Members} (ordered : (names members).Pairwise Before)
    {name : Str} {i : ℕ} (indexed : index? name = some i) (fresh : name ∉ names members)
    (value : Value) : (names (insertIndex i (name, value) members)).Pairwise Before := by
  induction members with
  | nil => simp [insertIndex]
  | cons member rest ih =>
    simp only [names_cons, List.pairwise_cons, List.mem_cons, not_or] at ordered fresh
    unfold insertIndex
    split_ifs with smaller
    · obtain ⟨j, here, less⟩ : ∃ j, index? member.1 = some j ∧ j < i := by
        cases here : index? member.1 with
        | none => simp [here] at smaller
        | some j => exact ⟨j, rfl, by simpa [here] using smaller⟩
      refine List.pairwise_cons.mpr ⟨fun other listed => ?_, ih ordered.2 fresh.2⟩
      have listed' := (((insertIndex_perm i (name, value) rest).map Prod.fst).mem_iff).mp listed
      rcases List.mem_cons.mp listed' with same | later
      · intro k known
        rw [same] at known
        obtain rfl := Option.some.inj (indexed.symm.trans known)
        exact ⟨j, here, less⟩
      · exact ordered.1 other later
    · -- no member from here on has a smaller index
      have before : Before name member.1 := by
        intro j here
        refine ⟨i, indexed, lt_of_le_of_ne ?_ fun same => ?_⟩
        · simpa [here] using smaller
        · exact fresh.1 (index?_injective indexed (same ▸ here))
      refine List.pairwise_cons.mpr ⟨fun other listed => ?_, List.pairwise_cons.mpr ordered⟩
      rcases List.mem_cons.mp listed with rfl | later
      · exact before
      · intro k known
        obtain ⟨j, here, less⟩ := ordered.1 other later k known
        obtain ⟨i', indexed', less'⟩ := before j here
        exact ⟨i', indexed', less'.trans less⟩

theorem kept_set {members : Members} (kept : Kept members) (name : Str) (value : Value) :
    Kept (set members name value) := by
  by_cases known : name ∈ names members
  · rw [set, if_pos known]
    exact ⟨by rw [names_replace]; exact kept.distinct, by rw [names_replace]; exact kept.ordered⟩
  · refine ⟨?_, ?_⟩
    · rw [names, ((set_perm known value).map Prod.fst).nodup_iff]
      exact List.nodup_cons.mpr ⟨known, kept.distinct⟩
    · rw [set, if_neg known]
      split
      next unindexed =>
        rw [names_append, List.pairwise_append]
        refine ⟨kept.ordered, List.pairwise_singleton _ _, fun first _ second listed => ?_⟩
        obtain rfl := List.mem_singleton.mp listed
        intro j indexed
        rw [unindexed] at indexed
        cases indexed
      next i indexed => exact ordered_insertIndex kept.ordered indexed known value

theorem kept_spread {base : Members} (kept : Kept base) (extra : Members) :
    Kept (spread base extra) := by
  induction extra generalizing base with
  | nil => exact kept
  | cons entry rest ih => exact ih (kept_set kept entry.1 entry.2)

theorem kept_ofEntries (entries : Members) : Kept (ofEntries entries) :=
  kept_spread kept_nil entries

theorem insertIndex_last {members : Members} {i : ℕ}
    (smaller : ∀ member ∈ members, ∃ j, index? member.1 = some j ∧ j < i) (entry : Str × Value) :
    insertIndex i entry members = members ++ [entry] := by
  induction members with
  | nil => rfl
  | cons member rest ih =>
    obtain ⟨j, here, less⟩ := smaller member List.mem_cons_self
    rw [insertIndex, if_pos (by simp [here, less]),
      ih fun other listed => smaller other (List.mem_cons_of_mem _ listed)]
    rfl

theorem set_last {members : Members} {entry : Str × Value} (kept : Kept (members ++ [entry])) :
    set members entry.1 entry.2 = members ++ [entry] := by
  have distinct := kept.distinct
  have ordered := kept.ordered
  simp only [names_append, names_cons, names_nil, List.nodup_append, List.pairwise_append,
    List.mem_singleton, forall_eq] at distinct ordered
  have fresh : entry.1 ∉ names members := fun listed => distinct.2.2 _ listed rfl
  rw [set, if_neg fresh]
  split
  next => rfl
  next i indexed =>
    refine insertIndex_last (fun member listed => ?_) _
    exact ordered.2.2 member.1 (List.mem_map_of_mem listed) i indexed

theorem spread_append {before after : Members} (kept : Kept (before ++ after)) :
    spread before after = before ++ after := by
  induction after generalizing before with
  | nil => simp [spread]
  | cons entry rest ih =>
    have split : before ++ entry :: rest = before ++ [entry] ++ rest := by simp
    have one : Kept (before ++ [entry]) :=
      kept.sublist (split ▸ List.sublist_append_left _ _)
    rw [spread, List.foldl_cons, set_last one, split]
    exact ih (split ▸ kept)

/-- Reading back the members of an object changes nothing. -/
theorem ofEntries_eq {members : Members} (kept : Kept members) : ofEntries members = members := by
  have whole : Kept ([] ++ members) := kept
  exact spread_append whole

theorem get_spread {base extra : Members} (kept : Kept base) (distinct : (names extra).Nodup)
    (name : Str) : get (spread base extra) name = (get extra name).or (get base name) := by
  induction extra generalizing base with
  | nil => rfl
  | cons entry rest ih =>
    simp only [names_cons, List.nodup_cons] at distinct
    have step : get (spread base (entry :: rest)) name = _ :=
      ih (kept_set kept entry.1 entry.2) distinct.2
    rw [step, get_set kept.distinct]
    by_cases same : name = entry.1
    · simp [same, get_eq_none.mpr distinct.1]
    · simp [same]

theorem get_delete (members : Members) (name other : Str) :
    get (delete members name) other = if other = name then none else get members other := by
  induction members with
  | nil => simp [delete]
  | cons member rest ih =>
    unfold delete at ih ⊢
    rw [List.filter_cons]
    by_cases first : member.1 = name <;> by_cases same : other = name <;>
      by_cases here : other = member.1 <;> simp_all

theorem delete_insertIndex (i : ℕ) (name : Str) (value : Value) (members : Members) :
    delete (insertIndex i (name, value) members) name = delete members name := by
  induction members with
  | nil => simp [insertIndex, delete]
  | cons member rest ih =>
    unfold delete at ih ⊢
    unfold insertIndex
    split_ifs
    · simp only [List.filter_cons, ih]
    · simp [List.filter_cons]

theorem delete_replace (members : Members) (name : Str) (value : Value) :
    delete (replace members name value) name = delete members name := by
  unfold delete replace
  induction members with
  | nil => rfl
  | cons member rest ih => by_cases same : member.1 = name <;> simpa [same] using ih

/-- What was set is gone when it is deleted. -/
theorem delete_set (members : Members) (name : Str) (value : Value) :
    delete (set members name value) name = delete members name := by
  unfold set
  split_ifs
  · exact delete_replace _ _ _
  · split
    · simp [delete]
    · exact delete_insertIndex _ _ _ _

theorem mem_set {members : Members} {name : Str} {value : Value} {member : Str × Value}
    (listed : member ∈ set members name value) : member = (name, value) ∨ member ∈ members := by
  by_cases known : name ∈ names members
  · rw [set, if_pos known, replace] at listed
    obtain ⟨before, here, rfl⟩ := List.mem_map.mp listed
    split_ifs
    · exact .inl rfl
    · exact .inr here
  · exact List.mem_cons.mp ((set_perm known value).mem_iff.mp listed)

theorem mem_spread {base extra : Members} {member : Str × Value}
    (listed : member ∈ spread base extra) : member ∈ base ∨ member ∈ extra := by
  induction extra generalizing base with
  | nil => exact .inl listed
  | cons entry rest ih =>
    have after : member ∈ spread (set base entry.1 entry.2) rest := listed
    rcases ih after with earlier | later
    · rcases mem_set earlier with rfl | before
      · exact .inr List.mem_cons_self
      · exact .inl before
    · exact .inr (List.mem_cons_of_mem _ later)

theorem mem_ofEntries {entries : Members} {member : Str × Value}
    (listed : member ∈ ofEntries entries) : member ∈ entries := by
  have spreads : member ∈ spread [] entries := listed
  exact (mem_spread spreads).resolve_left List.not_mem_nil

end Members

/-- A value whose objects keep their members as the language does. -/
inductive Own : Value → Prop
  | null : Own .null
  | bool (value : Bool) : Own (.bool value)
  | number (n : Number) : Own (.number n)
  | string (text : Str) : Own (.string text)
  | array {items : List Value} (items' : ∀ item ∈ items, Own item) : Own (.array items)
  | object {members : Members} (kept : members.Kept) (values : ∀ member ∈ members, Own member.2) :
    Own (.object members)

theorem Own.kept {members : Members} (own : Own (.object members)) : members.Kept := by
  cases own with
  | object kept _ => exact kept

theorem Own.member {members : Members} (own : Own (.object members)) {member : Str × Value}
    (listed : member ∈ members) : Own member.2 := by
  cases own with
  | object _ values => exact values member listed

theorem Own.item {items : List Value} (own : Own (.array items)) {item : Value}
    (listed : item ∈ items) : Own item := by
  cases own with
  | array values => exact values item listed

end Shared.Ecma

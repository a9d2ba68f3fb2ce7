import Kufi.Shared.JsonText
import Kufi.Shared.Number

set_option autoImplicit false

/-!
# Members by name

What a program finds under a name: the last value that JavaScript has set, or
the members that Go takes for a field.
-/

namespace Shared.Json

abbrev Members := List (String × Json)

namespace Members

def names (members : Members) : List String := members.map Prod.fst

/-! ## Setting members -/

-- A name that is there keeps its place.
def set : Members → String → Json → Members
  | [], name, value => [(name, value)]
  | member :: rest, name, value =>
    if member.1 = name then (name, value) :: rest else member :: set rest name value

/-- `{...base, ...extra}`. -/
def spread (base extra : Members) : Members :=
  extra.foldl (fun members member => members.set member.1 member.2) base

def get (members : Members) (name : String) : Option Json := members.lookup name

@[simp] theorem get_nil (name : String) : get [] name = none := rfl

@[simp] theorem get_cons (member : String × Json) (rest : Members) (name : String) :
    get (member :: rest) name = if name = member.1 then some member.2 else get rest name := by
  obtain ⟨first, value⟩ := member
  unfold get
  by_cases same : name = first
  · simp [same]
  · have other : (name == first) = false := by simpa using same
    simp [List.lookup_cons, same, other]

@[simp] theorem names_cons (member : String × Json) (rest : Members) :
    names (member :: rest) = member.1 :: names rest := rfl

theorem get_set (members : Members) (name other : String) (value : Json) :
    get (set members name value) other = if other = name then some value else get members other := by
  induction members with
  | nil => simp [set]
  | cons member rest ih =>
    simp only [set]
    split
    next first => by_cases same : other = name <;> simp [first, same]
    next first =>
      simp only [get_cons, ih]
      by_cases same : other = member.1 <;> simp [same, first]

theorem mem_names_set {members : Members} {name other : String} {value : Json} :
    other ∈ names (set members name value) ↔ other = name ∨ other ∈ names members := by
  induction members with
  | nil => simp [set, names]
  | cons member rest ih =>
    simp only [set]
    split
    next first => simp [first]
    next first =>
      simp only [names_cons, List.mem_cons, ih]
      tauto

theorem nodup_set {members : Members} (distinct : (names members).Nodup) (name : String)
    (value : Json) : (names (set members name value)).Nodup := by
  induction members with
  | nil => simp [set, names]
  | cons member rest ih =>
    simp only [names_cons, List.nodup_cons] at distinct
    simp only [set]
    split
    next first => simpa [← first] using distinct
    next first =>
      simp only [names_cons, List.nodup_cons, mem_names_set, not_or]
      exact ⟨⟨first, distinct.1⟩, ih distinct.2⟩

theorem get_eq_none {members : Members} {name : String} (absent : name ∉ names members) :
    get members name = none := by
  induction members with
  | nil => rfl
  | cons member rest ih =>
    simp only [names_cons, List.mem_cons, not_or] at absent
    simp [absent.1, ih absent.2]

theorem get_of_mem {members : Members} (distinct : (names members).Nodup) {name : String}
    {value : Json} (listed : (name, value) ∈ members) : get members name = some value := by
  induction members with
  | nil => cases listed
  | cons member rest ih =>
    simp only [names_cons, List.nodup_cons] at distinct
    rcases List.mem_cons.mp listed with rfl | later
    · simp
    · have other : name ≠ member.1 := by
        rintro rfl
        exact distinct.1 (List.mem_map.mpr ⟨_, later, rfl⟩)
      simp [other, ih distinct.2 later]

theorem get_spread (base : Members) {extra : Members} (distinct : (names extra).Nodup)
    (name : String) :
    get (spread base extra) name = (get extra name).or (get base name) := by
  induction extra generalizing base with
  | nil => rfl
  | cons member rest ih =>
    simp only [names_cons, List.nodup_cons] at distinct
    have step : get (spread base (member :: rest)) name = _ :=
      ih (set base member.1 member.2) distinct.2
    rw [step, get_set]
    by_cases same : name = member.1
    · simp [same, get_eq_none distinct.1]
    · simp [same]

theorem nodup_spread {base : Members} (distinct : (names base).Nodup) (extra : Members) :
    (names (spread base extra)).Nodup := by
  induction extra generalizing base with
  | nil => exact distinct
  | cons member rest ih => exact ih (nodup_set distinct _ _)

theorem mem_names_spread {base extra : Members} {name : String}
    (listed : name ∈ names (spread base extra)) : name ∈ names base ∨ name ∈ names extra := by
  induction extra generalizing base with
  | nil => exact .inl listed
  | cons member rest ih =>
    have earlier : name ∈ names (set base member.1 member.2) ∨ name ∈ names rest := ih listed
    simp only [mem_names_set, names_cons, List.mem_cons] at earlier ⊢
    tauto

theorem set_fresh {members : Members} {name : String} (fresh : name ∉ names members)
    (value : Json) : set members name value = members ++ [(name, value)] := by
  induction members with
  | nil => rfl
  | cons member rest ih =>
    simp only [names_cons, List.mem_cons, not_or] at fresh
    simp [set, Ne.symm fresh.1, ih fresh.2]

/-- Members with different names are set one after the other. -/
theorem spread_append {before after : Members} (distinct : (names (before ++ after)).Nodup) :
    spread before after = before ++ after := by
  induction after generalizing before with
  | nil => simp [spread]
  | cons member rest ih =>
    have fresh : set before member.1 member.2 = before ++ [member] := by
      refine set_fresh (fun listed => ?_) _
      simp only [names, List.map_append, List.map_cons, List.nodup_append] at distinct
      exact distinct.2.2 _ listed _ List.mem_cons_self rfl
    have later : spread (before ++ [member]) rest = before ++ [member] ++ rest :=
      ih (by simpa using distinct)
    simp only [spread, List.foldl_cons] at later ⊢
    rw [fresh, later]
    simp

end Members

/-! ## What JavaScript keeps of a text -/

mutual

/-- The value of a parsed text: numbers are doubles and of members of one name the last counts. -/
def jsValue : Json → Json
  | .number n => .number (Number.round n)
  | .array items => .array (jsItems items)
  | .object members => .object (Members.spread [] (jsMembers members))
  | json => json

def jsItems : List Json → List Json
  | [] => []
  | item :: rest => jsValue item :: jsItems rest

def jsMembers : Members → Members
  | [] => []
  | (name, value) :: rest => (name, jsValue value) :: jsMembers rest

end

theorem jsItems_eq_map (items : List Json) : jsItems items = items.map jsValue := by
  induction items with
  | nil => rfl
  | cons item rest ih => simp [jsItems, ih]

theorem jsMembers_eq_map (members : Members) :
    jsMembers members = members.map fun member => (member.1, jsValue member.2) := by
  induction members with
  | nil => rfl
  | cons member rest ih => simp [jsMembers, ih]

@[simp] theorem names_jsMembers (members : Members) :
    Members.names (jsMembers members) = Members.names members := by
  simp [jsMembers_eq_map, Members.names]

theorem get_jsMembers (members : Members) (name : String) :
    Members.get (jsMembers members) name = (Members.get members name).map jsValue := by
  induction members with
  | nil => rfl
  | cons member rest ih =>
    obtain ⟨first, value⟩ := member
    by_cases same : name = first <;> simp [jsMembers, same, ih]

theorem jsValue_object {members : Members} (distinct : (Members.names members).Nodup) :
    jsValue (.object members) = .object (jsMembers members) := by
  rw [jsValue, Members.spread_append (by simpa using distinct)]
  rfl

/-- A value that JavaScript takes over as it is. -/
def Steady (json : Json) : Prop := jsValue json = json

theorem steady_number {n : Int} (small : n.natAbs < 2 ^ 53) : Steady (.number n) :=
  congrArg number ((Number.round_eq_iff n).mpr (Number.exact_of_small small))

@[simp] theorem steady_null : Steady .null := rfl
@[simp] theorem steady_bool (value : Bool) : Steady (.bool value) := rfl
@[simp] theorem steady_string (text : String) : Steady (.string text) := rfl

theorem steady_array {items : List Json} (steady : ∀ item ∈ items, Steady item) :
    Steady (.array items) := by
  rw [Steady, jsValue, jsItems_eq_map, List.map_congr_left (g := id) steady, List.map_id]

theorem steady_object {members : Members} (distinct : (Members.names members).Nodup)
    (steady : ∀ member ∈ members, Steady member.2) : Steady (.object members) := by
  rw [Steady, jsValue_object distinct, jsMembers_eq_map]
  congr 1
  conv_rhs => rw [← List.map_id members]
  exact List.map_congr_left fun member listed => Prod.ext rfl (steady member listed)

/-! ## The members that Go takes for a field -/

-- Go's folding as far as names of ASCII characters are concerned.
def foldChar (c : Char) : Char :=
  if c.toNat = 0x17F then 'S' else if c.toNat = 0x212A then 'K' else c.toUpper

def sameName (first second : String) : Bool :=
  first.toList.map foldChar = second.toList.map foldChar

def folded (name : String) : List Char := name.toList.map foldChar

def named (members : Members) (name : String) : List Json :=
  (members.filter fun member => sameName member.1 name).map Prod.snd

theorem named_cons (member : String × Json) (rest : Members) (name : String) :
    named (member :: rest) name =
      if sameName member.1 name = true then member.2 :: named rest name else named rest name := by
  unfold named
  rw [List.filter_cons]
  split <;> rfl

def lowerChars : List Char := "abcdefghijklmnopqrstuvwxyz_".toList

def Lower (name : String) : Prop := ∀ c ∈ name.toList, c ∈ lowerChars

instance (name : String) : Decidable (Lower name) :=
  decidable_of_iff (name.toList.all lowerChars.contains = true) (by simp [Lower])

theorem sameName_iff {first second : String} (lower : Lower first) (lower' : Lower second) :
    sameName first second = true ↔ first = second := by
  have table : (lowerChars.map foldChar).Nodup := by decide
  refine ⟨fun same => ?_, fun same => by simp [sameName, same]⟩
  simp only [sameName, decide_eq_true_eq] at same
  apply String.toList_inj.mp
  unfold Lower at lower lower'
  generalize first.toList = chars at *
  generalize second.toList = chars' at *
  induction chars generalizing chars' with
  | nil => cases chars' <;> simp_all
  | cons c chars ih =>
    cases chars' with
    | nil => simp at same
    | cons d chars' =>
      simp only [List.map_cons, List.cons.injEq, List.forall_mem_cons] at same lower lower'
      have head := List.inj_on_of_nodup_map table lower.1 lower'.1 same.1
      rw [head, ih lower.2 chars' lower'.2 same.2]

theorem named_eq_get {members : Members} (distinct : (Members.names members).Nodup)
    (lower : ∀ name ∈ Members.names members, Lower name) {name : String} (field : Lower name) :
    named members name = (Members.get members name).toList := by
  induction members with
  | nil => rfl
  | cons member rest ih =>
    simp only [Members.names_cons, List.nodup_cons, List.forall_mem_cons] at distinct lower
    have later := ih distinct.2 lower.2
    have head := sameName_iff lower.1 field
    by_cases same : name = member.1
    · subst same
      rw [named_cons, if_pos (head.mpr rfl), later, Members.get_eq_none distinct.1]
      simp
    · rw [named_cons, if_neg fun taken => same (head.mp taken).symm, later]
      simp [same]

end Shared.Json

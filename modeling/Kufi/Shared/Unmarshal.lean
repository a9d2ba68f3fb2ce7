import Kufi.Shared.JsonObject

set_option autoImplicit false

/-!
# Reading Go structures

`json.Unmarshal` reads a value into what is already there; `null` changes nothing but
pointers and slices. A structure written by `json.Marshal` is read back.
-/

namespace Shared

namespace Unmarshal

open Json Marshal

def intoString : Json → String → Option String
  | .null, value => some value
  | .string text, _ => some text
  | _, _ => none

def intoBool : Json → Bool → Option Bool
  | .null, value => some value
  | .bool value, _ => some value
  | _, _ => none

-- A number that the type does not hold is an error.
def intoInt (bits : Nat) : Json → Int → Option Int
  | .null, value => some value
  | .number n, _ => if -2 ^ (bits - 1) ≤ n ∧ n < 2 ^ (bits - 1) then some n else none
  | _, _ => none

def intoUint (bits : Nat) : Json → Nat → Option Nat
  | .null, value => some value
  | .number n, _ => if 0 ≤ n ∧ n < 2 ^ bits then some n.toNat else none
  | _, _ => none

section

variable {A : Type} (zero : A) (into : Json → A → Option A)

def intoPointer : Json → Option A → Option (Option A)
  | .null, _ => some none
  | json, value => (into json (value.getD zero)).map some

def intoSlice : Json → Slice A → Option (Slice A)
  | .null, _ => some none
  | .array items, _ => (items.mapM fun json => into json zero).map some
  | _, _ => none

end

def intoStruct {A : Type} (read : Members → A → Option A) : Json → A → Option A
  | .null, value => some value
  | .object members, value => read members value
  | _, _ => none

/-- The members that Go takes for the field, one after the other. -/
def field {A : Type} (into : Json → A → Option A) (members : Members) (name : String)
    (value : A) : Option A :=
  (named members name).foldlM (fun value json => into json value) value

/-! ## Fields that were written -/

section

variable {A : Type} [Marshal A] {into : Json → A → Option A} {members : Members} {name : String}
  {current value : A}

theorem field_always (found : named members name = (always value).toList)
    (reads : into (marshal value) current = some value) :
    field into members name current = some value := by
  simp [field, found, always, reads]

theorem field_omitEmpty [DecidableEq A]
    (found : named members name = (omitEmpty current value).toList)
    (reads : into (marshal value) current = some value) :
    field into members name current = some value := by
  unfold omitEmpty at found
  split_ifs at found with same
  · simp [field, found, same]
  · simp [field, found, reads]

theorem field_omitNil {zero : A} {pointer : Option A}
    (found : named members name = (omitNil pointer).toList)
    (reads : ∀ value, pointer = some value → into (marshal value) zero = some value)
    (real : ∀ value : A, marshal value ≠ .null) :
    field (intoPointer zero into) members name none = some pointer := by
  cases pointer with
  | none => simp [field, found, omitNil]
  | some value =>
    have read : intoPointer zero into (marshal value) none = some (some value) := by
      cases json : marshal value with
      | null => exact absurd json (real value)
      | _ => simp [intoPointer, ← json, reads value rfl]
    simp [field, found, omitNil, read]

theorem intoUint_number {bits n current : Nat} (wide : 53 ≤ bits) (small : n < 2 ^ 53) :
    intoUint bits (.number n) current = some n := by
  have bound : (2 : Int) ^ 53 ≤ 2 ^ bits := by
    exact_mod_cast Nat.pow_le_pow_right (by decide) wide
  simp only [intoUint]
  rw [if_pos (by omega), Int.toNat_natCast]

theorem intoSlice_marshal {zero : A} {slice : Slice A}
    (reads : ∀ value ∈ slice.items, into (marshal value) zero = some value) (current : Slice A) :
    intoSlice zero into (marshal slice) current = some slice := by
  cases slice with
  | none => rfl
  | some items =>
    have all : (items.map marshal).mapM (fun json => into json zero) = some items := by
      change ∀ value ∈ items, _ at reads
      induction items with
      | nil => rfl
      | cons value rest ih =>
        simp only [List.forall_mem_cons] at reads
        simp [reads.1, ih reads.2]
    exact congrArg (Option.map some) all

end

section

variable {members : Members} {name : String}

theorem field_string {current value : String}
    (found : named members name = (always value).toList) :
    field intoString members name current = some value :=
  field_always found rfl

theorem field_bool {current value : Bool}
    (found : named members name = (always value).toList) :
    field intoBool members name current = some value :=
  field_always found rfl

theorem field_string_omitEmpty {value : String}
    (found : named members name = (omitEmpty "" value).toList) :
    field intoString members name "" = some value :=
  field_omitEmpty found rfl

theorem field_int64 {current value : Int} (found : named members name = (always value).toList)
    (held : -2 ^ 63 ≤ value ∧ value < 2 ^ 63) :
    field (intoInt 64) members name current = some value :=
  field_always found (if_pos held)

theorem field_int64_omitEmpty {value : Int}
    (found : named members name = (omitEmpty 0 value).toList)
    (held : -2 ^ 63 ≤ value ∧ value < 2 ^ 63) : field (intoInt 64) members name 0 = some value :=
  field_omitEmpty found (if_pos held)

theorem field_int {current value : Int} (found : named members name = (always value).toList)
    (small : value.natAbs < 2 ^ 53) : field (intoInt 64) members name current = some value :=
  field_int64 found (by omega)

theorem field_int_omitEmpty {value : Int}
    (found : named members name = (omitEmpty 0 value).toList)
    (small : value.natAbs < 2 ^ 53) : field (intoInt 64) members name 0 = some value :=
  field_int64_omitEmpty found (by omega)

end

/-! ## Structures that were written -/

section

variable {fields : List (String × Option Json)}

def present (fields : List (String × Option Json)) : Members :=
  fields.filterMap fun entry => entry.2.map fun value => (entry.1, value)

theorem names_present : (Members.names (present fields)).Sublist (fields.map Prod.fst) := by
  induction fields with
  | nil => exact .slnil
  | cons entry rest ih =>
    obtain ⟨name, value⟩ := entry
    cases value with
    | none => exact ih.cons _
    | some value => exact ih.cons_cons _

theorem get_present (distinct : (fields.map Prod.fst).Nodup) {entry : String × Option Json}
    (listed : entry ∈ fields) : Members.get (present fields) entry.1 = entry.2 := by
  have unique := distinct.sublist names_present
  cases value : entry.2 with
  | some json =>
    exact Members.get_of_mem unique (List.mem_filterMap.mpr ⟨entry, listed, by simp [value]⟩)
  | none =>
    refine Members.get_eq_none fun found => ?_
    obtain ⟨member, written, same⟩ := List.mem_map.mp found
    obtain ⟨other, listed', pair⟩ := List.mem_filterMap.mp written
    obtain ⟨json, value', rfl⟩ := Option.map_eq_some_iff.mp pair
    have equal : other = entry := List.inj_on_of_nodup_map distinct listed' listed same
    simp [equal, value] at value'

def WellNamed (names : List String) : Prop := names.Nodup ∧ ∀ name ∈ names, Lower name

instance (names : List String) : Decidable (WellNamed names) :=
  inferInstanceAs (Decidable (_ ∧ _))

/-- Go finds under each field what was written for it. -/
def Agree (members : Members) (fields : List (String × Option Json)) : Prop :=
  ∀ entry ∈ fields, named members entry.1 = entry.2.toList

theorem agree_of_get {members : Members} (well : WellNamed (Members.names members))
    (well' : WellNamed (fields.map Prod.fst))
    (found : ∀ entry ∈ fields, Members.get members entry.1 = entry.2) : Agree members fields := by
  intro entry listed
  rw [named_eq_get well.1 well.2 (well'.2 _ (List.mem_map_of_mem listed)), found entry listed]

theorem wellNamed_present (well : WellNamed (fields.map Prod.fst)) :
    WellNamed (Members.names (present fields)) :=
  ⟨well.1.sublist names_present, fun name listed => well.2 name (names_present.subset listed)⟩

theorem agree_present (well : WellNamed (fields.map Prod.fst)) : Agree (present fields) fields :=
  agree_of_get (wellNamed_present well) well fun _ listed => get_present well.1 listed

theorem intoStruct_struct {A : Type} {read : Members → A → Option A} {current value : A}
    (well : WellNamed (fields.map Prod.fst))
    (reads : ∀ members, Agree members fields → read members current = some value) :
    intoStruct read (struct fields) current = some value :=
  reads (present fields) (agree_present well)

/-- No two of the names differ in their case alone. -/
def FoldedApart (names : List String) : Prop := (names.map folded).Nodup

instance (names : List String) : Decidable (FoldedApart names) :=
  inferInstanceAs (Decidable (List.Nodup _))

theorem named_present_eq_nil {name : String} (unused : folded name ∉ (fields.map Prod.fst).map folded) :
    named (present fields) name = [] := by
  refine List.map_eq_nil_iff.mpr (List.filter_eq_nil_iff.mpr fun member written same => unused ?_)
  have listed := names_present.subset (List.mem_map_of_mem written)
  exact List.mem_map.mpr ⟨member.1, listed, of_decide_eq_true same⟩

theorem agree_present_of_apart (apart : FoldedApart (fields.map Prod.fst)) :
    Agree (present fields) fields := by
  intro entry listed
  induction fields with
  | nil => cases listed
  | cons head rest ih =>
    obtain ⟨name, value⟩ := head
    obtain ⟨fresh, apart⟩ := List.nodup_cons.mp apart
    rcases List.mem_cons.mp listed with rfl | later
    · -- the other names are different ones to Go
      have others := named_present_eq_nil fresh
      cases value with
      | none => exact others
      | some json =>
        have taken : sameName name name = true := by simp [sameName]
        change named ((name, json) :: present rest) name = _
        rw [named_cons, if_pos taken, others]
        rfl
    · have found := ih apart later
      cases value with
      | none => exact found
      | some json =>
        have other : ¬ sameName name entry.1 = true := by
          intro same
          have folds : folded name = folded entry.1 := of_decide_eq_true same
          exact fresh (folds ▸ List.mem_map_of_mem (List.mem_map_of_mem later))
        change named ((name, json) :: present rest) entry.1 = _
        rw [named_cons, if_neg other, found]

theorem intoStruct_struct_of_apart {A : Type} {read : Members → A → Option A} {current value : A}
    (apart : FoldedApart (fields.map Prod.fst))
    (reads : ∀ members, Agree members fields → read members current = some value) :
    intoStruct read (struct fields) current = some value :=
  reads (present fields) (agree_present_of_apart apart)

/-- JavaScript takes over what is written for the field, if anything is. -/
def SteadyField (value : Option Json) : Prop := ∀ json, value = some json → Steady json

theorem steady_struct (well : WellNamed (fields.map Prod.fst))
    (steady : ∀ entry ∈ fields, SteadyField entry.2) : Steady (struct fields) := by
  refine steady_object (well.1.sublist names_present) fun member written => ?_
  obtain ⟨entry, listed, pair⟩ := List.mem_filterMap.mp written
  obtain ⟨json, value, rfl⟩ := Option.map_eq_some_iff.mp pair
  exact steady entry listed json value

end

section

variable {A : Type} [Marshal A] {value : A}

theorem steady_always (steady : Steady (marshal value)) : SteadyField (always value) := by
  rintro json ⟨⟩
  exact steady

theorem steady_omitEmpty [DecidableEq A] {zero : A} (steady : Steady (marshal value)) :
    SteadyField (omitEmpty zero value) := by
  intro json written
  unfold omitEmpty at written
  split_ifs at written
  cases written
  exact steady

theorem steady_omitNil {pointer : Option A}
    (steady : ∀ value, pointer = some value → Steady (marshal value)) :
    SteadyField (omitNil pointer) := by
  intro json written
  obtain ⟨value, pointed, rfl⟩ := Option.map_eq_some_iff.mp written
  exact steady value pointed

end

end Unmarshal

end Shared

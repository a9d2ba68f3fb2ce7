import Kufi.Shared.EcmaOrder

set_option autoImplicit false

/-!
# Values up to the order of their members

Sorting the members of every object forgets how they were ordered, as far as
the comparison tells names apart.
-/

namespace Shared.Ecma

/-- The first value is the second one or somewhere in it. -/
inductive Within : Value → Value → Prop
  | self (value : Value) : Within value value
  | item {part item : Value} {items : List Value} (listed : item ∈ items)
      (within : Within part item) : Within part (.array items)
  | member {part : Value} {member : Str × Value} {members : Members} (listed : member ∈ members)
      (within : Within part member.2) : Within part (.object members)

/-- A sort tells the names of every object apart. -/
def Distinguished (collation : Collation) (value : Value) : Prop :=
  ∀ members : Members, Within (.object members) value → SortedApart collation members.names

/-- The values differ in the order of members only. -/
inductive Similar : Value → Value → Prop
  | refl (value : Value) : Similar value value
  | array {items items' : List Value} (length : items.length = items'.length)
      (each : ∀ (i : ℕ) item item', items[i]? = some item → items'[i]? = some item' →
        Similar item item') : Similar (.array items) (.array items')
  | object {members members' : Members} (names : members.names.Perm members'.names)
      (each : ∀ name value value', members.get name = some value →
        members'.get name = some value' → Similar value value') :
    Similar (.object members) (.object members')

mutual

/-- The value with the members of every object sorted. -/
def sorted (collation : Collation) : Value → Value
  | .array items => .array (sortedItems collation items)
  | .object members => .object (collation.byName (sortedMembers collation members))
  | value => value

def sortedItems (collation : Collation) : List Value → List Value
  | [] => []
  | item :: rest => sorted collation item :: sortedItems collation rest

def sortedMembers (collation : Collation) : List (Str × Value) → List (Str × Value)
  | [] => []
  | (name, value) :: rest => (name, sorted collation value) :: sortedMembers collation rest

end

section

variable {collation : Collation}

theorem sortedItems_eq_map (items : List Value) :
    sortedItems collation items = items.map (sorted collation) := by
  induction items with
  | nil => rfl
  | cons item rest ih => simp [sortedItems, ih]

theorem sortedMembers_eq_map (members : Members) :
    sortedMembers collation members =
      members.map fun member => (member.1, sorted collation member.2) := by
  induction members with
  | nil => rfl
  | cons member rest ih => simp [sortedMembers, ih]

theorem distinguished_array {items : List Value} :
    Distinguished collation (.array items) ↔ ∀ item ∈ items, Distinguished collation item := by
  constructor
  · exact fun distinguished item listed members within => distinguished members (.item listed within)
  · intro each members within
    cases within with
    | item listed within => exact each _ listed members within

theorem distinguished_object {members : Members} :
    Distinguished collation (.object members) ↔ SortedApart collation members.names ∧
      ∀ member ∈ members, Distinguished collation member.2 := by
  constructor
  · intro distinguished
    exact ⟨distinguished members (.self _),
      fun member listed inner within => distinguished inner (.member listed within)⟩
  · rintro ⟨apart, each⟩ inner within
    cases within with
    | self => exact apart
    | member listed within => exact each _ listed inner within

theorem similar_array_iff {items items' : List Value} :
    Similar (.array items) (.array items') ↔ items.length = items'.length ∧
      ∀ (i : ℕ) item item', items[i]? = some item → items'[i]? = some item' → Similar item item' := by
  constructor
  · intro similar
    cases similar with
    | refl =>
      refine ⟨rfl, fun i item item' here there => ?_⟩
      obtain rfl := Option.some.inj (here.symm.trans there)
      exact .refl item
    | array length each => exact ⟨length, each⟩
  · exact fun ⟨length, each⟩ => .array length each

theorem similar_object_iff {members members' : Members} :
    Similar (.object members) (.object members') ↔ members.names.Perm members'.names ∧
      ∀ name value value', members.get name = some value → members'.get name = some value' →
        Similar value value' := by
  constructor
  · intro similar
    cases similar with
    | refl =>
      refine ⟨List.Perm.refl _, fun name value value' here there => ?_⟩
      obtain rfl := Option.some.inj (here.symm.trans there)
      exact .refl value
    | object names each => exact ⟨names, each⟩
  · exact fun ⟨names, each⟩ => .object names each

theorem Similar.symm {first second : Value} (similar : Similar first second) :
    Similar second first := by
  induction similar with
  | refl value => exact .refl value
  | array length _ ih => exact .array length.symm fun i item item' here there => ih i _ _ there here
  | object names _ ih =>
    exact .object names.symm fun name value value' here there => ih name _ _ there here

theorem Similar.trans {first second third : Value} (similar : Similar first second)
    (similar' : Similar second third) : Similar first third := by
  induction similar generalizing third with
  | refl value => exact similar'
  | @array items items' length each ih =>
    cases similar' with
    | refl => exact .array length each
    | array length' each' =>
      refine .array (length.trans length') fun i item item' here there => ?_
      have inside : i < items'.length := by
        rw [← length]
        exact (List.getElem?_eq_some_iff.mp here).1
      have between := List.getElem?_eq_getElem inside
      exact ih i _ _ here between (each' i _ _ between there)
  | @object members members' names each ih =>
    cases similar' with
    | refl => exact .object names each
    | object names' each' =>
      refine .object (names.trans names') fun name value value' here there => ?_
      have known : name ∈ members'.names :=
        names.mem_iff.mp (List.mem_map_of_mem (f := Prod.fst) (Members.mem_of_get here))
      obtain ⟨middle, between⟩ : ∃ middle, members'.get name = some middle := by
        cases found : members'.get name with
        | none => exact absurd known (Members.get_eq_none.mp found)
        | some middle => exact ⟨middle, rfl⟩
      exact ih name _ _ here between (each' name _ _ between there)

@[simp] theorem names_sortedMembers (members : Members) :
    Members.names (sortedMembers collation members) = members.names := by
  simp [sortedMembers_eq_map, Members.names]

theorem get_sortedMembers (members : Members) (name : Str) :
    Members.get (sortedMembers collation members) name =
      (members.get name).map (sorted collation) := by
  induction members with
  | nil => rfl
  | cons member rest ih => by_cases same : name = member.1 <;> simp [sortedMembers, same, ih]

theorem kept_sortedMembers {members : Members} (kept : members.Kept) :
    Members.Kept (sortedMembers collation members) :=
  ⟨by rw [names_sortedMembers]; exact kept.distinct, by rw [names_sortedMembers]; exact kept.ordered⟩

theorem get_byName {members : Members} (distinct : members.names.Nodup) (name : Str) :
    Members.get (collation.byName members) name = members.get name :=
  (Members.get_perm distinct (collation.byName_perm members).symm name).symm

theorem get_sorted {members : Members} (distinct : members.names.Nodup) (name : Str) :
    Members.get (collation.byName (sortedMembers collation members)) name =
      (members.get name).map (sorted collation) := by
  rw [get_byName (by rw [names_sortedMembers]; exact distinct), get_sortedMembers]

theorem similar_sorted {value : Value} (own : Own value) : Similar value (sorted collation value) := by
  induction value using Value.induction with
  | array items ih =>
    rw [sorted, sortedItems_eq_map]
    refine .array (by simp) fun i item item' here there => ?_
    rw [List.getElem?_map, here] at there
    obtain rfl := Option.some.inj there
    have listed := List.mem_of_getElem? here
    exact ih item listed (own.item listed)
  | object members ih =>
    rw [sorted]
    have perm := (collation.byName_perm (sortedMembers collation members)).map Prod.fst
    have names : Members.names (sortedMembers collation members) = members.names :=
      names_sortedMembers members
    refine .object (names ▸ perm.symm) fun name value value' here there => ?_
    rw [get_sorted own.kept.distinct, here] at there
    obtain rfl := Option.some.inj there
    have listed := Members.mem_of_get here
    exact ih _ listed (own.member listed)
  | _ => exact .refl _

theorem perm_of_get {first second : Members} (distinct : first.names.Nodup)
    (distinct' : second.names.Nodup) (same : ∀ name, first.get name = second.get name) :
    first.Perm second := by
  rw [List.perm_ext_iff_of_nodup (List.Nodup.of_map _ distinct) (List.Nodup.of_map _ distinct')]
  rintro ⟨name, value⟩
  constructor
  · exact fun listed => Members.mem_of_get (same name ▸ Members.get_of_mem distinct listed)
  · exact fun listed => Members.mem_of_get (same name ▸ Members.get_of_mem distinct' listed)

/-- Values that differ in the order of members only are sorted into the same value. -/
theorem sorted_eq_of_similar {first second : Value} (similar : Similar first second)
    (own : Own first) (own' : Own second) (distinguished : Distinguished collation first) :
    sorted collation first = sorted collation second := by
  induction similar with
  | refl => rfl
  | @array items items' length each ih =>
    rw [sorted, sorted, sortedItems_eq_map, sortedItems_eq_map]
    congr 1
    refine List.ext_getElem (by simpa using length) fun i inside inside' => ?_
    rw [List.length_map] at inside inside'
    simp only [List.getElem_map]
    have here := List.getElem_mem inside
    exact ih i _ _ (List.getElem?_eq_getElem inside) (List.getElem?_eq_getElem inside')
      (own.item here) (own'.item (List.getElem_mem inside'))
      (distinguished_array.mp distinguished _ here)
  | @object members members' names each ih =>
    obtain ⟨apart, inner⟩ := distinguished_object.mp distinguished
    have same (name : Str) : (members.get name).map (sorted collation) =
        (members'.get name).map (sorted collation) := by
      cases here : members.get name with
      | none =>
        have missing : name ∉ members'.names := fun listed =>
          Members.get_eq_none.mp here (names.mem_iff.mpr listed)
        rw [Members.get_eq_none.mpr missing]
      | some value =>
        have known := names.mem_iff.mp (List.mem_map_of_mem (f := Prod.fst) (Members.mem_of_get here))
        cases there : members'.get name with
        | none => exact absurd known (Members.get_eq_none.mp there)
        | some value' =>
          have listed := Members.mem_of_get here
          exact congrArg some (ih name _ _ here there (own.member listed)
            (own'.member (Members.mem_of_get there)) (inner _ listed))
    have perm : (sortedMembers collation members).Perm (sortedMembers collation members') := by
      refine perm_of_get (kept_sortedMembers own.kept).distinct
        (kept_sortedMembers own'.kept).distinct fun name => ?_
      rw [get_sortedMembers, get_sortedMembers, same name]
    rw [sorted, sorted, byName_eq_of_perm (kept_sortedMembers own.kept)
      (kept_sortedMembers own'.kept) perm (by rwa [names_sortedMembers])]

/-- Sorting loses nothing but the order of members. -/
theorem similar_of_sorted_eq {first second : Value} (own : Own first) (own' : Own second)
    (same : sorted collation first = sorted collation second) : Similar first second :=
  (similar_sorted own).trans (same ▸ (similar_sorted own').symm)

theorem finiteValue_sorted (value : Value) :
    finiteValue (sorted collation value) = sorted collation (finiteValue value) := by
  induction value using Value.induction with
  | number n => cases n <;> rfl
  | array items ih =>
    simp only [sorted, finiteValue, sortedItems_eq_map, finiteItems_eq_map, List.map_map]
    exact congrArg Value.array (List.map_congr_left ih)
  | object members ih =>
    simp only [sorted, finiteValue, sortedMembers_eq_map, finiteMembers_eq_map]
    rw [← collation.byName_map finiteValue, List.map_map, List.map_map]
    refine congrArg (fun members => Value.object (collation.byName members)) ?_
    exact List.map_congr_left fun member listed => Prod.ext rfl (ih member listed)
  | _ => rfl

/-! ## Values whose order matters -/

-- Any order of the members is sorted into the same text.
def Settled (collation : Collation) (value : Value) : Prop :=
  ∀ other, Own other → Similar value other →
    finiteValue (sorted collation other) = finiteValue (sorted collation value)

theorem own_arraySet {items : List Value} (own : Own (.array items)) {other : Value}
    (own' : Own other) (i : ℕ) : Own (.array (items.set i other)) := .array fun item listed => by
  rcases List.mem_or_eq_of_mem_set listed with before | rfl
  · exact own.item before
  · exact own'

theorem own_replace {members : Members} (own : Own (.object members)) {other : Value}
    (own' : Own other) (name : Str) : Own (.object (members.replace name other)) := by
  have names := Members.names_replace members name other
  refine .object ⟨?_, ?_⟩ fun member listed => ?_
  · rw [names]
    exact own.kept.distinct
  · rw [names]
    exact own.kept.ordered
  · obtain ⟨before, there, rfl⟩ := List.mem_map.mp listed
    split_ifs
    · exact own'
    · exact own.member there

theorem settled_item {items : List Value} (own : Own (.array items))
    (settled : Settled collation (.array items)) {item : Value} (listed : item ∈ items) :
    Settled collation item := by
  obtain ⟨i, inside, rfl⟩ := List.mem_iff_getElem.mp listed
  intro other own' similar
  -- the array with the other item in its place
  have similarSet : Similar (.array items) (.array (items.set i other)) := by
    refine .array (by simp) fun j item item' here there => ?_
    rw [List.getElem?_set] at there
    split_ifs at there with same
    · obtain rfl := same
      rw [List.getElem?_eq_getElem inside] at here
      obtain rfl := Option.some.inj here
      obtain rfl := Option.some.inj there
      exact similar
    · obtain rfl := Option.some.inj (here.symm.trans there)
      exact .refl _
  have same := settled _ (own_arraySet own own' i) similarSet
  simp only [sorted, finiteValue, sortedItems_eq_map, finiteItems_eq_map, Value.array.injEq] at same
  have there := congrArg (fun items : List Value => items[i]?) same
  simpa [inside] using there

theorem settled_member {members : Members} (own : Own (.object members))
    (settled : Settled collation (.object members)) {member : Str × Value}
    (listed : member ∈ members) : Settled collation member.2 := by
  intro other own' similar
  obtain ⟨name, value⟩ := member
  have here := Members.get_of_mem own.kept.distinct listed
  have known : name ∈ members.names := List.mem_map_of_mem (f := Prod.fst) listed
  have names := Members.names_replace members name other
  -- the object with the other value under the name
  have ownSet := own_replace own own' name
  have similarSet : Similar (.object members) (.object (members.replace name other)) := by
    refine .object (names ▸ List.Perm.refl _) fun name' value value' here' there => ?_
    rw [Members.get_replace] at there
    split_ifs at there with same
    · obtain rfl := same.1
      obtain rfl := Option.some.inj (here.symm.trans here')
      obtain rfl := Option.some.inj there
      exact similar
    · obtain rfl := Option.some.inj (here'.symm.trans there)
      exact .refl _
  have same := settled _ ownSet similarSet
  simp only [sorted, finiteValue, Value.object.injEq] at same
  have there := congrArg (fun members => Members.get members name) same
  simp only [get_finiteMembers] at there
  rw [get_sorted ownSet.kept.distinct, get_sorted own.kept.distinct, Members.get_replace,
    if_pos ⟨rfl, known⟩, here] at there
  exact Option.some.inj there

theorem own_turned {members : Members} (own : Own (.object members)) :
    Own (.object (turned members)) :=
  .object (kept_turned own.kept) fun _ listed =>
    own.member ((turned_perm members).mem_iff.mp listed)

theorem similar_turned {members : Members} (kept : members.Kept) :
    Similar (.object members) (.object (turned members)) := by
  refine .object ((turned_perm members).symm.map Prod.fst) fun name value value' here there => ?_
  rw [Members.get_perm kept.distinct (turned_perm members).symm name] at here
  obtain rfl := Option.some.inj (here.symm.trans there)
  exact .refl _

/-- The order of members never matters exactly where the names are told apart. -/
theorem settled_iff {value : Value} (own : Own value) :
    Settled collation value ↔ Distinguished collation value := by
  constructor
  · intro settled
    induction value using Value.induction with
    | array items ih =>
      exact distinguished_array.mpr fun item listed =>
        ih item listed (own.item listed) (settled_item own settled listed)
    | object members ih =>
      refine distinguished_object.mpr ⟨?_, fun member listed =>
        ih member listed (own.member listed) (settled_member own settled listed)⟩
      have same := settled _ (own_turned own) (similar_turned own.kept)
      simp only [sorted, finiteValue, Value.object.injEq] at same
      have names := congrArg Members.names same
      simp only [names_finiteMembers, sortedMembers_eq_map, collation.byName_map] at names
      refine sortedApart_of_turned own.kept ?_
      simpa [Members.names, Function.comp_def] using names.symm
    | _ =>
      intro members within
      cases within
  · intro distinguished other own' similar
    rw [sorted_eq_of_similar similar own own' distinguished]

/-! ## Values with a text of their own -/

-- No value but the same up to the order of members is sorted into its text.
def Unmistaken (collation : Collation) (value : Value) : Prop :=
  ∀ other, Own other →
    finiteValue (sorted collation value) = finiteValue (sorted collation other) →
    Similar value other

/-- There is no infinite number in the value. -/
def FiniteNumbers (value : Value) : Prop :=
  ∀ negative, ¬ Within (.number (.infinity negative)) value

theorem finiteValue_eq_self {value : Value} (finite : FiniteNumbers value) :
    finiteValue value = value := by
  induction value using Value.induction with
  | number n =>
    cases n with
    | finite x => rfl
    | infinity negative => exact absurd (.self _) (finite negative)
  | array items ih =>
    rw [finiteValue, finiteItems_eq_map, List.map_congr_left fun item listed =>
      ih item listed fun negative within => finite negative (.item listed within), List.map_id']
  | object members ih =>
    have same : members.map (fun member => (member.1, finiteValue member.2)) = members := by
      conv_rhs => rw [← List.map_id members]
      exact List.map_congr_left fun member listed => Prod.ext rfl
        (ih member listed fun negative within => finite negative (.member listed within))
    rw [finiteValue, finiteMembers_eq_map, same]
  | _ => rfl

theorem similar_within {first second : Value} (similar : Similar first second) {part : Value}
    (atom : ∀ items, part ≠ .array items) (atom' : ∀ members, part ≠ .object members)
    (distinct : Own second) (within : Within part second) : Within part first := by
  induction similar with
  | refl => exact within
  | @array items items' length each ih =>
    cases within with
    | self => exact absurd rfl (atom _)
    | item listed within =>
      obtain ⟨i, inside, rfl⟩ := List.mem_iff_getElem.mp listed
      have here := List.getElem?_eq_getElem (length.symm ▸ inside)
      exact .item (List.mem_of_getElem? here)
        (ih i _ _ here (List.getElem?_eq_getElem inside) (distinct.item listed) within)
  | @object members members' names each ih =>
    cases within with
    | self => exact absurd rfl (atom' _)
    | @member member _ listed within =>
      have there := Members.get_of_mem distinct.kept.distinct listed
      cases here : members.get member.1 with
      | none =>
        exact absurd (names.mem_iff.mpr (List.mem_map_of_mem (f := Prod.fst) listed))
          (Members.get_eq_none.mp here)
      | some value =>
        exact .member (Members.mem_of_get here)
          (ih member.1 _ _ here there (distinct.member listed) within)

theorem within_finiteValue {negative : Bool} {value : Value}
    (within : Within (.number (.infinity negative)) value) : Within .null (finiteValue value) := by
  induction value using Value.induction with
  | array items ih =>
    cases within with
    | item listed within =>
      rw [finiteValue, finiteItems_eq_map]
      exact .item (List.mem_map_of_mem listed) (ih _ listed within)
  | object members ih =>
    cases within with
    | member listed within =>
      rw [finiteValue, finiteMembers_eq_map]
      exact .member (List.mem_map_of_mem (f := fun member => (member.1, finiteValue member.2)) listed)
        (ih _ listed within)
  | number n =>
    cases within
    exact .self _
  | _ => cases within

/-- Values without infinite numbers share their text only up to the order of members. -/
theorem similar_of_finite {first second : Value} (own : Own first) (own' : Own second)
    (finite : FiniteNumbers first) (finite' : FiniteNumbers second)
    (same : finiteValue (sorted collation first) = finiteValue (sorted collation second)) :
    Similar first second := by
  rw [finiteValue_sorted, finiteValue_sorted, finiteValue_eq_self finite,
    finiteValue_eq_self finite'] at same
  exact similar_of_sorted_eq own own' same

theorem unmistaken_item {items : List Value} (own : Own (.array items))
    (unmistaken : Unmistaken collation (.array items)) {item : Value} (listed : item ∈ items) :
    Unmistaken collation item := by
  obtain ⟨i, inside, rfl⟩ := List.mem_iff_getElem.mp listed
  intro other own' same
  have similar := unmistaken _ (own_arraySet own own' i) (by
    simp only [sorted, finiteValue, sortedItems_eq_map, finiteItems_eq_map, List.map_map]
    refine congrArg Value.array (List.ext_getElem (by simp) fun j _ _ => ?_)
    simp only [List.getElem_map, List.getElem_set, Function.comp_apply]
    split_ifs with here
    · simp only [← here, same]
    · rfl)
  exact (similar_array_iff.mp similar).2 i _ _ (List.getElem?_eq_getElem inside) (by simp [inside])

theorem unmistaken_member {members : Members} (own : Own (.object members))
    (unmistaken : Unmistaken collation (.object members)) {member : Str × Value}
    (listed : member ∈ members) : Unmistaken collation member.2 := by
  obtain ⟨name, value⟩ := member
  intro other own' same
  have here := Members.get_of_mem own.kept.distinct listed
  have known : name ∈ members.names := List.mem_map_of_mem (f := Prod.fst) listed
  have similar := unmistaken _ (own_replace own own' name) (by
    simp only [sorted, finiteValue, sortedMembers_eq_map, finiteMembers_eq_map,
      ← collation.byName_map finiteValue, List.map_map, Members.replace]
    refine congrArg (fun members => Value.object (collation.byName members)) ?_
    refine List.map_congr_left fun member listed' => ?_
    by_cases first : member.1 = name
    · have there := Members.get_of_mem own.kept.distinct listed'
      rw [first, here] at there
      simp [first, ← Option.some.inj there, same]
    · simp [first])
  exact (similar_object_iff.mp similar).2 name _ _ here (by simp [Members.get_replace, known])

/-- A value shares its text with none but similar ones exactly where it has no `null` and no
infinite number in it. -/
theorem unmistaken_iff {value : Value} (own : Own value) :
    Unmistaken collation value ↔ ¬ Within .null value ∧ FiniteNumbers value := by
  constructor
  · intro unmistaken
    induction value using Value.induction with
    | null => cases unmistaken (.number (.infinity false)) (.number _) rfl
    | number n =>
      cases n with
      | finite x => exact ⟨fun within => (by cases within), fun _ within => (by cases within)⟩
      | infinity negative => cases unmistaken .null .null rfl
    | array items ih =>
      have each (item : Value) (listed : item ∈ items) :=
        ih item listed (own.item listed) (unmistaken_item own unmistaken listed)
      refine ⟨fun within => ?_, fun negative within => ?_⟩
      · cases within with
        | item listed within => exact (each _ listed).1 within
      · cases within with
        | item listed within => exact (each _ listed).2 _ within
    | object members ih =>
      have each (member : Str × Value) (listed : member ∈ members) :=
        ih member listed (own.member listed) (unmistaken_member own unmistaken listed)
      refine ⟨fun within => ?_, fun negative within => ?_⟩
      · cases within with
        | member listed within => exact (each _ listed).1 within
      · cases within with
        | member listed within => exact (each _ listed).2 _ within
    | _ => exact ⟨fun within => (by cases within), fun _ within => (by cases within)⟩
  · rintro ⟨nonnull, finite⟩ other own' same
    rw [finiteValue_sorted, finiteValue_sorted, finiteValue_eq_self finite] at same
    have similar := similar_of_sorted_eq own (own_finiteValue own') same
    -- an infinite number in the other value would be a `null` in this one
    have finite' : FiniteNumbers other := fun negative within => nonnull <|
      similar_within similar (fun _ same => by cases same) (fun _ same => by cases same)
        (own_finiteValue own') (within_finiteValue within)
    rwa [finiteValue_eq_self finite'] at similar

/-! ## Texts -/

theorem stringifyItems_map {f : Value → Value} {items : List Value}
    (each : ∀ item ∈ items, stringify (f item) = stringify item) (separator : Str) :
    stringifyItems separator (items.map f) = stringifyItems separator items := by
  induction items generalizing separator with
  | nil => rfl
  | cons item rest ih =>
    rw [List.map_cons, stringifyItems, stringifyItems, each item List.mem_cons_self,
      ih fun item listed => each item (List.mem_cons_of_mem _ listed)]

theorem stringifyMembers_map {f : Value → Value} {members : Members}
    (each : ∀ member ∈ members, stringify (f member.2) = stringify member.2) (separator : Str) :
    stringifyMembers separator (members.map fun member => (member.1, f member.2)) =
      stringifyMembers separator members := by
  induction members generalizing separator with
  | nil => rfl
  | cons member rest ih =>
    obtain ⟨name, value⟩ := member
    rw [List.map_cons, stringifyMembers, stringifyMembers, each _ List.mem_cons_self,
      ih fun member listed => each member (List.mem_cons_of_mem _ listed)]

theorem stringify_finiteValue (value : Value) : stringify (finiteValue value) = stringify value := by
  induction value using Value.induction with
  | number n => cases n <;> rfl
  | array items ih =>
    rw [finiteValue, finiteItems_eq_map, stringify, stringify, stringifyItems_map ih]
  | object members ih =>
    rw [finiteValue, finiteMembers_eq_map, stringify, stringify, stringifyMembers_map ih]
  | _ => rfl

/-- A text tells everything of the value that it keeps. -/
theorem stringify_inj {first second : Value} :
    stringify first = stringify second ↔ finiteValue first = finiteValue second := by
  constructor
  · intro same
    have ends : Ends [] := fun u head => by cases head
    have read := readValue_stringify first ((stringify first).length + 1) [] (Nat.le_succ _) ends
    have read' := readValue_stringify second ((stringify second).length + 1) [] (Nat.le_succ _) ends
    rw [same, read'] at read
    exact (congrArg Prod.fst (Option.some.inj read)).symm
  · intro same
    rw [← stringify_finiteValue first, same, stringify_finiteValue]

end

end Shared.Ecma

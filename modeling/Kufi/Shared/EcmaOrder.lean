import Kufi.Shared.EcmaJson
import Mathlib.Data.List.Sort

set_option autoImplicit false

/-!
# The order of the members

Members sorted by name under a comparison that may call different names equal.
-/

namespace Shared.Ecma

/-- `a.localeCompare(b) <= 0`: a total preorder. -/
structure Collation where
  le : Str → Str → Bool
  total : ∀ first second, le first second = true ∨ le second first = true
  transitive : ∀ first second third, le first second = true → le second third = true →
    le first third = true

namespace Collation

variable (collation : Collation)

/-- The comparison does not tell the names apart. -/
def Equal (first second : Str) : Prop :=
  collation.le first second = true ∧ collation.le second first = true

variable {β : Type}

/-- A stable sort by name. -/
def byName (entries : List (Str × β)) : List (Str × β) :=
  entries.insertionSort fun first second => collation.le first.1 second.1 = true

theorem byName_perm (entries : List (Str × β)) : (collation.byName entries).Perm entries :=
  List.perm_insertionSort _ entries

theorem mem_names_byName {entries : List (Str × β)} {name : Str} :
    name ∈ (collation.byName entries).map Prod.fst ↔ name ∈ entries.map Prod.fst :=
  ((collation.byName_perm entries).map Prod.fst).mem_iff

theorem byName_map {γ : Type} (f : β → γ) (entries : List (Str × β)) :
    collation.byName (entries.map fun entry => (entry.1, f entry.2)) =
      (collation.byName entries).map fun entry => (entry.1, f entry.2) :=
  (List.map_insertionSort _ _ (fun entry : Str × β => (entry.1, f entry.2)) entries
    fun _ _ _ _ => Iff.rfl).symm

/-- What comes first in a sorted list; of equal names the one that came first before. -/
def Precedes (before : Str → Str → Prop) (first second : Str) : Prop :=
  collation.le first second = true ∧ (collation.le second first = true → before first second)

theorem pairwise_orderedInsert {before : Str → Str → Prop} {entry : Str × β}
    {sorted : List (Str × β)} (first : ∀ other ∈ sorted, before entry.1 other.1)
    (ordered : sorted.Pairwise fun a b => collation.Precedes before a.1 b.1) :
    (sorted.orderedInsert (fun a b => collation.le a.1 b.1 = true) entry).Pairwise
      fun a b => collation.Precedes before a.1 b.1 := by
  induction sorted with
  | nil => exact List.pairwise_singleton _ _
  | cons head rest ih =>
    have ⟨below, ordered'⟩ := List.pairwise_cons.mp ordered
    rw [List.orderedInsert_cons]
    split_ifs with smaller
    · refine List.pairwise_cons.mpr ⟨fun other listed => ⟨?_, fun _ => first other listed⟩, ordered⟩
      rcases List.mem_cons.mp listed with rfl | later
      · exact smaller
      · exact collation.transitive _ _ _ smaller (below other later).1
    · have inserted := ih (fun other listed => first other (List.mem_cons_of_mem _ listed)) ordered'
      refine List.pairwise_cons.mpr ⟨fun other listed => ?_, inserted⟩
      rcases (List.mem_orderedInsert _).mp listed with rfl | later
      · exact ⟨(collation.total _ _).resolve_left smaller, fun equal => absurd equal smaller⟩
      · exact below other later

/-- The sort is stable. -/
theorem pairwise_byName {before : Str → Str → Prop} {entries : List (Str × β)}
    (ordered : entries.Pairwise fun a b => before a.1 b.1) :
    (collation.byName entries).Pairwise fun a b => collation.Precedes before a.1 b.1 := by
  induction entries with
  | nil => exact List.Pairwise.nil
  | cons entry rest ih =>
    have ⟨first, ordered'⟩ := List.pairwise_cons.mp ordered
    refine collation.pairwise_orderedInsert (fun other listed => first other ?_) (ih ordered')
    exact (collation.byName_perm rest).mem_iff.mp listed

end Collation

/-! ## Names that a sort tells apart -/

-- Array indices are always listed in ascending order.
def SortedApart (collation : Collation) (names : List Str) : Prop :=
  ∀ first ∈ names, ∀ second ∈ names, index? first = none → index? second = none →
    collation.Equal first second → first = second

theorem unindexed_of_before {first second : Str} (before : Before first second)
    (after : Before second first) : index? first = none ∧ index? second = none := by
  have never : ∀ {first second : Str}, Before first second → Before second first →
      index? second = none := by
    intro first second before after
    cases indexed : index? second with
    | none => rfl
    | some j =>
      obtain ⟨i, here, less⟩ := before j indexed
      obtain ⟨j', there, less'⟩ := after i here
      obtain rfl := Option.some.inj (indexed.symm.trans there)
      omega
  exact ⟨never after before, never before after⟩

section

variable {collation : Collation} {first second : Members}

theorem pairwise_byName_kept (kept : first.Kept) :
    (collation.byName first).Pairwise fun a b => collation.Precedes Before a.1 b.1 :=
  collation.pairwise_byName (List.pairwise_map.mp kept.ordered)

/-- Sorting forgets the order of names that it tells apart. -/
theorem byName_eq_of_perm (kept : first.Kept) (kept' : second.Kept) (perm : first.Perm second)
    (apart : SortedApart collation first.names) :
    collation.byName first = collation.byName second := by
  have perm' := ((collation.byName_perm first).trans perm).trans (collation.byName_perm second).symm
  refine perm'.eq_of_pairwise (fun a b here there forth back => ?_)
    (pairwise_byName_kept kept) (pairwise_byName_kept kept')
  have listed : a ∈ first := (collation.byName_perm first).mem_iff.mp here
  have listed' : b ∈ first := perm.mem_iff.mpr ((collation.byName_perm second).mem_iff.mp there)
  obtain ⟨unindexed, unindexed'⟩ := unindexed_of_before (forth.2 back.1) (back.2 forth.1)
  have same := apart a.1 (List.mem_map_of_mem listed) b.1 (List.mem_map_of_mem listed') unindexed
    unindexed' ⟨forth.1, back.1⟩
  exact List.inj_on_of_nodup_map kept.distinct listed listed' same

/-- The same members with those that have no index in the opposite order. -/
def turned (members : Members) : Members :=
  members.filter (fun member => (index? member.1).isSome) ++
    (members.filter fun member => !(index? member.1).isSome).reverse

theorem turned_perm (members : Members) : (turned members).Perm members :=
  ((List.Perm.refl _).append (List.reverse_perm _)).trans (List.filter_append_perm _ members)

theorem kept_turned {members : Members} (kept : members.Kept) : (turned members).Kept := by
  refine ⟨(((turned_perm members).map Prod.fst).nodup_iff).mpr kept.distinct, ?_⟩
  rw [Members.names, List.pairwise_map, turned, List.pairwise_append, List.pairwise_reverse]
  have ordered := List.pairwise_map.mp kept.ordered
  refine ⟨ordered.filter _, ?_, ?_⟩
  · refine List.pairwise_of_forall_mem_list fun a _ b listed => ?_
    have unindexed := (List.mem_filter.mp listed).2
    intro j indexed
    simp_all
  · intro a _ b listed j indexed
    have unindexed := (List.mem_filter.mp (List.mem_reverse.mp listed)).2
    simp_all

theorem turned_flip {members : Members} {a b : Str} (unindexed : index? a = none)
    (unindexed' : index? b = none) (listed : [a, b].Sublist (turned members).names) :
    [b, a].Sublist members.names := by
  have kept := listed.filter fun name => !(index? name).isSome
  have flipped : ((turned members).names.filter fun name => !(index? name).isSome) =
      (members.names.filter fun name => !(index? name).isSome).reverse := by
    simp [turned, Members.names, List.filter_map, List.filter_filter, Function.comp_def]
  rw [flipped] at kept
  simp only [List.filter_cons, unindexed, unindexed', Option.isSome_none, Bool.not_false,
    if_true, List.filter_nil] at kept
  exact (List.reverse_sublist.mp (by simpa using kept)).trans List.filter_sublist

theorem not_both_orders {names : List Str} (distinct : names.Nodup) {a b : Str}
    (forth : [a, b].Sublist names) (back : [b, a].Sublist names) : False := by
  induction names with
  | nil => cases forth
  | cons head rest ih =>
    rw [List.nodup_cons] at distinct
    cases forth with
    | cons _ forth =>
      cases back with
      | cons _ back => exact ih distinct.2 forth back
      | cons_cons _ back => exact distinct.1 (forth.subset (by simp))
    | cons_cons _ forth =>
      cases back with
      | cons _ back => exact distinct.1 (back.subset (by simp))
      | cons_cons _ back => exact distinct.1 (back.subset (by simp))

/-- If the comparison calls the names equal, then both lists have them in the same order. -/
def InStep (collation : Collation) (first second : List Str) (a b : Str) : Prop :=
  collation.Equal a b →
    ([a, b].Sublist first ∧ [a, b].Sublist second) ∨ ([b, a].Sublist first ∧ [b, a].Sublist second)

instance (first second : List Str) : Std.Symm (InStep collation first second) where
  symm _ _ either equal := (either equal.symm).symm

/-- Names that a sort puts into the same order from both directions are told apart. -/
theorem sortedApart_of_turned (kept : first.Kept)
    (same : Members.names (collation.byName first) = Members.names (collation.byName (turned first))) :
    SortedApart collation first.names := by
  intro a listed b listed' unindexed unindexed' equal
  by_contra different
  have order (members : Members) : (Members.names (collation.byName members)).Pairwise
      (collation.Precedes fun a b => [a, b].Sublist members.names) := by
    refine List.pairwise_map.mpr (collation.pairwise_byName ?_)
    rw [← List.pairwise_map (R := fun a b => [a, b].Sublist members.names)]
    exact List.pairwise_iff_forall_sublist.mpr fun sub => sub
  have both := (order first).and (same ▸ order (turned first))
  -- one of the two comes first in the sorted list
  have inStep : (Members.names (collation.byName first)).Pairwise
      (InStep collation first.names (turned first).names) :=
    both.imp fun sorted equal => .inl ⟨sorted.1.2 equal.2, sorted.2.2 equal.2⟩
  have either := inStep.forall (collation.mem_names_byName.mpr listed)
    (collation.mem_names_byName.mpr listed') different equal
  rcases either with ⟨forth, turned⟩ | ⟨back, turned⟩
  · exact not_both_orders kept.distinct forth (turned_flip unindexed unindexed' turned)
  · exact not_both_orders kept.distinct back (turned_flip unindexed' unindexed turned)

end

end Shared.Ecma

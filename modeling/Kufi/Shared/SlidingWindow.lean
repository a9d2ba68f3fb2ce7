import Mathlib.Algebra.Order.Group.Defs
import Mathlib.Data.List.Basic
import Mathlib.Tactic.Abel

set_option autoImplicit false

/-!
# Sliding windows

A list of admitted times is pruned when a new time comes. The times that are
kept say as much of every later window as all the times ever admitted.
-/

namespace Shared.SlidingWindow

variable {T : Type} [AddCommGroup T] [LinearOrder T] [IsOrderedAddMonoid T]

/-- What has not fallen out of the window at `now`. -/
def recent (width now : T) (times : List T) : List T := times.filter fun t => now - width < t

/-- The times in the window that ends at `last`. -/
def inWindow (width last : T) (times : List T) : List T :=
  times.filter fun t => last - width < t ∧ t ≤ last

variable {width now later last : T} {times : List T}

omit [IsOrderedAddMonoid T] in
theorem recent_append (first second : List T) :
    recent width now (first ++ second) = recent width now first ++ recent width now second :=
  List.filter_append first second

omit [IsOrderedAddMonoid T] in
theorem inWindow_append (first second : List T) :
    inWindow width last (first ++ second) =
      inWindow width last first ++ inWindow width last second :=
  List.filter_append first second

/-- What has been pruned would fall out of every later window as well. -/
theorem recent_recent (order : now ≤ later) :
    recent width later (recent width now times) = recent width later times := by
  unfold recent
  rw [List.filter_filter]
  refine List.filter_congr fun t _ => ?_
  have wider : later - width < t → now - width < t :=
    lt_of_le_of_lt (sub_le_sub_right order width)
  simpa using wider

omit [IsOrderedAddMonoid T] in
theorem recent_eq_inWindow (past : ∀ t ∈ times, t ≤ now) :
    recent width now times = inWindow width now times :=
  List.filter_congr fun t listed => by simp [past t listed]

/-- The times kept, against all that were admitted up to `now`. -/
structure Tracks (limit : ℤ) (width now : T) (kept admitted : List T) : Prop where
  past : ∀ t ∈ admitted, t ≤ now
  kept : ∀ later, now ≤ later → recent width later kept = recent width later admitted
  bounded : ∀ last, ((inWindow width last admitted).length : ℤ) ≤ limit

variable {limit : ℤ} {kept admitted : List T}

omit [IsOrderedAddMonoid T] in
theorem Tracks.initial (least : 0 ≤ limit) : Tracks limit width now [] [] where
  past t listed := absurd listed List.not_mem_nil
  kept _ _ := rfl
  bounded _ := by simpa [inWindow] using least

omit [IsOrderedAddMonoid T] in
theorem Tracks.advance (tracks : Tracks limit width now kept admitted) (order : now ≤ later) :
    Tracks limit width later kept admitted where
  past t listed := le_trans (tracks.past t listed) order
  kept last after := tracks.kept last (le_trans order after)
  bounded := tracks.bounded

omit [IsOrderedAddMonoid T] in
theorem Tracks.current (tracks : Tracks limit width now kept admitted) :
    recent width now kept = inWindow width now admitted := by
  rw [tracks.kept now le_rfl, recent_eq_inWindow tracks.past]

omit [IsOrderedAddMonoid T] in
/-- A full list holds a full window. -/
theorem Tracks.full (tracks : Tracks limit width now kept admitted)
    (full : limit ≤ (recent width now kept).length) :
    ((inWindow width now admitted).length : ℤ) = limit := by
  rw [tracks.current] at full
  exact le_antisymm (tracks.bounded now) full

/-- No window is too full with a time for which there was room. -/
theorem Tracks.bounded_admit (tracks : Tracks limit width now kept admitted)
    (room : ((recent width now kept).length : ℤ) < limit) (last : T) :
    ((inWindow width last (admitted ++ [now])).length : ℤ) ≤ limit := by
  rw [inWindow_append, List.length_append]
  by_cases inside : last - width < now ∧ now ≤ last
  · have fewer : (inWindow width last admitted).length ≤ (recent width now kept).length := by
      rw [tracks.kept now le_rfl]
      refine (List.monotone_filter_right admitted fun t => ?_).length_le
      have wider : last - width < t → now - width < t :=
        lt_of_le_of_lt (sub_le_sub_right inside.2 width)
      simpa using fun after _ => wider after
    have one : (inWindow width last [now]).length = 1 := by simp [inWindow, inside]
    rw [one]
    push_cast
    omega
  · have nothing : inWindow width last [now] = [] := by simp [inWindow, inside]
    rw [nothing, List.length_nil, Nat.add_zero]
    exact tracks.bounded last

theorem Tracks.admit (tracks : Tracks limit width now kept admitted)
    (room : ((recent width now kept).length : ℤ) < limit) :
    Tracks limit width now (recent width now kept ++ [now]) (admitted ++ [now]) where
  past t listed := by
    rcases List.mem_append.mp listed with before | own
    · exact tracks.past t before
    · exact le_of_eq (List.mem_singleton.mp own)
  kept later order := by
    rw [recent_append, recent_append, recent_recent order, tracks.kept later order]
  bounded := tracks.bounded_admit room

end Shared.SlidingWindow

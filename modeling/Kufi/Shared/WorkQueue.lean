import Mathlib.Data.List.Sort
import Mathlib.Logic.Function.Iterate
import Mathlib.Tactic.Ring

set_option autoImplicit false

/-!
# Work queues

In a round the oldest items of a queue are tried, as many as a round takes. Those
that are stuck stay where they are, so enough of them keep the rest waiting.
-/

namespace Shared.WorkQueue

variable {A : Type} (stuck : A → Bool) (limit : Nat)

def round (queue : List A) : List A := (queue.take limit).filter stuck ++ queue.drop limit

abbrev moving (item : A) : Bool := !stuck item

theorem countP_moving_add (items : List A) :
    items.countP stuck + items.countP (moving stuck) = items.length := by
  rw [List.length_eq_countP_add_countP stuck]
  simp

theorem round_sublist (queue : List A) : (round stuck limit queue).Sublist queue := by
  have tried : ((queue.take limit).filter stuck).Sublist (queue.take limit) := List.filter_sublist
  simpa [round] using tried.append (List.Sublist.refl (queue.drop limit))

theorem iterate_sublist (rounds : Nat) (queue : List A) :
    ((round stuck limit)^[rounds] queue).Sublist queue := by
  induction rounds generalizing queue with
  | zero => exact .refl queue
  | succ rounds ih => exact (ih _).trans (round_sublist stuck limit queue)

theorem round_append {before : List A} (full : limit ≤ before.length) (later : List A) :
    round stuck limit (before ++ later) = round stuck limit before ++ later := by
  simp [round, List.take_append_of_le_length full, List.drop_append_of_le_length full]

/-- No stuck item leaves. -/
theorem countP_round (queue : List A) :
    (round stuck limit queue).countP stuck = queue.countP stuck := by
  have parts : (queue.take limit).countP stuck + (queue.drop limit).countP stuck =
      queue.countP stuck := by
    rw [← List.countP_append, List.take_append_drop]
  simpa [round, List.countP_filter] using parts

theorem countP_moving_round (queue : List A) (full : limit ≤ queue.length) :
    (round stuck limit queue).countP (moving stuck) + limit ≤
      queue.countP (moving stuck) + queue.countP stuck := by
  have gone : ((queue.take limit).filter stuck).countP (moving stuck) = 0 := by
    simp [moving, List.countP_filter]
  have parts : (queue.take limit).countP (moving stuck) + (queue.drop limit).countP (moving stuck) =
      queue.countP (moving stuck) := by
    rw [← List.countP_append, List.take_append_drop]
  have tried := countP_moving_add stuck (queue.take limit)
  have few : (queue.take limit).countP stuck ≤ queue.countP stuck :=
    (List.take_sublist limit queue).countP_le
  simp only [round, List.countP_append, gone]
  simp only [List.length_take, Nat.min_eq_left full] at tried
  omega

section Item

variable {before later : List A} {item : A}

/-- Behind enough stuck items nothing is ever tried. -/
theorem iterate_blocked (blocked : limit ≤ before.countP stuck) (rounds : Nat) :
    item ∈ (round stuck limit)^[rounds] (before ++ item :: later) := by
  induction rounds generalizing before with
  | zero => simp
  | succ rounds ih =>
    have full : limit ≤ before.length := blocked.trans List.countP_le_length
    rw [Function.iterate_succ_apply, round_append stuck limit full]
    exact ih (by rwa [countP_round])

/-- Every round that does not reach the item takes some of those before it. -/
theorem iterate_leaves (unstuck : stuck item = false) (earlier : item ∉ before)
    (once : item ∉ later) {rounds : Nat}
    (enough : before.countP (moving stuck) < rounds * (limit - before.countP stuck)) :
    item ∉ (round stuck limit)^[rounds] (before ++ item :: later) := by
  induction rounds generalizing before with
  | zero => simp at enough
  | succ rounds ih =>
    have room : before.countP stuck < limit := by
      by_contra blocked
      simp [Nat.sub_eq_zero_of_le (not_lt.mp blocked)] at enough
    rw [Function.iterate_succ_apply]
    by_cases full : limit ≤ before.length
    · have fewer := countP_moving_round stuck limit before full
      rw [round_append stuck limit full]
      refine ih (fun member => earlier ((round_sublist stuck limit before).subset member)) ?_
      rw [countP_round]
      have sum : (rounds + 1) * (limit - before.countP stuck) =
          rounds * (limit - before.countP stuck) + (limit - before.countP stuck) := by ring
      omega
    · -- the item is tried in this round
      intro member
      have reached := (iterate_sublist stuck limit rounds _).subset member
      obtain ⟨extra, same⟩ := Nat.exists_eq_add_of_lt (not_le.mp full)
      subst same
      simp only [round, List.mem_append, List.mem_filter, unstuck, Bool.false_eq_true, and_false,
        false_or] at reached
      rw [show before.length + extra + 1 = before.length + (extra + 1) by omega,
        ← List.drop_drop, List.drop_left, List.drop_succ_cons] at reached
      exact once (List.mem_of_mem_drop reached)

end Item

/-- As long as no item is there twice, a round is a selection. -/
theorem round_eq_filter [DecidableEq A] {queue : List A} (nodup : queue.Nodup) :
    round stuck limit queue =
      queue.filter fun item => stuck item || decide (item ∉ queue.take limit) := by
  have apart : ∀ item ∈ queue.drop limit, item ∉ queue.take limit := by
    rw [← List.take_append_drop limit queue, List.nodup_append] at nodup
    exact fun item later tried => nodup.2.2 item tried item later rfl
  conv_rhs => rw [← List.take_append_drop limit queue, List.filter_append]
  rw [List.take_append_drop]
  refine congrArg₂ _ (List.filter_congr fun item tried => ?_) ?_
  · simp [tried]
  · symm
    exact List.filter_eq_self.mpr fun item later => by simp [apart item later]

/-! ## Queues in order -/

section Sorting

variable {A : Type} (r : A → A → Prop) [DecidableRel r] [Std.Total r] [IsTrans A r]

omit [Std.Total r] [IsTrans A r] in
theorem orderedInsert_first {a : A} {items : List A} (first : ∀ b ∈ items, r a b) :
    items.orderedInsert r a = a :: items := by
  cases items with
  | nil => rfl
  | cons b items => exact List.orderedInsert_cons_of_le r items (first b (by simp))

omit [Std.Total r] in
theorem filter_orderedInsert (wanted : A → Bool) (a : A) {items : List A}
    (sorted : items.Pairwise r) :
    (items.orderedInsert r a).filter wanted =
      if wanted a then (items.filter wanted).orderedInsert r a else items.filter wanted := by
  induction items with
  | nil => cases kept : wanted a <;> simp [kept]
  | cons b items ih =>
    obtain ⟨least, sorted⟩ := List.pairwise_cons.mp sorted
    by_cases before : r a b
    · have first : ∀ c ∈ (b :: items).filter wanted, r a c := by
        intro c member
        rcases List.mem_cons.mp (List.mem_filter.mp member).1 with rfl | later
        · exact before
        · exact IsTrans.trans a b c before (least c later)
      rw [List.orderedInsert_cons_of_le r items before, orderedInsert_first r first]
      cases kept : wanted a <;> simp [kept]
    · rw [List.orderedInsert_of_not_le r items before]
      cases kept : wanted b with
      | false => simpa [kept] using ih sorted
      | true =>
        simp only [List.filter_cons, kept, if_true, ih sorted]
        cases wanted a <;> simp [before]

/-- Sorting by insertion is stable. -/
theorem filter_insertionSort (wanted : A → Bool) (items : List A) :
    (items.insertionSort r).filter wanted = (items.filter wanted).insertionSort r := by
  induction items with
  | nil => rfl
  | cons a items ih =>
    rw [List.insertionSort_cons, filter_orderedInsert r wanted a (List.pairwise_insertionSort r items),
      ih]
    by_cases kept : wanted a <;> simp [kept]

end Sorting

end Shared.WorkQueue

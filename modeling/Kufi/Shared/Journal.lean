import Mathlib.Algebra.BigOperators.Group.List.Basic

set_option autoImplicit false

/-!
# Chained journals

A journal records each change of a quantity with its value before and after.
Entries chain when each begins where the one before it ended.
-/

namespace Shared

structure Journal (E V : Type) where
  before : E → V
  after : E → V
  delta : E → V

namespace Journal

variable {E V : Type} [AddMonoid V]

def total (journal : Journal E V) (entries : List E) : V :=
  (entries.map journal.delta).sum

def Chains (journal : Journal E V) : V → List E → V → Prop
  | opening, [], closing => opening = closing
  | opening, entry :: rest, closing =>
    journal.before entry = opening ∧ journal.after entry = opening + journal.delta entry ∧
      journal.Chains (journal.after entry) rest closing

@[simp] theorem total_nil (journal : Journal E V) : journal.total [] = 0 := rfl

theorem Chains.concat {journal : Journal E V} {opening closing : V} {entries : List E} {entry : E}
    (chains : journal.Chains opening entries closing) (begins : journal.before entry = closing)
    (moves : journal.after entry = closing + journal.delta entry) :
    journal.Chains opening (entries ++ [entry]) (journal.after entry) := by
  induction entries generalizing opening with
  | nil =>
    obtain rfl : opening = closing := chains
    exact ⟨begins, moves, rfl⟩
  | cons head rest ih => exact ⟨chains.1, chains.2.1, ih chains.2.2⟩

theorem Chains.closing_eq {journal : Journal E V} {opening closing : V} {entries : List E}
    (chains : journal.Chains opening entries closing) :
    closing = opening + journal.total entries := by
  induction entries generalizing opening with
  | nil =>
    obtain rfl : opening = closing := chains
    simp
  | cons head rest ih =>
    obtain ⟨_, moves, later⟩ := chains
    rw [ih later, moves]
    simp [total, add_assoc]

theorem Chains.opening_eq {journal : Journal E V} {opening closing : V} {entries : List E}
    {first : E} (chains : journal.Chains opening entries closing)
    (head : entries.head? = some first) : journal.before first = opening := by
  cases entries with
  | nil => cases head
  | cons entry rest =>
    obtain rfl : entry = first := Option.some.inj head
    exact chains.1

end Journal

end Shared

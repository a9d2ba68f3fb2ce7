import Mathlib.Data.List.Induction
import Mathlib.Logic.Function.Basic

set_option autoImplicit false

/-!
# Hash chains

Blocks that each name the digest of the block before. As far as digests are not
shared, a block determines all that came before it.
-/

namespace Shared

variable {B H : Type} (parent digest : B → H)

/-- Each block names the digest of the block before it, the first one `root`. -/
def Linked : H → List B → Prop
  | _, [] => True
  | root, block :: rest => parent block = root ∧ Linked (digest block) rest

def tip (root : H) (blocks : List B) : H := (blocks.getLast?.map digest).getD root

variable {parent digest} {root : H}

theorem linked_append {blocks : List B} {last : B} :
    Linked parent digest root (blocks ++ [last]) ↔
      Linked parent digest root blocks ∧ parent last = tip digest root blocks := by
  induction blocks generalizing root with
  | nil => simp [Linked, tip]
  | cons first blocks ih =>
    have later : tip digest root (first :: blocks) = tip digest (digest first) blocks := by
      cases shown : blocks.getLast? <;> simp [tip, List.getLast?_cons, shown]
    rw [List.cons_append, Linked, Linked, ih, later, and_assoc]

theorem Linked.initial {blocks history : List B} (linked : Linked parent digest root blocks)
    (before : history <+: blocks) : Linked parent digest root history := by
  induction history generalizing root blocks with
  | nil => trivial
  | cons block history ih =>
    obtain ⟨rest, rfl⟩ := before
    exact ⟨linked.1, ih linked.2 (List.prefix_append history rest)⟩

/-- A block has one history, as no digest is the root. -/
theorem Linked.history_eq (injective : Function.Injective digest) (fresh : ∀ b, digest b ≠ root)
    {left right : List B} {last : B} (linked : Linked parent digest root (left ++ [last]))
    (linked' : Linked parent digest root (right ++ [last])) : left = right := by
  induction left using List.reverseRecOn generalizing right last with
  | nil =>
    obtain ⟨_, ends⟩ := linked_append.mp linked
    obtain ⟨_, ends'⟩ := linked_append.mp linked'
    cases right using List.reverseRecOn with
    | nil => rfl
    | append_singleton right block =>
      exact absurd (ends'.symm.trans ends) (by simpa [tip] using fresh block)
  | append_singleton left block ih =>
    obtain ⟨linked, ends⟩ := linked_append.mp linked
    obtain ⟨linked', ends'⟩ := linked_append.mp linked'
    cases right using List.reverseRecOn with
    | nil => exact absurd (ends.symm.trans ends') (by simpa [tip] using fresh block)
    | append_singleton right block' =>
      obtain rfl : block = block' := injective (by simpa [tip] using ends.symm.trans ends')
      rw [ih linked linked']

end Shared

import Mathlib.Data.List.Basic

set_option autoImplicit false

/-!
# Payments in a log

Some events of a log must be paid for by an earlier one, and no event pays
twice. The matching grows with the log as long as each new event finds a payment
that nothing since could have taken.
-/

namespace Shared

variable {E : Type}

section

variable (needs : E → Prop) (pays : E → E → Prop)

/-- `f` sends the place of an event to the place of its payment. -/
structure Matching (log : List E) (f : Nat → Nat) : Prop where
  earlier : ∀ n e, log[n]? = some e → needs e → f n < n
  paid : ∀ n e, log[n]? = some e → needs e → ∃ p, log[f n]? = some p ∧ pays p e
  apart : ∀ m n d e, log[m]? = some d → log[n]? = some e → needs d → needs e → f m = f n → m = n

def Matched (log : List E) : Prop := ∃ f, Matching needs pays log f

/-- There is a payment for the event that could have paid for nothing since. -/
def Unspent (log : List E) (e : E) : Prop :=
  ∃ (n : Nat) (p : E), log[n]? = some p ∧ pays p e ∧
    ∀ (m : Nat) (d : E), log[m]? = some d → n < m → needs d → ¬pays p d

end

variable {needs : E → Prop} {pays : E → E → Prop} {log : List E} {e : E}

theorem unspent_iff :
    Unspent needs pays log e ↔ ∃ n : Fin log.length, pays log[n] e ∧
      ∀ m : Fin log.length, n < m → needs log[m] → ¬pays log[n] log[m] := by
  constructor
  · rintro ⟨n, p, found, pay, untaken⟩
    obtain ⟨lt, rfl⟩ := List.getElem?_eq_some_iff.mp found
    exact ⟨⟨n, lt⟩, pay, fun m later => untaken m _ (List.getElem?_eq_getElem m.isLt) later⟩
  · rintro ⟨n, pay, untaken⟩
    refine ⟨n, log[n], List.getElem?_eq_getElem n.isLt, pay, ?_⟩
    intro m d found later
    obtain ⟨lt, rfl⟩ := List.getElem?_eq_some_iff.mp found
    exact untaken ⟨m, lt⟩ later

instance [DecidablePred needs] [DecidableRel pays] : Decidable (Unspent needs pays log e) :=
  decidable_of_iff _ unspent_iff.symm

theorem Matched.nil : Matched needs pays ([] : List E) :=
  ⟨id, by simp, by simp, by simp⟩

theorem getElem?_snoc {n : Nat} {d : E} (found : (log ++ [e])[n]? = some d) :
    n < log.length ∧ log[n]? = some d ∨ n = log.length ∧ d = e := by
  rcases Nat.lt_trichotomy n log.length with lt | rfl | gt
  · rw [List.getElem?_append_left lt] at found
    exact .inl ⟨lt, found⟩
  · simp only [List.getElem?_concat_length, Option.some.injEq] at found
    exact .inr ⟨rfl, found.symm⟩
  · rw [List.getElem?_eq_none (by simp; omega)] at found
    cases found

theorem getElem?_snoc_of_some {n : Nat} {d : E} (found : log[n]? = some d) :
    (log ++ [e])[n]? = some d := by
  obtain ⟨lt, _⟩ := List.getElem?_eq_some_iff.mp found
  rw [List.getElem?_append_left lt, found]

theorem Matched.free (matched : Matched needs pays log) (free : ¬needs e) :
    Matched needs pays (log ++ [e]) := by
  obtain ⟨f, earlier, paid, apart⟩ := matched
  have old {n : Nat} {d : E} (found : (log ++ [e])[n]? = some d) (needed : needs d) :
      log[n]? = some d := by
    rcases getElem?_snoc found with ⟨_, old⟩ | ⟨_, rfl⟩
    · exact old
    · exact absurd needed free
  refine ⟨f, fun n d found needed => earlier n d (old found needed) needed, ?_, ?_⟩
  · intro n d found needed
    obtain ⟨p, held, pay⟩ := paid n d (old found needed) needed
    exact ⟨p, getElem?_snoc_of_some held, pay⟩
  · intro m n c d first second needed needed'
    exact apart m n c d (old first needed) (old second needed') needed needed'

theorem Matched.snoc (matched : Matched needs pays log) (unspent : Unspent needs pays log e) :
    Matched needs pays (log ++ [e]) := by
  obtain ⟨f, earlier, paid, apart⟩ := matched
  obtain ⟨place, payment, stored, pay, untaken⟩ := unspent
  obtain ⟨before, _⟩ := List.getElem?_eq_some_iff.mp stored
  -- whoever has this payment comes after it, and it pays for nothing there
  have taken {n : Nat} {d : E} (found : log[n]? = some d) (needed : needs d) : f n ≠ place := by
    rintro rfl
    obtain ⟨p, held, own⟩ := paid n d found needed
    obtain rfl := Option.some.inj (held.symm.trans stored)
    exact untaken n d found (earlier n d found needed) needed own
  refine ⟨fun n => if n = log.length then place else f n, ?_, ?_, ?_⟩
  · intro n d found needed
    rcases getElem?_snoc found with ⟨lt, old⟩ | ⟨rfl, rfl⟩
    · simpa [Nat.ne_of_lt lt] using earlier n d old needed
    · simpa using before
  · intro n d found needed
    rcases getElem?_snoc found with ⟨lt, old⟩ | ⟨rfl, rfl⟩
    · obtain ⟨p, held, own⟩ := paid n d old needed
      exact ⟨p, by simpa [Nat.ne_of_lt lt] using getElem?_snoc_of_some held, own⟩
    · exact ⟨payment, by simpa using getElem?_snoc_of_some stored, pay⟩
  · intro m n c d first second needed needed' same
    rcases getElem?_snoc first with ⟨lt, old⟩ | ⟨rfl, rfl⟩
    · rcases getElem?_snoc second with ⟨lt', old'⟩ | ⟨rfl, rfl⟩
      · simp only [Nat.ne_of_lt lt, Nat.ne_of_lt lt', if_false] at same
        exact apart m n c d old old' needed needed' same
      · simp only [Nat.ne_of_lt lt, if_false, if_true] at same
        exact absurd same (taken old needed)
    · rcases getElem?_snoc second with ⟨lt', old'⟩ | ⟨rfl, _⟩
      · simp only [Nat.ne_of_lt lt', if_false, if_true] at same
        exact absurd same.symm (taken old' needed')
      · rfl

end Shared

import Kufi.Shared.Journal
import Kufi.Transactions.Effects

set_option autoImplicit false

/-!
# Balanced books

The ledger rows of one wallet, in id order, form a journal of its balance.
Books are balanced when every wallet's journal chains from 0 to its balance;
each movement whose new balance is exact keeps them so.
-/

namespace Kufi.Transactions

open Shared

def ledgerJournal : Journal LedgerEntry Int where
  before := LedgerEntry.balanceBefore
  after := LedgerEntry.balanceAfter
  delta entry := signed entry.direction entry.amount

def Books.entriesOf (books : Books) (walletId : Nat) : List LedgerEntry :=
  books.ledger.rows.filter fun entry => entry.walletId == some walletId

structure Books.Balanced (books : Books) : Prop where
  chains : ∀ wallet ∈ books.wallets,
    ledgerJournal.Chains 0 (books.entriesOf wallet.id) wallet.balance
  nonneg : books.Nonneg
  -- No ledger row of a wallet comes before the wallet.
  known : ∀ entry ∈ books.ledger, ∀ id ∈ entry.walletId, id < books.wallets.next

-- The premise under which every balance is a number a double holds exactly.
def Books.Small (books : Books) : Prop :=
  ∀ wallet ∈ books.wallets, wallet.balance < 2 ^ 53

theorem Loaded.small {userId : Uuid} {currency : String} {wallet : Wallet} {before after : Books}
    (loaded : Loaded userId currency wallet before after) (small : before.Small) : after.Small := by
  intro other member
  rcases loaded with ⟨_, rfl⟩ | opened
  · exact small other member
  · obtain ⟨now, inserted⟩ := opened.wallets
    rcases (Table.mem_insert? inserted).mp member with old | rfl
    · exact small other old
    · rw [opened.balance]
      decide

theorem Loaded.balanced {userId : Uuid} {currency : String} {wallet : Wallet}
    {before after : Books} (loaded : Loaded userId currency wallet before after)
    (balanced : before.Balanced) : after.Balanced := by
  have nonneg := loaded.nonneg balanced.nonneg
  rcases loaded with ⟨_, rfl⟩ | opened
  · exact balanced
  · obtain ⟨now, inserted⟩ := opened.wallets
    obtain ⟨shape, _, next, _⟩ := Table.insert?_spec inserted
    have fresh : wallet.id = before.wallets.next := by rw [shape]; rfl
    -- The new wallet has no ledger row yet.
    have none : before.entriesOf wallet.id = [] := by
      refine List.filter_eq_nil_iff.mpr fun entry member own => ?_
      have bound := balanced.known entry member wallet.id (by simpa using own)
      omega
    refine ⟨fun other member => ?_, nonneg, fun entry member id own => ?_⟩
    · have entries : after.entriesOf other.id = before.entriesOf other.id := by
        simp only [Books.entriesOf, opened.ledger]
      rw [entries]
      rcases (Table.mem_insert? inserted).mp member with old | rfl
      · exact balanced.chains other old
      · rw [none, opened.balance]
        rfl
    · rw [opened.ledger] at member
      have bound := balanced.known entry member id own
      omega

section Posted

variable {transactionId : Nat} {direction : LedgerDirection} {amount : Int} {wallet : Wallet}
  {before after : Books}

theorem Posted.entriesOf (posted : Posted transactionId direction amount wallet before after)
    (walletId : Nat) :
    ∃ entry, Records transactionId direction amount wallet entry ∧
      after.entriesOf walletId =
        before.entriesOf walletId ++ if wallet.id = walletId then [entry] else [] := by
  obtain ⟨entry, rows, records⟩ := posted.entry
  refine ⟨entry, records, ?_⟩
  simp only [Books.entriesOf, rows, List.filter_append]
  by_cases own : wallet.id = walletId
  · simp [records.ofWallet, own]
  · simp [records.ofWallet, own]

theorem Posted.balanced (posted : Posted transactionId direction amount wallet before after)
    (positive : 0 < amount) (exact : Number.Exact (wallet.balance + signed direction amount))
    (balanced : before.Balanced) : after.Balanced := by
  have next : after.wallets.next = before.wallets.next :=
    (Table.update?_spec posted.wallets).2.1
  refine ⟨fun other member => ?_, posted.nonneg positive balanced.nonneg, ?_⟩
  · obtain ⟨entry, records, entries⟩ := posted.entriesOf other.id
    rw [entries]
    rcases posted.mem.mp member with ⟨old, different⟩ | rfl
    · rw [if_neg (Ne.symm different), List.append_nil]
      exact balanced.chains other old
    · rw [moved_id, if_pos rfl, ← records.after]
      apply (balanced.chains wallet posted.found).concat records.before
      change entry.balanceAfter = wallet.balance + signed entry.direction entry.amount
      rw [records.after, records.ofDirection, records.ofAmount]
      exact moved_balance exact
  · intro entry member id own
    obtain ⟨last, rows, records⟩ := posted.entry
    rw [Table.mem_def, rows] at member
    rcases List.mem_append.mp member with old | new
    · rw [next]
      exact balanced.known entry old id own
    · rw [List.mem_singleton.mp new, records.ofWallet] at own
      rw [next, ← Option.some.inj own]
      exact before.wallets.fresh wallet posted.found

-- A debit of a small balance is exact, and so is a credit that leaves one.
theorem exact_of_debit {wallet : Wallet} {amount : Int} (positive : 0 < amount)
    (nonneg : 0 ≤ wallet.balance) (covered : amount ≤ wallet.balance)
    (small : wallet.balance < 2 ^ 53) :
    Number.Exact (wallet.balance + signed .debit amount) := by
  have exact : (wallet.balance + -amount).natAbs < 2 ^ 53 := by omega
  exact Number.exact_of_small exact

theorem exact_of_credit {wallet : Wallet} {amount : Int} (positive : 0 < amount)
    (nonneg : 0 ≤ wallet.balance) (small : (moved .credit amount wallet).balance < 2 ^ 53) :
    Number.Exact (wallet.balance + signed .credit amount) := by
  have sum : 0 ≤ wallet.balance + amount := by omega
  exact Number.exact_of_round_small sum small

theorem Posted.debit_balanced (posted : Posted transactionId .debit amount wallet before after)
    (positive : 0 < amount) (small : before.Small) (balanced : before.Balanced) :
    after.Balanced :=
  posted.balanced positive
    (exact_of_debit positive (balanced.nonneg wallet posted.found) (posted.covered rfl)
      (small wallet posted.found)) balanced

end Posted

end Kufi.Transactions

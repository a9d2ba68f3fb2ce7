import Kufi.Transactions.SettlementEffects
import Kufi.Transactions.Service

set_option autoImplicit false

/-!
# The ledger rows of one transaction

A transaction's terms never change once it is persisted; its ledger rows are a
debit unless it is a deposit, and later at most one credit.
-/

namespace Kufi.Transactions

open Shared

-- The columns no later save changes.
structure Terms where
  id : Nat
  idempotencyKey : String
  type : TransactionType
  isExternal : Bool
  requestingUserId : Uuid
  fromUserId : Uuid
  toUserId : Option Uuid
  amount : Int
  currency : String
  deriving DecidableEq

def TransactionEntity.terms (tx : TransactionEntity) : Terms where
  id := tx.id
  idempotencyKey := tx.idempotencyKey
  type := tx.type
  isExternal := tx.isExternal
  requestingUserId := tx.requestingUserId
  fromUserId := tx.fromUserId
  toUserId := tx.toUserId
  amount := tx.amount
  currency := tx.currency

@[simp] theorem marked_terms (now : Instant) (outcome : SettlementOutcome) (note : String)
    (tx : TransactionEntity) : (marked now outcome note tx).terms = tx.terms := by
  cases outcome <;> simp only [marked, markedSettled, markedFailed, releaseToChain] <;>
    split <;> rfl

@[simp] theorem submitted_terms (answer : PartnerAnswer) (tx : TransactionEntity) :
    (submitted answer tx).terms = tx.terms := by
  unfold submitted
  split
  · simp only
    split <;> rfl
  · rfl

@[simp] theorem simulatedFailure_terms (tx : TransactionEntity) :
    (simulatedFailure tx).terms = tx.terms := rfl

@[simp] theorem released_terms (now : Instant) (tx : TransactionEntity) :
    (released now tx).terms = tx.terms := rfl

@[simp] theorem claimed_terms (env : Env) (now : Instant) (tx : TransactionEntity) :
    (claimed env now tx).terms = tx.terms := rfl

@[simp] theorem reconcileBusinessStatus_terms (tx : TransactionEntity) :
    (reconcileBusinessStatusAfterChainUpdate tx).terms = tx.terms := by
  unfold reconcileBusinessStatusAfterChainUpdate
  split_ifs <;> rfl

@[simp] theorem anchored_terms (env : Env) (clock : Clock) (answer : ChainAnswer)
    (tx : TransactionEntity) : (anchored env clock answer tx).terms = tx.terms := by
  cases answer with
  | error message => rfl
  | ok response =>
    simp only [anchored, applyChainResult]
    split_ifs
    · rw [reconcileBusinessStatus_terms]
      rfl
    · rfl
    · rfl

@[simp] theorem processed_terms (env : Env) (clock : Clock) (answer : ChainAnswer)
    (tx : TransactionEntity) : (processed env clock answer tx).terms = tx.terms := by
  rw [← anchored_terms env clock answer tx]
  simp only [processed, reconcileBusinessStatus_terms]
  split_ifs <;> rfl

def Terms.creditedUser (terms : Terms) : Uuid :=
  if terms.type = .deposit then terms.toUserId.getD terms.requestingUserId else terms.fromUserId

/-! ## Postings -/

structure Posting where
  walletId : Option Nat
  direction : LedgerDirection
  amount : Int
  deriving DecidableEq

def LedgerEntry.posting (entry : LedgerEntry) : Posting where
  walletId := entry.walletId
  direction := entry.direction
  amount := entry.amount

def Books.postings (books : Books) (transactionId : Nat) : List Posting :=
  (books.ledger.rows.filter fun entry => entry.transactionId == transactionId).map
    LedgerEntry.posting

-- No ledger row comes before its transaction.
def Tables.Known (s : Tables) : Prop :=
  ∀ id, s.transactions.next ≤ id → s.books.postings id = []

theorem findCredit_eq_none {s : Tables} {id : Nat} :
    s.findCredit id = none ↔ ∀ posting ∈ s.books.postings id, posting.direction ≠ .credit := by
  simp only [Tables.findCredit, Table.find?, List.find?_eq_none, Books.postings, List.mem_map,
    List.mem_filter, Tables.books]
  constructor
  · rintro none _ ⟨entry, ⟨member, own⟩, rfl⟩ credit
    exact none entry member (by simp_all [LedgerEntry.posting])
  · intro none entry member found
    simp only [Bool.and_eq_true, beq_iff_eq] at found
    exact none entry.posting ⟨entry, ⟨member, by simp [found.1]⟩, rfl⟩ found.2

theorem Posted.postings {transactionId : Nat} {direction : LedgerDirection} {amount : Int}
    {wallet : Wallet} {before after : Books}
    (posted : Posted transactionId direction amount wallet before after) (id : Nat) :
    after.postings id = before.postings id ++
      if transactionId = id then [⟨some wallet.id, direction, amount⟩] else [] := by
  obtain ⟨entry, rows, records⟩ := posted.entry
  have shape : entry.posting = ⟨some wallet.id, direction, amount⟩ := by
    rw [LedgerEntry.posting, records.ofWallet, records.ofDirection, records.ofAmount]
  simp only [Books.postings, rows, List.filter_append, List.map_append]
  by_cases own : transactionId = id
  · simp [records.ofTransaction, own, shape]
  · simp [records.ofTransaction, own]

theorem Loaded.postings {userId : Uuid} {currency : String} {wallet : Wallet}
    {before after : Books} (loaded : Loaded userId currency wallet before after) (id : Nat) :
    after.postings id = before.postings id := by
  simp only [Books.postings, loaded.ledger]

/-! ## Wallets stay under their keys -/

def Books.WalletsKept (before after : Books) : Prop :=
  ∀ wallet ∈ before.wallets, ∃ kept ∈ after.wallets, kept.id = wallet.id ∧
    Row.key kept = Row.key wallet

theorem Books.WalletsKept.trans {before middle after : Books} (first : before.WalletsKept middle)
    (second : middle.WalletsKept after) : before.WalletsKept after := by
  intro wallet member
  obtain ⟨kept, keptHeld, sameId, sameKey⟩ := first wallet member
  obtain ⟨last, lastHeld, sameId', sameKey'⟩ := second kept keptHeld
  exact ⟨last, lastHeld, sameId'.trans sameId, sameKey'.trans sameKey⟩

theorem Books.WalletsKept.byKey {before after : Books} (kept : before.WalletsKept after)
    {key : Uuid × String} {wallet : Wallet} (found : before.wallets.byKey key = some wallet) :
    ∃ later, after.wallets.byKey key = some later ∧ later.id = wallet.id := by
  obtain ⟨member, own⟩ := Table.byKey_eq_some.mp found
  obtain ⟨later, held, sameId, sameKey⟩ := kept wallet member
  exact ⟨later, Table.byKey_eq_some.mpr ⟨held, sameKey.trans own⟩, sameId⟩

theorem walletsKept_of_update {books : Books} {old : Wallet} {wallets : Table Wallet}
    (row : Wallet) (updated : books.wallets.update? row = some wallets) (held : old ∈ books.wallets)
    (same : old.id = row.id) (sameKey : Row.key old = Row.key row) (ledger : Table LedgerEntry) :
    books.WalletsKept ⟨wallets, ledger⟩ :=
  fun _ member => Table.kept_update? updated held same sameKey member

theorem Posted.walletsKept {transactionId : Nat} {direction : LedgerDirection} {amount : Int}
    {wallet : Wallet} {before after : Books}
    (posted : Posted transactionId direction amount wallet before after) :
    before.WalletsKept after :=
  walletsKept_of_update _ posted.wallets posted.found (moved_id ..).symm (moved_key ..).symm _

theorem Loaded.walletsKept {userId : Uuid} {currency : String} {wallet : Wallet}
    {before after : Books} (loaded : Loaded userId currency wallet before after) :
    before.WalletsKept after :=
  fun other member => ⟨other, loaded.mem.mpr (.inl member), rfl, rfl⟩

/-! ## Booked transactions -/

-- The ledger rows a transaction has, without or with its credit.
def Booked (books : Books) (terms : Terms) (credited : Bool) : Prop :=
  ∃ walletId,
    (terms.type ≠ .deposit ∨ credited = true → ∃ wallet,
      books.wallets.byKey (terms.creditedUser, terms.currency) = some wallet ∧
        wallet.id = walletId) ∧
    books.postings terms.id =
      (if terms.type = .deposit then [] else [⟨some walletId, .debit, terms.amount⟩]) ++
        if credited then [⟨some walletId, .credit, terms.amount⟩] else []

theorem Booked.frame {before after : Books} {terms : Terms} {credited : Bool}
    (booked : Booked before terms credited) (kept : before.WalletsKept after)
    (same : after.postings terms.id = before.postings terms.id) : Booked after terms credited := by
  obtain ⟨walletId, held, postings⟩ := booked
  refine ⟨walletId, fun needed => ?_, same.trans postings⟩
  obtain ⟨wallet, found, rfl⟩ := held needed
  exact kept.byKey found

theorem Booked.credit {before opened after : Books} {terms : Terms} {wallet : Wallet}
    (booked : Booked before terms false)
    (loaded : Loaded terms.creditedUser terms.currency wallet before opened)
    (posted : Posted terms.id .credit terms.amount wallet opened after) :
    Booked after terms true := by
  obtain ⟨walletId, held, postings⟩ := booked
  have found : after.wallets.byKey (terms.creditedUser, terms.currency) =
      some (moved .credit terms.amount wallet) := by
    rw [posted.byKey, if_pos loaded.key]
  refine ⟨wallet.id, fun _ => ⟨_, found, moved_id ..⟩, ?_⟩
  rw [posted.postings, if_pos rfl, loaded.postings, postings]
  by_cases deposit : terms.type = .deposit
  · simp [deposit]
  · -- The wallet that was debited is the one that is credited.
    obtain ⟨debitWallet, debitFound, rfl⟩ := held (.inl deposit)
    have same : debitWallet = wallet := by
      rcases loaded with ⟨creditFound, _⟩ | opened
      · exact Option.some.inj (debitFound.symm.trans creditFound)
      · rw [opened.missing] at debitFound
        cases debitFound
    simp [deposit, same]

theorem Booked.findCredit {s : Tables} {terms : Terms} {credited : Bool}
    (booked : Booked s.books terms credited) : s.findCredit terms.id = none ↔ credited = false := by
  obtain ⟨walletId, _, postings⟩ := booked
  rw [findCredit_eq_none, postings]
  by_cases deposit : terms.type = .deposit
  · cases credited <;> simp [deposit]
  · cases credited <;> simp [deposit]

-- The sum of a transaction's ledger rows on one wallet.
def Books.netEffect (books : Books) (transactionId walletId : Nat) : Int :=
  (((books.postings transactionId).filter fun posting => posting.walletId == some walletId).map
    fun posting => signed posting.direction posting.amount).sum

theorem Booked.netEffect {books : Books} {terms : Terms} {credited : Bool}
    (booked : Booked books terms credited) (debit : terms.type ≠ .deposit) :
    ∃ wallet, books.wallets.byKey (terms.fromUserId, terms.currency) = some wallet ∧
      books.netEffect terms.id wallet.id = if credited then 0 else -terms.amount := by
  obtain ⟨walletId, held, postings⟩ := booked
  obtain ⟨wallet, found, rfl⟩ := held (.inl debit)
  rw [Terms.creditedUser, if_neg debit] at found
  refine ⟨wallet, found, ?_⟩
  rw [Books.netEffect, postings]
  cases credited <;> simp [debit, signed]

end Kufi.Transactions

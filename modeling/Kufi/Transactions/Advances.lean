import Kufi.Transactions.Balanced
import Kufi.Transactions.SettlementEffects
import Kufi.Transactions.TransferEffects

set_option autoImplicit false

/-!
# What commits do to the books

Every commit of the service opens wallets and posts debits and credits, one
after the other. What each of these steps keeps, the commit keeps.
-/

namespace Kufi.Transactions

open Shared

inductive Books.Advance (before : Books) : Books → Prop
  | refl : before.Advance before
  | loaded {userId : Uuid} {currency : String} {wallet : Wallet} {middle after : Books} :
      before.Advance middle → Loaded userId currency wallet middle after → before.Advance after
  | posted {transactionId : Nat} {direction : LedgerDirection} {amount : Int} {wallet : Wallet}
      {middle after : Books} :
      before.Advance middle → 0 < amount → Number.Exact (wallet.balance + signed direction amount) →
        Posted transactionId direction amount wallet middle after → before.Advance after

/-- The balances are the sums of the ledger rows, and the first row begins at nothing. -/
structure Books.Summed (books : Books) : Prop where
  sums : ∀ wallet ∈ books.wallets,
    wallet.balance = ledgerJournal.total (books.entriesOf wallet.id)
  openings : ∀ wallet ∈ books.wallets, ∀ first, (books.entriesOf wallet.id).head? = some first →
    first.balanceBefore = 0
  nonneg : books.Nonneg
  -- No ledger row of a wallet comes before the wallet.
  known : ∀ entry ∈ books.ledger, ∀ id ∈ entry.walletId, id < books.wallets.next

theorem Books.Balanced.summed {books : Books} (balanced : books.Balanced) : books.Summed where
  sums wallet member := by
    have closing := (balanced.chains wallet member).closing_eq
    rwa [Int.zero_add] at closing
  openings wallet member first head := (balanced.chains wallet member).opening_eq head
  nonneg := balanced.nonneg
  known := balanced.known

section

variable {transactionId : Nat} {direction : LedgerDirection} {amount : Int} {userId : Uuid}
  {currency : String} {wallet : Wallet} {before after : Books}

theorem Loaded.summed (loaded : Loaded userId currency wallet before after)
    (summed : before.Summed) : after.Summed := by
  have nonneg := loaded.nonneg summed.nonneg
  rcases loaded with ⟨_, rfl⟩ | opened
  · exact summed
  · obtain ⟨now, inserted⟩ := opened.wallets
    obtain ⟨shape, _, next, _⟩ := Table.insert?_spec inserted
    have fresh : wallet.id = before.wallets.next := by rw [shape]; rfl
    -- The new wallet has no ledger row yet.
    have none : before.entriesOf wallet.id = [] := by
      refine List.filter_eq_nil_iff.mpr fun entry member own => ?_
      have bound := summed.known entry member wallet.id (by simpa using own)
      omega
    have entries (id : Nat) : after.entriesOf id = before.entriesOf id := by
      simp only [Books.entriesOf, opened.ledger]
    constructor
    case sums =>
      intro other member
      rw [entries]
      rcases (Table.mem_insert? inserted).mp member with old | rfl
      · exact summed.sums other old
      · rw [none, opened.balance]
        rfl
    case openings =>
      intro other member first head
      rw [entries] at head
      rcases (Table.mem_insert? inserted).mp member with old | rfl
      · exact summed.openings other old first head
      · rw [none] at head
        cases head
    case nonneg => exact nonneg
    case known =>
      intro entry member id own
      rw [opened.ledger] at member
      have bound := summed.known entry member id own
      omega

theorem Posted.summed (posted : Posted transactionId direction amount wallet before after)
    (positive : 0 < amount) (exact : Number.Exact (wallet.balance + signed direction amount))
    (summed : before.Summed) : after.Summed := by
  have next : after.wallets.next = before.wallets.next :=
    (Table.update?_spec posted.wallets).2.1
  have own := summed.sums wallet posted.found
  constructor
  case sums =>
    intro other member
    obtain ⟨entry, records, entries⟩ := posted.entriesOf other.id
    rw [entries]
    rcases posted.mem.mp member with ⟨old, different⟩ | rfl
    · rw [if_neg (Ne.symm different), List.append_nil]
      exact summed.sums other old
    · have delta : ledgerJournal.delta entry = signed direction amount := by
        simp [ledgerJournal, records.ofDirection, records.ofAmount]
      rw [moved_id, if_pos rfl, moved_balance exact, own]
      simp [Journal.total, delta]
  case openings =>
    intro other member first head
    obtain ⟨entry, records, entries⟩ := posted.entriesOf other.id
    rw [entries] at head
    rcases posted.mem.mp member with ⟨old, different⟩ | rfl
    · rw [if_neg (Ne.symm different), List.append_nil] at head
      exact summed.openings other old first head
    · rw [moved_id, if_pos rfl] at head
      cases rows : before.entriesOf wallet.id with
      | nil =>
        -- the first row of the wallet, whose balance was the empty sum
        rw [rows] at head own
        obtain rfl : entry = first := Option.some.inj head
        rw [records.before, own]
        rfl
      | cons earlier rest =>
        rw [rows] at head
        exact summed.openings wallet posted.found first (by rw [rows]; exact head)
  case nonneg => exact posted.nonneg positive summed.nonneg
  case known =>
    intro entry member id ofWallet
    obtain ⟨last, rows, records⟩ := posted.entry
    rw [Table.mem_def, rows] at member
    rw [next]
    rcases List.mem_append.mp member with old | new
    · exact summed.known entry old id ofWallet
    · rw [List.mem_singleton.mp new, records.ofWallet] at ofWallet
      rw [← Option.some.inj ofWallet]
      exact before.wallets.fresh wallet posted.found

end

namespace Books.Advance

variable {before after : Books}

theorem summed (advance : before.Advance after) (summed : before.Summed) : after.Summed := by
  induction advance with
  | refl => exact summed
  | loaded _ loaded ih => exact loaded.summed ih
  | posted _ positive exact posted ih => exact posted.summed positive exact ih

theorem balanced (advance : before.Advance after) (balanced : before.Balanced) :
    after.Balanced := by
  induction advance with
  | refl => exact balanced
  | loaded _ loaded ih => exact loaded.balanced ih
  | posted _ positive exact posted ih => exact posted.balanced positive exact ih

/-- Of a wallet only the balance changes. -/
theorem wallet (advance : before.Advance after) {wallet : Wallet} (member : wallet ∈ before.wallets) :
    ∃ balance, { wallet with balance } ∈ after.wallets := by
  induction advance with
  | refl => exact ⟨wallet.balance, member⟩
  | loaded _ loaded ih =>
    obtain ⟨balance, held⟩ := ih
    exact ⟨balance, loaded.mem.mpr (.inl held)⟩
  | @posted _ direction amount moving middle _ _ _ _ posted ih =>
    obtain ⟨balance, held⟩ := ih
    by_cases same : wallet.id = moving.id
    · have row : { wallet with balance } = moving := Table.eq_of_id held posted.found same
      refine ⟨(moved direction amount moving).balance, posted.mem.mpr (.inr ?_)⟩
      rw [← row]
      cases direction <;> rfl
    · exact ⟨balance, posted.mem.mpr (.inl ⟨held, same⟩)⟩

end Books.Advance

/-! ## One commit each -/

section

variable {transactionId : Nat} {amount : Int} {wallet : Wallet} {before middle after : Books}

theorem Books.Advance.debit (advance : before.Advance middle) (positive : 0 < amount)
    (nonneg : middle.Nonneg) (small : middle.Small)
    (posted : Posted transactionId .debit amount wallet middle after) : before.Advance after :=
  .posted advance positive
    (exact_of_debit positive (nonneg wallet posted.found) (posted.covered rfl)
      (small wallet posted.found)) posted

theorem Books.Advance.credit (advance : before.Advance middle) (positive : 0 < amount)
    (nonneg : middle.Nonneg) (small : after.Small)
    (posted : Posted transactionId .credit amount wallet middle after) : before.Advance after :=
  .posted advance positive
    (exact_of_credit positive (nonneg wallet posted.found) (small _ (posted.mem.mpr (.inr rfl))))
    posted

end

def Tables.Positive (s : Tables) : Prop :=
  ∀ tx ∈ s.transactions, 0 < tx.amount

/-- What a commit between small tables keeps and does. -/
structure Tables.Commits (s after : Tables) : Prop where
  positive : after.Positive
  advance : after.books.Small → s.books.Advance after.books

section

variable {env : Env} {now : Instant} {s after : Tables}

theorem Tables.Positive.commits (positive : s.Positive) : s.Commits s := ⟨positive, fun _ => .refl⟩

theorem positive_insert {tx saved : TransactionEntity} {transactions : Table TransactionEntity}
    (positive : s.Positive) (amount : 0 < tx.amount)
    (inserted : s.transactions.insert? tx = some (saved, transactions)) :
    (∀ other ∈ transactions, 0 < other.amount) ∧ 0 < saved.amount := by
  have shape := (Table.insert?_spec inserted).1
  have own : 0 < saved.amount := by rw [shape]; exact amount
  refine ⟨fun other member => ?_, own⟩
  rcases (Table.mem_insert? inserted).mp member with old | rfl
  · exact positive other old
  · exact own

theorem marked_amount (now : Instant) (outcome : SettlementOutcome) (note : String)
    (tx : TransactionEntity) : (marked now outcome note tx).amount = tx.amount := by
  cases outcome <;> simp only [marked, markedSettled, markedFailed, releaseToChain] <;>
    split <;> rfl

theorem persistTransfer_commits {req : TransferRequest} {persisted : PersistedTransfer}
    (positive : s.Positive) (nonneg : s.books.Nonneg) (small : s.books.Small)
    (sender : Uuid.Canonical req.fromUserId) (receiver : Uuid.Canonical req.toUserId)
    (done : persistTransfer env now req s = .ok (persisted, after)) :
    s.Commits after ∧ 0 < persisted.transaction.amount := by
  have dup : s.findByIdempotencyKey req.idempotencyKey = some persisted.transaction →
      0 < persisted.transaction.amount :=
    fun used => positive _ (Table.byKey_eq_some.mp used).1
  cases external : req.isExternal with
  | true =>
    rcases persistTransfer_external external done with ⟨rfl, used⟩ | ⟨_, rest⟩
    · exact ⟨positive.commits, dup used⟩
    · obtain ⟨_, _, _, wallets, transactions, ledger, rfl, _, inserted, debit⟩ := rest
      obtain ⟨amounts, own⟩ := positive_insert positive req.positive inserted
      exact ⟨⟨amounts, fun _ => Books.Advance.refl.debit req.positive nonneg small debit⟩, own⟩
  | false =>
    have apart : Uuid.parse req.fromUserId ≠ Uuid.parse req.toUserId :=
      fun same => req.distinct external (sender.parse_injective receiver same)
    rcases persistTransfer_postings external apart done with ⟨rfl, used⟩ | ⟨_, rest⟩
    · exact ⟨positive.commits, dup used⟩
    · obtain ⟨_, _, _, _, _, _, wallets, transactions, ledger, rfl, _, _, _, loaded, inserted,
        debit, credit⟩ := rest
      obtain ⟨amounts, own⟩ := positive_insert positive req.positive inserted
      have opened := loaded.nonneg nonneg
      have debited := (Books.Advance.refl.loaded loaded).debit req.positive opened
        (loaded.small small) debit
      exact ⟨⟨amounts, fun later =>
        debited.credit req.positive (debit.nonneg req.positive opened) later credit⟩, own⟩

theorem persistTopupIntent_commits {req : FundingRequest} {fundingSource : FundingSource}
    {persisted : PersistedFunding} (positive : s.Positive)
    (done : persistTopupIntent env now req fundingSource s = .ok (persisted, after)) :
    s.Commits after ∧ 0 < persisted.transaction.amount := by
  rcases persistTopupIntent_effect done with ⟨rfl, used⟩ | ⟨_, rest⟩
  · exact ⟨positive.commits, positive _ (Table.byKey_eq_some.mp used).1⟩
  · obtain ⟨_, _, _, wallets, transactions, rfl, loaded, inserted⟩ := rest
    obtain ⟨amounts, own⟩ := positive_insert positive req.positive inserted
    exact ⟨⟨amounts, fun _ => .loaded .refl loaded⟩, own⟩

theorem rollbackWithdrawalDebit_commits {tx : TransactionEntity} {reasonCode : String}
    (positive : s.Positive) (nonneg : s.books.Nonneg) (amount : 0 < tx.amount)
    (done : rollbackWithdrawalDebit tx reasonCode s = .ok after) : s.Commits after := by
  unfold rollbackWithdrawalDebit at done
  split_ifs at done with other
  · cases done
    exact positive.commits
  · rcases rollbackWithdrawalDebitUsingManager_effect done with ⟨rfl, _⟩ | ⟨_, rest⟩
    · exact positive.commits
    · obtain ⟨wallets, ledger, _, rfl, _, credit⟩ := rest
      exact ⟨positive, fun later => Books.Advance.refl.credit amount nonneg later credit⟩

theorem markSettlement_commits {transactionId : Nat} {settlementStatus note : String} {found : Bool}
    (positive : s.Positive) (nonneg : s.books.Nonneg)
    (done : markSettlement env now transactionId settlementStatus note s = .ok (found, after)) :
    s.Commits after := by
  obtain ⟨outcome, _, ⟨_, rfl, _⟩ | ⟨_, tx, middle, transactions, outbox, held, credited, updated,
    rfl, _⟩⟩ := markSettlement_effect done
  · exact positive.commits
  · have amount : 0 < tx.amount := positive tx (Table.mem_of_get? held)
    have amounts : ∀ other ∈ transactions, 0 < other.amount := by
      intro other member
      rcases (Table.mem_update? updated).mp member with ⟨old, _⟩ | ⟨rfl, _⟩
      · exact positive other old
      · rw [marked_amount]
        exact amount
    refine ⟨amounts, fun later => ?_⟩
    rcases credited with ⟨rfl, _⟩ | ⟨_, _, wallets, ledger, _, _, rfl, loaded, credit⟩
    · exact .refl
    · exact (Books.Advance.refl.loaded loaded).credit amount (loaded.nonneg nonneg) later credit

end

end Kufi.Transactions

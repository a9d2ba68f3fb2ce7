import Kufi.Transactions.Movements

set_option autoImplicit false

/-!
# Wallets and ledger together

The two tables money lives in, the two changes a movement makes to them and
what can be read from them afterwards.
-/

namespace Kufi.Transactions

open Shared

structure Books where
  wallets : Table Wallet
  ledger : Table LedgerEntry

def Tables.books (s : Tables) : Books := ⟨s.wallets, s.ledger⟩

def Tables.balanceOf (s : Tables) (userId : Uuid) (currency : String) : Int :=
  walletBalance (s.findWallet userId currency)

def moved (direction : LedgerDirection) (amount : Int) (wallet : Wallet) : Wallet :=
  match direction with
  | .debit => debited amount wallet
  | .credit => credited amount wallet

@[simp] theorem moved_id (direction : LedgerDirection) (amount : Int) (wallet : Wallet) :
    (moved direction amount wallet).id = wallet.id := by
  cases direction <;> rfl

@[simp] theorem moved_userId (direction : LedgerDirection) (amount : Int) (wallet : Wallet) :
    (moved direction amount wallet).userId = wallet.userId := by
  cases direction <;> rfl

@[simp] theorem moved_currency (direction : LedgerDirection) (amount : Int) (wallet : Wallet) :
    (moved direction amount wallet).currency = wallet.currency := by
  cases direction <;> rfl

@[simp] theorem moved_key (direction : LedgerDirection) (amount : Int) (wallet : Wallet) :
    Row.key (moved direction amount wallet) = Row.key wallet := by
  cases direction <;> rfl

def signed (direction : LedgerDirection) (amount : Int) : Int :=
  match direction with
  | .debit => -amount
  | .credit => amount

theorem moved_balance {direction : LedgerDirection} {amount : Int} {wallet : Wallet}
    (exact : Number.Exact (wallet.balance + signed direction amount)) :
    (moved direction amount wallet).balance = wallet.balance + signed direction amount := by
  cases direction with
  | debit => exact (Number.sub_eq_iff wallet.balance amount).mpr exact
  | credit => exact (Number.add_eq_iff wallet.balance amount).mpr exact

-- One wallet of the books moves and one ledger row says so.
structure Posted (transactionId : Nat) (direction : LedgerDirection) (amount : Int)
    (wallet : Wallet) (before after : Books) : Prop where
  found : wallet ∈ before.wallets
  covered : direction = .debit → amount ≤ wallet.balance
  wallets : before.wallets.update? (moved direction amount wallet) = some after.wallets
  ledger : ∃ note saved, before.ledger.insert? (ledgerEntry transactionId direction amount wallet
    (moved direction amount wallet) note) = some (saved, after.ledger)

-- A wallet that did not exist is opened with nothing in it.
structure Opened (userId : Uuid) (currency : String) (wallet : Wallet) (before after : Books) :
    Prop where
  missing : before.wallets.byKey (userId, currency) = none
  wallets : ∃ now, before.wallets.insert? (emptyWallet now userId currency) =
    some (wallet, after.wallets)
  ledger : after.ledger = before.ledger

-- The wallet a movement works on, found or opened.
def Loaded (userId : Uuid) (currency : String) (wallet : Wallet) (before after : Books) : Prop :=
  (before.wallets.byKey (userId, currency) = some wallet ∧ after = before) ∨
    Opened userId currency wallet before after

theorem Opened.key {userId : Uuid} {currency : String} {wallet : Wallet} {before after : Books}
    (opened : Opened userId currency wallet before after) :
    Row.key wallet = some (userId, currency) := by
  obtain ⟨now, inserted⟩ := opened.wallets
  rw [(Table.insert?_spec inserted).1, Row.key_withId]
  rfl

theorem Opened.balance {userId : Uuid} {currency : String} {wallet : Wallet}
    {before after : Books} (opened : Opened userId currency wallet before after) :
    wallet.balance = 0 := by
  obtain ⟨now, inserted⟩ := opened.wallets
  rw [(Table.insert?_spec inserted).1]
  rfl

theorem Opened.member {userId : Uuid} {currency : String} {wallet : Wallet}
    {before after : Books} (opened : Opened userId currency wallet before after) :
    wallet ∈ after.wallets := by
  obtain ⟨now, inserted⟩ := opened.wallets
  exact (Table.mem_insert? inserted).mpr (.inr rfl)

theorem Loaded.byKey {userId : Uuid} {currency : String} {wallet : Wallet} {before after : Books}
    (loaded : Loaded userId currency wallet before after) :
    after.wallets.byKey (userId, currency) = some wallet := by
  rcases loaded with ⟨found, rfl⟩ | opened
  · exact found
  · exact Table.byKey_eq_some.mpr ⟨opened.member, opened.key⟩

theorem Loaded.member {userId : Uuid} {currency : String} {wallet : Wallet} {before after : Books}
    (loaded : Loaded userId currency wallet before after) : wallet ∈ after.wallets :=
  (Table.byKey_eq_some.mp loaded.byKey).1

/-! ## The wallets afterwards -/

section Wallets

variable {transactionId : Nat} {direction : LedgerDirection} {amount : Int} {userId : Uuid}
  {currency : String} {wallet : Wallet} {before after : Books}

theorem Posted.byKey (posted : Posted transactionId direction amount wallet before after)
    (key : Uuid × String) :
    after.wallets.byKey key =
      if Row.key wallet = some key then some (moved direction amount wallet)
      else before.wallets.byKey key := by
  have updated := Table.byKey_update? posted.wallets posted.found (moved_id ..).symm
    (moved_key ..).symm key
  simpa using updated

theorem Posted.mem (posted : Posted transactionId direction amount wallet before after)
    {other : Wallet} :
    other ∈ after.wallets ↔
      (other ∈ before.wallets ∧ other.id ≠ wallet.id) ∨ other = moved direction amount wallet := by
  rw [Table.mem_update? posted.wallets]
  simp only [Row.id, moved_id]
  have old : ∃ old ∈ before.wallets, old.id = wallet.id := ⟨wallet, posted.found, rfl⟩
  simp [old]

theorem Loaded.mem (loaded : Loaded userId currency wallet before after) {other : Wallet} :
    other ∈ after.wallets ↔ other ∈ before.wallets ∨ other = wallet := by
  rcases loaded with ⟨found, rfl⟩ | opened
  · have member := (Table.byKey_eq_some.mp found).1
    constructor
    · exact .inl
    · rintro (old | rfl)
      · exact old
      · exact member
  · obtain ⟨now, inserted⟩ := opened.wallets
    exact Table.mem_insert? inserted

theorem Loaded.byKey_of_ne (loaded : Loaded userId currency wallet before after)
    {key : Uuid × String} (different : (userId, currency) ≠ key) :
    after.wallets.byKey key = before.wallets.byKey key := by
  rcases loaded with ⟨_, rfl⟩ | opened
  · rfl
  · obtain ⟨now, inserted⟩ := opened.wallets
    rw [Table.byKey_insert? inserted, if_neg]
    rw [opened.key]
    exact fun same => different (Option.some.inj same)

theorem Loaded.key (loaded : Loaded userId currency wallet before after) :
    Row.key wallet = some (userId, currency) :=
  (Table.byKey_eq_some.mp loaded.byKey).2

theorem Loaded.ledger (loaded : Loaded userId currency wallet before after) :
    after.ledger = before.ledger := by
  rcases loaded with ⟨_, rfl⟩ | opened
  · rfl
  · exact opened.ledger

-- An opened wallet starts at 0, so what the key held before is the loaded balance either way.
theorem Loaded.balance (loaded : Loaded userId currency wallet before after) :
    walletBalance (before.wallets.byKey (userId, currency)) = wallet.balance := by
  rcases loaded with ⟨found, _⟩ | opened
  · simp [walletBalance, found]
  · simp [walletBalance, opened.missing, opened.balance]

def Books.Nonneg (books : Books) : Prop :=
  ∀ wallet ∈ books.wallets, 0 ≤ wallet.balance

theorem Loaded.nonneg (loaded : Loaded userId currency wallet before after)
    (nonneg : before.Nonneg) : after.Nonneg := by
  intro other member
  rcases loaded with ⟨_, rfl⟩ | opened
  · exact nonneg other member
  · obtain ⟨now, inserted⟩ := opened.wallets
    rcases (Table.mem_insert? inserted).mp member with old | rfl
    · exact nonneg other old
    · exact opened.balance.ge

-- Rounding cannot take a covered debit or a credit below zero.
theorem Posted.nonneg (posted : Posted transactionId direction amount wallet before after)
    (positive : 0 < amount) (nonneg : before.Nonneg) : after.Nonneg := by
  intro other member
  rcases posted.mem.mp member with ⟨old, _⟩ | rfl
  · exact nonneg other old
  · cases direction with
    | debit => exact Number.sub_nonneg (posted.covered rfl)
    | credit => exact Number.add_nonneg (nonneg wallet posted.found) (Int.le_of_lt positive)

end Wallets

/-! ## The ledger afterwards -/

-- The ledger row of a movement of `wallet`, whose balance is the one before it.
structure Records (transactionId : Nat) (direction : LedgerDirection) (amount : Int)
    (wallet : Wallet) (entry : LedgerEntry) : Prop where
  ofTransaction : entry.transactionId = transactionId
  ofWallet : entry.walletId = some wallet.id
  ofDirection : entry.direction = direction
  ofAmount : entry.amount = amount
  before : entry.balanceBefore = wallet.balance
  after : entry.balanceAfter = (moved direction amount wallet).balance

theorem Posted.entry {transactionId : Nat} {direction : LedgerDirection} {amount : Int}
    {wallet : Wallet} {before after : Books}
    (posted : Posted transactionId direction amount wallet before after) :
    ∃ entry, after.ledger.rows = before.ledger.rows ++ [entry] ∧
      Records transactionId direction amount wallet entry := by
  obtain ⟨note, saved, inserted⟩ := posted.ledger
  obtain ⟨shape, rows, _, _⟩ := Table.insert?_spec inserted
  refine ⟨saved, rows, ?_⟩
  subst shape
  exact ⟨rfl, rfl, rfl, rfl, rfl, rfl⟩

/-! ## Totals -/

def Books.total (books : Books) (currency : String) : Int :=
  (books.wallets.rows.map fun wallet =>
    if wallet.currency = currency then wallet.balance else 0).sum

theorem Posted.total {transactionId : Nat} {direction : LedgerDirection} {amount : Int}
    {wallet : Wallet} {before after : Books}
    (posted : Posted transactionId direction amount wallet before after)
    (exact : Number.Exact (wallet.balance + signed direction amount)) (currency : String) :
    after.total currency =
      before.total currency + if wallet.currency = currency then signed direction amount else 0 := by
  have rows := (Table.update?_spec posted.wallets).1
  have balance := moved_balance exact
  simp only [Books.total, rows]
  rw [Table.sum_replace before.wallets.ids posted.found (moved_id ..).symm]
  by_cases own : wallet.currency = currency
  · simp only [moved_currency, own, if_true, balance]
    omega
  · simp [own]

theorem Loaded.total {userId : Uuid} {currency : String} {wallet : Wallet} {before after : Books}
    (loaded : Loaded userId currency wallet before after) (other : String) :
    after.total other = before.total other := by
  rcases loaded with ⟨_, rfl⟩ | opened
  · rfl
  · obtain ⟨now, inserted⟩ := opened.wallets
    have rows := (Table.insert?_spec inserted).2.1
    simp [Books.total, rows, opened.balance]

end Kufi.Transactions

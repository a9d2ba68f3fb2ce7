import Kufi.Transactions.Requests

set_option autoImplicit false

/-!
# Database access

The queries and writes of the service. A database transaction is a function
from the tables to an error, which leaves nothing behind, or the new tables.
-/

namespace Kufi.Transactions

open Shared

theorem bind_eq_ok {A B : Type} {first : Except ServiceError A} {next : A → Except ServiceError B}
    {result : B} :
    (first >>= next) = .ok result ↔ ∃ value, first = .ok value ∧ next value = .ok result := by
  cases first <;> simp [bind, Except.bind]

@[simp] theorem ok_bind {A B : Type} (value : A) (next : A → Except ServiceError B) :
    (Except.ok value >>= next) = next value := rfl

@[simp] theorem error_bind {A B : Type} (error : ServiceError) (next : A → Except ServiceError B) :
    (Except.error error >>= next) = .error error := rfl

theorem map_eq_ok {A B : Type} {first : Except ServiceError A} {f : A → B} {result : B} :
    first.map f = .ok result ↔ ∃ value, first = .ok value ∧ f value = result := by
  cases first <;> simp [Except.map]

def parseUuid (text : String) : Except ServiceError Uuid :=
  match Uuid.parse text with
  | some id => .ok id
  | none => .error .queryFailed

theorem parseUuid_eq_ok {text : String} {id : Uuid} :
    parseUuid text = .ok id ↔ Uuid.parse text = some id := by
  unfold parseUuid
  cases Uuid.parse text <;> simp

section Rows

variable {A K : Type} [Row A K] [DecidableEq K]

def insertRow (columnsFit : A → Bool) (table : Table A) (row : A) :
    Except ServiceError (A × Table A) :=
  if columnsFit row then
    match table.insert? row with
    | some inserted => .ok inserted
    | none => .error .queryFailed
  else .error .queryFailed

-- `save` writes every column whose value differs from the row, so the row becomes the entity.
def saveRow (columnsFit : A → Bool) (table : Table A) (row : A) : Except ServiceError (Table A) :=
  if columnsFit row then
    match table.update? row with
    | some saved => .ok saved
    | none => .error .queryFailed
  else .error .queryFailed

theorem insertRow_eq_ok {columnsFit : A → Bool} {table after : Table A} {row saved : A} :
    insertRow columnsFit table row = .ok (saved, after) ↔
      columnsFit row = true ∧ table.insert? row = some (saved, after) := by
  unfold insertRow
  split_ifs with fits
  · cases table.insert? row <;> simp [fits]
  · simp [fits]

theorem saveRow_eq_ok {columnsFit : A → Bool} {table after : Table A} {row : A} :
    saveRow columnsFit table row = .ok after ↔
      columnsFit row = true ∧ table.update? row = some after := by
  unfold saveRow
  split_ifs with fits
  · cases table.update? row <;> simp [fits]
  · simp [fits]

theorem insertRow_isOk {columnsFit : A → Bool} {table : Table A} {row : A}
    (fits : columnsFit row = true) (free : ∀ other ∈ table, ¬ Clash other row) :
    ∃ saved after, insertRow columnsFit table row = .ok (saved, after) := by
  obtain ⟨⟨saved, after⟩, inserted⟩ := Option.isSome_iff_exists.mp (Table.insert?_isSome free)
  exact ⟨saved, after, insertRow_eq_ok.mpr ⟨fits, inserted⟩⟩

theorem saveRow_isOk {columnsFit : A → Bool} {table : Table A} {row old : A}
    (fits : columnsFit row = true) (member : old ∈ table) (same : Row.id old = Row.id row)
    (key : Row.key old = Row.key row) : ∃ after, saveRow columnsFit table row = .ok after := by
  obtain ⟨after, updated⟩ := Option.isSome_iff_exists.mp (Table.update?_isSome member same key)
  exact ⟨after, saveRow_eq_ok.mpr ⟨fits, updated⟩⟩

end Rows

namespace Tables

def findByIdempotencyKey (s : Tables) (idempotencyKey : String) : Option TransactionEntity :=
  s.transactions.byKey idempotencyKey

def findWallet (s : Tables) (userId : Uuid) (currency : String) : Option Wallet :=
  s.wallets.byKey (userId, currency)

def getWallet (s : Tables) (userId currency : String) : Except ServiceError (Option Wallet) :=
  (parseUuid userId).map (s.findWallet · currency)

-- The ledger row a second credit of the same transaction is guarded by.
def findCredit (s : Tables) (transactionId : Nat) : Option LedgerEntry :=
  s.ledger.find? fun entry => entry.transactionId == transactionId && entry.direction == .credit

def insertWallet (s : Tables) (wallet : Wallet) : Except ServiceError (Wallet × Tables) :=
  (insertRow Wallet.columnsFit s.wallets wallet).map fun (saved, wallets) =>
    (saved, { s with wallets })

def saveWallet (s : Tables) (wallet : Wallet) : Except ServiceError Tables :=
  (saveRow Wallet.columnsFit s.wallets wallet).map fun wallets => { s with wallets }

def insertTransaction (s : Tables) (tx : TransactionEntity) :
    Except ServiceError (TransactionEntity × Tables) :=
  (insertRow TransactionEntity.columnsFit s.transactions tx).map fun (saved, transactions) =>
    (saved, { s with transactions })

def saveTransaction (s : Tables) (tx : TransactionEntity) : Except ServiceError Tables :=
  (saveRow TransactionEntity.columnsFit s.transactions tx).map fun transactions =>
    { s with transactions }

def insertLedger (s : Tables) (entry : LedgerEntry) : Except ServiceError Tables :=
  (insertRow LedgerEntry.columnsFit s.ledger entry).map fun (_, ledger) => { s with ledger }

def insertEvent (s : Tables) (event : TransactionOutboxEvent) : Except ServiceError Tables :=
  (insertRow (fun _ => true) s.outbox event).map fun (_, outbox) => { s with outbox }

theorem insertWallet_eq_ok {s after : Tables} {wallet saved : Wallet} :
    s.insertWallet wallet = .ok (saved, after) ↔
      wallet.columnsFit = true ∧
        ∃ wallets, s.wallets.insert? wallet = some (saved, wallets) ∧
          after = { s with wallets } := by
  simp only [insertWallet, map_eq_ok, Prod.exists, insertRow_eq_ok, Prod.mk.injEq]
  grind

theorem saveWallet_eq_ok {s after : Tables} {wallet : Wallet} :
    s.saveWallet wallet = .ok after ↔
      wallet.columnsFit = true ∧
        ∃ wallets, s.wallets.update? wallet = some wallets ∧ after = { s with wallets } := by
  simp only [saveWallet, map_eq_ok, saveRow_eq_ok]
  grind

theorem insertTransaction_eq_ok {s after : Tables} {tx saved : TransactionEntity} :
    s.insertTransaction tx = .ok (saved, after) ↔
      tx.columnsFit = true ∧
        ∃ transactions, s.transactions.insert? tx = some (saved, transactions) ∧
          after = { s with transactions } := by
  simp only [insertTransaction, map_eq_ok, Prod.exists, insertRow_eq_ok, Prod.mk.injEq]
  grind

theorem saveTransaction_eq_ok {s after : Tables} {tx : TransactionEntity} :
    s.saveTransaction tx = .ok after ↔
      tx.columnsFit = true ∧
        ∃ transactions, s.transactions.update? tx = some transactions ∧
          after = { s with transactions } := by
  simp only [saveTransaction, map_eq_ok, saveRow_eq_ok]
  grind

theorem insertLedger_eq_ok {s after : Tables} {entry : LedgerEntry} :
    s.insertLedger entry = .ok after ↔
      entry.columnsFit = true ∧
        ∃ saved ledger, s.ledger.insert? entry = some (saved, ledger) ∧
          after = { s with ledger } := by
  simp only [insertLedger, map_eq_ok, Prod.exists, insertRow_eq_ok]
  grind

theorem insertEvent_eq_ok {s after : Tables} {event : TransactionOutboxEvent} :
    s.insertEvent event = .ok after ↔
      ∃ saved outbox, s.outbox.insert? event = some (saved, outbox) ∧
        after = { s with outbox } := by
  simp only [insertEvent, map_eq_ok, Prod.exists, insertRow_eq_ok]
  grind

theorem saveWallet_isOk {s : Tables} {wallet old : Wallet} (fits : wallet.columnsFit = true)
    (member : old ∈ s.wallets) (same : old.id = wallet.id) (key : Row.key old = Row.key wallet) :
    ∃ wallets, s.saveWallet wallet = .ok { s with wallets } := by
  obtain ⟨wallets, saved⟩ := saveRow_isOk fits member same key
  exact ⟨wallets, by simp [saveWallet, saved, Except.map]⟩

theorem insertTransaction_isOk {s : Tables} {tx : TransactionEntity} (fits : tx.columnsFit = true)
    (new : s.findByIdempotencyKey tx.idempotencyKey = none) :
    ∃ saved transactions, s.insertTransaction tx = .ok (saved, { s with transactions }) := by
  have free : ∀ other ∈ s.transactions, ¬ Clash other tx :=
    fun other member clash => Table.byKey_eq_none.mp new other member clash.2
  obtain ⟨saved, transactions, inserted⟩ := insertRow_isOk fits free
  exact ⟨saved, transactions, by simp [insertTransaction, inserted, Except.map]⟩

theorem insertLedger_isOk {s : Tables} {entry : LedgerEntry} (fits : entry.columnsFit = true) :
    ∃ ledger, s.insertLedger entry = .ok { s with ledger } := by
  have free : ∀ other ∈ s.ledger, ¬ Clash other entry := fun _ _ clash => clash.1 rfl
  obtain ⟨saved, ledger, inserted⟩ := insertRow_isOk fits free
  exact ⟨ledger, by simp [insertLedger, inserted, Except.map]⟩

end Tables

end Kufi.Transactions

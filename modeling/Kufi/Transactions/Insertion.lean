import Kufi.Transactions.Creation
import Kufi.Transactions.TransferEffects

set_option autoImplicit false

/-!
# New transaction rows

What the second half of a persisting transaction commits, the same for the three
kinds of requests. The unique index refuses a key that was taken after the
check.
-/

namespace Kufi.Transactions

open Shared

def Prepared.type : Prepared → TransactionType
  | .transfer _ => .transfer
  | .topup _ _ => .deposit
  | .withdrawal _ _ => .withdrawal

def Prepared.isExternal : Prepared → Bool
  | .transfer req => req.isExternal
  | .topup _ _ => true
  | .withdrawal _ _ => true

-- The ledger rows that come with the new transaction.
def Prepared.directions : Prepared → List LedgerDirection
  | .transfer req => if req.isExternal then [.debit] else [.debit, .credit]
  | .topup _ _ => []
  | .withdrawal _ _ => [.debit]

structure Inserted (work : Prepared) (s : Tables) (tx : TransactionEntity) (after : Tables) :
    Prop where
  new : s.findByIdempotencyKey work.idempotencyKey = none
  tables : ∃ wallets transactions ledger, after = { s with wallets, transactions, ledger }
  row : ∃ entity, s.transactions.insert? entity = some (tx, after.transactions)
  key : tx.idempotencyKey = work.idempotencyKey
  type : tx.type = work.type
  isExternal : tx.isExternal = work.isExternal
  status : tx.status = .pending
  settlement : tx.settlementStatus = if work.isExternal then .pending else .none
  chain : tx.chainStatus = .pending
  entries : ∃ added, after.ledger.rows = s.ledger.rows ++ added ∧
    (∀ entry ∈ added, entry.transactionId = tx.id) ∧
    added.map LedgerEntry.direction = work.directions
  fits : work.type = .withdrawal → tx.columnsFit = true

/-! ## A taken key -/

section

variable {env : Env} {now : Instant} {req : TransferRequest}

theorem findOrCreateWallet_transactions {userId : Uuid} {currency : String} {wallet : Wallet}
    {s after : Tables} (done : findOrCreateWallet now userId currency s = .ok (wallet, after)) :
    after.transactions = s.transactions := by
  obtain ⟨_, rfl, _⟩ := findOrCreateWallet_effect done
  rfl

theorem lockWallet_transactions {userId : String} {wallet : Wallet} {s after : Tables}
    (done : lockWallet now req userId s = .ok (wallet, after)) :
    after.transactions = s.transactions := by
  simp only [lockWallet, bind_eq_ok] at done
  obtain ⟨_, _, rest⟩ := done
  split_ifs at rest
  exact findOrCreateWallet_transactions rest

theorem lockWallets_transactions {users : List String} {locked : List (String × Wallet)}
    {s after : Tables} (done : lockWallets now req users s = .ok (locked, after)) :
    after.transactions = s.transactions := by
  induction users generalizing locked s with
  | nil =>
    obtain ⟨_, rfl⟩ := Prod.mk.inj (Except.ok.inj done)
    rfl
  | cons user rest ih =>
    simp only [lockWallets, bind_eq_ok, Prod.exists, Except.ok.injEq, Prod.mk.injEq] at done
    obtain ⟨_, middle, first, _, _, later, _, rfl⟩ := done
    rw [ih later, lockWallet_transactions first]

theorem saveWallet_transactions {wallet : Wallet} {s after : Tables}
    (done : s.saveWallet wallet = .ok after) : after.transactions = s.transactions := by
  obtain ⟨_, _, _, rfl⟩ := Tables.saveWallet_eq_ok.mp done
  rfl

theorem creditReceiver_transactions {locked : List (String × Wallet)}
    {receiver : Option (Wallet × Wallet)} {s after : Tables}
    (done : creditReceiver now req locked s = .ok (receiver, after)) :
    after.transactions = s.transactions := by
  unfold creditReceiver at done
  split at done
  next =>
    obtain ⟨_, rfl⟩ := Prod.mk.inj (Except.ok.inj done)
    rfl
  next =>
    split at done
    next wallet _ =>
      simp only [ok_bind] at done
      split_ifs at done
      obtain ⟨_, saved, last⟩ := bind_eq_ok.mp done
      obtain ⟨_, rfl⟩ := Prod.mk.inj (Except.ok.inj last)
      exact saveWallet_transactions saved
    next =>
      simp only [bind_eq_ok, Prod.exists, Tables.insertWallet_eq_ok] at done
      obtain ⟨_, _, _, _, ⟨_, _, _, rfl⟩, rest⟩ := done
      split_ifs at rest
      obtain ⟨_, saved, last⟩ := bind_eq_ok.mp rest
      obtain ⟨_, rfl⟩ := Prod.mk.inj (Except.ok.inj last)
      have same := saveWallet_transactions saved
      exact same

theorem insertTransfer_new {persisted : PersistedTransfer} {s after : Tables}
    (done : insertTransfer env now req s = .ok (persisted, after)) :
    s.findByIdempotencyKey req.idempotencyKey = none := by
  simp only [insertTransfer, bind_eq_ok, Prod.exists] at done
  obtain ⟨locked, opened, locks, rest⟩ := done
  split at rest
  next => cases rest
  next =>
    split_ifs at rest
    simp only [bind_eq_ok, Prod.exists, Tables.insertTransaction_eq_ok] at rest
    obtain ⟨_, saved, _, _, credit, _, _, _, _, _, _, ⟨_, _, inserted, _⟩, _⟩ := rest
    rw [creditReceiver_transactions credit, saveWallet_transactions saved,
      lockWallets_transactions locks] at inserted
    exact Table.byKey_of_insert? inserted rfl

theorem insertTopupIntent_new {req : FundingRequest} {fundingSource : FundingSource}
    {persisted : PersistedFunding} {s after : Tables}
    (done : insertTopupIntent env now req fundingSource s = .ok (persisted, after)) :
    s.findByIdempotencyKey req.idempotencyKey = none := by
  simp only [insertTopupIntent, bind_eq_ok, Prod.exists] at done
  obtain ⟨_, _, _, _, created, rest⟩ := done
  split_ifs at rest
  simp only [bind_eq_ok, Prod.exists, Tables.insertTransaction_eq_ok] at rest
  obtain ⟨_, _, _, _, ⟨_, _, inserted, _⟩, _⟩ := rest
  rw [findOrCreateWallet_transactions created] at inserted
  exact Table.byKey_of_insert? inserted rfl

theorem insertWithdrawalRequest_new {req : WithdrawalRequest} {fundingSource : FundingSource}
    {persisted : PersistedFunding} {s after : Tables}
    (done : insertWithdrawalRequest env now req fundingSource s = .ok (persisted, after)) :
    s.findByIdempotencyKey req.idempotencyKey = none := by
  simp only [insertWithdrawalRequest, bind_eq_ok] at done
  obtain ⟨_, _, rest⟩ := done
  split at rest
  next => cases rest
  next =>
    split_ifs at rest
    simp only [bind_eq_ok, Prod.exists, Tables.insertTransaction_eq_ok] at rest
    obtain ⟨_, saved, _, _, _, _, ⟨_, _, inserted, _⟩, _⟩ := rest
    rw [saveWallet_transactions saved] at inserted
    exact Table.byKey_of_insert? inserted rfl

end

/-! ## Effects -/

theorem inserted_of_posted {work : Prepared} {s after : Tables} {tx : TransactionEntity}
    {amount : Int} {wallet : Wallet} (one : work.directions = [.debit])
    (posted : Posted tx.id .debit amount wallet s.books after.books) :
    ∃ added, after.ledger.rows = s.ledger.rows ++ added ∧
      (∀ entry ∈ added, entry.transactionId = tx.id) ∧
      added.map LedgerEntry.direction = work.directions := by
  obtain ⟨entry, rows, records⟩ := posted.entry
  refine ⟨[entry], rows, ?_, ?_⟩
  · simpa using records.ofTransaction
  · simpa [one] using records.ofDirection

theorem insertTransfer_inserted {env : Env} {now : Instant} {req : TransferRequest}
    {persisted : PersistedTransfer} {s after : Tables}
    (done : insertTransfer env now req s = .ok (persisted, after)) :
    Inserted (.transfer req) s persisted.transaction after := by
  have new := insertTransfer_new done
  have persist : persistTransfer env now req s = .ok (persisted, after) := by
    simp only [persistTransfer, new]
    exact done
  cases external : req.isExternal with
  | true =>
    rcases persistTransfer_external external persist with ⟨_, used⟩ | ⟨_, rest⟩
    · rw [new] at used
      cases used
    obtain ⟨fromUserId, toUserId, sender, wallets, transactions, ledger, rfl, _, inserted,
      debit⟩ := rest
    have shape := (Table.insert?_spec inserted).1
    have one : (Prepared.transfer req).directions = [.debit] := by
      simp [Prepared.directions, external]
    exact
      { new := new
        tables := ⟨_, _, _, rfl⟩
        row := ⟨_, inserted⟩
        key := by rw [shape]; rfl
        type := by rw [shape]; rfl
        isExternal := by rw [shape]; rfl
        status := by rw [shape]; rfl
        settlement := by rw [shape]; rfl
        chain := by rw [shape]; rfl
        entries := inserted_of_posted one debit
        fits := by rintro ⟨⟩ }
  | false =>
    obtain ⟨fromUserId, toUserId, sender, parsed, parsed', found⟩ :=
      persistTransfer_sender external new persist
    rw [persistTransfer_internal external new parsed parsed' found] at persist
    obtain ⟨receiver, opened, middle, wallets, transactions, firstLedger, ledger, rfl, _, _,
      inserted, _, _, ⟨_, debitRow, first⟩, ⟨_, creditRow, second⟩⟩ := transferBetween_effect persist
    have shape := (Table.insert?_spec inserted).1
    obtain ⟨debitShape, debitRows, _, _⟩ := Table.insert?_spec first
    obtain ⟨creditShape, creditRows, _, _⟩ := Table.insert?_spec second
    exact
      { new := new
        tables := ⟨_, _, _, rfl⟩
        row := ⟨_, inserted⟩
        key := by rw [shape]; rfl
        type := by rw [shape]; rfl
        isExternal := by rw [shape]; rfl
        status := by rw [shape]; rfl
        settlement := by rw [shape]; rfl
        chain := by rw [shape]; rfl
        entries := by
          refine ⟨[debitRow, creditRow], ?_, ?_, ?_⟩
          · simp [creditRows, debitRows]
          · intro entry member
            rcases List.mem_pair.mp member with rfl | rfl
            · rw [debitShape]; rfl
            · rw [creditShape]; rfl
          · rw [debitShape, creditShape]
            simp [Prepared.directions, external, Row.withId, ledgerEntry]
        fits := by rintro ⟨⟩ }

theorem insertTransfer_payer {env : Env} {now : Instant} {req : TransferRequest}
    {persisted : PersistedTransfer} {s after : Tables}
    (done : insertTransfer env now req s = .ok (persisted, after)) :
    Uuid.parse req.fromUserId = some persisted.transaction.fromUserId := by
  simp only [insertTransfer, bind_eq_ok, Prod.exists] at done
  obtain ⟨_, _, _, rest⟩ := done
  split at rest
  next => cases rest
  next =>
    split_ifs at rest
    simp only [bind_eq_ok, Prod.exists, Tables.insertTransaction_eq_ok, parseUuid_eq_ok] at rest
    obtain ⟨_, _, receiver, _, _, fromUserId, parsed, _, _, saved, _, ⟨_, _, inserted, _⟩, _, _,
      last⟩ := rest
    obtain ⟨rfl, _⟩ := Table.insert?_spec inserted
    cases receiver with
    | none =>
      obtain ⟨rfl, _⟩ := Prod.mk.inj (Except.ok.inj last)
      exact parsed
    | some sides =>
      obtain ⟨_, _, done⟩ := bind_eq_ok.mp last
      obtain ⟨rfl, _⟩ := Prod.mk.inj (Except.ok.inj done)
      exact parsed

theorem insertTopupIntent_inserted {env : Env} {now : Instant} {req : FundingRequest}
    {fundingSource : FundingSource} {persisted : PersistedFunding} {s after : Tables}
    (done : insertTopupIntent env now req fundingSource s = .ok (persisted, after)) :
    Inserted (.topup req fundingSource) s persisted.transaction after := by
  have new := insertTopupIntent_new done
  have persist : persistTopupIntent env now req fundingSource s = .ok (persisted, after) := by
    simp only [persistTopupIntent, new]
    exact done
  rcases persistTopupIntent_effect persist with ⟨_, used⟩ | ⟨_, rest⟩
  · rw [new] at used
    cases used
  obtain ⟨userId, source, wallet, wallets, transactions, rfl, _, inserted⟩ := rest
  have shape := (Table.insert?_spec inserted).1
  exact
    { new := new
      tables := ⟨_, _, _, rfl⟩
      row := ⟨_, inserted⟩
      key := by rw [shape]; rfl
      type := by rw [shape]; rfl
      isExternal := by rw [shape]; rfl
      status := by rw [shape]; rfl
      settlement := by rw [shape]; rfl
      chain := by rw [shape]; rfl
      entries := ⟨[], by simp, by simp, rfl⟩
      fits := nofun }

theorem insertWithdrawalRequest_inserted {env : Env} {now : Instant} {req : WithdrawalRequest}
    {fundingSource : FundingSource} {persisted : PersistedFunding} {s after : Tables}
    (done : insertWithdrawalRequest env now req fundingSource s = .ok (persisted, after)) :
    Inserted (.withdrawal req fundingSource) s persisted.transaction after := by
  have new := insertWithdrawalRequest_new done
  have persist : persistWithdrawalRequest env now req fundingSource s = .ok (persisted, after) := by
    simp only [persistWithdrawalRequest, new]
    exact done
  rcases persistWithdrawalRequest_effect persist with ⟨_, used⟩ | ⟨_, rest⟩
  · rw [new] at used
    cases used
  obtain ⟨userId, sink, wallet, wallets, transactions, ledger, rfl, _, _, inserted, fits, _,
    debit⟩ := rest
  have shape := (Table.insert?_spec inserted).1
  exact
    { new := new
      tables := ⟨_, _, _, rfl⟩
      row := ⟨_, inserted⟩
      key := by rw [shape]; rfl
      type := by rw [shape]; rfl
      isExternal := by rw [shape]; rfl
      status := by rw [shape]; rfl
      settlement := by rw [shape]; rfl
      chain := by rw [shape]; rfl
      entries := inserted_of_posted rfl debit
      fits := fun _ => fits }

theorem Prepared.insert_inserted {env : Env} {now : Instant} {work : Prepared} {held : Held}
    {s after : Tables} (done : work.insert env now s = .ok (held, after)) :
    Inserted work s held.transaction after := by
  cases work with
  | transfer req => exact insertTransfer_inserted done
  | topup req fundingSource =>
    obtain ⟨⟨persisted, _⟩, inserted, same⟩ := map_eq_ok.mp done
    obtain ⟨rfl, rfl⟩ := Prod.mk.inj same
    exact insertTopupIntent_inserted inserted
  | withdrawal req fundingSource =>
    obtain ⟨⟨persisted, _⟩, inserted, same⟩ := map_eq_ok.mp done
    obtain ⟨rfl, rfl⟩ := Prod.mk.inj same
    exact insertWithdrawalRequest_inserted inserted

theorem insertTransfer_fits {env : Env} {now : Instant} {req : TransferRequest}
    {persisted : PersistedTransfer} {s after : Tables}
    (done : insertTransfer env now req s = .ok (persisted, after)) :
    persisted.transaction.columnsFit = true := by
  simp only [insertTransfer, bind_eq_ok, Prod.exists] at done
  obtain ⟨_, _, _, rest⟩ := done
  split at rest
  next => cases rest
  next =>
    split_ifs at rest
    simp only [bind_eq_ok, Prod.exists, Tables.insertTransaction_eq_ok] at rest
    obtain ⟨_, _, receiver, _, _, _, _, _, _, _, _, ⟨fits, _, inserted, _⟩, _, _, last⟩ := rest
    obtain ⟨rfl, _⟩ := Table.insert?_spec inserted
    cases receiver with
    | none =>
      obtain ⟨rfl, _⟩ := Prod.mk.inj (Except.ok.inj last)
      exact fits
    | some sides =>
      obtain ⟨_, _, done⟩ := bind_eq_ok.mp last
      obtain ⟨rfl, _⟩ := Prod.mk.inj (Except.ok.inj done)
      exact fits

theorem insertTopupIntent_fits {env : Env} {now : Instant} {req : FundingRequest}
    {fundingSource : FundingSource} {persisted : PersistedFunding} {s after : Tables}
    (done : insertTopupIntent env now req fundingSource s = .ok (persisted, after)) :
    persisted.transaction.columnsFit = true := by
  simp only [insertTopupIntent, bind_eq_ok, Prod.exists] at done
  obtain ⟨_, _, _, _, _, rest⟩ := done
  split_ifs at rest
  simp only [bind_eq_ok, Prod.exists, Tables.insertTransaction_eq_ok] at rest
  obtain ⟨_, _, _, _, ⟨fits, _, inserted, _⟩, last⟩ := rest
  obtain ⟨rfl, _⟩ := Table.insert?_spec inserted
  obtain ⟨rfl, _⟩ := Prod.mk.inj (Except.ok.inj last)
  exact fits

/-- A new row fits its columns. -/
theorem Prepared.insert_fits {env : Env} {now : Instant} {work : Prepared} {held : Held}
    {s after : Tables} (done : work.insert env now s = .ok (held, after)) :
    held.transaction.columnsFit = true := by
  cases work with
  | transfer req => exact insertTransfer_fits done
  | topup req fundingSource =>
    obtain ⟨⟨persisted, _⟩, inserted, same⟩ := map_eq_ok.mp done
    obtain ⟨rfl, rfl⟩ := Prod.mk.inj same
    exact insertTopupIntent_fits inserted
  | withdrawal req fundingSource => exact (Prepared.insert_inserted done).fits rfl

/-! ## The tables afterwards -/

section

variable {work : Prepared} {s after : Tables} {tx : TransactionEntity}

theorem Inserted.id (inserted : Inserted work s tx after) :
    tx.id = s.transactions.next ∧ after.transactions.next = s.transactions.next + 1 := by
  obtain ⟨entity, added⟩ := inserted.row
  obtain ⟨rfl, _, next, _⟩ := Table.insert?_spec added
  exact ⟨rfl, next⟩

theorem Inserted.id_lt (inserted : Inserted work s tx after) {row : TransactionEntity}
    (member : row ∈ s.transactions) : row.id < tx.id := by
  rw [inserted.id.1]
  exact s.transactions.fresh row member

theorem Inserted.get? (inserted : Inserted work s tx after) {id : Nat} {row : TransactionEntity}
    (found : s.transactions.get? id = some row) : after.transactions.get? id = some row := by
  obtain ⟨entity, added⟩ := inserted.row
  obtain ⟨member, rfl⟩ := Table.get?_eq_some.mp found
  have fresh : Row.id tx ≠ Row.id row := (Nat.ne_of_lt (inserted.id_lt member)).symm
  rw [Table.get?_insert? added, if_neg fresh, found]

theorem Inserted.held (inserted : Inserted work s tx after) :
    after.transactions.get? tx.id = some tx := by
  obtain ⟨entity, added⟩ := inserted.row
  have own : Row.id tx = tx.id := rfl
  rw [Table.get?_insert? added, if_pos own]

end

end Kufi.Transactions

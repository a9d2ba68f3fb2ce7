import Kufi.Transactions.Books

set_option autoImplicit false

/-!
# Effects of the movements

What a committed movement does to the wallets and the ledger, once per
movement. Later results read these lemmas and never the definitions.
-/

namespace Kufi.Transactions

open Shared

theorem mem_of_findWallet {s : Tables} {userId : Uuid} {currency : String} {wallet : Wallet}
    (found : s.findWallet userId currency = some wallet) :
    wallet ∈ s.wallets ∧ wallet.userId = userId ∧ wallet.currency = currency := by
  obtain ⟨member, key⟩ := Table.byKey_eq_some.mp found
  have fields : (wallet.userId, wallet.currency) = (userId, currency) := Option.some.inj key
  exact ⟨member, congrArg Prod.fst fields, congrArg Prod.snd fields⟩

theorem insertWallet_effect {now : Instant} {userId : Uuid} {currency : String}
    {s after : Tables} {wallet : Wallet}
    (done : s.insertWallet (emptyWallet now userId currency) = .ok (wallet, after)) :
    ∃ wallets, after = { s with wallets } ∧ Opened userId currency wallet s.books after.books := by
  obtain ⟨_, wallets, inserted, rfl⟩ := Tables.insertWallet_eq_ok.mp done
  have free := (Table.insert?_spec inserted).2.2.2
  refine ⟨wallets, rfl, ?_, ⟨now, inserted⟩, rfl⟩
  apply Table.byKey_eq_none.mpr
  intro other member key
  exact free other member ⟨by simp [key], key⟩

theorem findOrCreateWallet_effect {now : Instant} {userId : Uuid} {currency : String}
    {s after : Tables} {wallet : Wallet}
    (done : findOrCreateWallet now userId currency s = .ok (wallet, after)) :
    ∃ wallets, after = { s with wallets } ∧
      Loaded userId currency wallet s.books after.books := by
  unfold findOrCreateWallet at done
  split at done
  next found foundEq =>
    obtain ⟨rfl, rfl⟩ := Prod.mk.inj (Except.ok.inj done)
    exact ⟨s.wallets, rfl, .inl ⟨foundEq, rfl⟩⟩
  next missing =>
    obtain ⟨wallets, rfl, opened⟩ := insertWallet_effect done
    exact ⟨wallets, rfl, .inr opened⟩

theorem creditWallet_effect {tx : TransactionEntity} {note : String} {wallet : Wallet}
    {s after : Tables} (found : wallet ∈ s.wallets)
    (done : creditWallet tx note wallet s = .ok after) :
    ∃ wallets ledger, after = { s with wallets, ledger } ∧
      Posted tx.id .credit tx.amount wallet s.books after.books := by
  simp only [creditWallet, bind_eq_ok, Tables.saveWallet_eq_ok, Tables.insertLedger_eq_ok] at done
  obtain ⟨_, ⟨_, wallets, updated, rfl⟩, _, saved, ledger, inserted, rfl⟩ := done
  exact ⟨wallets, ledger, rfl,
    { found := found
      covered := nofun
      wallets := updated
      ledger := ⟨note, saved, inserted⟩ }⟩

theorem applyDepositCreditIfNeeded_effect {now : Instant} {tx : TransactionEntity}
    {s after : Tables} (done : applyDepositCreditIfNeeded now tx s = .ok after) :
    (after = s ∧ (tx.type = .deposit → s.findCredit tx.id ≠ none)) ∨
      (tx.type = .deposit ∧ s.findCredit tx.id = none ∧
        ∃ wallets ledger wallet opened, after = { s with wallets, ledger } ∧
          Loaded (tx.toUserId.getD tx.requestingUserId) tx.currency wallet s.books opened ∧
          Posted tx.id .credit tx.amount wallet opened after.books) := by
  unfold applyDepositCreditIfNeeded at done
  split_ifs at done with other
  · cases done
    exact .inl ⟨rfl, fun deposit => absurd deposit other⟩
  · split at done
    next entry found =>
      cases done
      exact .inl ⟨rfl, fun _ => by simp [found]⟩
    next missing =>
      simp only [bind_eq_ok, Prod.exists] at done
      obtain ⟨wallet, opened, created, rest⟩ := done
      obtain ⟨openedWallets, rfl, loaded⟩ := findOrCreateWallet_effect created
      split_ifs at rest with inactive
      obtain ⟨wallets, ledger, rfl, posted⟩ := creditWallet_effect loaded.member rest
      exact .inr ⟨not_not.mp other, missing, wallets, ledger, wallet, _, rfl, loaded, posted⟩

theorem rollbackWithdrawalDebitUsingManager_effect {tx : TransactionEntity} {reasonCode : String}
    {s after : Tables} (done : rollbackWithdrawalDebitUsingManager tx reasonCode s = .ok after) :
    (after = s ∧ s.findCredit tx.id ≠ none) ∨
      (s.findCredit tx.id = none ∧
        ∃ wallets ledger wallet, after = { s with wallets, ledger } ∧
          s.findWallet tx.fromUserId tx.currency = some wallet ∧
          Posted tx.id .credit tx.amount wallet s.books after.books) := by
  unfold rollbackWithdrawalDebitUsingManager at done
  split at done
  next entry found =>
    cases done
    exact .inl ⟨rfl, by simp [found]⟩
  next missing =>
    split at done
    next => cases done
    next wallet found =>
      obtain ⟨wallets, ledger, rfl, posted⟩ :=
        creditWallet_effect (mem_of_findWallet found).1 done
      exact .inr ⟨missing, wallets, ledger, wallet, rfl, found, posted⟩

theorem persistTopupIntent_effect {env : Env} {now : Instant} {req : FundingRequest}
    {fundingSource : FundingSource} {s after : Tables} {persisted : PersistedFunding}
    (done : persistTopupIntent env now req fundingSource s = .ok (persisted, after)) :
    (after = s ∧ s.findByIdempotencyKey req.idempotencyKey = some persisted.transaction) ∨
      (s.findByIdempotencyKey req.idempotencyKey = none ∧
        ∃ userId source wallet wallets transactions,
          after = { s with wallets, transactions } ∧
          Loaded userId req.currency wallet s.books after.books ∧
          s.transactions.insert? (topupEntity env now req fundingSource userId source) =
            some (persisted.transaction, transactions)) := by
  unfold persistTopupIntent at done
  split at done
  next dup found =>
    simp only [bind_eq_ok, Except.ok.injEq, Prod.mk.injEq] at done
    obtain ⟨_, _, rfl, rfl⟩ := done
    exact .inl ⟨rfl, found⟩
  next missing =>
    simp only [insertTopupIntent, bind_eq_ok, Prod.exists] at done
    obtain ⟨userId, _, wallet, opened, created, rest⟩ := done
    obtain ⟨wallets, rfl, loaded⟩ := findOrCreateWallet_effect created
    split_ifs at rest with inactive
    simp only [bind_eq_ok, Prod.exists, Tables.insertTransaction_eq_ok, Except.ok.injEq,
      Prod.mk.injEq] at rest
    obtain ⟨source, _, savedTx, _, ⟨_, transactions, inserted, rfl⟩, rfl, rfl⟩ := rest
    exact .inr ⟨missing, userId, source, wallet, wallets, transactions, rfl, loaded, inserted⟩

theorem persistWithdrawalRequest_effect {env : Env} {now : Instant} {req : WithdrawalRequest}
    {fundingSource : FundingSource} {s after : Tables} {persisted : PersistedFunding}
    (done : persistWithdrawalRequest env now req fundingSource s = .ok (persisted, after)) :
    (after = s ∧ s.findByIdempotencyKey req.idempotencyKey = some persisted.transaction) ∨
      (s.findByIdempotencyKey req.idempotencyKey = none ∧
        ∃ userId sink wallet wallets transactions ledger,
          after = { s with wallets, transactions, ledger } ∧
          Uuid.parse req.userId = some userId ∧
          s.findWallet userId req.currency = some wallet ∧
          s.transactions.insert? (withdrawalEntity env now req fundingSource userId sink) =
            some (persisted.transaction, transactions) ∧
          persisted.transaction.columnsFit = true ∧
          (debited req.amount wallet).columnsFit = true ∧
          Posted persisted.transaction.id .debit req.amount wallet s.books after.books) := by
  unfold persistWithdrawalRequest at done
  split at done
  next dup found =>
    simp only [bind_eq_ok, Except.ok.injEq, Prod.mk.injEq] at done
    obtain ⟨_, _, rfl, rfl⟩ := done
    exact .inl ⟨rfl, found⟩
  next missing =>
    simp only [insertWithdrawalRequest, bind_eq_ok, parseUuid_eq_ok] at done
    obtain ⟨userId, parsed, rest⟩ := done
    split at rest
    next => cases rest
    next wallet found =>
      split_ifs at rest with inactive short
      simp only [bind_eq_ok, Prod.exists, Tables.saveWallet_eq_ok, Tables.insertTransaction_eq_ok,
        Tables.insertLedger_eq_ok, Except.ok.injEq, Prod.mk.injEq] at rest
      obtain ⟨_, ⟨walletFits, wallets, updated, rfl⟩, sink, _, savedTx, _,
        ⟨txFits, transactions, inserted, rfl⟩, _, ⟨_, saved, ledger, entered, rfl⟩, rfl, rfl⟩ :=
        rest
      have savedFits : savedTx.columnsFit = true := by
        rw [(Table.insert?_spec inserted).1]
        exact txFits
      exact .inr ⟨missing, userId, sink, wallet, wallets, transactions, ledger, rfl, parsed, found,
        inserted, savedFits, walletFits,
        { found := (mem_of_findWallet found).1
          covered := fun _ => not_lt.mp short
          wallets := updated
          ledger := ⟨_, saved, entered⟩ }⟩

end Kufi.Transactions

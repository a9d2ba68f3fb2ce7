import Kufi.Transactions.Postings
import Kufi.Transactions.TransferEffects

set_option autoImplicit false

/-!
# Rows that say whether they were credited

A rule reads off a transaction's row whether its credit is on the ledger. The
rows agree with the ledger as long as creations and settlements change both
sides together.
-/

namespace Kufi.Transactions

open Shared

structure CreditRule where
  covers : Terms → Prop
  credited : TransactionType → TransactionStatus → SettlementStatus → Bool
  fresh : ∀ type, credited type .pending .pending = false
  withdrawals : ∀ terms, terms.type = .withdrawal → covers terms
  transfers : ∀ terms, covers terms → terms.type = .transfer → terms.isExternal = true
  returned : credited .withdrawal .failed .failed = true
  withheld : ∀ terms, covers terms → terms.type = .deposit →
    credited .deposit .failed .failed = false

variable {rule : CreditRule}

def CreditRule.of (rule : CreditRule) (tx : TransactionEntity) : Bool :=
  rule.credited tx.type tx.status tx.settlementStatus

-- A final settlement status stands beside the status it was set with.
def TransactionEntity.Coherent (tx : TransactionEntity) : Prop :=
  (tx.settlementStatus = .settled → tx.status = .completed) ∧
    (tx.settlementStatus = .failed → tx.status = .failed)

structure Consistent (rule : CreditRule) (s : Tables) : Prop where
  known : s.Known
  positive : ∀ tx ∈ s.transactions, 0 < tx.terms.amount
  coherent : ∀ tx ∈ s.transactions, tx.Coherent
  booked : ∀ tx ∈ s.transactions, rule.covers tx.terms → Booked s.books tx.terms (rule.of tx)

-- The row `tx` is being worked on; its ledger rows may be ahead of it or behind it.
structure InFlight (rule : CreditRule) (credited : Bool) (tx : TransactionEntity) (s : Tables) :
    Prop where
  known : s.Known
  positive : ∀ other ∈ s.transactions, 0 < other.terms.amount
  coherent : ∀ other ∈ s.transactions, other.Coherent
  others : ∀ other ∈ s.transactions, other.id ≠ tx.id → rule.covers other.terms →
    Booked s.books other.terms (rule.of other)
  held : tx ∈ s.transactions
  booked : rule.covers tx.terms → Booked s.books tx.terms credited

theorem Consistent.inFlight {tx : TransactionEntity} {s : Tables} (consistent : Consistent rule s)
    (held : tx ∈ s.transactions) : InFlight rule (rule.of tx) tx s where
  known := consistent.known
  positive := consistent.positive
  coherent := consistent.coherent
  others := fun other member _ => consistent.booked other member
  held := held
  booked := consistent.booked tx held

theorem InFlight.consistent {credited : Bool} {tx : TransactionEntity} {s : Tables}
    (inFlight : InFlight rule credited tx s)
    (agrees : rule.covers tx.terms → rule.of tx = credited) : Consistent rule s where
  known := inFlight.known
  positive := inFlight.positive
  coherent := inFlight.coherent
  booked := by
    intro other member covered
    by_cases own : other.id = tx.id
    · obtain rfl := Table.eq_of_id member inFlight.held own
      rw [agrees covered]
      exact inFlight.booked covered
    · exact inFlight.others other member own covered

/-! ## Saves -/

theorem saved_row {s after : Tables} {tx : TransactionEntity}
    (saved : s.saveTransaction tx = .ok after) :
    ∃ transactions, s.transactions.update? tx = some transactions ∧
      after = { s with transactions } :=
  (Tables.saveTransaction_eq_ok.mp saved).2

theorem InFlight.update {credited : Bool} {tx tx' : TransactionEntity} {s : Tables}
    {transactions : Table TransactionEntity} (inFlight : InFlight rule credited tx s)
    (terms : tx'.terms = tx.terms) (coherent : tx'.Coherent)
    (updated : s.transactions.update? tx' = some transactions) :
    InFlight rule credited tx' { s with transactions } := by
  have sameId : tx'.id = tx.id := congrArg Terms.id terms
  have next : transactions.next = s.transactions.next := (Table.update?_spec updated).2.1
  exact
    { known := fun id fresh => inFlight.known id (next ▸ fresh)
      positive := by
        intro other member
        rcases (Table.mem_update? updated).mp member with ⟨old, _⟩ | ⟨rfl, _⟩
        · exact inFlight.positive other old
        · rw [terms]
          exact inFlight.positive tx inFlight.held
      coherent := by
        intro other member
        rcases (Table.mem_update? updated).mp member with ⟨old, _⟩ | ⟨rfl, _⟩
        · exact inFlight.coherent other old
        · exact coherent
      others := by
        intro other member different
        rcases (Table.mem_update? updated).mp member with ⟨old, _⟩ | ⟨rfl, _⟩
        · exact inFlight.others other old (sameId ▸ different)
        · exact absurd rfl different
      held := (Table.mem_update? updated).mpr (.inr ⟨rfl, tx, inFlight.held, sameId.symm⟩)
      booked := by
        rw [terms]
        exact inFlight.booked }

theorem InFlight.save {credited : Bool} {tx tx' : TransactionEntity} {s after : Tables}
    (inFlight : InFlight rule credited tx s) (terms : tx'.terms = tx.terms)
    (coherent : tx'.Coherent) (saved : s.saveTransaction tx' = .ok after) :
    InFlight rule credited tx' after := by
  obtain ⟨transactions, updated, rfl⟩ := saved_row saved
  exact inFlight.update terms coherent updated

-- A save of the same columns under the same key is refused only by a column.
theorem save_isOk {tx tx' : TransactionEntity} {s : Tables} (held : tx ∈ s.transactions)
    (terms : tx'.terms = tx.terms) (fits : tx'.columnsFit = true) :
    ∃ after, s.saveTransaction tx' = .ok after := by
  have sameKey : Row.key tx = Row.key tx' :=
    congrArg (fun terms : Terms => some terms.idempotencyKey) terms.symm
  have sameId : tx.id = tx'.id := congrArg Terms.id terms.symm
  obtain ⟨transactions, saved⟩ := saveRow_isOk fits held sameId sameKey
  exact ⟨{ s with transactions }, by simp [Tables.saveTransaction, saved, Except.map]⟩

/-! ## Credits -/

theorem InFlight.credit {tx : TransactionEntity} {s : Tables} {wallet : Wallet} {opened : Books}
    {wallets : Table Wallet} {ledger : Table LedgerEntry} (inFlight : InFlight rule false tx s)
    (loaded : Loaded tx.terms.creditedUser tx.currency wallet s.books opened)
    (posted : Posted tx.id .credit tx.amount wallet opened ⟨wallets, ledger⟩) :
    InFlight rule true tx { s with wallets, ledger } := by
  have kept : s.books.WalletsKept ⟨wallets, ledger⟩ := loaded.walletsKept.trans posted.walletsKept
  have apart : ∀ id, id ≠ tx.id →
      Books.postings ⟨wallets, ledger⟩ id = s.books.postings id := by
    intro id different
    rw [posted.postings, if_neg (Ne.symm different), List.append_nil, loaded.postings]
  have bound := s.transactions.fresh tx inFlight.held
  exact
    { known := by
        intro id fresh
        have different : id ≠ tx.id := Nat.ne_of_gt (Nat.lt_of_lt_of_le bound fresh)
        exact (apart id different).trans (inFlight.known id fresh)
      positive := inFlight.positive
      coherent := inFlight.coherent
      others := by
        intro other member different covered
        exact (inFlight.others other member different covered).frame kept (apart _ different)
      held := inFlight.held
      booked := fun covered => (inFlight.booked covered).credit loaded posted }

theorem InFlight.rollback {tx : TransactionEntity} {reasonCode : String} {s after : Tables}
    (inFlight : InFlight rule false tx s) (withdrawal : tx.type = .withdrawal)
    (done : rollbackWithdrawalDebit tx reasonCode s = .ok after) : InFlight rule true tx after := by
  have user : tx.terms.creditedUser = tx.fromUserId :=
    if_neg (by simp [TransactionEntity.terms, withdrawal])
  rw [rollbackWithdrawalDebit, if_neg (by simp [withdrawal])] at done
  rcases rollbackWithdrawalDebitUsingManager_effect done with
    ⟨_, held⟩ | ⟨_, wallets, ledger, wallet, rfl, found, posted⟩
  · have covered := rule.withdrawals tx.terms withdrawal
    exact absurd ((inFlight.booked covered).findCredit.mpr rfl) held
  · rw [← user] at found
    exact inFlight.credit (.inl ⟨found, rfl⟩) posted

/-! ## New transactions -/

-- A new row whose ledger rows, if the rule covers it, are those of its debit alone.
theorem Consistent.insert {tx saved : TransactionEntity} {s after : Tables}
    (consistent : Consistent rule s) {transactions : Table TransactionEntity}
    (inserted : s.transactions.insert? tx = some (saved, transactions)) (amount : 0 < tx.amount)
    (coherent : tx.Coherent) (rows : after.transactions = transactions) (kept : s.books.WalletsKept after.books)
    (apart : ∀ id, id ≠ saved.id → after.books.postings id = s.books.postings id)
    (booked : rule.covers saved.terms → s.books.postings saved.id = [] →
      Booked after.books saved.terms false) : InFlight rule false saved after := by
  obtain ⟨shape, _, next, _⟩ := Table.insert?_spec inserted
  have own : saved.id = s.transactions.next := by rw [shape]; rfl
  exact
    { known := by
        intro id fresh
        rw [rows, next] at fresh
        rw [apart id (by omega)]
        exact consistent.known id (by omega)
      positive := by
        intro other member
        rw [rows] at member
        rcases (Table.mem_insert? inserted).mp member with old | rfl
        · exact consistent.positive other old
        · rw [shape]
          exact amount
      coherent := by
        intro other member
        rw [rows] at member
        rcases (Table.mem_insert? inserted).mp member with old | rfl
        · exact consistent.coherent other old
        · rw [shape]
          exact coherent
      others := by
        intro other member different covered
        rw [rows] at member
        rcases (Table.mem_insert? inserted).mp member with old | rfl
        · exact (consistent.booked other old covered).frame kept (apart _ different)
        · exact absurd rfl different
      held := by
        rw [rows]
        exact (Table.mem_insert? inserted).mpr (.inr rfl)
      booked := fun covered => booked covered (consistent.known _ (Nat.le_of_eq own.symm)) }

-- The debit of a new transfer or withdrawal.
theorem booked_of_debit {terms : Terms} {wallet : Wallet} {before after : Books}
    (debit : terms.type ≠ .deposit) (new : before.postings terms.id = [])
    (found : before.wallets.byKey (terms.fromUserId, terms.currency) = some wallet)
    (posted : Posted terms.id .debit terms.amount wallet before after) :
    Booked after terms false := by
  have key : Row.key wallet = some (terms.fromUserId, terms.currency) :=
    (Table.byKey_eq_some.mp found).2
  refine ⟨wallet.id, fun _ => ⟨_, ?_, moved_id .debit terms.amount wallet⟩, ?_⟩
  · rw [Terms.creditedUser, if_neg debit, posted.byKey, if_pos key]
  · rw [posted.postings, if_pos rfl, new]
    simp [debit]

theorem Posted.postings_apart {transactionId : Nat} {direction : LedgerDirection} {amount : Int}
    {wallet : Wallet} {before after : Books}
    (posted : Posted transactionId direction amount wallet before after) (id : Nat)
    (different : id ≠ transactionId) : after.postings id = before.postings id := by
  rw [posted.postings, if_neg (Ne.symm different), List.append_nil]

theorem postings_insert {ledger ledger' : Table LedgerEntry}
    {transactionId : Nat} {direction : LedgerDirection} {amount : Int} {before after : Wallet}
    {note : String} {saved : LedgerEntry}
    (inserted : ledger.insert? (ledgerEntry transactionId direction amount before after note) =
      some (saved, ledger')) (id : Nat) (different : id ≠ transactionId) (wallets wallets' : Table Wallet) :
    Books.postings ⟨wallets', ledger'⟩ id = Books.postings ⟨wallets, ledger⟩ id := by
  obtain ⟨shape, rows, _, _⟩ := Table.insert?_spec inserted
  have other : saved.transactionId ≠ id := by
    rw [shape]
    exact Ne.symm different
  simp [Books.postings, rows, other]

-- A new internal transfer writes ledger rows of its own alone, whoever its users are.
theorem persistTransfer_internal_rows {env : Env} {now : Instant} {req : TransferRequest}
    {s after : Tables} {persisted : PersistedTransfer} (internal : req.isExternal = false)
    (new : s.findByIdempotencyKey req.idempotencyKey = none)
    (done : persistTransfer env now req s = .ok (persisted, after)) :
    ∃ fromUserId toUserId wallets transactions ledger,
      after = { s with wallets, transactions, ledger } ∧
      s.transactions.insert? (transferEntity now req fromUserId toUserId) =
        some (persisted.transaction, transactions) ∧
      s.books.WalletsKept after.books ∧
      ∀ id, id ≠ persisted.transaction.id → after.books.postings id = s.books.postings id := by
  obtain ⟨fromUserId, toUserId, sender, parsed, parsed', found⟩ :=
    persistTransfer_sender internal new done
  rw [persistTransfer_internal internal new parsed parsed' found] at done
  obtain ⟨receiver, opened, middle, wallets, transactions, firstLedger, ledger, rfl, loaded, _,
    inserted, debit, credit, ⟨_, _, first⟩, ⟨_, _, second⟩⟩ := transferBetween_effect done
  have senderHeld := (Table.byKey_eq_some.mp (findWallet_of_loaded loaded found)).1
  have toMiddle : opened.WalletsKept ⟨middle, s.ledger⟩ :=
    walletsKept_of_update _ debit senderHeld rfl rfl _
  obtain ⟨kept, keptHeld, sameId, sameKey⟩ := toMiddle receiver loaded.member
  have toAfter : Books.WalletsKept ⟨middle, s.ledger⟩ ⟨wallets, ledger⟩ :=
    walletsKept_of_update (credited req.amount receiver) credit keptHeld sameId sameKey _
  refine ⟨fromUserId, toUserId, wallets, transactions, ledger, rfl, inserted,
    (loaded.walletsKept.trans toMiddle).trans toAfter, fun id different => ?_⟩
  exact (postings_insert second id different wallets wallets).trans
    (postings_insert first id different s.wallets wallets)

structure Fresh (rule : CreditRule) (type : TransactionType) (tx : TransactionEntity) : Prop where
  ofType : tx.type = type
  pending : tx.status = .pending
  uncredited : rule.covers tx.terms → rule.of tx = false

theorem transferEntity_coherent (now : Instant) (req : TransferRequest)
    (fromUserId toUserId : Uuid) : (transferEntity now req fromUserId toUserId).Coherent := by
  unfold TransactionEntity.Coherent transferEntity
  cases req.isExternal <;> simp

theorem persistTransfer_persisted {env : Env} {now : Instant} {req : TransferRequest}
    {s after : Tables} {persisted : PersistedTransfer} (consistent : Consistent rule s)
    (new : s.findByIdempotencyKey req.idempotencyKey = none)
    (done : persistTransfer env now req s = .ok (persisted, after)) :
    (Fresh rule .transfer persisted.transaction ∧
      persisted.transaction.isExternal = req.isExternal) ∧
      InFlight rule false persisted.transaction after := by
  cases external : req.isExternal with
  | true =>
    rcases persistTransfer_external external done with ⟨_, used⟩ | ⟨_, rest⟩
    · rw [new] at used
      cases used
    obtain ⟨fromUserId, toUserId, sender, wallets, transactions, ledger, rfl, found, inserted,
      debit⟩ := rest
    have shape := (Table.insert?_spec inserted).1
    refine ⟨⟨⟨by rw [shape]; rfl, by rw [shape]; rfl, fun _ => ?_⟩, by rw [shape]; exact external⟩,
      consistent.insert inserted req.positive (transferEntity_coherent now req fromUserId toUserId)
        rfl debit.walletsKept debit.postings_apart fun _ fresh => ?_⟩
    · rw [shape]
      simpa [CreditRule.of, Row.withId, transferEntity, external] using rule.fresh .transfer
    · rw [shape] at debit fresh ⊢
      exact booked_of_debit (by simp [TransactionEntity.terms, Row.withId, transferEntity]) fresh
        found debit
  | false =>
    obtain ⟨fromUserId, toUserId, wallets, transactions, ledger, rfl, inserted, kept, apart⟩ :=
      persistTransfer_internal_rows external new done
    have shape := (Table.insert?_spec inserted).1
    have uncovered : ¬ rule.covers persisted.transaction.terms := by
      intro covered
      rw [shape] at covered
      have outside := rule.transfers _ covered rfl
      simp [TransactionEntity.terms, Row.withId, transferEntity, external] at outside
    exact ⟨⟨⟨by rw [shape]; rfl, by rw [shape]; rfl, fun covered => absurd covered uncovered⟩,
      by rw [shape]; exact external⟩,
      consistent.insert inserted req.positive (transferEntity_coherent now req fromUserId toUserId)
        rfl kept apart fun covered _ => absurd covered uncovered⟩

theorem persistTopupIntent_persisted {env : Env} {now : Instant} {req : FundingRequest}
    {fundingSource : FundingSource} {s after : Tables} {persisted : PersistedFunding}
    (consistent : Consistent rule s)
    (new : s.findByIdempotencyKey req.idempotencyKey = none)
    (done : persistTopupIntent env now req fundingSource s = .ok (persisted, after)) :
    Fresh rule .deposit persisted.transaction ∧
      InFlight rule false persisted.transaction after := by
  rcases persistTopupIntent_effect done with ⟨_, used⟩ | ⟨_, rest⟩
  · rw [new] at used
    cases used
  · obtain ⟨userId, source, wallet, wallets, transactions, rfl, loaded, inserted⟩ := rest
    have shape := (Table.insert?_spec inserted).1
    have deposit : persisted.transaction.terms.type = .deposit := by rw [shape]; rfl
    have coherent : (topupEntity env now req fundingSource userId source).Coherent := ⟨nofun, nofun⟩
    refine ⟨⟨deposit, by rw [shape]; rfl, fun _ => ?_⟩, consistent.insert inserted req.positive
      coherent rfl loaded.walletsKept (fun id _ => loaded.postings id) fun _ fresh => ?_⟩
    · rw [shape]
      exact rule.fresh .deposit
    · rw [← loaded.postings] at fresh
      refine ⟨0, fun needed => by simp [deposit] at needed, ?_⟩
      change Books.postings _ persisted.transaction.id = _
      rw [fresh]
      simp [deposit]

theorem persistWithdrawalRequest_persisted {env : Env} {now : Instant} {req : WithdrawalRequest}
    {fundingSource : FundingSource} {s after : Tables} {persisted : PersistedFunding}
    (consistent : Consistent rule s)
    (new : s.findByIdempotencyKey req.idempotencyKey = none)
    (done : persistWithdrawalRequest env now req fundingSource s = .ok (persisted, after)) :
    Fresh rule .withdrawal persisted.transaction ∧
      InFlight rule false persisted.transaction after := by
  rcases persistWithdrawalRequest_effect done with ⟨_, used⟩ | ⟨_, rest⟩
  · rw [new] at used
    cases used
  · obtain ⟨userId, sink, wallet, wallets, transactions, ledger, rfl, _, found, inserted, _, _,
      debit⟩ := rest
    have shape := (Table.insert?_spec inserted).1
    have coherent : (withdrawalEntity env now req fundingSource userId sink).Coherent :=
      ⟨nofun, nofun⟩
    refine ⟨⟨by rw [shape]; rfl, by rw [shape]; rfl, fun _ => ?_⟩, consistent.insert inserted
      req.positive coherent rfl debit.walletsKept debit.postings_apart fun _ fresh => ?_⟩
    · rw [shape]
      exact rule.fresh .withdrawal
    · rw [shape] at debit fresh ⊢
      exact booked_of_debit (by simp [TransactionEntity.terms, Row.withId, withdrawalEntity]) fresh
        found debit

end Kufi.Transactions

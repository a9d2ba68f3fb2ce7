import Kufi.Transactions.Service
import Kufi.Transactions.TransferEffects

set_option autoImplicit false

/-!
# Conservation in internal transfers

A transfer between two users moves its amount when both new balances are
numbers a double holds. Validation compares the users as texts, and the
database compares them as uuids, so one user in two spellings passes: both
copies of the row are then saved, and the credit erases the debit.
-/

namespace Kufi.Transactions

open Shared

-- The ledger row belongs to the user's wallet and ends with the balance the wallet ends up with.
def Tables.Explains (s : Tables) (userId : Uuid) (currency : String) (entry : LedgerEntry) : Prop :=
  ∃ wallet, s.findWallet userId currency = some wallet ∧ entry.walletId = some wallet.id ∧
    entry.balanceAfter = wallet.balance

structure ExactTransfer (req : TransferRequest) (fromUserId toUserId : Uuid)
    (before after : Tables) : Prop where
  senderParsed : Uuid.parse req.fromUserId = some fromUserId
  receiverParsed : Uuid.parse req.toUserId = some toUserId
  debit : after.balanceOf fromUserId req.currency =
    before.balanceOf fromUserId req.currency - req.amount
  credit : after.balanceOf toUserId req.currency =
    before.balanceOf toUserId req.currency + req.amount
  total : ∀ currency, after.books.total currency = before.books.total currency
  nonneg : before.books.Nonneg → after.books.Nonneg
  others : ∀ userId currency, (userId, currency) ≠ (fromUserId, req.currency) →
    (userId, currency) ≠ (toUserId, req.currency) →
    after.findWallet userId currency = before.findWallet userId currency
  ledger : ∃ debit credit, after.ledger.rows = before.ledger.rows ++ [debit, credit] ∧
    debit.direction = .debit ∧ debit.amount = req.amount ∧
    after.Explains fromUserId req.currency debit ∧
    credit.direction = .credit ∧ credit.amount = req.amount ∧
    after.Explains toUserId req.currency credit

-- What the transfer may commit: nothing, or the exact movement.
def TransferConserves (env : Env) (now : Instant) (req : TransferRequest) (s : Tables) : Prop :=
  ∀ persisted after, persistTransfer env now req s = .ok (persisted, after) →
    after.books = s.books ∨
      ∃ fromUserId toUserId, ExactTransfer req fromUserId toUserId s after

/-! ## The checks of the code -/

-- The receiver's row as it is loaded, created when there is none.
def receiverOf (now : Instant) (req : TransferRequest) (toUserId : Uuid) (s : Tables) : Wallet :=
  (s.findWallet toUserId req.currency).getD
    { emptyWallet now toUserId req.currency with id := s.wallets.next }

/-- Every check on a new transfer, in the code and by the columns it writes. -/
structure Admitted (now : Instant) (req : TransferRequest) (s : Tables)
    (fromUserId toUserId : Uuid) (sender : Wallet) : Prop where
  new : s.findByIdempotencyKey req.idempotencyKey = none
  senderParsed : Uuid.parse req.fromUserId = some fromUserId
  receiverParsed : Uuid.parse req.toUserId = some toUserId
  found : s.findWallet fromUserId req.currency = some sender
  senderActive : sender.status = .active
  covered : req.amount ≤ sender.balance
  receiverActive : (receiverOf now req toUserId s).status = .active
  senderFits : (debited req.amount sender).columnsFit = true
  receiverFits : (credited req.amount (receiverOf now req toUserId s)).columnsFit = true
  transactionFits : (transferEntity now req fromUserId toUserId).columnsFit = true
  debitFits : (ledgerEntry 0 .debit req.amount sender (debited req.amount sender)
    ("Transfer debit (" ++ req.currency ++ ")")).columnsFit = true
  creditFits : (ledgerEntry 0 .credit req.amount (receiverOf now req toUserId s)
    (credited req.amount (receiverOf now req toUserId s))
    ("Transfer credit (" ++ req.currency ++ ")")).columnsFit = true

section

variable {env : Env} {now : Instant} {req : TransferRequest} {s : Tables}
  {fromUserId toUserId : Uuid} {sender : Wallet}

theorem findOrCreateWallet_isOk
    (fits : (emptyWallet now toUserId req.currency).columnsFit = true) :
    ∃ wallets, findOrCreateWallet now toUserId req.currency s =
      .ok (receiverOf now req toUserId s, { s with wallets }) := by
  unfold findOrCreateWallet receiverOf
  cases found : s.findWallet toUserId req.currency with
  | some wallet => exact ⟨s.wallets, rfl⟩
  | none =>
    have free : ∀ other ∈ s.wallets, ¬ Clash other (emptyWallet now toUserId req.currency) :=
      fun other member clash => Table.byKey_eq_none.mp found other member clash.2
    obtain ⟨saved, wallets, inserted⟩ := insertRow_isOk fits free
    have shape := (Table.insert?_spec (insertRow_eq_ok.mp inserted).2).1
    refine ⟨wallets, ?_⟩
    simp only [Tables.insertWallet, inserted, Except.map, shape, Option.getD_none]
    rfl

theorem findOrCreateWallet_receiver {receiver : Wallet} {opened : Tables}
    (done : findOrCreateWallet now toUserId req.currency s = .ok (receiver, opened)) :
    receiver = receiverOf now req toUserId s := by
  unfold findOrCreateWallet at done
  unfold receiverOf
  cases found : s.findWallet toUserId req.currency with
  | some wallet =>
    rw [found] at done
    exact (Prod.mk.inj (Except.ok.inj done)).1.symm
  | none =>
    rw [found] at done
    obtain ⟨_, wallets, inserted, _⟩ := Tables.insertWallet_eq_ok.mp done
    exact (Table.insert?_spec inserted).1

-- A committed new transfer has passed every check.
theorem admitted_of_committed {persisted : PersistedTransfer} {after : Tables}
    (internal : req.isExternal = false) (new : s.findByIdempotencyKey req.idempotencyKey = none)
    (done : persistTransfer env now req s = .ok (persisted, after)) :
    ∃ fromUserId toUserId sender, Admitted now req s fromUserId toUserId sender := by
  obtain ⟨fromUserId, toUserId, sender, parsed, parsed', found⟩ :=
    persistTransfer_sender internal new done
  rw [persistTransfer_internal internal new parsed parsed' found] at done
  simp only [transferBetween, bind_eq_ok, Prod.exists] at done
  obtain ⟨receiver, opened, created, rest⟩ := done
  obtain rfl := findOrCreateWallet_receiver created
  split_ifs at rest with inactive short frozen
  · simp [bind_eq_ok] at rest
  simp only [bind_eq_ok, Prod.exists, Tables.saveWallet_eq_ok, Tables.insertTransaction_eq_ok,
    Tables.insertLedger_eq_ok] at rest
  obtain ⟨_, ⟨senderFits, _⟩, _, ⟨receiverFits, _⟩, _, _, ⟨transactionFits, _⟩, _, ⟨debitFits, _⟩,
    _, ⟨creditFits, _⟩, _⟩ := rest
  exact ⟨fromUserId, toUserId, sender,
    { new := new
      senderParsed := parsed
      receiverParsed := parsed'
      found := found
      senderActive := not_not.mp inactive
      covered := not_lt.mp short
      receiverActive := not_not.mp frozen
      senderFits := senderFits
      receiverFits := receiverFits
      transactionFits := transactionFits
      debitFits := debitFits
      creditFits := creditFits }⟩

-- Nothing else can refuse the transfer.
theorem committed_of_admitted (internal : req.isExternal = false)
    (admitted : Admitted now req s fromUserId toUserId sender) :
    ∃ persisted after, persistTransfer env now req s = .ok (persisted, after) := by
  have fits : (emptyWallet now toUserId req.currency).columnsFit = true := by
    have currency := admitted.senderFits
    have holds := (mem_of_findWallet admitted.found).2.2
    simp only [Wallet.columnsFit, debited, holds, Bool.and_eq_true] at currency
    simp [Wallet.columnsFit, emptyWallet, currency.1, fitsBigint]
  obtain ⟨opened, created⟩ := findOrCreateWallet_isOk fits
  obtain ⟨_, sameOpened, loaded⟩ := findOrCreateWallet_effect created
  have senderHeld : sender ∈ opened :=
    (Table.byKey_eq_some.mp (findWallet_of_loaded loaded admitted.found)).1
  have receiverHeld : receiverOf now req toUserId s ∈ opened := loaded.member
  obtain ⟨middle, debit⟩ : ∃ middle, Tables.saveWallet { s with wallets := opened }
      (debited req.amount sender) = .ok { s with wallets := middle } :=
    Tables.saveWallet_isOk admitted.senderFits senderHeld rfl rfl
  obtain ⟨_, table, updated, sameMiddle⟩ := Tables.saveWallet_eq_ok.mp debit
  obtain rfl : middle = table := congrArg Tables.wallets sameMiddle
  obtain ⟨kept, keptHeld, sameId, sameKey⟩ :=
    Table.kept_update? updated senderHeld rfl rfl receiverHeld
  obtain ⟨wallets, credit⟩ : ∃ wallets, Tables.saveWallet { s with wallets := middle }
      (credited req.amount (receiverOf now req toUserId s)) = .ok { s with wallets } :=
    Tables.saveWallet_isOk admitted.receiverFits keptHeld sameId sameKey
  obtain ⟨savedTx, transactions, inserted⟩ : ∃ saved transactions,
      Tables.insertTransaction { s with wallets } (transferEntity now req fromUserId toUserId) =
        .ok (saved, { s with wallets, transactions }) :=
    Tables.insertTransaction_isOk admitted.transactionFits admitted.new
  obtain ⟨firstLedger, first⟩ : ∃ ledger, Tables.insertLedger { s with wallets, transactions }
      (ledgerEntry savedTx.id .debit req.amount sender (debited req.amount sender)
        ("Transfer debit (" ++ req.currency ++ ")")) = .ok { s with wallets, transactions, ledger } :=
    Tables.insertLedger_isOk admitted.debitFits
  obtain ⟨ledger, second⟩ : ∃ ledger, Tables.insertLedger
      { s with wallets, transactions, ledger := firstLedger }
      (ledgerEntry savedTx.id .credit req.amount (receiverOf now req toUserId s)
        (credited req.amount (receiverOf now req toUserId s))
        ("Transfer credit (" ++ req.currency ++ ")")) = .ok { s with wallets, transactions, ledger } :=
    Tables.insertLedger_isOk admitted.creditFits
  have covered : ¬ sender.balance < req.amount := not_lt.mpr admitted.covered
  rw [persistTransfer_internal internal admitted.new admitted.senderParsed admitted.receiverParsed
    admitted.found]
  simp [transferBetween, created, admitted.senderActive, covered, debit, admitted.receiverActive,
    credit, inserted, first, second]

/-! ## The exact movement -/

-- Each of the two rows is read back past the other's update.
theorem wallets_of_postings {sender receiver : Wallet} {opened middle : Books} {txId : Nat}
    {after : Tables} (apart : fromUserId ≠ toUserId)
    (found : s.findWallet fromUserId req.currency = some sender)
    (loaded : Loaded toUserId req.currency receiver s.books opened)
    (debit : Posted txId .debit req.amount sender opened middle)
    (credit : Posted txId .credit req.amount receiver middle after.books) :
    after.findWallet fromUserId req.currency = some (moved .debit req.amount sender) ∧
      after.findWallet toUserId req.currency = some (moved .credit req.amount receiver) := by
  have senderKey : Row.key sender = some (fromUserId, req.currency) :=
    (Table.byKey_eq_some.mp found).2
  have receiverKey : Row.key receiver = some (toUserId, req.currency) := loaded.key
  have users : (toUserId, req.currency) ≠ (fromUserId, req.currency) :=
    fun same => apart (congrArg Prod.fst same).symm
  constructor
  · have later := credit.byKey (fromUserId, req.currency)
    rwa [receiverKey, if_neg (fun same => users (Option.some.inj same)), debit.byKey,
      if_pos senderKey] at later
  · have later := credit.byKey (toUserId, req.currency)
    rwa [if_pos receiverKey] at later

theorem exactTransfer_of_postings {sender receiver : Wallet} {opened middle : Books} {txId : Nat}
    {after : Tables} (apart : fromUserId ≠ toUserId)
    (parsed : Uuid.parse req.fromUserId = some fromUserId)
    (parsed' : Uuid.parse req.toUserId = some toUserId)
    (found : s.findWallet fromUserId req.currency = some sender)
    (loaded : Loaded toUserId req.currency receiver s.books opened)
    (debit : Posted txId .debit req.amount sender opened middle)
    (credit : Posted txId .credit req.amount receiver middle after.books)
    (exactDebit : Number.Exact (sender.balance - req.amount))
    (exactCredit : Number.Exact (receiver.balance + req.amount)) :
    ExactTransfer req fromUserId toUserId s after := by
  have senderKey : Row.key sender = some (fromUserId, req.currency) :=
    (Table.byKey_eq_some.mp found).2
  have receiverKey : Row.key receiver = some (toUserId, req.currency) := loaded.key
  have senderBalance : (moved .debit req.amount sender).balance = sender.balance - req.amount :=
    moved_balance exactDebit
  have receiverBalance : (moved .credit req.amount receiver).balance =
      receiver.balance + req.amount := moved_balance exactCredit
  obtain ⟨senderAfter, receiverAfter⟩ := wallets_of_postings apart found loaded debit credit
  obtain ⟨debitRow, debitRows, debitRecords⟩ := debit.entry
  obtain ⟨creditRow, creditRows, creditRecords⟩ := credit.entry
  exact
    { senderParsed := parsed
      receiverParsed := parsed'
      debit := by
        simp [Tables.balanceOf, senderAfter, found, walletBalance, senderBalance]
      credit := by
        have opening : s.balanceOf toUserId req.currency = receiver.balance := loaded.balance
        rw [opening]
        simp [Tables.balanceOf, receiverAfter, walletBalance, receiverBalance]
      total := by
        intro currency
        have sameCurrency : sender.currency = receiver.currency :=
          (mem_of_findWallet found).2.2.trans
            (congrArg Prod.snd (Option.some.inj receiverKey)).symm
        rw [credit.total exactCredit, debit.total exactDebit, loaded.total, sameCurrency]
        by_cases own : receiver.currency = currency
        · simp [own, signed]
        · simp [own]
      nonneg := fun before =>
        credit.nonneg req.positive (debit.nonneg req.positive (loaded.nonneg before))
      others := by
        intro userId currency notSender notReceiver
        have later := credit.byKey (userId, currency)
        rw [receiverKey, if_neg (fun same => notReceiver (Option.some.inj same).symm), debit.byKey,
          senderKey, if_neg (fun same => notSender (Option.some.inj same).symm),
          loaded.byKey_of_ne (Ne.symm notReceiver)] at later
        exact later
      ledger := by
        refine ⟨debitRow, creditRow, ?_, debitRecords.ofDirection, debitRecords.ofAmount, ?_,
          creditRecords.ofDirection, creditRecords.ofAmount, ?_⟩
        · have rows : after.ledger.rows = middle.ledger.rows ++ [creditRow] := creditRows
          rw [rows, debitRows, loaded.ledger]
          simp [Tables.books]
        · exact ⟨_, senderAfter, by simp [debitRecords.ofWallet], debitRecords.after⟩
        · exact ⟨_, receiverAfter, by simp [creditRecords.ofWallet], creditRecords.after⟩ }

-- One user in two spellings: whatever is saved, the user's balance cannot both fall and rise.
theorem not_exactTransfer_of_same {after : Tables} (same : Uuid.parse req.fromUserId =
    Uuid.parse req.toUserId) {fromUserId toUserId : Uuid} :
    ¬ ExactTransfer req fromUserId toUserId s after := by
  intro moved
  have users : fromUserId = toUserId := by
    have parsed := moved.senderParsed
    rw [same, moved.receiverParsed] at parsed
    exact (Option.some.inj parsed).symm
  have debit := moved.debit
  have credit := moved.credit
  have positive := req.positive
  rw [users] at debit
  omega

-- A committed new transfer always writes to the ledger.
theorem books_ne_of_committed {persisted : PersistedTransfer} {after : Tables}
    (internal : req.isExternal = false) (admitted : Admitted now req s fromUserId toUserId sender)
    (done : persistTransfer env now req s = .ok (persisted, after)) : after.books ≠ s.books := by
  rw [persistTransfer_internal internal admitted.new admitted.senderParsed admitted.receiverParsed
    admitted.found] at done
  obtain ⟨_, _, _, wallets, transactions, firstLedger, ledger, rfl, _, _, _, _, _,
    ⟨_, _, first⟩, ⟨_, _, second⟩⟩ := transferBetween_effect done
  intro same
  have lengths : ledger.rows.length = s.ledger.rows.length :=
    congrArg (fun books : Books => books.ledger.rows.length) same
  rw [(Table.insert?_spec second).2.1, (Table.insert?_spec first).2.1] at lengths
  simp at lengths

-- The two movements of an admitted transfer, read off the committed tables.
theorem postings_of_admitted {persisted : PersistedTransfer} {after : Tables}
    (internal : req.isExternal = false) (admitted : Admitted now req s fromUserId toUserId sender)
    (apart : fromUserId ≠ toUserId)
    (done : persistTransfer env now req s = .ok (persisted, after)) :
    ∃ receiver opened middle, Loaded toUserId req.currency receiver s.books opened ∧
      Posted persisted.transaction.id .debit req.amount sender opened middle ∧
      Posted persisted.transaction.id .credit req.amount receiver middle after.books := by
  have texts : Uuid.parse req.fromUserId ≠ Uuid.parse req.toUserId := by
    rw [admitted.senderParsed, admitted.receiverParsed]
    exact fun same => apart (Option.some.inj same)
  rcases persistTransfer_postings internal texts done with ⟨_, used⟩ | ⟨_, rest⟩
  · rw [admitted.new] at used
    cases used
  · obtain ⟨first, second, found, receiver, opened, middle, wallets, transactions, ledger, rfl,
      parsed, parsed', sameFound, loaded, _, debit, credit⟩ := rest
    obtain rfl : first = fromUserId :=
      Option.some.inj (parsed.symm.trans admitted.senderParsed)
    obtain rfl : second = toUserId :=
      Option.some.inj (parsed'.symm.trans admitted.receiverParsed)
    obtain rfl : found = sender := Option.some.inj (sameFound.symm.trans admitted.found)
    exact ⟨receiver, opened, middle, loaded, debit, credit⟩

-- A rounded balance shows in the wallet it is saved to.
theorem exact_of_exactTransfer {persisted : PersistedTransfer} {after : Tables}
    (internal : req.isExternal = false) (admitted : Admitted now req s fromUserId toUserId sender)
    (apart : fromUserId ≠ toUserId)
    (done : persistTransfer env now req s = .ok (persisted, after))
    (moved : ExactTransfer req fromUserId toUserId s after) :
    Number.Exact (sender.balance - req.amount) ∧
      Number.Exact (s.balanceOf toUserId req.currency + req.amount) := by
  obtain ⟨receiver, opened, middle, loaded, debit, credit⟩ :=
    postings_of_admitted internal admitted apart done
  obtain ⟨senderAfter, receiverAfter⟩ :=
    wallets_of_postings apart admitted.found loaded debit credit
  have opening : s.balanceOf toUserId req.currency = receiver.balance := loaded.balance
  have debitBalance := moved.debit
  have creditBalance := moved.credit
  rw [Tables.balanceOf, senderAfter, Tables.balanceOf, admitted.found] at debitBalance
  rw [Tables.balanceOf, receiverAfter, opening] at creditBalance
  rw [opening]
  exact ⟨(Number.sub_eq_iff _ _).mp debitBalance, (Number.add_eq_iff _ _).mp creditBalance⟩

end

def toOwnWallet : CreateTransferRequest where
  idempotencyKey := "transfer"
  requestingUserId := alice
  fromUserId := alice
  toUserId := asciiUpper alice
  amount := .number (some 40)
  currency := "VND"
  memo := ""
  otpCode := "123456"
  isExternal := false
  externalPartner := ""
  externalAccountNo := ""

def toOwnWalletRequest : TransferRequest where
  idempotencyKey := "transfer"
  requestingUserId := alice
  fromUserId := alice
  toUserId := asciiUpper alice
  amount := 40
  currency := "VND"
  memo := ""
  isExternal := false
  externalPartner := none
  externalAccountNo := none
  requester := rfl
  receiverGiven := by decide
  distinct := by decide
  positive := by decide

-- Alice sends herself 40 of her 100 and has 140.
theorem transfer_to_own_wallet_creates_money :
    validateCreateTransfer sampleEnv toOwnWallet = .ok toOwnWalletRequest ∧
      ((persistTransfer sampleEnv 2 toOwnWalletRequest fundedTables).toOption.map
        fun done => done.2.balanceOf aliceId "VND") = some 140 ∧
      ¬ TransferConserves sampleEnv 2 toOwnWalletRequest fundedTables := by
  have admitted : Admitted 2 toOwnWalletRequest fundedTables aliceId aliceId
      { id := 0, userId := aliceId, currency := "VND", balance := 100, status := .active
        createdAt := 0 } :=
    { new := by decide
      senderParsed := by decide
      receiverParsed := by decide
      found := by decide
      senderActive := rfl
      covered := by decide
      receiverActive := by decide
      senderFits := by decide
      receiverFits := by decide
      transactionFits := by decide
      debitFits := by decide
      creditFits := by decide }
  refine ⟨rfl, by decide, fun conserves => ?_⟩
  obtain ⟨persisted, after, done⟩ := committed_of_admitted rfl admitted
  rcases conserves persisted after done with same | ⟨_, _, moved⟩
  · exact books_ne_of_committed rfl admitted done same
  · exact not_exactTransfer_of_same (by decide) moved

-- `Admitted` is decided from the request and the tables before the transfer alone.
theorem transferConserves_iff (env : Env) (now : Instant) (req : TransferRequest) (s : Tables)
    (internal : req.isExternal = false) :
    TransferConserves env now req s ↔
      ∀ fromUserId toUserId sender, Admitted now req s fromUserId toUserId sender →
        fromUserId ≠ toUserId ∧ Number.Exact (sender.balance - req.amount) ∧
          Number.Exact (s.balanceOf toUserId req.currency + req.amount) := by
  constructor
  · intro conserves fromUserId toUserId sender admitted
    obtain ⟨persisted, after, done⟩ := committed_of_admitted internal admitted
    have written := books_ne_of_committed internal admitted done
    obtain ⟨first, second, moved⟩ := (conserves persisted after done).resolve_left written
    obtain rfl : first = fromUserId :=
      Option.some.inj (moved.senderParsed.symm.trans admitted.senderParsed)
    obtain rfl : second = toUserId :=
      Option.some.inj (moved.receiverParsed.symm.trans admitted.receiverParsed)
    have apart : first ≠ second := by
      intro same
      refine not_exactTransfer_of_same ?_ moved
      rw [moved.senderParsed, moved.receiverParsed, same]
    exact ⟨apart, exact_of_exactTransfer internal admitted apart done moved⟩
  · intro condition persisted after done
    cases new : s.findByIdempotencyKey req.idempotencyKey with
    | some dup =>
      left
      simp only [persistTransfer, new, bind_eq_ok, Except.ok.injEq, Prod.mk.injEq] at done
      obtain ⟨_, _, _, _, _, rfl⟩ := done
      rfl
    | none =>
      right
      obtain ⟨fromUserId, toUserId, sender, admitted⟩ := admitted_of_committed internal new done
      obtain ⟨apart, exactDebit, exactCredit⟩ := condition fromUserId toUserId sender admitted
      obtain ⟨receiver, opened, middle, loaded, debit, credit⟩ :=
        postings_of_admitted internal admitted apart done
      have opening : s.balanceOf toUserId req.currency = receiver.balance := loaded.balance
      rw [opening] at exactCredit
      exact ⟨fromUserId, toUserId, exactTransfer_of_postings apart admitted.senderParsed
        admitted.receiverParsed admitted.found loaded debit credit exactDebit exactCredit⟩

theorem transferConserves_iff_admitted_to_own_wallet :
    TransferConserves sampleEnv 2 toOwnWalletRequest fundedTables ↔
      ∀ fromUserId toUserId sender,
        Admitted 2 toOwnWalletRequest fundedTables fromUserId toUserId sender →
        fromUserId ≠ toUserId ∧ Number.Exact (sender.balance - 40) ∧
          Number.Exact (fundedTables.balanceOf toUserId "VND" + 40) :=
  transferConserves_iff sampleEnv 2 toOwnWalletRequest fundedTables rfl

end Kufi.Transactions

import Kufi.Transactions.Effects

set_option autoImplicit false

/-!
# Effects of a transfer

The wallets of an internal transfer are locked in the order of their owners'
spellings. `transferBetween` is the same transaction with the lock order
resolved; `persistTransfer` equals it whenever the sender has a wallet and
commits nothing otherwise.
-/

namespace Kufi.Transactions

open Shared

def transferBetween (now : Instant) (req : TransferRequest) (fromUserId toUserId : Uuid)
    (sender : Wallet) (s : Tables) : Except ServiceError (PersistedTransfer × Tables) := do
  let (receiver, s) ← findOrCreateWallet now toUserId req.currency s
  if sender.status ≠ .active then .error (.badRequest "Sender wallet is not active")
  else if sender.balance < req.amount then .error (.badRequest "Insufficient balance")
  else
    let s ← s.saveWallet (debited req.amount sender)
    if receiver.status ≠ .active then .error (.badRequest "Receiver wallet is not active")
    else
      let s ← s.saveWallet (credited req.amount receiver)
      let (savedTx, s) ← s.insertTransaction (transferEntity now req fromUserId toUserId)
      let s ← s.insertLedger (ledgerEntry savedTx.id .debit req.amount sender
        (debited req.amount sender) ("Transfer debit (" ++ req.currency ++ ")"))
      let s ← s.insertLedger (ledgerEntry savedTx.id .credit req.amount receiver
        (credited req.amount receiver) ("Transfer credit (" ++ req.currency ++ ")"))
      .ok ({ transaction := savedTx
             senderBalance := (debited req.amount sender).balance
             receiverBalance := (credited req.amount receiver).balance }, s)

theorem usersToLock_internal (env : Env) {req : TransferRequest} (internal : req.isExternal = false) :
    usersToLock env req = [req.fromUserId, req.toUserId] ∨
      usersToLock env req = [req.toUserId, req.fromUserId] := by
  have different : req.toUserId ≠ req.fromUserId := (req.distinct internal).symm
  by_cases ordered : env.localeCompare req.fromUserId req.toUserId ≤ 0
  · left
    simp [usersToLock, internal, different, ordered]
  · right
    simp [usersToLock, internal, different, ordered]

theorem usersToLock_external {env : Env} {req : TransferRequest} (external : req.isExternal = true) :
    usersToLock env req = [req.fromUserId] := by
  simp [usersToLock, external]

theorem findWallet_of_loaded {userId other : Uuid} {currency : String} {wallet existing : Wallet}
    {before after : Books} (loaded : Loaded userId currency wallet before after)
    (found : before.wallets.byKey (other, currency) = some existing) :
    after.wallets.byKey (other, currency) = some existing := by
  rcases loaded with ⟨_, rfl⟩ | opened
  · exact found
  · obtain ⟨now, inserted⟩ := opened.wallets
    have different : Row.key wallet ≠ some (other, currency) := by
      rw [opened.key]
      intro same
      have missing := opened.missing
      rw [Option.some.inj same, found] at missing
      cases missing
    rw [Table.byKey_insert? inserted, if_neg different, found]

section Internal

variable {env : Env} {now : Instant} {req : TransferRequest} {s : Tables}
  {fromUserId toUserId : Uuid}

theorem lockWallet_sender {sender : Wallet} (parsed : Uuid.parse req.fromUserId = some fromUserId)
    (found : s.findWallet fromUserId req.currency = some sender) :
    lockWallet now req req.fromUserId s = .ok (sender, s) := by
  simp [lockWallet, parseUuid, parsed, found, findOrCreateWallet]

theorem lockWallet_receiver (internal : req.isExternal = false)
    (parsed : Uuid.parse req.toUserId = some toUserId) :
    lockWallet now req req.toUserId s = findOrCreateWallet now toUserId req.currency s := by
  have different : req.toUserId ≠ req.fromUserId := (req.distinct internal).symm
  simp [lockWallet, parseUuid, parsed, different]

-- In either order the receiver's row is loaded from the tables the sender's row was in.
theorem lockWallets_internal (env : Env) (now : Instant) (internal : req.isExternal = false)
    (senderParsed : Uuid.parse req.fromUserId = some fromUserId)
    (receiverParsed : Uuid.parse req.toUserId = some toUserId) {sender : Wallet}
    (found : s.findWallet fromUserId req.currency = some sender) :
    ∃ locked : Wallet → List (String × Wallet),
      (∀ receiver, (locked receiver).lookup req.fromUserId = some sender ∧
        (locked receiver).lookup req.toUserId = some receiver) ∧
      lockWallets now req (usersToLock env req) s = (do
        let (receiver, s) ← findOrCreateWallet now toUserId req.currency s
        .ok (locked receiver, s)) := by
  have different : req.toUserId ≠ req.fromUserId := (req.distinct internal).symm
  have apart : (req.toUserId == req.fromUserId) = false := by simpa using different
  have apart' : (req.fromUserId == req.toUserId) = false := by simpa using different.symm
  rcases usersToLock_internal env internal with order | order
  · refine ⟨fun receiver => [(req.fromUserId, sender), (req.toUserId, receiver)], ?_, ?_⟩
    · intro receiver
      simp [List.lookup_cons, apart]
    · rw [order]
      simp only [lockWallets, lockWallet_sender senderParsed found,
        lockWallet_receiver internal receiverParsed, ok_bind]
      cases findOrCreateWallet now toUserId req.currency s <;> rfl
  · refine ⟨fun receiver => [(req.toUserId, receiver), (req.fromUserId, sender)], ?_, ?_⟩
    · intro receiver
      simp [List.lookup_cons, apart']
    · rw [order]
      simp only [lockWallets, lockWallet_receiver internal receiverParsed]
      cases created : findOrCreateWallet now toUserId req.currency s with
      | error error => rfl
      | ok loaded =>
        obtain ⟨receiver, opened⟩ := loaded
        obtain ⟨wallets, rfl, receiverLoaded⟩ := findOrCreateWallet_effect created
        have stillFound : Tables.findWallet { s with wallets } fromUserId req.currency =
            some sender := findWallet_of_loaded receiverLoaded found
        simp only [ok_bind, lockWallet_sender senderParsed stillFound]

theorem creditReceiver_internal (internal : req.isExternal = false) {receiver : Wallet}
    {locked : List (String × Wallet)} (held : locked.lookup req.toUserId = some receiver) :
    creditReceiver now req locked s =
      if receiver.status ≠ .active then .error (.badRequest "Receiver wallet is not active")
      else s.saveWallet (credited req.amount receiver) >>= fun s =>
        .ok (some (receiver, credited req.amount receiver), s) := by
  simp [creditReceiver, internal, held]

theorem persistTransfer_internal (internal : req.isExternal = false)
    (new : s.findByIdempotencyKey req.idempotencyKey = none)
    (senderParsed : Uuid.parse req.fromUserId = some fromUserId)
    (receiverParsed : Uuid.parse req.toUserId = some toUserId) {sender : Wallet}
    (found : s.findWallet fromUserId req.currency = some sender) :
    persistTransfer env now req s = transferBetween now req fromUserId toUserId sender s := by
  obtain ⟨locked, held, order⟩ :=
    lockWallets_internal env now internal senderParsed receiverParsed found
  simp only [persistTransfer, insertTransfer, transferBetween, new, order]
  cases findOrCreateWallet now toUserId req.currency s with
  | error error => rfl
  | ok loaded =>
    obtain ⟨receiver, opened⟩ := loaded
    simp only [ok_bind, (held receiver).1, creditReceiver_internal internal (held receiver).2]
    by_cases inactive : sender.status ≠ .active
    · simp [inactive]
    by_cases short : sender.balance < req.amount
    · simp [inactive, short]
    cases opened.saveWallet (debited req.amount sender) with
    | error error => simp [inactive, short]
    | ok saved =>
      by_cases frozen : receiver.status ≠ .active
      · simp [inactive, short, frozen]
      cases both : saved.saveWallet (credited req.amount receiver) with
      | error error => simp [inactive, short, frozen, both]
      | ok both =>
        simp [inactive, short, frozen, both, parseUuid_eq_ok.mpr senderParsed,
          parseUuid_eq_ok.mpr receiverParsed]

-- A sender without a wallet fails, or is given the receiver's new and empty one.
theorem persistTransfer_sender (internal : req.isExternal = false) {after : Tables}
    {persisted : PersistedTransfer}
    (new : s.findByIdempotencyKey req.idempotencyKey = none)
    (done : persistTransfer env now req s = .ok (persisted, after)) :
    ∃ fromUserId toUserId sender, Uuid.parse req.fromUserId = some fromUserId ∧
      Uuid.parse req.toUserId = some toUserId ∧
      s.findWallet fromUserId req.currency = some sender := by
  have different : req.toUserId ≠ req.fromUserId := (req.distinct internal).symm
  have apart : (req.fromUserId == req.toUserId) = false := by simpa using different.symm
  simp only [persistTransfer, insertTransfer, new, bind_eq_ok, Prod.exists] at done
  obtain ⟨locked, opened, locks, rest⟩ := done
  rcases usersToLock_internal env internal with order | order
  · rw [order] at locks
    simp only [lockWallets, lockWallet, bind_eq_ok, Prod.exists, parseUuid_eq_ok] at locks
    obtain ⟨sender, first, ⟨fromUserId, parsed, loaded⟩, _, _, ⟨_, _, ⟨toUserId, parsed', _⟩, _⟩, _⟩ :=
      locks
    split_ifs at loaded with missing
    obtain ⟨existing, found⟩ := Option.ne_none_iff_exists'.mp fun none => missing ⟨trivial, none⟩
    exact ⟨fromUserId, toUserId, existing, parsed, parsed', found⟩
  · rw [order] at locks
    simp only [lockWallets, lockWallet, bind_eq_ok, Prod.exists, parseUuid_eq_ok, different,
      false_and, if_false, Except.ok.injEq, Prod.mk.injEq] at locks
    obtain ⟨receiver, first, ⟨toUserId, parsed', created⟩, _, _,
      ⟨sender, _, ⟨fromUserId, parsed, loaded⟩, _, _, ⟨rfl, rfl⟩, rfl, rfl⟩, rfl, rfl⟩ := locks
    split_ifs at loaded with missing
    obtain ⟨wallets, rfl, receiverLoaded⟩ := findOrCreateWallet_effect created
    obtain ⟨existing, found⟩ := Option.ne_none_iff_exists'.mp fun none => missing ⟨trivial, none⟩
    rcases receiverLoaded with ⟨_, same⟩ | openedReceiver
    · have stays : wallets = s.wallets := congrArg Books.wallets same
      subst stays
      exact ⟨fromUserId, toUserId, existing, parsed, parsed', found⟩
    · -- The row found for the sender is either old or the receiver's new one.
      have senderIs : sender = existing := by
        simp only [findOrCreateWallet, found, Except.ok.injEq, Prod.mk.injEq] at loaded
        exact loaded.1.symm
      subst senderIs
      obtain ⟨createdAt, inserted⟩ := openedReceiver.wallets
      have lookedUp := Table.byKey_insert? inserted (fromUserId, req.currency)
      change Table.byKey wallets (fromUserId, req.currency) = some sender at found
      change Table.byKey wallets (fromUserId, req.currency) = _ at lookedUp
      rw [found] at lookedUp
      split_ifs at lookedUp with own
      · have broke : sender.balance = 0 := by
          rw [Option.some.inj lookedUp]
          exact openedReceiver.balance
        simp only [List.lookup_cons, apart, beq_self_eq_true] at rest
        have positive := req.positive
        split_ifs at rest with inactive short
        omega
      · exact ⟨fromUserId, toUserId, sender, parsed, parsed', lookedUp.symm⟩

theorem transferBetween_effect {sender : Wallet} {persisted : PersistedTransfer} {after : Tables}
    (done : transferBetween now req fromUserId toUserId sender s = .ok (persisted, after)) :
    ∃ receiver opened middle wallets transactions firstLedger ledger,
      after = { s with wallets, transactions, ledger } ∧
      Loaded toUserId req.currency receiver s.books opened ∧
      req.amount ≤ sender.balance ∧
      s.transactions.insert? (transferEntity now req fromUserId toUserId) =
        some (persisted.transaction, transactions) ∧
      opened.wallets.update? (debited req.amount sender) = some middle ∧
      middle.update? (credited req.amount receiver) = some wallets ∧
      (∃ note saved, s.ledger.insert? (ledgerEntry persisted.transaction.id .debit req.amount sender
        (debited req.amount sender) note) = some (saved, firstLedger)) ∧
      ∃ note saved, firstLedger.insert? (ledgerEntry persisted.transaction.id .credit req.amount
        receiver (credited req.amount receiver) note) = some (saved, ledger) := by
  simp only [transferBetween, bind_eq_ok, Prod.exists] at done
  obtain ⟨receiver, _, created, rest⟩ := done
  obtain ⟨openedWallets, rfl, loaded⟩ := findOrCreateWallet_effect created
  split_ifs at rest with inactive short frozen
  · simp [bind_eq_ok] at rest
  simp only [bind_eq_ok, Prod.exists, Tables.saveWallet_eq_ok, Tables.insertTransaction_eq_ok,
    Tables.insertLedger_eq_ok, Except.ok.injEq, Prod.mk.injEq] at rest
  obtain ⟨_, ⟨_, middle, debit, rfl⟩, _, ⟨_, wallets, credit, rfl⟩, savedTx, _, ⟨_, transactions, inserted, rfl⟩,
    _, ⟨_, debitRow, firstLedger, first, rfl⟩, _, ⟨_, creditRow, ledger, second, rfl⟩,
    rfl, rfl⟩ := rest
  exact ⟨receiver, _, middle, wallets, transactions, firstLedger, ledger, rfl, loaded,
    not_lt.mp short, inserted, debit, credit, ⟨_, debitRow, first⟩, ⟨_, creditRow, second⟩⟩

end Internal

-- Between two different users the transfer is one debit and then one credit of the books.
theorem persistTransfer_postings {env : Env} {now : Instant} {req : TransferRequest}
    {s after : Tables} {persisted : PersistedTransfer} (internal : req.isExternal = false)
    (apart : Uuid.parse req.fromUserId ≠ Uuid.parse req.toUserId)
    (done : persistTransfer env now req s = .ok (persisted, after)) :
    (after = s ∧ s.findByIdempotencyKey req.idempotencyKey = some persisted.transaction) ∨
      (s.findByIdempotencyKey req.idempotencyKey = none ∧
        ∃ fromUserId toUserId sender receiver opened middle wallets transactions ledger,
          after = { s with wallets, transactions, ledger } ∧
          Uuid.parse req.fromUserId = some fromUserId ∧ Uuid.parse req.toUserId = some toUserId ∧
          s.findWallet fromUserId req.currency = some sender ∧
          Loaded toUserId req.currency receiver s.books opened ∧
          s.transactions.insert? (transferEntity now req fromUserId toUserId) =
            some (persisted.transaction, transactions) ∧
          Posted persisted.transaction.id .debit req.amount sender opened middle ∧
          Posted persisted.transaction.id .credit req.amount receiver middle after.books) := by
  cases new : s.findByIdempotencyKey req.idempotencyKey with
  | some dup =>
    simp only [persistTransfer, new, bind_eq_ok, Except.ok.injEq, Prod.mk.injEq] at done
    obtain ⟨_, _, _, _, rfl, rfl⟩ := done
    exact .inl ⟨rfl, rfl⟩
  | none =>
    obtain ⟨fromUserId, toUserId, sender, parsed, parsed', found⟩ :=
      persistTransfer_sender internal new done
    rw [persistTransfer_internal internal new parsed parsed' found] at done
    obtain ⟨receiver, opened, middle, wallets, transactions, firstLedger, ledger, rfl, loaded,
      covered, inserted, debit, credit, first, second⟩ := transferBetween_effect done
    have senderHeld : sender ∈ opened.wallets :=
      (Table.byKey_eq_some.mp (findWallet_of_loaded loaded found)).1
    have differ : receiver.id ≠ sender.id := by
      intro same
      have equal := Table.eq_of_id loaded.member senderHeld same
      have keys := (Table.byKey_eq_some.mp loaded.byKey).2
      rw [equal, (Table.byKey_eq_some.mp found).2] at keys
      rw [parsed, parsed', (Prod.mk.inj (Option.some.inj keys)).1] at apart
      exact apart rfl
    have sameLedger : opened.ledger = s.ledger := by
      rcases loaded with ⟨_, rfl⟩ | created
      · rfl
      · exact created.ledger
    refine .inr ⟨rfl, fromUserId, toUserId, sender, receiver, opened, ⟨middle, firstLedger⟩, wallets,
      transactions, ledger, rfl, parsed, parsed', found, loaded, inserted, ?_, ?_⟩
    · exact
        { found := senderHeld
          covered := fun _ => covered
          wallets := debit
          ledger := sameLedger ▸ first }
    · exact
        { found := (Table.mem_update? debit).mpr (.inl ⟨loaded.member, differ⟩)
          covered := nofun
          wallets := credit
          ledger := second }

theorem persistTransfer_external {env : Env} {now : Instant} {req : TransferRequest}
    {s after : Tables} {persisted : PersistedTransfer} (external : req.isExternal = true)
    (done : persistTransfer env now req s = .ok (persisted, after)) :
    (after = s ∧ s.findByIdempotencyKey req.idempotencyKey = some persisted.transaction) ∨
      (s.findByIdempotencyKey req.idempotencyKey = none ∧
        ∃ fromUserId toUserId sender wallets transactions ledger,
          after = { s with wallets, transactions, ledger } ∧
          s.findWallet fromUserId req.currency = some sender ∧
          s.transactions.insert? (transferEntity now req fromUserId toUserId) =
            some (persisted.transaction, transactions) ∧
          Posted persisted.transaction.id .debit req.amount sender s.books after.books) := by
  cases new : s.findByIdempotencyKey req.idempotencyKey with
  | some dup =>
    simp only [persistTransfer, new, bind_eq_ok, Except.ok.injEq, Prod.mk.injEq] at done
    obtain ⟨_, _, _, _, rfl, rfl⟩ := done
    exact .inl ⟨rfl, rfl⟩
  | none =>
    simp only [persistTransfer, insertTransfer, new, usersToLock_external external, lockWallets,
      lockWallet, bind_eq_ok, Prod.exists, parseUuid_eq_ok, Except.ok.injEq, Prod.mk.injEq] at done
    obtain ⟨_, opened, ⟨sender, _, ⟨fromUserId, parsed, loaded⟩, _, _, ⟨rfl, rfl⟩, rfl, rfl⟩, rest⟩ :=
      done
    split_ifs at loaded with missing
    obtain ⟨existing, found⟩ := Option.ne_none_iff_exists'.mp fun none => missing ⟨trivial, none⟩
    simp only [findOrCreateWallet, found, Except.ok.injEq, Prod.mk.injEq] at loaded
    obtain ⟨rfl, rfl⟩ := loaded
    simp only [List.lookup_cons, beq_self_eq_true] at rest
    split_ifs at rest with inactive short
    simp only [creditReceiver, external, if_true, bind_eq_ok, Prod.exists, parsed,
      Tables.saveWallet_eq_ok, Tables.insertTransaction_eq_ok, Tables.insertLedger_eq_ok,
      parseUuid_eq_ok, Except.ok.injEq, Prod.mk.injEq, Option.some.injEq] at rest
    obtain ⟨_, ⟨_, wallets, debit, rfl⟩, _, _, ⟨rfl, rfl⟩, _, rfl, toUserId, _, savedTx, _,
      ⟨_, transactions, inserted, rfl⟩, _, ⟨_, debitRow, ledger, entered, rfl⟩, rfl, rfl⟩ := rest
    exact .inr ⟨rfl, fromUserId, toUserId, existing, wallets, transactions, ledger, rfl, found,
      inserted,
      { found := (mem_of_findWallet found).1
        covered := fun _ => not_lt.mp short
        wallets := debit
        ledger := ⟨_, debitRow, entered⟩ }⟩

end Kufi.Transactions

import Mathlib.Data.List.Induction
import Mathlib.Data.List.Infix
import Kufi.Transactions.Advances
import Kufi.Transactions.Reconcile

set_option autoImplicit false

/-!
# Ledger and balances agree

Over any sequence of service operations from empty tables the books stay
balanced, so reconciliation finds nothing to correct.
-/

namespace Kufi.Transactions

open Shared

-- `save` and the events keep any property of the books, as long as no amount is lost.
structure Tables.Holding (Q : Books → Prop) (s : Tables) : Prop where
  positive : s.Positive
  books : Q s.books

-- What holds between two operations; small balances are promised only for the tables they leave.
abbrev Tables.Agreeing (s : Tables) : Prop :=
  s.Holding fun books => books.Small → books.Balanced

/-! ## One database transaction -/

theorem positive_save {s after : Tables} {tx : TransactionEntity} (positive : s.Positive)
    (amount : 0 < tx.amount) (saved : s.saveTransaction tx = .ok after) :
    after.Positive ∧ after.books = s.books := by
  obtain ⟨_, transactions, updated, rfl⟩ := Tables.saveTransaction_eq_ok.mp saved
  refine ⟨fun other member => ?_, rfl⟩
  rcases (Table.mem_update? updated).mp member with ⟨old, _⟩ | ⟨rfl, _⟩
  · exact positive other old
  · exact amount

theorem agreeing_of_balanced {s : Tables} (holding : s.Holding Books.Balanced) : s.Agreeing :=
  ⟨holding.positive, fun _ => holding.books⟩

theorem Tables.Commits.agreeing {s after : Tables} (commits : s.Commits after)
    (balanced : s.books.Balanced) : after.Agreeing :=
  ⟨commits.positive, fun small => (commits.advance small).balanced balanced⟩

theorem persistTransfer_agreeing {env : Env} {now : Instant} {req : TransferRequest}
    {s after : Tables} {persisted : PersistedTransfer} (positive : s.Positive)
    (small : s.books.Small) (balanced : s.books.Balanced)
    (sender : Uuid.Canonical req.fromUserId) (receiver : Uuid.Canonical req.toUserId)
    (done : persistTransfer env now req s = .ok (persisted, after)) :
    after.Agreeing ∧ 0 < persisted.transaction.amount := by
  obtain ⟨commits, amount⟩ :=
    persistTransfer_commits positive balanced.nonneg small sender receiver done
  exact ⟨commits.agreeing balanced, amount⟩

theorem persistTopupIntent_agreeing {env : Env} {now : Instant} {req : FundingRequest}
    {fundingSource : FundingSource} {s after : Tables} {persisted : PersistedFunding}
    (agreeing : s.Agreeing) (small : s.books.Small)
    (done : persistTopupIntent env now req fundingSource s = .ok (persisted, after)) :
    after.Agreeing ∧ 0 < persisted.transaction.amount := by
  obtain ⟨commits, amount⟩ := persistTopupIntent_commits agreeing.positive done
  exact ⟨commits.agreeing (agreeing.books small), amount⟩

-- A debit leaves smaller balances, and a copy of the request leaves the tables as they are.
theorem persistWithdrawalRequest_balanced {env : Env} {now : Instant} {req : WithdrawalRequest}
    {fundingSource : FundingSource} {s after : Tables} {persisted : PersistedFunding}
    (positive : s.Positive) (small : s.books.Small) (balanced : s.books.Balanced)
    (done : persistWithdrawalRequest env now req fundingSource s = .ok (persisted, after)) :
    after.Holding Books.Balanced ∧ 0 < persisted.transaction.amount := by
  rcases persistWithdrawalRequest_effect done with ⟨rfl, used⟩ | ⟨_, rest⟩
  · exact ⟨⟨positive, balanced⟩, positive _ (Table.byKey_eq_some.mp used).1⟩
  · obtain ⟨_, _, _, wallets, transactions, ledger, rfl, _, _, inserted, _, _, debit⟩ := rest
    obtain ⟨amounts, own⟩ := positive_insert positive req.positive inserted
    exact ⟨⟨amounts, debit.debit_balanced req.positive small balanced⟩, own⟩

theorem rollbackWithdrawalDebit_agreeing {tx : TransactionEntity} {reasonCode : String}
    {s after : Tables} (holding : s.Holding Books.Balanced) (amount : 0 < tx.amount)
    (done : rollbackWithdrawalDebit tx reasonCode s = .ok after) : after.Agreeing :=
  (rollbackWithdrawalDebit_commits holding.positive holding.books.nonneg amount done).agreeing
    holding.books

theorem markSettlement_agreeing {env : Env} {now : Instant} {transactionId : Nat}
    {settlementStatus note : String} {s after : Tables} {found : Bool}
    (holding : s.Holding Books.Balanced)
    (done : markSettlement env now transactionId settlementStatus note s = .ok (found, after)) :
    after.Agreeing :=
  (markSettlement_commits holding.positive holding.books.nonneg done).agreeing holding.books

/-! ## One operation -/

section Programs

open Program

variable {Q : Books → Prop} {env : Env} {answers : Answers} {tx : TransactionEntity}

theorem save_holding (amount : 0 < tx.amount) :
    Triple (Tables.Holding Q) (save tx) (fun saved s => saved = tx ∧ s.Holding Q)
      (Tables.Holding Q) := by
  apply Triple.atomically
  · intro s saved after holding done
    obtain ⟨_, stored, same⟩ := map_eq_ok.mp done
    obtain ⟨rfl, rfl⟩ := Prod.mk.inj same
    obtain ⟨positive, books⟩ := positive_save holding.positive amount stored
    exact ⟨rfl, positive, books ▸ holding.books⟩
  · exact fun s holding => holding

theorem enqueue_holding {now : Instant} :
    Triple (Tables.Holding Q) (Service.write (enqueueTransactionEvent now tx))
      (fun _ => Tables.Holding Q) (Tables.Holding Q) := by
  apply Triple.atomically
  · intro s _ after holding done
    obtain ⟨_, enqueued, same⟩ := map_eq_ok.mp done
    obtain ⟨outbox, event⟩ := enqueueTransactionEvent_isOk now tx s
    rw [event] at enqueued
    obtain rfl := Except.ok.inj enqueued
    obtain rfl := (Prod.mk.inj same).2
    exact ⟨holding.positive, holding.books⟩
  · exact fun s holding => holding

theorem submitted_amount (answer : PartnerAnswer) (tx : TransactionEntity) :
    (submitted answer tx).amount = tx.amount := by
  unfold submitted
  split
  · simp only
    split <;> rfl
  · rfl

theorem anchored_amount (env : Env) (clock : Clock) (answer : ChainAnswer)
    (tx : TransactionEntity) : (anchored env clock answer tx).amount = tx.amount := by
  cases answer with
  | error message => rfl
  | ok response =>
    simp only [anchored, applyChainResult, reconcileBusinessStatusAfterChainUpdate]
    split_ifs <;> rfl

theorem submit_holding {answer : PartnerAnswer} (amount : 0 < tx.amount) :
    Triple (Tables.Holding Q) (submitOutsideTransfer answer tx)
      (fun saved s => 0 < saved.amount ∧ s.Holding Q) (Tables.Holding Q) := by
  apply Triple.ite
  · intro _
    have kept : 0 < (submitted answer tx).amount := by
      rw [submitted_amount]
      exact amount
    apply (save_holding kept).conseq (fun _ holds => holds) _ (fun _ holds => holds)
    rintro saved s ⟨rfl, holding⟩
    exact ⟨kept, holding⟩
  · exact fun _ => Triple.fail fun _ holding => holding

theorem anchor_holding (amount : 0 < tx.amount) :
    Triple (Tables.Holding Q) (anchorToChain env answers.clock answers.chain tx)
      (fun _ => Tables.Holding Q) (Tables.Holding Q) := by
  have kept : 0 < (anchored env answers.clock answers.chain tx).amount := by
    rw [anchored_amount]
    exact amount
  exact (save_holding kept).conseq (fun _ holds => holds) (fun _ _ holds => holds.2)
    fun _ holds => holds

theorem createTopupIntent_agreeing (env : Env) (answers : Answers)
    (request : CreateTopupIntentRequest) :
    Triple (fun s => s.Agreeing ∧ s.books.Small) (createTopupIntent env answers request)
      (fun _ => Tables.Agreeing) Tables.Agreeing := by
  apply Triple.bind (Triple.ofExcept (fun _ _ holds _ => holds) fun _ holds => holds.1)
  intro req
  apply Triple.bind (Triple.query (fun _ _ holds _ => holds) fun _ holds => holds.1)
  intro fundingSource
  apply Triple.bind (Triple.query (fun _ _ holds _ => holds) fun _ holds => holds.1)
  intro existing
  cases existing with
  | some existing =>
    apply Triple.bind (Triple.query (fun _ _ holds _ => holds.1) fun _ holds => holds.1)
    exact fun wallet => Triple.pure fun _ holds => holds
  | none =>
    apply Triple.bind (Triple.atomically (fun s persisted after holds done =>
      (persistTopupIntent_agreeing holds.1 holds.2 done).symm) fun _ holds => holds.1)
    intro persisted
    apply Triple.assume
    intro amount
    apply (submit_holding amount).bind
    intro tx
    apply Triple.assume
    intro amount
    apply Triple.ite
    · intro _
      apply (anchor_holding amount).bind
      intro tx
      exact enqueue_holding.bind fun _ => Triple.pure fun _ holds => holds
    · intro _
      apply enqueue_holding.bind
      exact fun _ => Triple.pure fun _ holds => holds

-- From here on the withdrawal carries balanced books: the rollback is its only credit.
theorem rollback_agreeing {reasonCode : String} (amount : 0 < tx.amount) :
    Triple (Tables.Holding Books.Balanced) (Service.write (rollbackWithdrawalDebit tx reasonCode))
      (fun _ => Tables.Agreeing) (Tables.Holding Books.Balanced) := by
  apply Triple.atomically
  · intro s _ after holding done
    obtain ⟨_, rolledBack, same⟩ := map_eq_ok.mp done
    obtain rfl := (Prod.mk.inj same).2
    exact rollbackWithdrawalDebit_agreeing holding amount rolledBack
  · exact fun s holding => holding

theorem createWithdrawalRequest_agreeing (env : Env) (answers : Answers)
    (request : CreateWithdrawalRequest) :
    Triple (fun s => s.Holding Books.Balanced ∧ s.books.Small)
      (createWithdrawalRequest env answers request) (fun _ => Tables.Agreeing) Tables.Agreeing := by
  have weaken : ∀ s : Tables, s.Holding Books.Balanced ∧ s.books.Small → s.Agreeing :=
    fun s holds => agreeing_of_balanced holds.1
  apply Triple.bind (Triple.ofExcept (fun _ _ holds _ => holds) weaken)
  intro req
  apply Triple.bind (Triple.query (fun _ _ holds _ => holds) weaken)
  intro fundingSource
  apply Triple.bind (Triple.query (fun _ _ holds _ => holds) weaken)
  intro existing
  cases existing with
  | some existing =>
    apply Triple.bind (Triple.query (fun _ _ holds _ => holds) weaken)
    exact fun wallet => Triple.pure weaken
  | none =>
    apply Triple.bind (Triple.atomically (fun s persisted after holds done =>
      (persistWithdrawalRequest_balanced holds.1.positive holds.2 holds.1.books done).symm) weaken)
    intro persisted
    apply Triple.assume
    intro amount
    have keep : ∀ s : Tables, s.Holding Books.Balanced → s.Agreeing :=
      fun _ => agreeing_of_balanced
    apply Triple.ite
    · intro _
      apply ((rollback_agreeing amount).conseq (fun _ holds => holds) (fun _ _ holds => holds)
        keep).bind
      intro _
      have failed : 0 < (simulatedFailure persisted.transaction).amount := amount
      apply (save_holding failed).bind
      intro tx
      apply Triple.assume
      rintro rfl
      apply (anchor_holding failed).bind
      intro tx
      exact enqueue_holding.bind fun _ => Triple.pure fun _ holds => holds
    · intro _
      apply ((submit_holding amount).conseq (fun _ holds => holds) (fun _ _ holds => holds)
        keep).bind
      intro tx
      apply Triple.assume
      intro amount
      apply Triple.ite
      · intro _
        apply ((rollback_agreeing amount).conseq (fun _ holds => holds) (fun _ _ holds => holds)
          keep).bind
        intro _
        apply (anchor_holding amount).bind
        intro tx
        exact enqueue_holding.bind fun _ => Triple.pure fun _ holds => holds
      · intro _
        apply (enqueue_holding.conseq (fun _ holds => holds) (fun _ _ => keep _) keep).bind
        exact fun _ => Triple.pure fun _ holds => holds

theorem createTransfer_agreeing (env : Env) (answers : Answers) (request : CreateTransferRequest)
    (sender : Uuid.Canonical (Text.trim request.fromUserId))
    (receiver : Uuid.Canonical (Text.trim request.toUserId)) :
    Triple (fun s => s.Holding Books.Balanced ∧ s.books.Small)
      (createTransfer env answers request) (fun _ => Tables.Agreeing) Tables.Agreeing := by
  have weaken : ∀ s : Tables, s.Holding Books.Balanced ∧ s.books.Small → s.Agreeing :=
    fun s holds => agreeing_of_balanced holds.1
  have users : Triple (fun s : Tables => s.Holding Books.Balanced ∧ s.books.Small)
      (ofExcept (validateCreateTransfer env request))
      (fun req s => (req.fromUserId = Text.trim request.fromUserId ∧
        req.toUserId = Text.trim request.toUserId) ∧ s.Holding Books.Balanced ∧ s.books.Small)
      Tables.Agreeing :=
    Triple.ofExcept (fun s req holds valid => ⟨validateCreateTransfer_users valid, holds⟩) weaken
  apply users.bind
  intro req
  apply Triple.assume
  rintro ⟨sameSender, sameReceiver⟩
  rw [← sameSender] at sender
  rw [← sameReceiver] at receiver
  apply Triple.bind (Triple.query (fun _ _ holds _ => holds) weaken)
  intro existing
  cases existing with
  | some existing =>
    apply Triple.bind (Triple.query (fun _ _ holds _ => holds) weaken)
    intro _
    apply Triple.bind (Triple.query (fun _ _ holds _ => holds) weaken)
    exact fun _ => Triple.pure weaken
  | none =>
    apply Triple.bind (Triple.atomically (fun s persisted after holds done =>
      (persistTransfer_agreeing holds.1.positive holds.2 holds.1.books sender receiver done).symm)
      weaken)
    intro persisted
    apply Triple.assume
    intro amount
    have finish : ∀ tx : TransactionEntity, 0 < tx.amount →
        Triple Tables.Agreeing (do
          let tx ← if tx.isExternal = false ∧ tx.status ≠ .failed then
              save (released answers.releasedAt tx)
            else pure tx
          Service.write (enqueueTransactionEvent answers.enqueuedAt tx)
          pure (mapTransferResponse tx persisted.senderBalance persisted.receiverBalance))
        (fun _ => Tables.Agreeing) Tables.Agreeing := by
      intro tx amount
      apply Triple.ite
      · intro _
        have kept : 0 < (released answers.releasedAt tx).amount := amount
        apply (save_holding kept).bind
        intro tx
        apply Triple.assume
        intro _
        exact enqueue_holding.bind fun _ => Triple.pure fun _ holds => holds
      · intro _
        exact enqueue_holding.bind fun _ => Triple.pure fun _ holds => holds
    apply Triple.ite
    · intro _
      apply (submit_holding amount).bind
      intro tx
      exact Triple.assume fun amount => finish tx amount
    · exact fun _ => finish persisted.transaction amount

theorem createWallet_holding (env : Env) (now : Instant) (userId currencyRaw : String) :
    Triple (Tables.Holding Books.Balanced) (createWallet env now userId currencyRaw)
      (fun _ => Tables.Holding Books.Balanced) (Tables.Holding Books.Balanced) := by
  apply Triple.bind (Triple.ofExcept (fun _ _ holds _ => holds) fun _ holds => holds)
  intro currency
  apply Triple.bind (Triple.ofExcept (fun _ _ holds _ => holds) fun _ holds => holds)
  intro id
  apply Triple.bind (Triple.query (fun _ _ holds _ => holds) fun _ holds => holds)
  intro found
  cases found with
  | some wallet => exact Triple.pure fun _ holds => holds
  | none =>
    apply Triple.atomically _ fun _ holds => holds
    intro s wallet after holds done
    rcases insertOrFindWallet_effect done with rfl | ⟨wallets, rfl, opened⟩
    · exact holds
    · have loaded : Loaded id currency wallet s.books _ := .inr opened
      exact ⟨holds.positive, loaded.balanced holds.books⟩

end Programs

/-! ## Sequences of operations -/

-- The database gives user ids back in this form, and the accounts service hands them out in it.
def Operation.Canonical : Operation → Prop
  | .createTransfer _ request =>
    Uuid.Canonical (Text.trim request.fromUserId) ∧ Uuid.Canonical (Text.trim request.toUserId)
  | _ => True

theorem operation_agreeing (env : Env) {operation : Operation} {s : Tables}
    (canonical : operation.Canonical) (holding : s.Holding Books.Balanced)
    (small : s.books.Small) : (operation.run env s).Agreeing := by
  cases operation with
  | createWallet now userId currency =>
    exact agreeing_of_balanced
      ((createWallet_holding env now userId currency).finalState holding)
  | createTransfer answers request =>
    exact (createTransfer_agreeing env answers request canonical.1 canonical.2).finalState
      ⟨holding, small⟩
  | createTopupIntent answers request =>
    exact (createTopupIntent_agreeing env answers request).finalState
      ⟨agreeing_of_balanced holding, small⟩
  | createWithdrawalRequest answers request =>
    exact (createWithdrawalRequest_agreeing env answers request).finalState ⟨holding, small⟩
  | markSettlement now transactionId settlementStatus note =>
    have triple : Program.Triple (Tables.Holding Books.Balanced)
        (Service.transaction (markSettlement env now transactionId settlementStatus note))
        (fun _ => Tables.Agreeing) Tables.Agreeing :=
      Program.Triple.atomically (fun s found after holds done => markSettlement_agreeing holds done)
        fun s holds => agreeing_of_balanced holds
    exact triple.finalState holding
  | fundingSources sources => exact ⟨holding.positive, fun _ => holding.books⟩

-- Every table along the way is small, so every balance along the way is exact.
def SmallThroughout (env : Env) (operations : List Operation) (s : Tables) : Prop :=
  ∀ earlier, earlier <+: operations → (Operation.runAll env earlier s).books.Small

theorem initial_holding (sources : List FundingSource) :
    (Tables.initial sources).Holding Books.Balanced := by
  refine ⟨fun tx member => absurd member (Table.not_mem_empty tx), ?_, ?_, ?_⟩
  · exact fun wallet member => absurd member (Table.not_mem_empty wallet)
  · exact fun wallet member => absurd member (Table.not_mem_empty wallet)
  · exact fun entry member => absurd member (Table.not_mem_empty entry)

theorem runAll_holding {env : Env} {sources : List FundingSource} {operations : List Operation}
    (canonical : ∀ operation ∈ operations, operation.Canonical)
    (small : SmallThroughout env operations (Tables.initial sources)) :
    (Operation.runAll env operations (Tables.initial sources)).Holding Books.Balanced := by
  induction operations using List.reverseRecOn with
  | nil => exact initial_holding sources
  | append_singleton operations operation ih =>
    have shorter : operations <+: operations ++ [operation] := List.prefix_append _ _
    have earlier := ih (fun other member => canonical other (List.mem_append_left _ member))
      fun first before => small first (before.trans shorter)
    have before := small operations shorter
    have after := small (operations ++ [operation]) (List.prefix_refl _)
    rw [Operation.runAll_append] at after ⊢
    have agreeing := operation_agreeing env (canonical operation (by simp)) earlier before
    exact ⟨agreeing.positive, agreeing.books after⟩

/-! ## Reconciliation -/

def Books.sumOf (books : Books) (walletId : Nat) (direction : LedgerDirection) : Int :=
  (((books.entriesOf walletId).filter fun entry => entry.direction == direction).map
    LedgerEntry.amount).sum

theorem total_eq_credits_sub_debits (entries : List LedgerEntry) :
    ledgerJournal.total entries =
      ((entries.filter fun entry => entry.direction == .credit).map LedgerEntry.amount).sum -
        ((entries.filter fun entry => entry.direction == .debit).map LedgerEntry.amount).sum := by
  induction entries with
  | nil => rfl
  | cons entry rest ih =>
    have head : ledgerJournal.total (entry :: rest) =
        signed entry.direction entry.amount + ledgerJournal.total rest := by
      simp [Journal.total, ledgerJournal]
    rw [head, ih]
    cases direction : entry.direction with
    | debit =>
      simp [direction, signed]
      omega
    | credit =>
      simp [direction, signed]
      omega

theorem ledgerDelta_eq (s : Tables) (walletId : Nat) :
    s.ledgerDelta walletId = Number.round (ledgerJournal.total (s.books.entriesOf walletId)) := by
  have same : (fun entry : LedgerEntry => if entry.direction = .credit then entry.amount
      else -entry.amount) = ledgerJournal.delta := by
    funext entry
    cases direction : entry.direction <;> simp [ledgerJournal, direction, signed]
  simp only [Tables.ledgerDelta, same]
  rfl

theorem firstEntry_eq (s : Tables) (walletId : Nat) :
    s.firstEntry walletId = (s.books.entriesOf walletId).head? := by
  simp only [Tables.firstEntry, Table.find?, Books.entriesOf, List.head?_filter]
  rfl

theorem mem_of_walletsToReconcile {s : Tables} {limit : Int} {wallet : Wallet}
    (listed : wallet ∈ s.walletsToReconcile limit) : wallet ∈ s.wallets :=
  (List.perm_insertionSort _ _).mem_iff.mp (List.mem_of_mem_take listed)

theorem reconcileWallet_unchanged {s : Tables} (balanced : s.books.Balanced)
    (small : s.books.Small) (autoFix : Bool) (found : List ReconcileItem × Nat) {wallet : Wallet}
    (member : wallet ∈ s.wallets) : reconcileWallet autoFix found wallet s = (.ok found, s) := by
  have chains := balanced.chains wallet member
  have nonneg : 0 ≤ wallet.balance := balanced.nonneg wallet member
  have bound : wallet.balance < 2 ^ 53 := small wallet member
  have exact : Number.round wallet.balance = wallet.balance :=
    (Number.round_eq_iff _).mpr (Number.exact_of_small (by omega))
  cases first : s.firstEntry wallet.id with
  | none => simp only [reconcileWallet, Service.read, Program.query, first, bind]; rfl
  | some entry =>
    have opening : entry.balanceBefore = 0 :=
      chains.opening_eq ((firstEntry_eq s wallet.id).symm.trans first)
    have delta : s.ledgerDelta wallet.id = wallet.balance := by
      have closing := chains.closing_eq
      rw [Int.zero_add] at closing
      rw [ledgerDelta_eq, ← closing, exact]
    have expected : Number.add entry.balanceBefore (s.ledgerDelta wallet.id) = wallet.balance := by
      rw [opening, delta, Number.add, Int.zero_add, exact]
    simp only [reconcileWallet, Service.read, Program.query, first, bind, expected, if_true]
    rfl

theorem reconcileWallets_unchanged {s : Tables} (balanced : s.books.Balanced)
    (small : s.books.Small) (limit : Int) (autoFix : Bool) :
    reconcileWallets limit autoFix s =
      (.ok { scanned := (s.walletsToReconcile limit).length, mismatches := 0, fixed := 0, items := [] },
        s) := by
  have loop : ∀ wallets : List Wallet, (∀ wallet ∈ wallets, wallet ∈ s.wallets) →
      wallets.foldlM (reconcileWallet autoFix) ([], 0) s = (.ok ([], 0), s) := by
    intro wallets members
    induction wallets with
    | nil => rfl
    | cons wallet rest ih =>
      rw [List.foldlM_cons]
      simp only [bind, reconcileWallet_unchanged balanced small autoFix ([], 0)
        (members wallet (by simp))]
      exact ih fun other member => members other (by simp [member])
  simp only [reconcileWallets, Service.read, Program.query, bind,
    loop _ fun _ => mem_of_walletsToReconcile]
  rfl

structure Tables.LedgerAgrees (s : Tables) : Prop where
  nonneg : ∀ wallet ∈ s.wallets, 0 ≤ wallet.balance
  sums : ∀ wallet ∈ s.wallets,
    wallet.balance = s.books.sumOf wallet.id .credit - s.books.sumOf wallet.id .debit
  ordered : ∀ wallet ∈ s.wallets,
    (s.books.entriesOf wallet.id).Pairwise fun earlier later => earlier.id < later.id
  chains : ∀ wallet ∈ s.wallets,
    ledgerJournal.Chains 0 (s.books.entriesOf wallet.id) wallet.balance
  reconciled : ∀ limit autoFix, reconcileWallets limit autoFix s =
    (.ok { scanned := (s.walletsToReconcile limit).length, mismatches := 0, fixed := 0, items := [] },
      s)

theorem ledger_agrees (env : Env) (sources : List FundingSource) (operations : List Operation)
    (canonical : ∀ operation ∈ operations, operation.Canonical)
    (small : SmallThroughout env operations (Tables.initial sources)) :
    (Operation.runAll env operations (Tables.initial sources)).LedgerAgrees := by
  have balanced := (runAll_holding canonical small).books
  have last := small operations (List.prefix_refl _)
  exact
    { nonneg := balanced.nonneg
      sums := by
        intro wallet member
        have closing := (balanced.chains wallet member).closing_eq
        rw [Int.zero_add, total_eq_credits_sub_debits] at closing
        exact closing
      ordered := fun wallet _ => (Table.ids _).filter _
      chains := balanced.chains
      reconciled := reconcileWallets_unchanged balanced last }

def bob : String := "bbbbbbbb-0000-4000-8000-000000000002"

def aliceToBob : CreateTransferRequest where
  idempotencyKey := "transfer"
  requestingUserId := alice
  fromUserId := alice
  toUserId := bob
  amount := .number (some 40)
  currency := "VND"
  memo := ""
  otpCode := "123456"
  isExternal := false
  externalPartner := ""
  externalAccountNo := ""

def alicePaysBob : List Operation :=
  fundAlice ++ [.createTransfer accepted aliceToBob]

theorem ledger_agrees_alicePaysBob :
    (Operation.runAll sampleEnv alicePaysBob (Tables.initial [aliceSource])).LedgerAgrees := by
  apply ledger_agrees
  · intro operation member
    simp only [alicePaysBob, fundAlice, List.cons_append, List.nil_append, List.mem_cons,
      List.not_mem_nil, or_false] at member
    rcases member with rfl | rfl | rfl
    · trivial
    · trivial
    · exact ⟨⟨aliceId, by decide, by decide⟩, ⟨(Uuid.parse bob).getD ⟨[]⟩, by decide, by decide⟩⟩
  · intro earlier before
    have member := (List.mem_inits _ _).mpr before
    simp only [alicePaysBob, fundAlice, List.cons_append, List.nil_append, List.inits,
      List.map_cons, List.map_nil, List.mem_cons, List.not_mem_nil, or_false] at member
    rcases member with rfl | rfl | rfl | rfl
    all_goals
      change ∀ wallet ∈ (Tables.books _).wallets.rows, _
      decide

end Kufi.Transactions

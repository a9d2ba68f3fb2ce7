import Kufi.Transactions.Refunds

set_option autoImplicit false

/-!
# Finality of settlement outcomes

`markSettlement` has no guard against a row that already has an outcome, and
none against a row without an external leg. Calls that agree with the outcome a
row has, if it has one, leave it and the books as they are.
-/

namespace Kufi.Transactions

open Shared

def settledCredits : CreditRule where
  covers terms := terms.type ≠ .transfer
  credited type _ settlement :=
    decide (settlement = if type = .deposit then .settled else .failed)
  fresh type := by cases type <;> rfl
  withdrawals terms withdrawal := by simp [withdrawal]
  transfers terms covered transfer := absurd transfer covered
  returned := rfl
  withheld _ _ _ := rfl

-- The call names the outcome the row has, if it has one, and its credit is exact.
def MarkAgrees (outcome : SettlementOutcome) (tx : TransactionEntity) (s : Tables) : Prop :=
  tx.isExternal = true ∧
    (tx.settlementStatus = .pending ∨ tx.settlementStatus = outcome.settlementStatus) ∧
    (Credits outcome tx.type →
      Number.Exact (s.balanceOf (creditedUser tx) tx.currency + tx.amount))

instance (outcome : SettlementOutcome) (tx : TransactionEntity) (s : Tables) :
    Decidable (MarkAgrees outcome tx s) :=
  inferInstanceAs (Decidable (_ ∧ _ ∧ _))

def Operation.Agrees (env : Env) (s : Tables) : Operation → Prop
  | .createWithdrawalRequest answers request => WithdrawalRefundable env answers request s
  | .markSettlement _ transactionId settlementStatus _ => ∀ outcome tx,
    settlementOutcome? env settlementStatus = some outcome →
      s.transactions.get? transactionId = some tx → MarkAgrees outcome tx s
  | _ => True

theorem markFits_of_agrees {outcome : SettlementOutcome} {tx : TransactionEntity} {s : Tables}
    (agrees : MarkAgrees outcome tx s) (covered : settledCredits.covers tx.terms) :
    MarkFits settledCredits outcome tx := by
  have notTransfer : tx.type ≠ .transfer := covered
  obtain ⟨_, status, _⟩ := agrees
  cases outcome <;> rcases status with pending | same <;> cases type : tx.type <;>
    simp_all [MarkFits, CreditRule.of, settledCredits, Credits, SettlementOutcome.settlementStatus]

theorem fits_of_agrees {env : Env} {s : Tables} {operation : Operation}
    (agrees : operation.Agrees env s) : operation.Fits settledCredits env s := by
  cases operation with
  | createTransfer answers request =>
    exact fun _ _ _ _ _ covered transfer => absurd transfer covered
  | createWithdrawalRequest answers request => exact agrees
  | markSettlement now transactionId settlementStatus note =>
    exact fun outcome tx known held covered =>
      markFits_of_agrees (agrees outcome tx known held) covered
  | createWallet now userId currency => trivial
  | createTopupIntent answers request => trivial
  | fundingSources sources => trivial

/-! ## Calls on one transaction -/

structure SettlementCall where
  now : Instant
  status : String
  note : String

def SettlementCall.operation (id : Nat) (call : SettlementCall) : Operation :=
  .markSettlement call.now id call.status call.note

def settleAll (env : Env) (id : Nat) (calls : List SettlementCall) (s : Tables) : Tables :=
  Operation.runAll env (calls.map (SettlementCall.operation id)) s

-- A call that is refused leaves everything as it was.
theorem settle_cases (env : Env) (id : Nat) (call : SettlementCall) (s : Tables) :
    (call.operation id).run env s = s ∨
      ∃ outcome tx middle transactions outbox, settlementOutcome? env call.status = some outcome ∧
        s.transactions.get? id = some tx ∧ CreditedOnce outcome tx s middle ∧
        s.transactions.update? (marked call.now outcome call.note tx) = some transactions ∧
        (call.operation id).run env s = { middle with transactions, outbox } := by
  change Program.finalState
      (Service.transaction (markSettlement env call.now id call.status call.note)) s = s ∨ _
  cases done : markSettlement env call.now id call.status call.note s with
  | error error =>
    left
    simp [Program.finalState, Service.transaction, Program.atomically, done]
  | ok result =>
    obtain ⟨found, after⟩ := result
    have ran : (call.operation id).run env s = after := by
      change Program.finalState
        (Service.transaction (markSettlement env call.now id call.status call.note)) s = after
      simp [Program.finalState, Service.transaction, Program.atomically, done]
    obtain ⟨outcome, known, ⟨_, rfl, _⟩ | ⟨_, tx, middle, transactions, outbox, held, once, updated,
      rfl, _⟩⟩ := markSettlement_effect done
    · exact .inl ran
    · exact .inr ⟨outcome, tx, middle, transactions, outbox, known, held, once, updated, ran⟩

def Decided (tx : TransactionEntity) : Prop :=
  tx.settlementStatus = .settled ∨ tx.settlementStatus = .failed

-- The row and the books as a later call leaves them.
structure SameOutcome (id : Nat) (tx : TransactionEntity) (before after : Tables) : Prop where
  row : ∃ tx', after.transactions.get? id = some tx' ∧ tx'.status = tx.status ∧
    tx'.settlementStatus = tx.settlementStatus
  books : after.books = before.books

theorem settle_decided {env : Env} {id : Nat} {call : SettlementCall} {s : Tables}
    {tx : TransactionEntity} (consistent : Consistent settledCredits s)
    (agrees : (call.operation id).Agrees env s) (held : s.transactions.get? id = some tx)
    (decided : Decided tx) : SameOutcome id tx s ((call.operation id).run env s) := by
  rcases settle_cases env id call s with same | ⟨outcome, tx', middle, transactions, outbox, known,
    held', once, updated, ran⟩
  · rw [same]
    exact ⟨⟨tx, held, rfl, rfl⟩, rfl⟩
  · obtain rfl : tx = tx' := Option.some.inj (held.symm.trans held')
    obtain ⟨member, _⟩ := Table.get?_eq_some.mp held
    obtain ⟨_, status, _⟩ := agrees outcome tx known held
    have settlement : tx.settlementStatus = outcome.settlementStatus := by
      rcases status with pending | same
      · rcases decided with settled | failed
        · rw [settled] at pending
          cases pending
        · rw [failed] at pending
          cases pending
      · exact same
    have coherent := consistent.coherent tx member
    have sameStatus : outcome.status = tx.status := by
      cases outcome with
      | settled => exact (coherent.1 settlement).symm
      | failed => exact (coherent.2 settlement).symm
    -- The credit of this outcome is on the ledger already.
    have unchanged : middle = s := by
      rcases once with ⟨same, _⟩ | ⟨credits, missing, _⟩
      · exact same
      · have covered : settledCredits.covers tx.terms := by
          change tx.type ≠ .transfer
          rcases credits with ⟨_, deposit⟩ | ⟨_, withdrawal⟩
          · simp [deposit]
          · simp [withdrawal]
        have uncredited := (consistent.booked tx member covered).findCredit.mp missing
        rcases credits with ⟨rfl, deposit⟩ | ⟨rfl, withdrawal⟩
        · simp [CreditRule.of, settledCredits, deposit, settlement,
            SettlementOutcome.settlementStatus] at uncredited
        · simp [CreditRule.of, settledCredits, withdrawal, settlement,
            SettlementOutcome.settlementStatus] at uncredited
    subst unchanged
    rw [ran]
    have sameId : (marked call.now outcome call.note tx).id = tx.id :=
      congrArg Terms.id (marked_terms call.now outcome call.note tx)
    have own : tx.id = id := (Table.get?_eq_some.mp held).2
    refine ⟨⟨marked call.now outcome call.note tx, ?_, ?_, ?_⟩, rfl⟩
    · have own' : Row.id (marked call.now outcome call.note tx) = id := sameId.trans own
      rw [Table.get?_update? updated member sameId.symm, if_pos own']
    · rw [marked_status, sameStatus]
    · rw [marked_settlementStatus, settlement]

theorem settleAll_decided {env : Env} {id : Nat} {calls : List SettlementCall} {s : Tables}
    {tx : TransactionEntity} (consistent : Consistent settledCredits s)
    (run : Operation.AllowedRun env (Operation.Agrees env)
      (calls.map (SettlementCall.operation id)) s)
    (held : s.transactions.get? id = some tx) (decided : Decided tx) :
    SameOutcome id tx s (settleAll env id calls s) := by
  induction calls generalizing s tx with
  | nil => exact ⟨⟨tx, held, rfl, rfl⟩, rfl⟩
  | cons call rest ih =>
    obtain ⟨first, later⟩ := run
    obtain ⟨⟨tx', held', status, settlement⟩, books⟩ :=
      settle_decided consistent first held decided
    have consistent' := operation_consistent env s _ consistent (fits_of_agrees first)
    have decided' : Decided tx' := by rwa [Decided, settlement]
    obtain ⟨⟨last, lastHeld, lastStatus, lastSettlement⟩, lastBooks⟩ :=
      ih consistent' later held' decided'
    exact ⟨⟨last, lastHeld, lastStatus.trans status, lastSettlement.trans settlement⟩,
      lastBooks.trans books⟩

/-! ## The ledger after the calls -/

-- The deposit stands on the ledger once, as a credit of the wallet it was for.
def DepositCredited (s : Tables) (tx : TransactionEntity) : Prop :=
  ∃ wallet, s.findWallet (creditedUser tx) tx.currency = some wallet ∧
    s.books.postings tx.id = [⟨some wallet.id, .credit, tx.amount⟩]

theorem deposit_credited {s : Tables} {tx : TransactionEntity}
    (consistent : Consistent settledCredits s) (held : tx ∈ s.transactions)
    (deposit : tx.type = .deposit) :
    (DepositCredited s tx ↔ tx.settlementStatus = .settled) ∧
      (s.books.postings tx.id = [] ↔ tx.settlementStatus ≠ .settled) := by
  have covered : settledCredits.covers tx.terms := by
    change tx.type ≠ .transfer
    simp [deposit]
  obtain ⟨walletId, found, postings⟩ := consistent.booked tx held covered
  have type : tx.terms.type = .deposit := deposit
  have own : tx.terms.id = tx.id := rfl
  rw [own, if_pos type, List.nil_append] at postings
  by_cases settled : tx.settlementStatus = .settled
  · have credited : settledCredits.of tx = true := by
      simp [CreditRule.of, settledCredits, deposit, settled]
    obtain ⟨wallet, key, rfl⟩ := found (.inr credited)
    rw [credited, if_pos rfl] at postings
    refine ⟨iff_of_true ⟨wallet, key, postings⟩ settled, ?_⟩
    simp [postings, settled]
  · have uncredited : settledCredits.of tx = false := by
      simp [CreditRule.of, settledCredits, deposit, settled]
    simp only [uncredited, Bool.false_eq_true, if_false] at postings
    refine ⟨iff_of_false ?_ settled, iff_of_true postings settled⟩
    rintro ⟨wallet, _, posted⟩
    rw [postings] at posted
    cases posted

def Withdraws (s : Tables) (tx : TransactionEntity) (effect : Int) : Prop :=
  ∃ wallet, s.findWallet tx.fromUserId tx.currency = some wallet ∧
    s.books.netEffect tx.id wallet.id = effect

theorem withdrawal_net {s : Tables} {tx : TransactionEntity}
    (consistent : Consistent settledCredits s) (held : tx ∈ s.transactions)
    (withdrawal : tx.type = .withdrawal) :
    (Withdraws s tx (-tx.amount) ↔ tx.settlementStatus ≠ .failed) ∧
      (Withdraws s tx 0 ↔ tx.settlementStatus = .failed) := by
  have covered : settledCredits.covers tx.terms := by
    change tx.type ≠ .transfer
    simp [withdrawal]
  have notDeposit : tx.terms.type ≠ .deposit := by
    change tx.type ≠ .deposit
    simp [withdrawal]
  obtain ⟨wallet, found, net⟩ := (consistent.booked tx held covered).netEffect notDeposit
  have positive : 0 < tx.amount := consistent.positive tx held
  have key : s.findWallet tx.fromUserId tx.currency = some wallet := found
  have effect (value : Int) : Withdraws s tx value ↔ s.books.netEffect tx.id wallet.id = value := by
    simp [Withdraws, key]
  have credited : settledCredits.of tx = decide (tx.settlementStatus = .failed) := by
    simp [CreditRule.of, settledCredits, withdrawal]
  have ledger : s.books.netEffect tx.id wallet.id =
      if tx.settlementStatus = .failed then 0 else -tx.amount := by
    change s.books.netEffect tx.id wallet.id = if settledCredits.of tx then 0 else -tx.amount at net
    simpa [credited] using net
  rw [effect, effect, ledger]
  by_cases failed : tx.settlementStatus = .failed
  · rw [if_pos failed]
    constructor
    · exact iff_of_false (by omega) (not_not_intro failed)
    · exact iff_of_true rfl failed
  · rw [if_neg failed]
    constructor
    · exact iff_of_true rfl failed
    · exact iff_of_false (by omega) failed

-- What one call may do to the wallets.
def CreditsExactly (tx : TransactionEntity) (before after : Tables) : Prop :=
  after.books = before.books ∨
    after.balanceOf (creditedUser tx) tx.currency =
      before.balanceOf (creditedUser tx) tx.currency + tx.amount

theorem CreditedOnce.exactly {outcome : SettlementOutcome} {tx : TransactionEntity}
    {s after : Tables} (once : CreditedOnce outcome tx s after)
    (exact : Credits outcome tx.type →
      Number.Exact (s.balanceOf (creditedUser tx) tx.currency + tx.amount)) :
    CreditsExactly tx s after := by
  rcases once with ⟨rfl, _⟩ | ⟨credits, _, wallets, ledger, wallet, opened, rfl, loaded, posted⟩
  · exact .inl rfl
  · right
    have start : s.balanceOf (creditedUser tx) tx.currency = wallet.balance := loaded.balance
    have found := posted.byKey (creditedUser tx, tx.currency)
    rw [if_pos loaded.key] at found
    have ended : ({ s with wallets, ledger } : Tables).findWallet (creditedUser tx) tx.currency =
        some (moved .credit tx.amount wallet) := found
    rw [Tables.balanceOf, ended, start]
    have fits : Number.Exact (wallet.balance + signed .credit tx.amount) := by
      rw [signed, ← start]
      exact exact credits
    exact moved_balance fits

/-! ## Settlement finality -/

structure SettlementHolds (env : Env) (id : Nat) (calls : List SettlementCall) (s : Tables) :
    Prop where
  final : ∀ earlier later tx, calls = earlier ++ later →
    (settleAll env id earlier s).transactions.get? id = some tx → Decided tx →
    SameOutcome id tx (settleAll env id earlier s) (settleAll env id calls s)
  exactly : ∀ earlier call later tx, calls = earlier ++ call :: later →
    (settleAll env id earlier s).transactions.get? id = some tx →
    CreditsExactly tx (settleAll env id earlier s) (settleAll env id (earlier ++ [call]) s)
  deposit : ∀ tx, (settleAll env id calls s).transactions.get? id = some tx →
    tx.type = .deposit → Decided tx →
    (DepositCredited (settleAll env id calls s) tx ↔ tx.settlementStatus = .settled) ∧
      ((settleAll env id calls s).books.postings tx.id = [] ↔ tx.settlementStatus = .failed)
  withdrawal : ∀ tx, (settleAll env id calls s).transactions.get? id = some tx →
    tx.type = .withdrawal → Decided tx →
    (Withdraws (settleAll env id calls s) tx (-tx.amount) ↔ tx.settlementStatus = .settled) ∧
      (Withdraws (settleAll env id calls s) tx 0 ↔ tx.settlementStatus = .failed)
  noExternalLeg : ∀ tx, s.transactions.get? id = some tx → tx.isExternal = false →
    settleAll env id calls s = s

theorem Decided.ne_failed {tx : TransactionEntity} (decided : Decided tx) :
    tx.settlementStatus ≠ .failed ↔ tx.settlementStatus = .settled := by
  rcases decided with status | status <;> simp [status]

theorem Decided.ne_settled {tx : TransactionEntity} (decided : Decided tx) :
    tx.settlementStatus ≠ .settled ↔ tx.settlementStatus = .failed := by
  rcases decided with status | status <;> simp [status]

theorem settleAll_append (env : Env) (id : Nat) (earlier later : List SettlementCall)
    (s : Tables) :
    settleAll env id (earlier ++ later) s = settleAll env id later (settleAll env id earlier s) := by
  rw [settleAll, List.map_append, Operation.runAll_append]
  rfl

theorem settle_exactly {env : Env} {id : Nat} {call : SettlementCall} {s : Tables}
    {tx : TransactionEntity} (agrees : (call.operation id).Agrees env s)
    (held : s.transactions.get? id = some tx) :
    CreditsExactly tx s ((call.operation id).run env s) := by
  rcases settle_cases env id call s with same | ⟨outcome, tx', middle, transactions, outbox, known,
    held', once, _, ran⟩
  · rw [same]
    exact .inl rfl
  · obtain rfl : tx = tx' := Option.some.inj (held.symm.trans held')
    rw [ran]
    exact once.exactly (agrees outcome tx known held).2.2

theorem settle_internal {env : Env} {id : Nat} {call : SettlementCall} {s : Tables}
    {tx : TransactionEntity} (agrees : (call.operation id).Agrees env s)
    (held : s.transactions.get? id = some tx) (internal : tx.isExternal = false) :
    (call.operation id).run env s = s := by
  rcases settle_cases env id call s with same | ⟨outcome, tx', _, _, _, known, held', _⟩
  · exact same
  · obtain rfl : tx = tx' := Option.some.inj (held.symm.trans held')
    have external := (agrees outcome tx known held).1
    rw [internal] at external
    cases external

theorem settleAll_internal {env : Env} {id : Nat} {calls : List SettlementCall} {s : Tables}
    {tx : TransactionEntity}
    (run : Operation.AllowedRun env (Operation.Agrees env)
      (calls.map (SettlementCall.operation id)) s)
    (held : s.transactions.get? id = some tx) (internal : tx.isExternal = false) :
    settleAll env id calls s = s := by
  induction calls with
  | nil => rfl
  | cons call rest ih =>
    obtain ⟨first, later⟩ := run
    have same := settle_internal first held internal
    change settleAll env id rest ((call.operation id).run env s) = s
    rw [same] at later ⊢
    exact ih later

theorem settleAll_consistent {env : Env} {id : Nat} {calls : List SettlementCall} {s : Tables}
    (consistent : Consistent settledCredits s)
    (run : Operation.AllowedRun env (Operation.Agrees env)
      (calls.map (SettlementCall.operation id)) s) :
    Consistent settledCredits (settleAll env id calls s) :=
  run.invariant (Consistent settledCredits)
    (fun s operation holds agrees =>
      operation_consistent env s operation holds (fits_of_agrees agrees)) consistent

theorem settlement_final (env : Env) (sources : List FundingSource)
    (operations : List Operation) (id : Nat) (calls : List SettlementCall)
    (run : Operation.AllowedRun env (Operation.Agrees env)
      (operations ++ calls.map (SettlementCall.operation id)) (Tables.initial sources)) :
    SettlementHolds env id calls (Operation.runAll env operations (Tables.initial sources)) := by
  obtain ⟨creations, settlements⟩ := run.append
  have reached : Consistent settledCredits _ :=
    runAll_consistent (creations.mono fun _ _ => fits_of_agrees)
  have ended := settleAll_consistent reached settlements
  exact
    { final := by
        intro earlier later tx split held decided
        subst split
        rw [List.map_append] at settlements
        obtain ⟨before, after⟩ := settlements.append
        rw [settleAll_append]
        exact settleAll_decided (settleAll_consistent reached before) after held decided
      exactly := by
        intro earlier call later tx split held
        subst split
        rw [List.map_append] at settlements
        rw [settleAll_append]
        exact settle_exactly settlements.append.2.1 held
      deposit := by
        intro tx held deposit decided
        obtain ⟨credited, uncredited⟩ :=
          deposit_credited ended (Table.get?_eq_some.mp held).1 deposit
        exact ⟨credited, uncredited.trans decided.ne_settled⟩
      withdrawal := by
        intro tx held withdrawal decided
        obtain ⟨kept, returned⟩ := withdrawal_net ended (Table.get?_eq_some.mp held).1 withdrawal
        exact ⟨kept.trans decided.ne_failed, returned⟩
      noExternalLeg := fun tx held internal => settleAll_internal settlements held internal }

def alicePaidOut : List Operation :=
  fundAlice ++ [.createWithdrawalRequest accepted aliceWithdrawal]

def failedMark : SettlementCall := { now := 2, status := "FAILED", note := "" }

def settledMark : SettlementCall := { now := 3, status := "SETTLED", note := "" }

-- The withdrawal of 30 is refunded; the later SETTLED completes it all the same.
theorem failed_withdrawal_settled :
    ¬ SettlementHolds sampleEnv 1 [failedMark, settledMark]
      (Operation.runAll sampleEnv alicePaidOut (Tables.initial [aliceSource])) := by
  intro holds
  have failed : ∃ tx ∈ (settleAll sampleEnv 1 [failedMark]
      (Operation.runAll sampleEnv alicePaidOut
        (Tables.initial [aliceSource]))).transactions.get? 1,
      tx.settlementStatus = .failed := by decide
  have settled : ∀ tx ∈ (settleAll sampleEnv 1 [failedMark, settledMark]
      (Operation.runAll sampleEnv alicePaidOut
        (Tables.initial [aliceSource]))).transactions.get? 1,
      tx.settlementStatus = .settled := by decide
  obtain ⟨tx, held, status⟩ := failed
  obtain ⟨⟨tx', held', _, same⟩, _⟩ :=
    holds.final [failedMark] [settledMark] tx rfl held (.inr status)
  rw [settled tx' held', status] at same
  cases same

theorem mark_agrees {id : Nat} {call : SettlementCall} (outcome : SettlementOutcome) {s : Tables}
    (known : settlementOutcome? sampleEnv call.status = some outcome)
    (agrees : ∀ tx ∈ s.transactions.get? id, MarkAgrees outcome tx s) :
    (call.operation id).Agrees sampleEnv s := by
  intro outcome' tx known' held
  obtain rfl : outcome = outcome' := Option.some.inj (known.symm.trans known')
  exact agrees tx held

theorem aliceWithdrawal_accepted (s : Tables) :
    WithdrawalRefundable sampleEnv accepted aliceWithdrawal s :=
  fun _ _ _ _ _ rejects => absurd ⟨_, rfl, rfl⟩ rejects

theorem settlement_final_failedTwice :
    SettlementHolds sampleEnv 1 [failedMark, failedMark]
      (Operation.runAll sampleEnv alicePaidOut (Tables.initial [aliceSource])) := by
  apply settlement_final
  have topup : (SettlementCall.operation 0 ⟨1, "SETTLED", ""⟩).Agrees sampleEnv
      ((Operation.createTopupIntent accepted aliceTopup).run sampleEnv
        (Tables.initial [aliceSource])) := mark_agrees .settled (by decide) (by decide)
  have first : (failedMark.operation 1).Agrees sampleEnv
      (Operation.runAll sampleEnv alicePaidOut (Tables.initial [aliceSource])) :=
    mark_agrees .failed (by decide) (by decide)
  have second : (failedMark.operation 1).Agrees sampleEnv
      (settleAll sampleEnv 1 [failedMark]
        (Operation.runAll sampleEnv alicePaidOut (Tables.initial [aliceSource]))) :=
    mark_agrees .failed (by decide) (by decide)
  exact ⟨trivial, topup, aliceWithdrawal_accepted _, first, second, trivial⟩

end Kufi.Transactions

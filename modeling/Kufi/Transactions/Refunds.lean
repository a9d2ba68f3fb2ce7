import Kufi.Transactions.CreditRuns

set_option autoImplicit false

/-!
# Refunds of failed external debits

A withdrawal that fails returns its debit. A transfer to an external account
does not: neither a refusal at creation nor a FAILED settlement refunds it. A
SETTLED mark on a failed withdrawal completes it though its debit was returned.
-/

namespace Kufi.Transactions

open Shared

def DebitsExternally (tx : TransactionEntity) : Prop :=
  tx.type = .withdrawal ∨ (tx.type = .transfer ∧ tx.isExternal = true)

instance (tx : TransactionEntity) : Decidable (DebitsExternally tx) :=
  inferInstanceAs (Decidable (_ ∨ _))

-- The ledger returns the amount of a failed transaction and keeps the debit of any other.
def ReturnsDebit (s : Tables) (tx : TransactionEntity) : Prop :=
  match s.findWallet tx.fromUserId tx.currency with
  | some wallet =>
    s.books.netEffect tx.id wallet.id = if tx.status = .failed then 0 else -tx.amount
  | none => False

instance (s : Tables) (tx : TransactionEntity) : Decidable (ReturnsDebit s tx) := by
  unfold ReturnsDebit
  split <;> infer_instance

def returnedDebits : CreditRule where
  covers terms := terms.type = .withdrawal ∨ (terms.type = .transfer ∧ terms.isExternal = true)
  credited _ status _ := decide (status = .failed)
  fresh _ := rfl
  withdrawals _ withdrawal := .inl withdrawal
  transfers terms covered transfer := by
    rcases covered with withdrawal | ⟨_, external⟩
    · rw [transfer] at withdrawal
      cases withdrawal
    · exact external
  returned := rfl
  withheld terms covered deposit := by
    rcases covered with withdrawal | ⟨transfer, _⟩
    · rw [deposit] at withdrawal
      cases withdrawal
    · rw [deposit] at transfer
      cases transfer

def Operation.KeepsDebits (env : Env) (s : Tables) : Operation → Prop
  | .createTransfer answers request => ∀ req, validateCreateTransfer env request = .ok req →
    req.isExternal = true → s.findByIdempotencyKey req.idempotencyKey = none →
    Accepts answers.partner
  | .createWithdrawalRequest answers request => WithdrawalRefundable env answers request s
  | .markSettlement _ transactionId settlementStatus _ => ∀ outcome tx,
    settlementOutcome? env settlementStatus = some outcome →
      s.transactions.get? transactionId = some tx → DebitsExternally tx →
      match outcome with
      | .settled => tx.status ≠ .failed
      | .failed => tx.type = .withdrawal
  | _ => True

theorem fits_of_keepsDebits {env : Env} {s : Tables} {operation : Operation}
    (keeps : operation.KeepsDebits env s) : operation.Fits returnedDebits env s := by
  cases operation with
  | createTransfer answers request =>
    exact fun req _ valid external new _ _ => keeps req valid external new
  | createWithdrawalRequest answers request => exact keeps
  | markSettlement now transactionId settlementStatus note =>
    intro outcome tx known held covered
    have allowed := keeps outcome tx known held covered
    cases outcome with
    | settled =>
      have kept : tx.status ≠ .failed := allowed
      rcases covered with withdrawal | ⟨transfer, _⟩
      · have type : tx.type = .withdrawal := withdrawal
        simp [MarkFits, CreditRule.of, returnedDebits, SettlementOutcome.status, kept, Credits, type]
      · have type : tx.type = .transfer := transfer
        simp [MarkFits, CreditRule.of, returnedDebits, SettlementOutcome.status, kept, Credits, type]
    | failed =>
      have withdrawal : tx.type = .withdrawal := allowed
      simp [MarkFits, returnedDebits, SettlementOutcome.status, Credits, withdrawal]
  | createWallet now userId currency => trivial
  | createTopupIntent answers request => trivial
  | fundingSources sources => trivial

theorem failed_debits_returned (env : Env) (sources : List FundingSource)
    (operations : List Operation)
    (run : Operation.AllowedRun env (Operation.KeepsDebits env) operations
      (Tables.initial sources)) :
    ∀ tx ∈ (Operation.runAll env operations (Tables.initial sources)).transactions,
      DebitsExternally tx →
        ReturnsDebit (Operation.runAll env operations (Tables.initial sources)) tx := by
  intro tx member debits
  have consistent : Consistent returnedDebits _ :=
    runAll_consistent (run.mono fun _ _ => fits_of_keepsDebits)
  have notDeposit : tx.terms.type ≠ .deposit := by
    change tx.type ≠ .deposit
    rcases debits with withdrawal | ⟨transfer, _⟩
    · simp [withdrawal]
    · simp [transfer]
  obtain ⟨wallet, found, net⟩ := (consistent.booked tx member debits).netEffect notDeposit
  have held : Tables.findWallet _ tx.fromUserId tx.currency = some wallet := found
  simp only [ReturnsDebit, held]
  by_cases failed : tx.status = .failed
  · have credited : returnedDebits.of tx = true := decide_eq_true failed
    rw [credited, if_pos rfl] at net
    rw [if_pos failed]
    exact net
  · have uncredited : returnedDebits.of tx = false := decide_eq_false failed
    rw [uncredited] at net
    rw [if_neg failed]
    exact net

def aliceToBank : CreateTransferRequest where
  idempotencyKey := "external"
  requestingUserId := alice
  fromUserId := alice
  toUserId := "00000000-0000-0000-0000-000000000002"
  amount := .number (some 40)
  currency := "VND"
  memo := ""
  otpCode := "123456"
  isExternal := true
  externalPartner := "BANK"
  externalAccountNo := "12345678"

-- The partner refuses the transfer, its row is FAILED, and the 40 are gone.
theorem refused_transfer_keeps_debit :
    ¬ ∀ tx ∈ (Operation.runAll sampleEnv (fundAlice ++ [.createTransfer refused aliceToBank])
        (Tables.initial [aliceSource])).transactions.rows,
      DebitsExternally tx → ReturnsDebit
        (Operation.runAll sampleEnv (fundAlice ++ [.createTransfer refused aliceToBank])
          (Tables.initial [aliceSource])) tx := by
  decide

def aliceWithdrawal : CreateWithdrawalRequest where
  idempotencyKey := "withdrawal"
  userId := alice
  fundingSourceId := bankAccount
  amount := .number (some 30)
  currency := "VND"
  memo := ""
  simulateFailure := false

def refusedWithdrawal : List Operation :=
  fundAlice ++ [.createWithdrawalRequest refused aliceWithdrawal]

theorem topup_mark_keepsDebits :
    (Operation.markSettlement 1 0 "SETTLED" "").KeepsDebits sampleEnv
      ((Operation.createTopupIntent accepted aliceTopup).run sampleEnv
        (Tables.initial [aliceSource])) := by
  intro outcome tx _ held debits
  have deposit : (((Operation.createTopupIntent accepted aliceTopup).run sampleEnv
      (Tables.initial [aliceSource])).transactions.get? 0).map TransactionEntity.type =
        some .deposit := by decide
  rw [held] at deposit
  have type : tx.type = .deposit := Option.some.inj deposit
  simp [DebitsExternally, type] at debits

theorem aliceWithdrawal_refundable :
    WithdrawalRefundable sampleEnv refused aliceWithdrawal fundedTables := by
  intro req userId wallet valid _ _ parsed found
  have fields : (validateCreateWithdrawalRequest sampleEnv aliceWithdrawal).toOption.map
      (fun req => (req.amount, req.userId, req.currency)) = some (30, alice, "VND") := by decide
  rw [valid] at fields
  obtain ⟨amount, user, currency⟩ : req.amount = 30 ∧ req.userId = alice ∧ req.currency = "VND" := by
    simpa [Except.toOption] using fields
  have fits : ∀ wallet ∈ fundedTables.wallets.rows,
      (credited 30 (debited 30 wallet)).columnsFit = true := by decide
  rw [amount]
  exact fits wallet (mem_of_findWallet found).1

-- The partner refuses the withdrawal, and its debit is returned.
theorem failed_debits_returned_refusedWithdrawal :
    ∃ tx ∈ (Operation.runAll sampleEnv refusedWithdrawal
        (Tables.initial [aliceSource])).transactions,
      tx.status = .failed ∧
        ReturnsDebit (Operation.runAll sampleEnv refusedWithdrawal
          (Tables.initial [aliceSource])) tx := by
  have stored : ((Operation.runAll sampleEnv refusedWithdrawal
      (Tables.initial [aliceSource])).findByIdempotencyKey "withdrawal").map
        (fun tx => (tx.status, tx.type)) = some (.failed, .withdrawal) := by decide
  obtain ⟨tx, found, facts⟩ := Option.map_eq_some_iff.mp stored
  obtain ⟨status, type⟩ := Prod.mk.inj facts
  have member := (Table.byKey_eq_some.mp found).1
  refine ⟨tx, member, status, ?_⟩
  apply failed_debits_returned
  · exact ⟨trivial, topup_mark_keepsDebits, aliceWithdrawal_refundable, trivial⟩
  · exact member
  · exact .inl type

end Kufi.Transactions

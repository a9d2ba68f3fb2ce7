import Kufi.Shared.Interleaving
import Kufi.Transactions.LedgerAgreement

set_option autoImplicit false

/-!
# Reconciliation beside other commits

`reconcileWallets` read by read and write by write, while transfers,
withdrawals, reversals and deposit credits are committed. A save overwrites
whatever was committed since the ledger was read.
-/

namespace Kufi.Transactions

open Shared

/-! ## The job -/

/-- How far the loop over the wallets has come. -/
structure Scan where
  autoFix : Bool
  scanned : Nat
  items : List ReconcileItem
  fixed : Nat
  rest : List Wallet
  deriving DecidableEq

inductive ReconcileJob where
  | start (limit : Int) (autoFix : Bool)
  | next (scan : Scan) (wallet : Wallet)
  | sum (scan : Scan) (wallet : Wallet) (openingBalance : Int)
  | save (scan : Scan) (wallet : Wallet) (expectedBalance : Int)
  | finished (result : Except ServiceError ReconcileResult)
  deriving DecidableEq

def Scan.proceed (scan : Scan) : ReconcileJob :=
  match scan.rest with
  | [] =>
    .finished (.ok
      { scanned := scan.scanned
        mismatches := scan.items.length
        fixed := scan.fixed
        items := scan.items })
  | wallet :: rest => .next { scan with rest } wallet

def Scan.found (scan : Scan) (wallet : Wallet)
    (expectedBalance openingBalance ledgerDelta : Int) : Scan :=
  { scan with
    items := scan.items ++
      [{ walletId := wallet.id
         userId := wallet.userId
         currency := wallet.currency
         currentBalance := wallet.balance
         expectedBalance, openingBalance, ledgerDelta }] }

/-- One query of the job. -/
def ReconcileJob.step (s : Tables) : ReconcileJob → Option (Tables × ReconcileJob)
  | .start limit autoFix =>
    let wallets := s.walletsToReconcile limit
    some (s, Scan.proceed ⟨autoFix, wallets.length, [], 0, wallets⟩)
  | .next scan wallet =>
    match s.firstEntry wallet.id with
    | none => some (s, scan.proceed)
    | some firstEntry => some (s, .sum scan wallet firstEntry.balanceBefore)
  | .sum scan wallet openingBalance =>
    let ledgerDelta := s.ledgerDelta wallet.id
    let expectedBalance := Number.add openingBalance ledgerDelta
    if expectedBalance = wallet.balance then some (s, scan.proceed)
    else
      let scan := scan.found wallet expectedBalance openingBalance ledgerDelta
      if scan.autoFix then some (s, .save scan wallet expectedBalance) else some (s, scan.proceed)
  | .save scan wallet expectedBalance =>
    match s.saveWallet (corrected expectedBalance wallet) with
    | .error error => some (s, .finished (.error error))
    | .ok after => some (after, { scan with fixed := scan.fixed + 1 }.proceed)
  | .finished _ => none

def reconcileJobs : Machine Tables ReconcileJob Unit where
  step s job _ := job.step s

/-! ## A job on its own -/

section

variable (autoFix : Bool) (scanned : Nat) (items : List ReconcileItem) (fixed : Nat)

/-- The queries for one wallet, one after the other, are its turn of the loop. -/
theorem alone_wallet (rest : List Wallet) (wallet : Wallet) (s : Tables) :
    ∃ actions, reconcileJobs.alone s (.next ⟨autoFix, scanned, items, fixed, rest⟩ wallet) actions =
      some ((reconcileWallet autoFix (items, fixed) wallet s).2,
        match (reconcileWallet autoFix (items, fixed) wallet s).1 with
        | .ok found => Scan.proceed ⟨autoFix, scanned, found.1, found.2, rest⟩
        | .error error => .finished (.error error)) := by
  cases first : s.firstEntry wallet.id with
  | none =>
    refine ⟨[()], ?_⟩
    simp [Machine.alone, reconcileJobs, ReconcileJob.step, reconcileWallet, Service.read,
      Program.query, bind, pure, first]
  | some entry =>
    by_cases same : Number.add entry.balanceBefore (s.ledgerDelta wallet.id) = wallet.balance
    · refine ⟨[(), ()], ?_⟩
      simp [Machine.alone, reconcileJobs, ReconcileJob.step, reconcileWallet, Service.read,
        Program.query, bind, pure, first, same]
    · cases autoFix with
      | false =>
        refine ⟨[(), ()], ?_⟩
        simp [Machine.alone, reconcileJobs, ReconcileJob.step, reconcileWallet, Service.read,
          Program.query, bind, pure, first, same, Scan.found]
      | true =>
        refine ⟨[(), (), ()], ?_⟩
        cases saved : s.saveWallet (corrected
            (Number.add entry.balanceBefore (s.ledgerDelta wallet.id)) wallet) with
        | error error =>
          simp [Machine.alone, reconcileJobs, ReconcileJob.step, reconcileWallet, Service.read,
            Service.write, Program.query, Program.atomically, bind, pure, first, same, Scan.found,
            saved, Except.map]
        | ok after =>
          simp [Machine.alone, reconcileJobs, ReconcileJob.step, reconcileWallet, Service.read,
            Service.write, Program.query, Program.atomically, bind, pure, first, same, Scan.found,
            saved, Except.map]

theorem alone_wallets (wallets : List Wallet) (s : Tables) :
    ∃ actions, reconcileJobs.alone s (Scan.proceed ⟨autoFix, scanned, items, fixed, wallets⟩) actions =
      some ((wallets.foldlM (reconcileWallet autoFix) (items, fixed) s).2,
        .finished ((wallets.foldlM (reconcileWallet autoFix) (items, fixed) s).1.map fun found =>
          { scanned, mismatches := found.1.length, fixed := found.2, items := found.1 })) := by
  induction wallets generalizing items fixed s with
  | nil => exact ⟨[], rfl⟩
  | cons wallet rest ih =>
    obtain ⟨actions, turn⟩ := alone_wallet autoFix scanned items fixed rest wallet s
    simp only [List.foldlM_cons, Bind.bind]
    change ∃ actions, reconcileJobs.alone s (.next ⟨autoFix, scanned, items, fixed, rest⟩ wallet)
      actions = _
    rcases done : reconcileWallet autoFix (items, fixed) wallet s with ⟨error | found, after⟩
    · rw [done] at turn
      exact ⟨actions, turn⟩
    · rw [done] at turn
      obtain ⟨later, others⟩ := ih found.1 found.2 after
      exact ⟨actions ++ later, by rw [Machine.alone_append, turn]; exact others⟩

/-- A job that nothing else runs beside is the call of `reconcileWallets`. -/
theorem alone_reconcile (limit : Int) (autoFix : Bool) (s : Tables) :
    ∃ actions, reconcileJobs.alone s (.start limit autoFix) actions =
      some ((reconcileWallets limit autoFix s).2, .finished (reconcileWallets limit autoFix s).1) := by
  obtain ⟨actions, ran⟩ := alone_wallets autoFix (s.walletsToReconcile limit).length [] 0
    (s.walletsToReconcile limit) s
  refine ⟨() :: actions, ?_⟩
  change reconcileJobs.alone s (Scan.proceed _) actions = _
  rw [ran]
  simp only [reconcileWallets, Service.read, Program.query, bind, pure]
  cases (s.walletsToReconcile limit).foldlM (reconcileWallet autoFix) ([], 0) s with
  | mk result after => cases result <;> rfl

end

/-! ## The other commits -/

inductive Movement where
  | transfer (now : Instant) (req : TransferRequest)
  | topup (now : Instant) (req : FundingRequest) (fundingSource : FundingSource)
  | withdrawal (now : Instant) (req : WithdrawalRequest) (fundingSource : FundingSource)
  | rollback (tx : TransactionEntity) (reasonCode : String)
  | settlement (now : Instant) (transactionId : Nat) (settlementStatus note : String)

def Movement.execute (env : Env) (s : Tables) : Movement → Except ServiceError Tables
  | .transfer now req => (persistTransfer env now req s).map Prod.snd
  | .topup now req fundingSource => (persistTopupIntent env now req fundingSource s).map Prod.snd
  | .withdrawal now req fundingSource =>
    (persistWithdrawalRequest env now req fundingSource s).map Prod.snd
  | .rollback tx reasonCode => rollbackWithdrawalDebit tx reasonCode s
  | .settlement now transactionId settlementStatus note =>
    (markSettlement env now transactionId settlementStatus note s).map Prod.snd

-- An error rolls the database transaction back.
def Movement.commit (env : Env) (s : Tables) (movement : Movement) : Tables :=
  match movement.execute env s with
  | .ok after => after
  | .error _ => s

/-- Jobs of reconciliation, and clients that commit movements. -/
def reconciling (env : Env) : Machine Tables (ReconcileJob ⊕ Unit) (Unit ⊕ Movement) :=
  .either reconcileJobs ⟨fun s client movement => some (movement.commit env s, client)⟩

/-! ## What the job has read -/

/-- The wallet is still the one that was read, up to its balance. -/
def Shows (s : Tables) (wallet : Wallet) : Prop :=
  ∃ balance, corrected balance wallet ∈ s.wallets

def ReconcileJob.Reads (s : Tables) : ReconcileJob → Prop
  | .start _ _ => True
  | .next scan wallet => Shows s wallet ∧ ∀ other ∈ scan.rest, Shows s other
  | .sum scan wallet openingBalance =>
    openingBalance = 0 ∧ Shows s wallet ∧ ∀ other ∈ scan.rest, Shows s other
  | .save scan wallet expectedBalance =>
    corrected expectedBalance wallet ∈ s.wallets ∧ ∀ other ∈ scan.rest, Shows s other
  | .finished _ => True

theorem reads_proceed {s : Tables} {scan : Scan} (shows : ∀ other ∈ scan.rest, Shows s other) :
    scan.proceed.Reads s := by
  unfold Scan.proceed
  cases rest : scan.rest with
  | nil => trivial
  | cons wallet rest =>
    rw [rest] at shows
    exact List.forall_mem_cons.mp shows

/-- Over books that are their ledger's sums the job changes nothing. -/
theorem job_step {s after : Tables} {job next : ReconcileJob} (summed : s.books.Summed)
    (small : s.books.Small) (reads : job.Reads s) (stepped : job.step s = some (after, next)) :
    after = s ∧ next.Reads s := by
  cases job with
  | start limit autoFix =>
    obtain ⟨rfl, rfl⟩ := Prod.mk.inj (Option.some.inj stepped)
    exact ⟨rfl, reads_proceed fun other listed => ⟨other.balance, mem_of_walletsToReconcile listed⟩⟩
  | next scan wallet =>
    obtain ⟨⟨balance, held⟩, others⟩ := reads
    cases first : s.firstEntry wallet.id with
    | none =>
      simp only [ReconcileJob.step, first, Option.some.injEq, Prod.mk.injEq] at stepped
      obtain ⟨rfl, rfl⟩ := stepped
      exact ⟨rfl, reads_proceed others⟩
    | some entry =>
      simp only [ReconcileJob.step, first, Option.some.injEq, Prod.mk.injEq] at stepped
      obtain ⟨rfl, rfl⟩ := stepped
      have opening := summed.openings _ held entry ((firstEntry_eq s wallet.id).symm.trans first)
      exact ⟨rfl, opening, ⟨balance, held⟩, others⟩
  | sum scan wallet openingBalance =>
    obtain ⟨rfl, ⟨balance, held⟩, others⟩ := reads
    have nonneg : 0 ≤ balance := summed.nonneg _ held
    have bound : balance < 2 ^ 53 := small _ held
    have exact : Number.round balance = balance :=
      (Number.round_eq_iff _).mpr (Number.exact_of_small (by omega))
    have delta : s.ledgerDelta wallet.id = balance := by
      have sum : balance = ledgerJournal.total (s.books.entriesOf wallet.id) := summed.sums _ held
      rw [ledgerDelta_eq, ← sum, exact]
    have expected : Number.add 0 (s.ledgerDelta wallet.id) = balance := by
      rw [delta, Number.add, Int.zero_add, exact]
    simp only [ReconcileJob.step, expected] at stepped
    split_ifs at stepped with same fixes
    · obtain ⟨rfl, rfl⟩ := Prod.mk.inj (Option.some.inj stepped)
      exact ⟨rfl, reads_proceed others⟩
    · obtain ⟨rfl, rfl⟩ := Prod.mk.inj (Option.some.inj stepped)
      exact ⟨rfl, held, others⟩
    · obtain ⟨rfl, rfl⟩ := Prod.mk.inj (Option.some.inj stepped)
      exact ⟨rfl, reads_proceed others⟩
  | save scan wallet expectedBalance =>
    obtain ⟨held, others⟩ := reads
    simp only [ReconcileJob.step] at stepped
    split at stepped
    next =>
      obtain ⟨rfl, rfl⟩ := Prod.mk.inj (Option.some.inj stepped)
      exact ⟨rfl, trivial⟩
    next saved done =>
      obtain ⟨rfl, rfl⟩ := Prod.mk.inj (Option.some.inj stepped)
      obtain ⟨_, wallets, updated, rfl⟩ := Tables.saveWallet_eq_ok.mp done
      rw [Table.update?_self held updated]
      exact ⟨rfl, reads_proceed others⟩
  | finished => cases stepped

/-! ## What the others commit -/

/-- Ids come in the form in which they are stored, and amounts are positive. -/
def Movement.Admissible : Movement → Prop
  | .transfer _ req => Uuid.Canonical req.fromUserId ∧ Uuid.Canonical req.toUserId
  | .rollback tx _ => 0 < tx.amount
  | _ => True

section

variable {I : Type} [DecidableEq I] {env : Env} {start world : World I Tables (ReconcileJob ⊕ Unit)}

/-- The commit leaves every wallet alone that a job is about to save. -/
def Spares (env : Env) (world : World I Tables (ReconcileJob ⊕ Unit)) (movement : Movement) : Prop :=
  ∀ i scan wallet expectedBalance, world.procs i = .inl (.save scan wallet expectedBalance) →
    ∀ row ∈ world.shared.wallets, row.id = wallet.id →
      row ∈ (movement.commit env world.shared).wallets

def Undisturbed (env : Env) (world : World I Tables (ReconcileJob ⊕ Unit)) (_ : I) :
    Unit ⊕ Movement → Prop
  | .inl _ => world.shared.books.Small
  | .inr movement => world.shared.books.Small ∧ movement.Admissible ∧
    (movement.commit env world.shared).books.Small ∧ Spares env world movement

end

/-! ## A transfer between the read and the save -/

def alicePays (idempotencyKey : String) (amount : Int) (positive : 0 < amount) : TransferRequest where
  idempotencyKey := idempotencyKey
  requestingUserId := alice
  fromUserId := alice
  toUserId := bob
  amount := amount
  currency := "VND"
  memo := ""
  isExternal := false
  externalPartner := none
  externalAccountNo := none
  requester := rfl
  receiverGiven := by decide
  distinct := by decide
  positive := positive

-- The first transfer makes the job find a difference, the second is overwritten.
def overwritten : List (Bool × (Unit ⊕ Movement)) :=
  [(false, .inl ()), (true, .inr (.transfer 1 (alicePays "first" 40 forty_positive))),
    (false, .inl ()), (false, .inl ()),
    (true, .inr (.transfer 2 (alicePays "second" 10 ten_positive))), (false, .inl ())]

end Kufi.Transactions

import Kufi.Shared.Batches
import Kufi.Transactions.Chain

set_option autoImplicit false

/-!
# The asynchronous chain worker

A tick claims due transactions under a lease and works through them in chunks.
A job loads its row, waits for the chain and saves what it holds.
-/

namespace Kufi.Workers

open Shared Transactions

-- `processPendingChainTransaction`, one access to the database or one call at a time.
inductive ChainJob where
  | loading (id : Nat)
  -- `AnchorTransfer` or `GetReceipt` is under way
  | anchoring (tx : TransactionEntity)
  | receipt (tx : TransactionEntity)
  | saving (previous : TransactionStatus) (tx : TransactionEntity)
  | announceChain (previous : TransactionStatus) (tx : TransactionEntity)
  | announce (tx : TransactionEntity)
  | done

structure ChainJobAction where
  answer : ChainAnswer
  clock : Clock
  enqueuedAt : Instant

namespace ChainJob

def loaded (tx : TransactionEntity) : ChainJob :=
  if isProcessable tx then
    if tx.chainTxId.any (Text.trim · ≠ "") then .receipt tx else .anchoring tx
  else .done

def afterSave (previous : TransactionStatus) (tx : TransactionEntity) : ChainJob :=
  if previous ≠ .completed ∧ tx.status = .completed then .announce tx else .done

def step (env : Env) (s : Tables) (job : ChainJob) (action : ChainJobAction) :
    Option (Tables × ChainJob) :=
  match job with
  | .loading id =>
    match s.transactions.get? id with
    | some tx => some (s, loaded tx)
    | none => some (s, .done)
  | .anchoring tx | .receipt tx =>
    some (s, .saving tx.status (processed env action.clock action.answer tx))
  | .saving previous tx =>
    match s.saveTransaction tx with
    | .ok after =>
      if tx.chainStatus = .anchored then some (after, .announceChain previous tx)
      else some (after, afterSave previous tx)
    | .error _ => some (s, .done)
  | .announceChain previous tx =>
    match enqueueChainCompletedEvent action.enqueuedAt tx s with
    | .ok after => some (after, afterSave previous tx)
    | .error _ => some (s, .done)
  | .announce tx =>
    match enqueueTransactionEvent action.enqueuedAt tx s with
    | .ok after => some (after, .done)
    | .error _ => some (s, .done)
  | .done => none

def finished : ChainJob → Bool
  | .done => true
  | _ => false

-- The transaction that a job has still to save.
def transaction? : ChainJob → Option Nat
  | .loading id => some id
  | .anchoring tx | .receipt tx | .saving _ tx => some tx.id
  | .announceChain _ _ | .announce _ | .done => none

/-! ## A step of a job -/

inductive Moves (env : Env) (action : ChainJobAction) (s : Tables) :
    ChainJob → Tables → ChainJob → Prop
  | loaded {id : Nat} {tx : TransactionEntity} (found : s.transactions.get? id = some tx) :
      Moves env action s (.loading id) s (loaded tx)
  | missing {id : Nat} (missing : s.transactions.get? id = none) :
      Moves env action s (.loading id) s .done
  | anchored {tx : TransactionEntity} :
      Moves env action s (.anchoring tx) s
        (.saving tx.status (processed env action.clock action.answer tx))
  | receipt {tx : TransactionEntity} :
      Moves env action s (.receipt tx) s
        (.saving tx.status (processed env action.clock action.answer tx))
  | saved {previous : TransactionStatus} {tx : TransactionEntity} {after : Tables}
      (saved : s.saveTransaction tx = .ok after) :
      Moves env action s (.saving previous tx) after
        (if tx.chainStatus = .anchored then .announceChain previous tx
          else afterSave previous tx)
  | refused {previous : TransactionStatus} {tx : TransactionEntity} :
      Moves env action s (.saving previous tx) s .done
  | announcedChain {previous : TransactionStatus} {tx : TransactionEntity}
      {outbox : Table TransactionOutboxEvent}
      (enqueued : enqueueChainCompletedEvent action.enqueuedAt tx s = .ok { s with outbox }) :
      Moves env action s (.announceChain previous tx) { s with outbox } (afterSave previous tx)
  | announced {tx : TransactionEntity} {outbox : Table TransactionOutboxEvent}
      (enqueued : enqueueTransactionEvent action.enqueuedAt tx s = .ok { s with outbox }) :
      Moves env action s (.announce tx) { s with outbox } .done

theorem step_moves {env : Env} {action : ChainJobAction} {s after : Tables} {job next : ChainJob}
    (stepped : job.step env s action = some (after, next)) : Moves env action s job after next := by
  cases job with
  | loading id =>
    unfold ChainJob.step at stepped
    dsimp only at stepped
    split at stepped
    next tx found =>
      obtain ⟨rfl, rfl⟩ := Prod.mk.inj (Option.some.inj stepped)
      exact .loaded found
    next missing =>
      obtain ⟨rfl, rfl⟩ := Prod.mk.inj (Option.some.inj stepped)
      exact .missing missing
  | anchoring tx =>
    obtain ⟨rfl, rfl⟩ := Prod.mk.inj (Option.some.inj stepped)
    exact .anchored
  | receipt tx =>
    obtain ⟨rfl, rfl⟩ := Prod.mk.inj (Option.some.inj stepped)
    exact .receipt
  | saving previous tx =>
    unfold ChainJob.step at stepped
    dsimp only at stepped
    split at stepped
    next after saved =>
      rw [← apply_ite some, ← apply_ite (Prod.mk after)] at stepped
      obtain ⟨rfl, rfl⟩ := Prod.mk.inj (Option.some.inj stepped)
      exact .saved saved
    next =>
      obtain ⟨rfl, rfl⟩ := Prod.mk.inj (Option.some.inj stepped)
      exact .refused
  | announceChain previous tx =>
    obtain ⟨outbox, enqueued⟩ := enqueueChainCompletedEvent_isOk action.enqueuedAt tx s
    unfold ChainJob.step at stepped
    simp only [enqueued] at stepped
    obtain ⟨rfl, rfl⟩ := Prod.mk.inj (Option.some.inj stepped)
    exact .announcedChain enqueued
  | announce tx =>
    obtain ⟨outbox, enqueued⟩ := enqueueTransactionEvent_isOk action.enqueuedAt tx s
    unfold ChainJob.step at stepped
    simp only [enqueued] at stepped
    obtain ⟨rfl, rfl⟩ := Prod.mk.inj (Option.some.inj stepped)
    exact .announced enqueued
  | done => cases stepped

end ChainJob

-- `now` is read before the database transaction starts.
structure ChainClaim where
  now : Instant
  limit : Nat
  locked : List Nat

-- A claim that fails ends the tick.
def claimBatch (env : Env) (s : Tables) (claim : ChainClaim) : List ChainJob × Tables :=
  match claimDueChainTransactions env claim.now claim.limit (claim.locked.contains ·) s with
  | .ok (claimedIds, after) => (claimedIds.map .loading, after)
  | .error _ => ([], s)

def chainBatches (env : Env) : Batches Tables ChainJob ChainClaim ChainJobAction where
  claim := claimBatch env
  job := { step := ChainJob.step env }
  finished := ChainJob.finished

abbrev ChainWorker := Worker ChainJob ChainClaim

/-- The transaction of an `AnchorTransfer` that is under way. -/
def ChainJob.anchors? : ChainJob → Option Nat
  | .anchoring tx => some tx.id
  | _ => none

end Kufi.Workers

import Kufi.Chaincode.Payment
import Kufi.Gateway.Receipt
import Kufi.Shared.Interleaving
import Kufi.Shared.Time
import Mathlib.Data.List.Infix

set_option autoImplicit false

/-!
# Submitting to Fabric

The Fabric client: an invocation goes through proposal, endorsement, ordering
and commit, and each call on the way can end with an error that does not tell
whether the transaction will be committed.
-/

namespace Kufi.Gateway

open Shared Chaincode

/-- A transaction handed to the ordering service. -/
structure Submitted where
  intent : TransferIntent
  -- the key of the request it was made for; it is not on the ledger
  idempotencyKey : String
  deriving DecidableEq

structure Fabric where
  -- the transaction ids given to proposals
  proposals : List String
  ordered : List Submitted
  -- the valid transactions of the blocks, and the codes of the others
  ledger : List Submitted
  rejected : List (String × Int)

def Fabric.empty : Fabric where
  proposals := []
  ordered := []
  ledger := []
  rejected := []

namespace Fabric

def getState (fabric : Fabric) (txID : String) : Option TransferIntent :=
  (fabric.ledger.find? fun submitted => submitted.intent.txID = txID).map Submitted.intent

-- A transaction whose id is on the ledger already fails validation.
def commit (i : Nat) (fabric : Fabric) : Option Fabric := do
  let submitted ← fabric.ordered[i]?
  if (fabric.getState submitted.intent.txID).isSome then none
  else
    some
      { fabric with
        ordered := fabric.ordered.eraseIdx i
        ledger := fabric.ledger ++ [submitted] }

def invalidate (i : Nat) (code : Int) (fabric : Fabric) : Option Fabric := do
  let submitted ← fabric.ordered[i]?
  if code = 0 then none
  else
    some
      { fabric with
        ordered := fabric.ordered.eraseIdx i
        rejected := fabric.rejected ++ [(submitted.intent.txID, code)] }

end Fabric

/-! ## Errors -/

-- ASCII letters, and the two others whose lower case is ASCII.
def lowerChar (c : Char) : Char :=
  if c = Char.ofNat 0x212A then 'k'
  else if c = Char.ofNat 0x130 then 'i'
  else c.toLower

/-- `strings.Contains(strings.ToLower(text), pattern)` for an ASCII pattern. -/
def containsFold (text pattern : String) : Bool :=
  decide (pattern.toList <:+: text.toList.map lowerChar)

def retryPatterns : List String :=
  ["unavailable",
    "deadline exceeded",
    "connection refused",
    "transport is closing",
    "mvcc_read_conflict",
    "phantom_read_conflict",
    "service is closing",
    "too many requests",
    "exceeding concurrency",
    "resource exhausted"]

def isRetryable (err : String) : Bool :=
  retryPatterns.any (containsFold err)

def isMissingCollectionError (err : String) : Bool :=
  containsFold err "collection" && containsFold err "could not be found"

def isMissingEndorsingPeerError (err : String) : Bool :=
  containsFold err "failed to find any endorsing peers"

/-! ## One call of `SubmitTransactionWithPDC` -/

structure Endorsement where
  mspID : String
  signature : Bytes
  certificate : Bytes
  timestamp : Time
  signatureValid : Bool
  certChainValid : Bool
  deriving DecidableEq

structure SubmitResult where
  txID : String
  blockNumber : Nat
  validationCode : Int
  endorsements : List Endorsement
  commitTimestamp : Time
  deriving DecidableEq

structure Invocation where
  creatorMSP : String
  arguments : CreateArguments
  endorsingOrgs : List String
  -- the collection and the private data for it
  transient : List (String × Bytes)
  idempotencyKey : String
  deriving DecidableEq

inductive Submission where
  | acquiring
  | proposing (attempt : Nat)
  | endorsing (attempt : Nat) (txID : String)
  | submitting (attempt : Nat) (intent : TransferIntent) (endorsements : List Endorsement)
  | awaiting (attempt : Nat) (intent : TransferIntent) (endorsements : List Endorsement)
  | backingOff (attempt : Nat) (lastErr : String)
  | returned (result : Except String SubmitResult)

inductive FabricAnswer where
  -- the semaphore, and whether the client is connected
  | acquired (connected : Bool)
  | cancelled (err : String)
  | proposal (result : Except String String)
  | endorsement (result : Except String (List Endorsement)) (seconds nanos : Int)
  -- an error does not say whether the orderer has got the transaction
  | submission (err : Option String) (delivered : Bool)
  | status (result : Except String Nat)
  | elapsed

namespace Submission

def attemptFailed (maxAttempts : Int) (attempt : Nat) (err : String) : Submission :=
  if isRetryable err = true ∧ attempt < max maxAttempts 1 then .backingOff attempt err
  else .returned (.error err)

def step (maxAttempts : Int) (invocation : Invocation) (now : Time) (fabric : Fabric) :
    Submission → FabricAnswer → Option (Fabric × Submission)
  | .acquiring, .acquired true => some (fabric, .proposing 1)
  | .acquiring, .acquired false => some (fabric, .returned (.error "client not connected"))
  | .acquiring, .cancelled err =>
    some (fabric, .returned (.error ("context cancelled waiting for semaphore: " ++ err)))
  | .proposing attempt, .proposal (.ok txID) =>
    if txID ∈ fabric.proposals then none
    else some ({ fabric with proposals := fabric.proposals ++ [txID] }, .endorsing attempt txID)
  | .proposing attempt, .proposal (.error err) =>
    some (fabric, attemptFailed maxAttempts attempt ("failed to create proposal: " ++ err))
  | .endorsing attempt _, .endorsement (.error err) _ _ =>
    some (fabric, attemptFailed maxAttempts attempt ("failed to endorse: " ++ err))
  | .endorsing attempt txID, .endorsement (.ok endorsements) seconds nanos =>
    let ctx : TransactionContext :=
      { txID, creatorMSP := .ok invocation.creatorMSP, seconds, nanos }
    match createTransferIntent ctx invocation.arguments fabric.getState with
    | .ok intent => some (fabric, .submitting attempt intent endorsements)
    | .error err =>
      some (fabric, attemptFailed maxAttempts attempt ("failed to endorse: " ++ err))
  | .submitting attempt intent endorsements, .submission err delivered =>
    let submitted := { intent, idempotencyKey := invocation.idempotencyKey }
    let after := { fabric with ordered := fabric.ordered ++ [submitted] }
    match err with
    | none => some (after, .awaiting attempt intent endorsements)
    | some err =>
      some (if delivered then after else fabric,
        attemptFailed maxAttempts attempt ("failed to submit: " ++ err))
  | .awaiting attempt _ _, .status (.error err) =>
    some (fabric, attemptFailed maxAttempts attempt ("failed to get commit status: " ++ err))
  | .awaiting attempt intent endorsements, .status (.ok blockNumber) =>
    if (fabric.getState intent.txID).isSome then
      some (fabric, .returned (.ok
        { txID := intent.txID
          blockNumber
          validationCode := 0
          endorsements
          commitTimestamp := now }))
    else
      (fabric.rejected.lookup intent.txID).map fun code =>
        (fabric, attemptFailed maxAttempts attempt
          ("transaction " ++ intent.txID ++ " failed with code " ++ toString code))
  | .backingOff attempt _, .elapsed => some (fabric, .proposing (attempt + 1))
  | .backingOff _ _, .cancelled err =>
    some (fabric, .returned (.error ("context cancelled during retry: " ++ err)))
  | _, _ => none

end Submission

end Kufi.Gateway

import Kufi.FabricOps.Policies
import Kufi.Shared.Dict
import Kufi.Shared.Procedure
import Mathlib.Data.List.Infix

set_option autoImplicit false

/-!
# The chaincode lifecycle

The deployment of the chaincode and the commit of its definition, as procedures
over the commands they run: `peer`, docker and the making of the package. The
peers of the channel keep one committed definition.
-/

namespace Kufi.FabricOps

open Shared

/-! ## Commands -/

structure CommittedDefinition where
  sequence : Int
  validationParameter : String
  approvals : Dict String Bool

/-- A failed command: its trimmed output and the error of running it. -/
structure CommandError where
  output : String
  err : String
  deriving DecidableEq

inductive LifecycleOp where
  | queryCommitted
  | buildChaincodeImage
  | queryInstalled
  | buildCCAASPackage
  | install (pkgPath : String)
  | startCCContainer (packageID : String)
  | checkCommitReadiness (sequence : Int) (signaturePolicy : String)
  | approveForMyOrg (packageID : String) (sequence : Int) (signaturePolicy : String)
  | commit (sequence : Int) (signaturePolicy : String)
  | notifyPeersToUpgrade

namespace LifecycleOp

abbrev Reply : LifecycleOp → Type
  | .queryCommitted => Option CommittedDefinition
  | .buildChaincodeImage | .startCCContainer _ => Except String Unit
  -- the id of the package with the label, or none
  | .queryInstalled => String
  | .buildCCAASPackage => Except String String
  | .install _ | .approveForMyOrg .. | .commit .. => Except CommandError Unit
  -- an answer that is not understood has no approvals
  | .checkCommitReadiness .. => Except CommandError (Option (Dict String Bool))
  | .notifyPeersToUpgrade => Unit

/-- The sequence for which the peers are asked for something. -/
def sequence? : LifecycleOp → Option Int
  | .checkCommitReadiness sequence _ | .approveForMyOrg _ sequence _ | .commit sequence _ =>
    some sequence
  | _ => none

end LifecycleOp

abbrev Lifecycle := Procedure LifecycleOp LifecycleOp.Reply

abbrev ask (op : LifecycleOp) : Lifecycle op.Reply := Procedure.ask op

-- Of the other letters that have a lower case only these two have an ASCII one.
def lower (c : Char) : Char :=
  if c = '\u212A' then 'k' else if c = '\u0130' then 'i' else c.toLower

def syncingPatterns : List String :=
  ["creator org unknown", "creator is malformed", "failed to deserialize creator", "access denied",
    "channel does not exist", "not found in channel config", "connection refused",
    "context deadline exceeded", "service unavailable", "rpc error"]

def isLifecycleSyncingError (msg : String) : Bool :=
  syncingPatterns.any fun pattern => pattern.toList <:+: msg.toList.map lower

/-! ## The steps -/

structure ChaincodeOps where
  mspID : String
  signaturePolicy : String

section Steps

variable (proto : Proto) (cc : ChaincodeOps)

def committedSequence : Lifecycle Int := do
  let result ← ask .queryCommitted
  match result with
  | none => pure 0
  | some result => pure result.sequence

def committedSignaturePolicy : Lifecycle String := do
  let result ← ask .queryCommitted
  match result with
  | none => pure ""
  | some result => pure (committedPolicy proto result.validationParameter)

/-- The sequence to have, and whether it is an upgrade. -/
def targetSequence (committedSeq : Int) (committedPolicy : String) : Int × Bool :=
  if 1 ≤ committedSeq then
    if cc.signaturePolicy = "" ∨ committedPolicy = cc.signaturePolicy then (committedSeq, false)
    else (committedSeq + 1, true)
  else (1, false)

def installChaincode (pkgPath : String) : Lifecycle (Except String String) := do
  let pkgID ← ask .queryInstalled
  if pkgID ≠ "" then pure (.ok pkgID)
  else do
    let installed ← ask (.install pkgPath)
    match installed with
    | .error e => pure (.error ("install chaincode: " ++ e.output ++ " — " ++ e.err))
    | .ok () =>
      let pkgID ← ask .queryInstalled
      if pkgID = "" then pure (.error "chaincode installed but could not find package ID")
      else pure (.ok pkgID)

def checkCommitReadiness (sequence : Int) : Lifecycle (Option (Dict String Bool)) := do
  let result ← ask .queryCommitted
  match result.filter fun result => result.sequence = sequence ∧ 0 < result.approvals.size with
  | some result => pure (some result.approvals)
  | none =>
    let answer ← ask (.checkCommitReadiness sequence cc.signaturePolicy)
    match answer with
    | .error _ => pure none
    | .ok approvals => pure approvals

-- Without approvals no org has approved.
def approvedBy (approvals : Option (Dict String Bool)) (mspID : String) : Bool :=
  ((approvals.getD ∅).get mspID).getD false

def isApprovedForMyOrg (sequence : Int) : Lifecycle Bool := do
  let result ← ask .queryCommitted
  match result.filter fun result => result.sequence = sequence ∧ 0 < result.approvals.size with
  | some result => pure (approvedBy result.approvals cc.mspID)
  | none =>
    let readiness ← checkCommitReadiness cc sequence
    pure (approvedBy readiness cc.mspID)

def pollReadiness (sequence : Int) (timeoutSec : Nat) : Nat → String → Lifecycle (Except String Unit)
  | 0, lastErr =>
    let lastErr := if lastErr = "" then "unknown lifecycle readiness error" else lastErr
    pure (.error ("lifecycle not ready after " ++ toString timeoutSec ++ "s: " ++ lastErr))
  | left + 1, _ => do
    let answer ← ask (.checkCommitReadiness sequence cc.signaturePolicy)
    match answer with
    | .ok _ => pure (.ok ())
    | .error e =>
      if isLifecycleSyncingError e.output then pollReadiness sequence timeoutSec left e.output
      else pure (.error ("lifecycle readiness check failed: " ++ e.output))

def waitForLifecycleReady (sequence : Int) (timeoutSec : Nat) : Lifecycle (Except String Unit) := do
  let result ← ask .queryCommitted
  if result.any fun result => sequence ≤ result.sequence ∧ 0 < sequence then pure (.ok ())
  else
    let timeoutSec := max timeoutSec 1
    pollReadiness cc sequence timeoutSec timeoutSec ""

/-- A command that is tried again while the peer is syncing. -/
def attempts (op : LifecycleOp) (outcome : op.Reply → Except CommandError Unit) (failure : String) :
    Nat → Lifecycle (Except String Unit)
  | 0 => pure (.error (failure ++ ": exceeded retry attempts"))
  | left + 1 => do
    let reply ← ask op
    match outcome reply with
    | .ok () => pure (.ok ())
    | .error e =>
      if 0 < left ∧ isLifecycleSyncingError e.output then attempts op outcome failure left
      else pure (.error (failure ++ ": " ++ e.output ++ " — " ++ e.err))

def approveChaincode (packageID : String) (sequence : Int) : Lifecycle (Except String Unit) := do
  let approved ← isApprovedForMyOrg cc sequence
  if approved then pure (.ok ())
  else attempts (.approveForMyOrg packageID sequence cc.signaturePolicy) id "approve chaincode" 24

def commitChaincode (sequence : Int) : Lifecycle (Except String Unit) := do
  let committed ← committedSequence
  if sequence ≤ committed then pure (.ok ())
  else attempts (.commit sequence cc.signaturePolicy) id "commit chaincode" 12

def approvedCount (approvals : Dict String Bool) : Nat := approvals.entries.countP fun entry => entry.2

end Steps

/-! ## The two entry points -/

section Entry

variable (proto : Proto) (cc : ChaincodeOps)

/-- The first error of the steps of `EnsureChaincodeDeployed` comes with this text before it. -/
def orFail {A B : Type} (text : String) (result : Except String A)
    (next : A → Lifecycle (Except String B)) : Lifecycle (Except String B) :=
  match result with
  | .error err => pure (.error (text ++ ": " ++ err))
  | .ok value => next value

def installedOrBuilt : Lifecycle (Except String String) := do
  let pkgID ← ask .queryInstalled
  if pkgID ≠ "" then pure (.ok pkgID)
  else do
    let built ← ask .buildCCAASPackage
    orFail "build CCAAS package" built fun pkgPath => do
      let installed ← installChaincode pkgPath
      orFail "install chaincode" installed fun pkgID => pure (.ok pkgID)

def approveUnlessApproved (pkgID : String) (targetSeq : Int) : Lifecycle (Except String Unit) := do
  let approved ← isApprovedForMyOrg cc targetSeq
  if approved then pure (.ok ()) else approveChaincode cc pkgID targetSeq

def commitIfMajority (targetSeq : Int) : Lifecycle (Except String Unit) := do
  let approvals ← checkCommitReadiness cc targetSeq
  match approvals with
  | none => pure (.error "check commit readiness failed: peer lifecycle is not ready yet")
  | some approvals =>
    if approvals.size / 2 + 1 ≤ approvedCount approvals then
      let committed ← commitChaincode cc targetSeq
      orFail "commit chaincode" committed fun _ => pure (.ok ())
    else
      ask .notifyPeersToUpgrade
      pure (.ok ())

/-- `EnsureChaincodeDeployed` from the building of the image on. -/
def deployTarget (committedSeq targetSeq : Int) (upgrading : Bool) :
    Lifecycle (Except String Unit) := do
  let image ← ask .buildChaincodeImage
  orFail "build chaincode image" image fun _ => do
    let installed ← installedOrBuilt
    match installed with
    | .error err => pure (.error err)
    | .ok pkgID =>
      let started ← ask (.startCCContainer pkgID)
      orFail "start chaincode container" started fun _ => do
        let ready ← waitForLifecycleReady cc targetSeq 120
        orFail "wait for lifecycle readiness" ready fun _ => do
          let approved ← approveUnlessApproved cc pkgID targetSeq
          orFail "approve chaincode" approved fun _ =>
            if 1 ≤ committedSeq ∧ !upgrading then pure (.ok ()) else commitIfMajority cc targetSeq

def ensureChaincodeDeployed : Lifecycle (Except String Unit) := do
  let committedSeq ← committedSequence
  let committedPolicy ← committedSignaturePolicy proto
  let target := targetSequence cc committedSeq committedPolicy
  deployTarget cc committedSeq target.1 target.2

/-- The auto-approval of `TryCommitIfReady`, and whether it has to give up. -/
def autoApprove (targetSeq : Int) : Lifecycle Bool := do
  let approved ← isApprovedForMyOrg cc targetSeq
  if approved then pure true
  else do
    let pkgID ← ask .queryInstalled
    if pkgID = "" then pure false
    else do
      let approved ← approveChaincode cc pkgID targetSeq
      match approved with
      | .error _ => pure false
      | .ok () => pure true

/-- `TryCommitIfReady` once the target is known. -/
def commitTarget (committedSeq targetSeq : Int) : Lifecycle Bool :=
  if targetSeq ≤ committedSeq ∧ targetSeq = committedSeq then autoApprove cc targetSeq
  else do
    let ready ← waitForLifecycleReady cc targetSeq 30
    match ready with
    | .error _ => pure false
    | .ok () =>
      let approved ← autoApprove cc targetSeq
      if !approved then pure false
      else do
        let approvals ← checkCommitReadiness cc targetSeq
        match approvals with
        | none => pure false
        | some approvals =>
          if approvedCount approvals < approvals.size / 2 + 1 then pure false
          else do
            let committed ← commitChaincode cc targetSeq
            match committed with
            | .error _ => pure false
            | .ok () => pure true

def tryCommitIfReady : Lifecycle Bool := do
  let committedSeq ← committedSequence
  let committedPolicy ← committedSignaturePolicy proto
  let target := targetSequence cc committedSeq committedPolicy
  commitTarget cc committedSeq target.1

end Entry

end Kufi.FabricOps

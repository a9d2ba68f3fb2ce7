import Mathlib.Data.List.Basic

set_option autoImplicit false

/-!
# Payment chaincode

The public state of the payment chaincode and the invocation that creates a
transfer intent. What goes into a private collection is read by nothing here.
-/

namespace Kufi.Chaincode

structure TransferIntent where
  docType : String
  txID : String
  commitmentHash : String
  internalRef : String
  policyID : String
  status : String
  createdAt : Int
  updatedAt : Int
  settledAt : Int
  creatorMSP : String
  deriving DecidableEq

/-- What an invocation is told of the transaction it runs in. -/
structure TransactionContext where
  txID : String
  creatorMSP : Except String String
  seconds : Int
  nanos : Int

structure CreateArguments where
  commitmentHash : String
  internalRef : String
  policyID : String
  deriving DecidableEq

-- The intent is what `PutState` writes under the transaction id.
def createTransferIntent (ctx : TransactionContext) (arguments : CreateArguments)
    (getState : String → Option TransferIntent) : Except String TransferIntent :=
  match ctx.creatorMSP with
  | .error err => .error ("failed to get creator MSP: " ++ err)
  | .ok creatorMSP =>
    if (getState ctx.txID).isSome then .error ("transfer intent already exists: " ++ ctx.txID)
    else
      let now := ctx.seconds * 1000 + ctx.nanos.tdiv 1000000
      .ok
        { docType := "transferIntent"
          txID := ctx.txID
          commitmentHash := arguments.commitmentHash
          internalRef := arguments.internalRef
          policyID := arguments.policyID
          status := "PENDING"
          createdAt := now
          updatedAt := now
          settledAt := 0
          creatorMSP := creatorMSP }

def TransactionContext.now (ctx : TransactionContext) : Int :=
  ctx.seconds * 1000 + ctx.nanos.tdiv 1000000

/-- What a creation that succeeds has found and what it writes. -/
structure Created (ctx : TransactionContext) (arguments : CreateArguments)
    (getState : String → Option TransferIntent) (intent : TransferIntent) : Prop where
  creator : ctx.creatorMSP = .ok intent.creatorMSP
  free : getState ctx.txID = none
  txID : intent.txID = ctx.txID
  commitmentHash : intent.commitmentHash = arguments.commitmentHash
  internalRef : intent.internalRef = arguments.internalRef
  pending : intent.status = "PENDING"
  createdAt : intent.createdAt = ctx.now
  updatedAt : intent.updatedAt = ctx.now
  unsettled : intent.settledAt = 0

section

variable {ctx : TransactionContext} {arguments : CreateArguments}
  {getState : String → Option TransferIntent} {intent : TransferIntent}

theorem createTransferIntent_created
    (created : createTransferIntent ctx arguments getState = .ok intent) :
    Created ctx arguments getState intent := by
  unfold createTransferIntent at created
  split at created
  next => cases created
  next creatorMSP creator =>
    split at created
    next => cases created
    next free =>
      obtain rfl := Except.ok.inj created
      exact
        { creator := creator
          free := Option.not_isSome_iff_eq_none.mp free
          txID := rfl
          commitmentHash := rfl
          internalRef := rfl
          pending := rfl
          createdAt := rfl
          updatedAt := rfl
          unsettled := rfl }

theorem createTransferIntent_eq_ok
    (created : createTransferIntent ctx arguments getState = .ok intent) :
    intent.txID = ctx.txID ∧ getState ctx.txID = none ∧
      intent.commitmentHash = arguments.commitmentHash ∧
      intent.internalRef = arguments.internalRef := by
  have created := createTransferIntent_created created
  exact ⟨created.txID, created.free, created.commitmentHash, created.internalRef⟩

end

end Kufi.Chaincode

import Kufi.OutsidePayment.Partner
import Kufi.Shared.Number
import Kufi.Shared.Procedure
import Kufi.Transactions.Entities

set_option autoImplicit false

/-!
# External transfers

`initiateTransfer` and `checkTransfer` over the table `external_transfers`.
Every query, every save and every call of a partner is one operation.
-/

namespace Kufi.OutsidePayment

open Shared Shared.Text

structure ExternalTransfer where
  id : Nat
  transactionId : Uuid
  partnerCode : String
  accountNo : String
  transferType : ExternalTransferType
  amount : Int
  currency : String
  partnerRef : String
  status : ExternalTransferStatus
  partnerMessage : Option String
  createdAt : Transactions.Instant
  deriving DecidableEq

/-- `@Index({ unique: true })` on `transactionId`. -/
instance : Row ExternalTransfer Uuid where
  id := ExternalTransfer.id
  withId transfer id := { transfer with id }
  key transfer := some transfer.transactionId
  id_withId _ _ := rfl
  key_withId _ _ := rfl

def ExternalTransfer.columnsFit (transfer : ExternalTransfer) : Bool :=
  Transactions.fitsVarchar 64 transfer.partnerCode &&
    Transactions.fitsVarchar 128 transfer.accountNo && Transactions.fitsBigint transfer.amount &&
    Transactions.fitsVarchar 16 transfer.currency &&
    Transactions.fitsVarchar 128 transfer.partnerRef &&
    transfer.partnerMessage.all (Transactions.fitsVarchar 1024)

/-- The table with its other constraints: column types and the unique index on `partnerRef`. -/
structure ExternalTransfers where
  table : Table ExternalTransfer
  fits : ∀ row ∈ table.rows, row.columnsFit = true
  partnerRefs : (table.rows.map ExternalTransfer.partnerRef).Nodup

namespace ExternalTransfers

instance : Membership ExternalTransfer ExternalTransfers :=
  ⟨fun transfers row => row ∈ transfers.table⟩

def empty : ExternalTransfers where
  table := .empty
  fits _ member := absurd member List.not_mem_nil
  partnerRefs := .nil

-- A write that leaves the table outside its constraints is refused.
def constrained (table : Table ExternalTransfer) : Option ExternalTransfers :=
  if sound : (∀ row ∈ table.rows, row.columnsFit = true) ∧
      (table.rows.map ExternalTransfer.partnerRef).Nodup then
    some ⟨table, sound.1, sound.2⟩
  else none

def insert? (transfers : ExternalTransfers) (row : ExternalTransfer) :
    Option (ExternalTransfer × ExternalTransfers) := do
  let (saved, table) ← transfers.table.insert? row
  let after ← constrained table
  some (saved, after)

def save? (transfers : ExternalTransfers) (row : ExternalTransfer) : Option ExternalTransfers := do
  let table ← transfers.table.update? row
  constrained table

theorem constrained_spec {table : Table ExternalTransfer} {after : ExternalTransfers}
    (sound : constrained table = some after) : after.table = table := by
  unfold constrained at sound
  split at sound
  · cases sound
    rfl
  · cases sound

theorem constrained_isSome {table : Table ExternalTransfer} : (constrained table).isSome ↔
    (∀ row ∈ table.rows, row.columnsFit = true) ∧
      (table.rows.map ExternalTransfer.partnerRef).Nodup := by
  unfold constrained
  split
  next sound => exact iff_of_true rfl sound
  next unsound => exact iff_of_false Bool.false_ne_true unsound

theorem insert?_spec {transfers after : ExternalTransfers} {row saved : ExternalTransfer}
    (inserted : transfers.insert? row = some (saved, after)) :
    transfers.table.insert? row = some (saved, after.table) := by
  simp only [insert?, bind, Option.bind_eq_some_iff, Prod.exists, Option.some.injEq,
    Prod.mk.injEq] at inserted
  obtain ⟨saved', table, stored, after', sound, rfl, rfl⟩ := inserted
  rw [stored, constrained_spec sound]

theorem save?_spec {transfers after : ExternalTransfers} {row : ExternalTransfer}
    (saved : transfers.save? row = some after) :
    transfers.table.update? row = some after.table := by
  simp only [save?, bind, Option.bind_eq_some_iff] at saved
  obtain ⟨table, stored, sound⟩ := saved
  rw [stored, constrained_spec sound]

/-- A stored row is overwritten unless a value does not fit its column. -/
theorem save?_isSome {transfers : ExternalTransfers} {row old : ExternalTransfer}
    (member : old ∈ transfers) (sameId : old.id = row.id)
    (sameKey : old.transactionId = row.transactionId) (sameRef : old.partnerRef = row.partnerRef) :
    (transfers.save? row).isSome = row.columnsFit := by
  obtain ⟨table, stored⟩ := Option.isSome_iff_exists.mp
    (Table.update?_isSome member sameId (congrArg some sameKey))
  have rows := (Table.update?_spec stored).1
  have refs : table.rows.map ExternalTransfer.partnerRef =
      transfers.table.rows.map ExternalTransfer.partnerRef := by
    rw [rows, Table.replace, List.map_map]
    refine List.map_congr_left fun other held => ?_
    dsimp only [Function.comp_apply]
    split
    next same => rw [Table.eq_of_id held member (same.trans sameId.symm), sameRef]
    next => rfl
  have sound : ((∀ other ∈ table.rows, other.columnsFit = true) ∧
      (table.rows.map ExternalTransfer.partnerRef).Nodup) ↔ row.columnsFit = true := by
    rw [refs, and_iff_left transfers.partnerRefs]
    constructor
    · intro fits
      exact fits row ((Table.mem_update? stored).mpr (.inr ⟨rfl, old, member, sameId⟩))
    · intro fits other held
      rcases (Table.mem_update? stored).mp held with ⟨kept, -⟩ | ⟨rfl, -⟩
      · exact transfers.fits other kept
      · exact fits
  rw [save?, stored, Bool.eq_iff_iff, ← sound, ← constrained_isSome]
  rfl

end ExternalTransfers

structure InitiateTransferRequest where
  transactionId : String
  partnerCode : String
  accountNo : String
  -- an int64, which arrives as a `Long`
  amount : Int
  currency : String
  note : String
  transferType : String

structure CheckTransferRequest where
  partnerCode : String
  partnerRef : String

inductive TransfersError where
  -- "Invalid amount"
  | invalidAmount
  | queryFailed
  deriving DecidableEq

structure TransferResponse where
  status : ExternalTransferStatus
  partnerRef : String
  partnerMessage : String
  deriving DecidableEq

structure CheckResponse where
  status : ExternalTransferStatus
  partnerMessage : String
  deriving DecidableEq

/-! ## Operations -/

inductive TransfersOp where
  | findByTransactionId (transactionId : String)
  | findByPartnerRef (partnerRef : String)
  -- the digits of `Date.now()` and `Math.random()` in a reference
  | referenceDigits
  | now
  | initiate (config : PartnerConfig) (data : InitiateTransferRequest)
  | check (config : PartnerConfig) (transfer : ExternalTransfer)
  | insertTransfer (transfer : ExternalTransfer)
  | saveTransfer (transfer : ExternalTransfer)

/-- A query that fails has no reply. -/
abbrev TransfersOp.Reply : TransfersOp → Type
  | .findByTransactionId _ | .findByPartnerRef _ => Option (Option ExternalTransfer)
  | .referenceDigits => String
  | .now => Int
  | .initiate _ _ => PartnerAnswer
  | .check _ _ => PartnerReply
  | .insertTransfer _ | .saveTransfer _ => Option ExternalTransfer

abbrev TransfersHandler := Procedure TransfersOp TransfersOp.Reply

abbrev askTransfers (op : TransfersOp) : TransfersHandler op.Reply := Procedure.ask op

inductive TransfersChoice where
  | nothing
  | fails
  | digits (text : String)
  | clock (now : Int)
  | answer (answer : PartnerAnswer)
  | reply (reply : PartnerReply)
  | createdAt (now : Transactions.Instant)

structure TransfersState where
  transfers : ExternalTransfers
  -- the transactions that the initiate endpoint of a partner was called for and the final statuses
  -- that rows have been given; records only
  asked : List Uuid
  outcomes : List (Nat × ExternalTransferStatus)

def outcomeOf (transfer : ExternalTransfer) : List (Nat × ExternalTransferStatus) :=
  if transfer.status = .submitted then [] else [(transfer.id, transfer.status)]

def performTransfers : Performer TransfersOp TransfersOp.Reply TransfersChoice TransfersState
  | .findByTransactionId transactionId, .nothing, s =>
    some ((Uuid.parse transactionId).map s.transfers.table.byKey, s)
  | .findByPartnerRef partnerRef, .nothing, s =>
    some (some (s.transfers.table.find? (·.partnerRef == partnerRef)), s)
  | .findByTransactionId _, .fails, s | .findByPartnerRef _, .fails, s => some (none, s)
  | .referenceDigits, .digits text, s => some (text, s)
  | .now, .clock now, s => some (now, s)
  | .initiate _ data, .answer answer, s =>
    some (answer, { s with asked := s.asked ++ (Uuid.parse data.transactionId).toList })
  | .check _ _, .reply reply, s => some (reply, s)
  | .insertTransfer transfer, .createdAt createdAt, s =>
    match s.transfers.insert? { transfer with createdAt } with
    | some (saved, transfers) =>
      some (some saved, { s with transfers, outcomes := s.outcomes ++ outcomeOf saved })
    | none => some (none, s)
  | .saveTransfer transfer, .nothing, s =>
    match s.transfers.save? transfer with
    | some transfers =>
      some (some transfer, { s with transfers, outcomes := s.outcomes ++ outcomeOf transfer })
    | none => some (none, s)
  | .insertTransfer _, .fails, s | .saveTransfer _, .fails, s => some (none, s)
  | _, _, _ => none

/-! ## The service -/

section Service

variable (env : PartnerEnv)

def transferOf (data : InitiateTransferRequest) (transactionId : Uuid) (partnerCode : String)
    (submission : Submission) : ExternalTransfer where
  id := 0
  transactionId
  partnerCode
  accountNo := data.accountNo
  transferType := parseTransferType env data.transferType
  amount := Number.round data.amount
  currency := env.toUpperCase (orElse data.currency "VND")
  partnerRef := submission.partnerRef
  status := submission.status
  partnerMessage := some submission.partnerMessage
  createdAt := 0

-- Creating the entity and saving it.
def recordTransfer (data : InitiateTransferRequest) (partnerCode : String)
    (submission : Submission) : TransfersHandler (Except TransfersError TransferResponse) :=
  match Uuid.parse data.transactionId with
  | none => pure (.error .queryFailed)
  | some transactionId => do
    let transfer := transferOf env data transactionId partnerCode submission
    match ← askTransfers (.insertTransfer transfer) with
    | none => pure (.error .queryFailed)
    | some saved =>
      pure (.ok
        { status := saved.status
          partnerRef := saved.partnerRef
          partnerMessage := saved.partnerMessage.getD "" })

def mockSubmittedMessage (partnerCode : String) : String :=
  "Mock partner " ++ partnerCode ++ ": transfer submitted, waiting settlement"

def mockSettledMessage (partnerCode : String) : String :=
  "Mock partner " ++ partnerCode ++ ": settlement completed"

def initiateTransfer (data : InitiateTransferRequest) :
    TransfersHandler (Except TransfersError TransferResponse) := do
  let partnerCode := normalizeKnownPartnerCode env data.partnerCode
  if Number.round data.amount ≤ 0 then pure (.error .invalidAmount)
  else match ← askTransfers (.findByTransactionId data.transactionId) with
    | none => pure (.error .queryFailed)
    | some (some existed) =>
      pure (.ok
        { status := existed.status
          partnerRef := existed.partnerRef
          partnerMessage := existed.partnerMessage.getD "Already submitted" })
    | some none => do
      let digits ← askTransfers .referenceDigits
      match resolvePartnerRuntimeConfig env partnerCode with
      | some config => do
        let answer ← askTransfers (.initiate config data)
        let result := initiateViaPartner env config data.transferType answer
        recordTransfer env data partnerCode
          { result with partnerRef := orElse result.partnerRef (partnerCode ++ "-" ++ digits) }
      | none => do
        let digits ← askTransfers .referenceDigits
        recordTransfer env data partnerCode
          { status := .submitted
            partnerRef := partnerCode ++ "-MOCK-" ++ digits
            partnerMessage := mockSubmittedMessage partnerCode }

def checkResponse (transfer : ExternalTransfer) : CheckResponse where
  status := transfer.status
  partnerMessage := transfer.partnerMessage.getD ""

def saveChecked (transfer : ExternalTransfer) :
    TransfersHandler (Except TransfersError CheckResponse) := do
  match ← askTransfers (.saveTransfer transfer) with
  | none => pure (.error .queryFailed)
  | some saved => pure (.ok (checkResponse saved))

-- What a check does with what the partner has said.
def applyRemote (transfer : ExternalTransfer) : Option (ExternalTransferStatus × String) →
    TransfersHandler (Except TransfersError CheckResponse)
  | none | some (.submitted, _) => pure (.ok (checkResponse transfer))
  | some (status, message) => saveChecked { transfer with status, partnerMessage := some message }

def checkTransfer (data : CheckTransferRequest) :
    TransfersHandler (Except TransfersError CheckResponse) := do
  match ← askTransfers (.findByPartnerRef data.partnerRef) with
  | none => pure (.error .queryFailed)
  | some none => pure (.ok { status := .failed, partnerMessage := "Partner reference not found" })
  | some (some transfer) =>
    if transfer.status ≠ .submitted then pure (.ok (checkResponse transfer))
    else
      let partnerCode := normalizeKnownPartnerCode env (orElse transfer.partnerCode data.partnerCode)
      match resolvePartnerRuntimeConfig env partnerCode with
      | some config => do
        let reply ← askTransfers (.check config transfer)
        applyRemote transfer (checkViaPartner env config reply)
      | none => do
        let now ← askTransfers .now
        if env.mockSettleDelayMs ≤ now - transfer.createdAt then
          saveChecked
            { transfer with
              status := .settled, partnerMessage := some (mockSettledMessage partnerCode) }
        else
          saveChecked { transfer with partnerMessage := some (mockSubmittedMessage partnerCode) }

end Service

end Kufi.OutsidePayment

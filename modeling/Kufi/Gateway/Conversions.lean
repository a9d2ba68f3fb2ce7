import Kufi.Gateway.Requests

set_option autoImplicit false

/-!
# From receipts to the API and back

`receiptToDTO` and `dtoToReceipt` copy field by field and rebuild the list of
endorsements.
-/

namespace Shared.Slice

variable {A : Type}

/-- A loop of `append` over a nil slice leaves nil for no items. -/
theorem foldl_append_none (items : List A) :
    items.foldl append none = if items = [] then none else some items := by
  have kept (before rest : List A) : rest.foldl append (some before) = some (before ++ rest) := by
    induction rest generalizing before with
    | nil => simp
    | cons item rest ih => simp [append, Slice.items, ih]
  cases items with
  | nil => rfl
  | cons item rest => simpa [append, Slice.items] using kept [item] rest

@[simp] theorem items_foldl_append_none (items : List A) :
    (items.foldl append none).items = items := by
  rw [foldl_append_none]
  split
  next empty => simp [empty, Slice.items]
  next => rfl

end Shared.Slice

namespace Kufi.Gateway

open Shared

def dtoToReceipt (dto : ReceiptDTO) : Receipt where
  schemaVersion := dto.schemaVersion
  channelID := dto.channelID
  txID := dto.txID
  chaincodeID := dto.chaincodeID
  commitmentHash := dto.commitmentHash
  commitmentOpening := dto.commitmentOpening
  commitmentAlgorithm := dto.commitmentAlgorithm
  blockNumber := dto.blockNumber
  blockHash := dto.blockHash
  txIndex := dto.txIndex
  validationCode := dto.validationCode
  validationCodeName := dto.validationCodeName
  endorsements := dto.endorsements.items.foldl Slice.append none
  originMSPID := dto.originMSPID
  policyID := dto.policyID
  policyMet := dto.policyMet
  timestamps := dto.timestamps
  statusEndpoint := dto.statusEndpoint
  observation := dto.observation
  internalRef := dto.internalRef
  receiptSignature := ""
  receiptHash := dto.receiptHash

/-- No list of endorsements that is empty without being nil. -/
def Receipt.Compact (receipt : Receipt) : Prop :=
  receipt.endorsements ≠ some []

theorem build_compact (crypto : Crypto) (builder : ReceiptBuilder) (now : Time)
    (input : BuildInput) : (build crypto builder now input).Compact := by
  change (List.foldl Slice.append none _) ≠ some []
  rw [Slice.foldl_append_none]
  split
  next => exact nofun
  next listed => exact fun empty => listed (Option.some.inj empty)

theorem receiptToDTO_endorsements {receipt : Receipt} (compact : receipt.Compact) :
    (receiptToDTO receipt).endorsements = receipt.endorsements := by
  change receipt.endorsements.items.foldl Slice.append none = _
  rw [Slice.foldl_append_none]
  cases listed : receipt.endorsements with
  | none => rfl
  | some items =>
    rw [if_neg fun empty => compact (by rw [listed]; exact congrArg some empty)]
    rfl

/-- The API has no member for the signature; all else comes back. -/
theorem dtoToReceipt_receiptToDTO {receipt : Receipt} (compact : receipt.Compact) :
    dtoToReceipt (receiptToDTO receipt) = { receipt with receiptSignature := "" } := by
  have endorsements := receiptToDTO_endorsements compact
  have again : (dtoToReceipt (receiptToDTO receipt)).endorsements = receipt.endorsements := by
    change (receiptToDTO receipt).endorsements.items.foldl Slice.append none = _
    rw [endorsements]
    exact endorsements
  rw [← again]
  rfl

end Kufi.Gateway

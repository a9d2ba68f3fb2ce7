import Kufi.Chaincode.Payment
import Kufi.Shared.Unmarshal

set_option autoImplicit false

/-!
# Transfer intents as JSON

The text that the payment chaincode keeps under a transaction id, and what it
reads back from it.
-/

namespace Kufi.Chaincode

open Shared Marshal Unmarshal

namespace TransferIntent

def zero : TransferIntent := ⟨"", "", "", "", "", "", 0, 0, 0, ""⟩

def fields (intent : TransferIntent) : List (String × Option Json) :=
  [("docType", always intent.docType),
    ("txId", always intent.txID),
    ("commitmentHash", always intent.commitmentHash),
    ("internalRef", always intent.internalRef),
    ("policyId", always intent.policyID),
    ("status", always intent.status),
    ("createdAt", always intent.createdAt),
    ("updatedAt", always intent.updatedAt),
    ("settledAt", omitEmpty 0 intent.settledAt),
    ("creatorMsp", always intent.creatorMSP)]

def json (intent : TransferIntent) : Json := .struct intent.fields

/-- The text that `json.Marshal` writes. -/
def encode (intent : TransferIntent) : List Char := intent.json.encode

def read (members : Json.Members) (intent : TransferIntent) : Option TransferIntent := do
  let docType ← field intoString members "docType" intent.docType
  let txID ← field intoString members "txId" intent.txID
  let commitmentHash ← field intoString members "commitmentHash" intent.commitmentHash
  let internalRef ← field intoString members "internalRef" intent.internalRef
  let policyID ← field intoString members "policyId" intent.policyID
  let status ← field intoString members "status" intent.status
  let createdAt ← field (intoInt 64) members "createdAt" intent.createdAt
  let updatedAt ← field (intoInt 64) members "updatedAt" intent.updatedAt
  let settledAt ← field (intoInt 64) members "settledAt" intent.settledAt
  let creatorMSP ← field intoString members "creatorMsp" intent.creatorMSP
  some
    { docType, txID, commitmentHash, internalRef, policyID, status, createdAt, updatedAt,
      settledAt, creatorMSP }

/-- What `json.Unmarshal` makes of a text. -/
def decode (text : List Char) : Option TransferIntent :=
  (Json.parse text).bind fun json => intoStruct read json zero

/-- The times are 64-bit integers. -/
structure TimesHeld (intent : TransferIntent) : Prop where
  createdAt : -2 ^ 63 ≤ intent.createdAt ∧ intent.createdAt < 2 ^ 63
  updatedAt : -2 ^ 63 ≤ intent.updatedAt ∧ intent.updatedAt < 2 ^ 63
  settledAt : -2 ^ 63 ≤ intent.settledAt ∧ intent.settledAt < 2 ^ 63

theorem read_agree {intent : TransferIntent} {members : Json.Members} (held : intent.TimesHeld)
    (agree : Agree members intent.fields) : read members zero = some intent := by
  simp only [Agree, fields, List.forall_mem_cons] at agree
  obtain ⟨docType, txID, commitmentHash, internalRef, policyID, status, created, updated, settled,
    creator, -⟩ := agree
  simp only [read, zero]
  rw [field_string docType, field_string txID, field_string commitmentHash,
    field_string internalRef, field_string policyID, field_string status,
    field_int64 created held.createdAt, field_int64 updated held.updatedAt,
    field_int64_omitEmpty settled held.settledAt, field_string creator]
  rfl

theorem decode_encode {intent : TransferIntent} (held : intent.TimesHeld) :
    decode intent.encode = some intent := by
  rw [decode, encode, Json.parse_encode, Option.bind_some]
  exact intoStruct_struct_of_apart (by simp only [fields, List.map]; decide)
    fun members agree => read_agree held agree

end TransferIntent

end Kufi.Chaincode

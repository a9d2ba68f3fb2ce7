import Kufi.Chaincode.IntentJson
import Kufi.Shared.Dict

set_option autoImplicit false

/-!
# Private data of a new transfer intent

Where the chaincode stores the details that come with the proposal, and when
the peers that execute it can disagree.
-/

namespace Kufi.Chaincode.Payment

open Shared Marshal

abbrev Bytes := List UInt8

/-- A value of a `map[string]interface{}`, with the `int64` that Go makes of a number. -/
inductive InputValue where
  | text (value : String)
  | number (value : Int)
  | other
  deriving DecidableEq

abbrev InputData := Dict String InputValue

def getString (m : InputData) (key : String) : String :=
  match m.get key with
  | some (.text value) => value
  | _ => ""

def getInt64 (m : InputData) (key : String) : Int :=
  match m.get key with
  | some (.number value) => value
  | _ => 0

structure TransferDetails where
  docType : String
  txID : String
  fromID : String
  toID : String
  amountVND : Int
  memo : String
  internalRef : String
  timestamp : Int
  senderMSP : String
  receiverMSP : String
  deriving DecidableEq

def TransferDetails.json (details : TransferDetails) : Json :=
  .struct
    [("docType", always details.docType),
      ("txId", always details.txID),
      ("fromId", always details.fromID),
      ("toId", always details.toID),
      ("amountVnd", always details.amountVND),
      ("memo", omitEmpty "" details.memo),
      ("internalRef", always details.internalRef),
      ("timestamp", always details.timestamp),
      ("senderMsp", always details.senderMSP),
      ("receiverMsp", omitEmpty "" details.receiverMSP)]

def collectionIntraBankPrefix : String := "collectionIntraBank_"
def collectionInterBank : String := "collectionInterBank"
def collectionHighRisk : String := "collectionHighRisk"

def resolveIntraBankCollection (mspID : String) : String :=
  let chars := mspID.toList
  let orgName :=
    if 3 < chars.length ∧ chars.drop (chars.length - 3) = ['M', 'S', 'P'] then
      chars.take (chars.length - 3)
    else chars
  collectionIntraBankPrefix ++ String.ofList orgName

def policyCollection (policyID creatorMSP : String) : String :=
  if policyID = "inter_bank_standard" then collectionInterBank
  else if policyID = "high_risk" then collectionHighRisk
  else resolveIntraBankCollection creatorMSP

abbrev Entry := (_ : String) × Bytes

def Entry.provided (entry : Entry) : Bool := entry.2 ≠ []

/-- The order in which a loop over the transient map meets its entries. -/
structure Iteration (transientMap : Dict String Bytes) where
  entries : List Entry
  complete : entries.Perm transientMap.entries

structure PrivateWrite where
  collection : String
  key : String
  value : List Char
  deriving DecidableEq

/-- What one execution writes and announces. -/
structure Simulation where
  publicWrite : String × List Char
  privateWrite : Option PrivateWrite
  event : String × List Char
  deriving DecidableEq

/-- The standard library and the peer: reading private data, what is said of a text that is no
intent, and why a private write is refused. -/
structure Environment where
  unmarshal : Bytes → Except String InputData
  intentError : List Char → String
  putPrivateData : PrivateWrite → Option String

variable (environment : Environment) {transientMap : Dict String Bytes}

def transferDetails (txID creatorMSP : String) (inputData : InputData) : TransferDetails where
  docType := "transferDetails"
  txID := txID
  fromID := getString inputData "from_id"
  toID := getString inputData "to_id"
  amountVND := getInt64 inputData "amount_vnd"
  memo := getString inputData "memo"
  internalRef := getString inputData "internal_ref"
  timestamp := getInt64 inputData "timestamp"
  senderMSP := creatorMSP
  receiverMSP := ""

-- The first entry with data stands in for the policy's collection.
def selectEntry (collectionName : String) (iteration : Iteration transientMap) : Entry :=
  match transientMap.get collectionName with
  | some privateDataJSON => ⟨collectionName, privateDataJSON⟩
  | none => (iteration.entries.find? Entry.provided).getD ⟨collectionName, []⟩

def storeEntry (txID creatorMSP : String) (entry : Entry) : Except String (Option PrivateWrite) :=
  if entry.2 = [] then .ok none
  else
    match environment.unmarshal entry.2 with
    | .error err => .error ("failed to unmarshal private data: " ++ err)
    | .ok inputData =>
      let details := transferDetails txID creatorMSP inputData
      let write : PrivateWrite := ⟨entry.1, txID, details.json.encode⟩
      match environment.putPrivateData write with
      | some err => .error ("failed to put private data: " ++ err)
      | none => .ok (some write)

def processPrivateData (txID creatorMSP policyID : String) (iteration : Iteration transientMap) :
    Except String (Option PrivateWrite) :=
  storeEntry environment txID creatorMSP
    (selectEntry (policyCollection policyID creatorMSP) iteration)

-- The names of a Go map are written in their order.
def createdEvent (intent : TransferIntent) : String × List Char :=
  ("TransferIntentCreated",
    (Json.struct
      [("commitmentHash", always intent.commitmentHash), ("status", always "PENDING"),
        ("txId", always intent.txID)]).encode)

/-- The whole invocation, with the private data. -/
def createTransferIntent (ctx : TransactionContext) (arguments : CreateArguments)
    (getState : String → Option TransferIntent) (iteration : Iteration transientMap) :
    Except String Simulation :=
  match Chaincode.createTransferIntent ctx arguments getState with
  | .error err => .error err
  | .ok intent =>
    match processPrivateData environment ctx.txID intent.creatorMSP arguments.policyID iteration with
    | .error err => .error ("failed to process private data: " ++ err)
    | .ok privateWrite =>
      .ok ⟨(ctx.txID, intent.encode), privateWrite, createdEvent intent⟩

/-! ## Peers that meet the entries in different orders -/

/-- Why the entry is not stored, if it has data. -/
def refusal (txID creatorMSP : String) (entry : Entry) : Option String :=
  match environment.unmarshal entry.2 with
  | .error err => some ("failed to unmarshal private data: " ++ err)
  | .ok inputData =>
    let details := transferDetails txID creatorMSP inputData
    (environment.putPrivateData ⟨entry.1, txID, details.json.encode⟩).map fun err =>
      "failed to put private data: " ++ err

/-- Unless the chaincode stops before, the map has the policy's collection or its entries with
data are one at most, or are all refused for the same reason. -/
def Unambiguous (ctx : TransactionContext) (arguments : CreateArguments)
    (getState : String → Option TransferIntent) (transientMap : Dict String Bytes) : Prop :=
  ∀ creatorMSP, ctx.creatorMSP = .ok creatorMSP → getState ctx.txID = none →
    transientMap.get (policyCollection arguments.policyID creatorMSP) = none →
    ∀ first ∈ transientMap.entries, ∀ second ∈ transientMap.entries,
      Entry.provided first = true → Entry.provided second = true → first ≠ second →
      ∃ err, refusal environment ctx.txID creatorMSP first = some err ∧
        refusal environment ctx.txID creatorMSP second = some err

section

variable {environment} {txID creatorMSP err : String} {entry : Entry}

theorem storeEntry_refused (provided : Entry.provided entry = true)
    (refused : refusal environment txID creatorMSP entry = some err) :
    storeEntry environment txID creatorMSP entry = .error err := by
  have data : entry.2 ≠ [] := of_decide_eq_true provided
  rw [storeEntry, if_neg data]
  unfold refusal at refused
  split at refused
  next => exact congrArg Except.error (Option.some.inj refused)
  next =>
    obtain ⟨reason, put, rfl⟩ := Option.map_eq_some_iff.mp refused
    simp only [put]

theorem storeEntry_stored (provided : Entry.provided entry = true)
    (accepted : refusal environment txID creatorMSP entry = none) :
    ∃ value, storeEntry environment txID creatorMSP entry = .ok (some ⟨entry.1, txID, value⟩) := by
  have data : entry.2 ≠ [] := of_decide_eq_true provided
  rw [storeEntry, if_neg data]
  unfold refusal at accepted
  split at accepted
  next => cases accepted
  next =>
    have put := Option.map_eq_none_iff.mp accepted
    simp only [put]
    exact ⟨_, rfl⟩

/-- Entries of different names are stored alike only if neither is stored. -/
theorem refusal_of_same_storeEntry {first second : Entry} (provided : Entry.provided first = true)
    (provided' : Entry.provided second = true) (different : first.1 ≠ second.1)
    (same : storeEntry environment txID creatorMSP first =
      storeEntry environment txID creatorMSP second) :
    ∃ err, refusal environment txID creatorMSP first = some err ∧
      refusal environment txID creatorMSP second = some err := by
  cases refused : refusal environment txID creatorMSP first with
  | some err =>
    rw [storeEntry_refused provided refused] at same
    cases refused' : refusal environment txID creatorMSP second with
    | some err' =>
      rw [storeEntry_refused provided' refused'] at same
      exact ⟨err, rfl, congrArg some (Except.error.inj same).symm⟩
    | none =>
      obtain ⟨_, stored⟩ := storeEntry_stored provided' refused'
      rw [stored] at same
      cases same
  | none =>
    obtain ⟨_, stored⟩ := storeEntry_stored provided refused
    rw [stored] at same
    cases refused' : refusal environment txID creatorMSP second with
    | some err' =>
      rw [storeEntry_refused provided' refused'] at same
      cases same
    | none =>
      obtain ⟨_, stored'⟩ := storeEntry_stored provided' refused'
      rw [stored'] at same
      simp only [Except.ok.injEq, Option.some.injEq, PrivateWrite.mk.injEq] at same
      exact absurd same.1 different

end

/-- Every entry is the first one in some order. -/
theorem exists_iteration {entry : Entry} (listed : entry ∈ transientMap.entries)
    (provided : Entry.provided entry = true) :
    ∃ iteration : Iteration transientMap, iteration.entries.find? Entry.provided = some entry := by
  refine ⟨⟨entry :: transientMap.entries.erase entry, (List.perm_cons_erase listed).symm⟩, ?_⟩
  simp [provided]

theorem name_ne {first second : Entry} (listed : first ∈ transientMap.entries)
    (listed' : second ∈ transientMap.entries) (different : first ≠ second) :
    first.1 ≠ second.1 := by
  intro same
  exact different (List.inj_on_of_nodup_map transientMap.nodupKeys listed listed' same)

section

variable {environment} {ctx : TransactionContext} {arguments : CreateArguments}
  {getState : String → Option TransferIntent} {intent : TransferIntent}

theorem createTransferIntent_agree_iff
    (created : Chaincode.createTransferIntent ctx arguments getState = .ok intent)
    (first second : Iteration transientMap) :
    createTransferIntent environment ctx arguments getState first =
        createTransferIntent environment ctx arguments getState second ↔
      processPrivateData environment ctx.txID intent.creatorMSP arguments.policyID first =
        processPrivateData environment ctx.txID intent.creatorMSP arguments.policyID second := by
  simp only [createTransferIntent, created]
  cases processPrivateData environment ctx.txID intent.creatorMSP arguments.policyID first <;>
    cases processPrivateData environment ctx.txID intent.creatorMSP arguments.policyID second <;>
    simp

theorem createTransferIntent_intent {creatorMSP : String} (creator : ctx.creatorMSP = .ok creatorMSP)
    (free : getState ctx.txID = none) :
    ∃ intent, Chaincode.createTransferIntent ctx arguments getState = .ok intent ∧
      intent.creatorMSP = creatorMSP := by
  refine ⟨_, by simp only [Chaincode.createTransferIntent, creator, free]; rfl, rfl⟩

theorem selectEntry_find {collectionName : String} {iteration : Iteration transientMap} {entry : Entry}
    (missing : transientMap.get collectionName = none)
    (found : iteration.entries.find? Entry.provided = some entry) :
    selectEntry collectionName iteration = entry := by
  simp [selectEntry, missing, found]

/-- Two peers that choose entries of their own store neither if the map is unambiguous. -/
theorem processPrivateData_agree {creatorMSP : String} (creator : ctx.creatorMSP = .ok creatorMSP)
    (free : getState ctx.txID = none)
    (clear : Unambiguous environment ctx arguments getState transientMap)
    (first second : Iteration transientMap) :
    processPrivateData environment ctx.txID creatorMSP arguments.policyID first =
      processPrivateData environment ctx.txID creatorMSP arguments.policyID second := by
  unfold processPrivateData
  cases lookup : transientMap.get (policyCollection arguments.policyID creatorMSP) with
  | some data => simp [selectEntry, lookup]
  | none =>
    have unambiguous := clear creatorMSP creator free lookup
    cases chosen : first.entries.find? Entry.provided with
    | none =>
      have empty : second.entries.find? Entry.provided = none := by
        rw [List.find?_eq_none] at chosen ⊢
        intro entry listed
        exact chosen entry ((second.complete.trans first.complete.symm).subset listed)
      simp [selectEntry, lookup, chosen, empty]
    | some entry =>
      have listed := first.complete.subset (List.mem_of_find?_eq_some chosen)
      have provided := List.find?_some chosen
      cases chosen' : second.entries.find? Entry.provided with
      | none =>
        have unprovided := List.find?_eq_none.mp chosen' entry (second.complete.symm.subset listed)
        exact absurd provided unprovided
      | some entry' =>
        rw [selectEntry_find lookup chosen, selectEntry_find lookup chosen']
        by_cases same : entry = entry'
        · rw [same]
        · have listed' := second.complete.subset (List.mem_of_find?_eq_some chosen')
          have provided' := List.find?_some chosen'
          obtain ⟨err, refused, refused'⟩ :=
            unambiguous entry listed entry' listed' provided provided' same
          rw [storeEntry_refused provided refused, storeEntry_refused provided' refused']

theorem unambiguous_of_agree
    (agree : ∀ first second : Iteration transientMap,
      createTransferIntent environment ctx arguments getState first =
        createTransferIntent environment ctx arguments getState second) :
    Unambiguous environment ctx arguments getState transientMap := by
  intro creatorMSP creator free missing entry listed entry' listed' provided provided' different
  obtain ⟨intent, created, rfl⟩ := createTransferIntent_intent creator free
  obtain ⟨first, chosen⟩ := exists_iteration listed provided
  obtain ⟨second, chosen'⟩ := exists_iteration listed' provided'
  have same := (createTransferIntent_agree_iff created first second).mp (agree first second)
  unfold processPrivateData at same
  rw [selectEntry_find missing chosen, selectEntry_find missing chosen'] at same
  exact refusal_of_same_storeEntry provided provided' (name_ne listed listed' different) same

/-- The peers agree whatever the order exactly if the map is unambiguous. -/
theorem peers_agree_iff :
    (∀ first second : Iteration transientMap,
      createTransferIntent environment ctx arguments getState first =
        createTransferIntent environment ctx arguments getState second) ↔
      Unambiguous environment ctx arguments getState transientMap := by
  refine ⟨unambiguous_of_agree, fun clear first second => ?_⟩
  cases created : Chaincode.createTransferIntent ctx arguments getState with
  | error err => simp [createTransferIntent, created]
  | ok intent =>
    have found := createTransferIntent_created created
    exact (createTransferIntent_agree_iff created first second).mpr
      (processPrivateData_agree found.creator found.free clear first second)

end

/-! ## Two collections, neither of them the policy's -/

def emptyObject : Bytes := [0x7B, 0x7D]

def lenientPeer : Environment where
  unmarshal data :=
    if data = emptyObject then .ok ∅ else .error "unexpected end of JSON input"
  intentError _ := "unexpected end of JSON input"
  putPrivateData _ := none

def twoCollections : Dict String Bytes :=
  (Dict.set ∅ "collectionHighRisk" emptyObject).set "collectionIntraBank_VPBank" emptyObject

def interBankContext : TransactionContext := ⟨"tx1", .ok "VPBankMSP", 1700000000, 0⟩
def interBankArguments : CreateArguments := ⟨"c0ffee", "ref1", "inter_bank_standard"⟩

theorem peers_disagree_twoCollections :
    ¬ ∀ first second : Iteration twoCollections,
      createTransferIntent lenientPeer interBankContext interBankArguments (fun _ => none) first =
        createTransferIntent lenientPeer interBankContext interBankArguments (fun _ => none)
          second := by
  intro agree
  obtain ⟨err, refused, -⟩ :=
    unambiguous_of_agree agree "VPBankMSP" rfl rfl (by decide)
      ⟨"collectionHighRisk", emptyObject⟩ (by decide)
      ⟨"collectionIntraBank_VPBank", emptyObject⟩ (by decide) (by decide) (by decide) (by decide)
  have accepted :
      refusal lenientPeer "tx1" "VPBankMSP" ⟨"collectionHighRisk", emptyObject⟩ = none := rfl
  exact Option.some_ne_none err (refused.symm.trans accepted)

end Kufi.Chaincode.Payment

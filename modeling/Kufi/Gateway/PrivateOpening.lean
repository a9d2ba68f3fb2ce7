import Kufi.Chaincode.PrivateData
import Kufi.Gateway.Handlers
import Kufi.Gateway.TamperEvidence

set_option autoImplicit false

/-!
# Private data of a transfer

The gateway sends the details of a transfer twice: hashed, as the opening of
its commitment, and in the transient map, from which the chaincode stores them.
On the second way the integers become `float64`.
-/

namespace Kufi.Gateway

open Shared Marshal Chaincode Payment

/-! ## Reading a `map[string]interface{}` -/

/-- The values of Go's `int64`. -/
def InInt64 (n : Int) : Prop := -2 ^ 63 ≤ n ∧ n < 2 ^ 63

instance (n : Int) : Decidable (InInt64 n) := inferInstanceAs (Decidable (_ ∧ _))

section

-- What the platform makes of a `float64` that no `int64` is; Go leaves it open.
variable (outside : Int → Int)

/-- `int64(val)` of an integral `float64`. -/
def toInt64 (val : Int) : Int := if InInt64 val then val else outside val

-- The numbers of the gateway's data are integers; the parser rounds them to `float64`.
def inputValue : Json → InputValue
  | .string text => .text text
  | .number n => .number (toInt64 outside (Number.round n))
  | _ => .other

def inputData (members : Json.Members) : InputData :=
  members.foldl (fun data member => data.set member.1 (inputValue outside member.2)) ∅

/-- `json.Unmarshal` into a map. -/
def unmarshalInput (data : Bytes) : Except String InputData :=
  match Json.parse (decodeUtf8 data.length data) with
  | some (.object members) => .ok (inputData outside members)
  | some .null => .ok ∅
  | some _ => .error "json: cannot unmarshal value into Go value of type map[string]interface {}"
  | none => .error "invalid JSON text"

end

/-- Nothing of the integer is lost on the way through a `float64`: either a double holds it, or
the platform makes it of the double that no `int64` is. -/
def Carried (outside : Int → Int) (n : Int) : Prop :=
  Number.Exact n ∨ Number.round n = 2 ^ 63 ∧ outside (2 ^ 63) = n

instance (outside : Int → Int) (n : Int) : Decidable (Carried outside n) :=
  inferInstanceAs (Decidable (_ ∨ _))

/-! ## What an invocation stores -/

def Round.sendsPrivateData : Round → Bool
  | .crossOrg => true
  | .originOnly => true
  | .withoutPrivateData _ => false

/-- The transient map of a proposal. -/
def Invocation.transientMap (invocation : Invocation) : Dict String Bytes :=
  invocation.transient.foldl (fun map entry => map.set entry.1 entry.2) ∅

theorem TransferDetails.encode_injective {first second : TransferDetails}
    (same : first.json.encode = second.json.encode) : first = second := by
  have json := Json.encode_injective same
  cases first
  cases second
  simpa using Json.struct_injective (by rfl) (by simp) json

/-- The details have the values of the opening. -/
structure Opens (details : TransferDetails) (opening : TransferCommitment) : Prop where
  fromID : details.fromID = opening.fromID
  toID : details.toID = opening.toID
  amountVND : details.amountVND = opening.amountVND
  internalRef : details.internalRef = opening.internalRef
  timestamp : details.timestamp = opening.timestamp

/-- The private write opens the commitment that the public intent has the hash of. -/
def OpensCommitment (crypto : Crypto) (simulation : Simulation) (opening : TransferCommitment) :
    Prop :=
  ∃ intent : TransferIntent, simulation.publicWrite.2 = intent.encode ∧
    intent.commitmentHash = computeCommitmentHash crypto.sha256 opening ∧
    ∃ write details, simulation.privateWrite = some write ∧
      write.value = details.json.encode ∧ Opens details opening

/-! ## Numbers -/

section

variable {outside : Int → Int} {n : Int}

theorem round_in_int64 (held : InInt64 n) :
    InInt64 (Number.round n) ∨ Number.round n = 2 ^ 63 := by
  obtain ⟨low, high⟩ := held
  have rounded := @Number.roundNat_le n.natAbs 63 (by omega)
  unfold InInt64 Number.round
  split_ifs <;> omega

/-- An integer is carried exactly if it comes out of the conversions unchanged. -/
theorem toInt64_round_eq_iff (held : InInt64 n) :
    toInt64 outside (Number.round n) = n ↔ Carried outside n := by
  unfold toInt64 Carried
  split_ifs with inside
  · constructor
    · intro same
      exact .inl ((Number.round_eq_iff n).mp same)
    · rintro (precise | ⟨top, -⟩)
      · exact (Number.round_eq_iff n).mpr precise
      · rw [top] at inside
        exact absurd inside.2 (by decide)
  · have top := (round_in_int64 held).resolve_left inside
    rw [top]
    constructor
    · exact fun same => .inr ⟨rfl, same⟩
    · rintro (precise | ⟨-, same⟩)
      · rw [(Number.round_eq_iff n).mpr precise] at inside
        exact absurd held inside
      · exact same

end

/-! ## Storing the details of a request -/

section

variable {config : Config} {crypto : Crypto} {req : TransferRequest} {round : Round}

/-- What the chaincode stores of a request. -/
def storedDetails (outside : Int → Int) (txID creatorMSP : String) (req : TransferRequest) :
    TransferDetails where
  docType := "transferDetails"
  txID := txID
  fromID := req.fromID
  toID := req.toID
  amountVND := toInt64 outside (Number.round req.amountVND)
  memo := req.memo
  internalRef := req.internalRef
  timestamp := toInt64 outside (Number.round req.timestamp)
  senderMSP := creatorMSP
  receiverMSP := ""

def inputMembers (req : TransferRequest) : Json.Members :=
  [("amount_vnd", .number req.amountVND), ("from_id", .string req.fromID),
    ("internal_ref", .string req.internalRef), ("memo", .string req.memo),
    ("timestamp", .number req.timestamp), ("to_id", .string req.toID)]

theorem privateData_eq (req : TransferRequest) :
    privateData req = utf8 (Json.object (inputMembers req)).encode := rfl

theorem privateData_ne_nil (req : TransferRequest) : privateData req ≠ [] := by
  intro empty
  rw [privateData_eq] at empty
  have none := utf8_injective (empty.trans (show ([] : Bytes) = utf8 [] from rfl))
  obtain ⟨c, rest, head, -⟩ := Json.encode_head (.object (inputMembers req))
  rw [head] at none
  cases none

/-- The chaincode reads the strings that the gateway wrote, and the numbers as `float64`. -/
theorem unmarshalInput_privateData (outside : Int → Int) (req : TransferRequest) :
    unmarshalInput outside (privateData req) = .ok (inputData outside (inputMembers req)) := by
  rw [unmarshalInput, privateData_eq, decodeUtf8_utf8 _ le_rfl, Json.parse_encode]

theorem transferDetails_inputData (outside : Int → Int) (txID creatorMSP : String)
    (req : TransferRequest) :
    transferDetails txID creatorMSP (inputData outside (inputMembers req)) =
      storedDetails outside txID creatorMSP req := by
  simp [transferDetails, storedDetails, inputData, inputMembers, inputValue, getString, getInt64,
    Dict.get_set]

/-- Whichever collection the policy names, a proposal with one entry stores that entry. -/
theorem selectEntry_single {name chosen : String} {data : Bytes} (provided : data ≠ [])
    (iteration : Iteration (Dict.set ∅ name data)) :
    selectEntry chosen iteration = ⟨name, data⟩ := by
  unfold selectEntry
  rw [Dict.get_set]
  by_cases same : chosen = name
  · simp [same]
  · have entries : iteration.entries = [⟨name, data⟩] :=
      List.perm_singleton.mp iteration.complete
    simp [same, entries, Entry.provided, provided]

section

variable {peer : Environment} {outside : Int → Int} {ctx : TransactionContext}
  {getState : String → Option TransferIntent} {simulation : Simulation}

/-- A peer that reads private data as Go does. -/
def reading (outside : Int → Int) (peer : Environment) : Environment :=
  { peer with unmarshal := unmarshalInput outside }

theorem storeEntry_privateData {txID creatorMSP name : String} {write : PrivateWrite}
    (stored : storeEntry (reading outside peer) txID creatorMSP ⟨name, privateData req⟩ =
      .ok (some write)) :
    write.value = (storedDetails outside txID creatorMSP req).json.encode := by
  rw [storeEntry, if_neg (privateData_ne_nil req)] at stored
  simp only [reading, unmarshalInput_privateData, transferDetails_inputData] at stored
  split at stored
  next => cases stored
  next =>
    rw [← Option.some.inj (Except.ok.inj stored)]

theorem processPrivateData_stored {txID creatorMSP policyID : String} {write : PrivateWrite}
    (iteration : Iteration (invocation config crypto req round).transientMap)
    (stored : processPrivateData (reading outside peer) txID creatorMSP policyID iteration =
      .ok (some write)) :
    write.value = (storedDetails outside txID creatorMSP req).json.encode := by
  unfold processPrivateData at stored
  cases round with
  | crossOrg | originOnly =>
    have chosen : selectEntry (policyCollection policyID creatorMSP) iteration =
        ⟨collectionName config req, privateData req⟩ :=
      selectEntry_single (privateData_ne_nil req) iteration
    rw [chosen] at stored
    exact storeEntry_privateData stored
  | withoutPrivateData endorsingOrgs =>
    have entries : iteration.entries = [] := List.perm_nil.mp iteration.complete
    have chosen : selectEntry (policyCollection policyID creatorMSP) iteration =
        ⟨policyCollection policyID creatorMSP, []⟩ := by
      simp only [selectEntry, entries]
      rfl
    rw [chosen, storeEntry, if_pos rfl] at stored
    cases stored

theorem storedDetails_opens_iff {txID creatorMSP : String} :
    Opens (storedDetails outside txID creatorMSP req) (commitmentOf config req) ↔
      toInt64 outside (Number.round req.amountVND) = req.amountVND ∧
        toInt64 outside (Number.round req.timestamp) = req.timestamp := by
  constructor
  · exact fun opens => ⟨opens.amountVND, opens.timestamp⟩
  · exact fun same => ⟨rfl, rfl, same.1, rfl, same.2⟩

/-- Only the numbers of the stored details can differ from the opening. -/
theorem opensCommitment_iff_unchanged
    (iteration : Iteration (invocation config crypto req round).transientMap)
    (created : Payment.createTransferIntent (reading outside peer) ctx
      (invocation config crypto req round).arguments getState iteration = .ok simulation)
    (stored : simulation.privateWrite ≠ none) :
    OpensCommitment crypto simulation (commitmentOf config req) ↔
      toInt64 outside (Number.round req.amountVND) = req.amountVND ∧
        toInt64 outside (Number.round req.timestamp) = req.timestamp := by
  unfold Payment.createTransferIntent at created
  split at created
  next => cases created
  next intent fresh =>
    have written := createTransferIntent_created fresh
    split at created
    next => cases created
    next privateWrite processed =>
      obtain rfl := Except.ok.inj created
      obtain ⟨write, rfl⟩ := Option.ne_none_iff_exists'.mp stored
      have value := processPrivateData_stored iteration processed
      rw [← storedDetails_opens_iff]
      constructor
      · rintro ⟨_, -, -, _, details, kept, encoded, opens⟩
        obtain rfl := Option.some.inj kept
        rw [← TransferDetails.encode_injective (value.symm.trans encoded)] at opens
        exact opens
      · exact fun opens =>
          ⟨intent, rfl, written.commitmentHash, write, _, rfl, value, opens⟩

/-- The stored details open the commitment of the public intent exactly if the amount and the
timestamp are carried. -/
theorem private_data_opens_commitment_iff (held : InInt64 req.amountVND)
    (held' : InInt64 req.timestamp)
    (iteration : Iteration (invocation config crypto req round).transientMap)
    (created : Payment.createTransferIntent (reading outside peer) ctx
      (invocation config crypto req round).arguments getState iteration = .ok simulation)
    (stored : simulation.privateWrite ≠ none) :
    OpensCommitment crypto simulation (commitmentOf config req) ↔
      Carried outside req.amountVND ∧ Carried outside req.timestamp := by
  rw [opensCommitment_iff_unchanged iteration created stored, toInt64_round_eq_iff held,
    toInt64_round_eq_iff held']

/-- A peer of the creator that keeps private data stores the details of a new transfer. -/
theorem createTransferIntent_stores {creatorMSP : String} (sent : round.sendsPrivateData = true)
    (creator : ctx.creatorMSP = .ok creatorMSP) (free : getState ctx.txID = none)
    (keeps : ∀ write, peer.putPrivateData write = none)
    (iteration : Iteration (invocation config crypto req round).transientMap) :
    ∃ simulation, Payment.createTransferIntent (reading outside peer) ctx
        (invocation config crypto req round).arguments getState iteration = .ok simulation ∧
      simulation.privateWrite ≠ none := by
  obtain ⟨intent, fresh, rfl⟩ :
      ∃ intent, Chaincode.createTransferIntent ctx (invocation config crypto req round).arguments
        getState = .ok intent ∧ intent.creatorMSP = creatorMSP :=
    createTransferIntent_intent creator free
  have chosen : selectEntry
      (policyCollection (invocation config crypto req round).arguments.policyID intent.creatorMSP)
      iteration = ⟨collectionName config req, privateData req⟩ := by
    cases round with
    | crossOrg | originOnly => exact selectEntry_single (privateData_ne_nil req) iteration
    | withoutPrivateData endorsingOrgs => cases sent
  have kept : ∀ write, (reading outside peer).putPrivateData write = none := keeps
  have read : (reading outside peer).unmarshal (privateData req) = _ :=
    unmarshalInput_privateData outside req
  simp only [Payment.createTransferIntent, fresh, processPrivateData, chosen, storeEntry,
    if_neg (privateData_ne_nil req), read, kept]
  exact ⟨_, rfl, Option.some_ne_none _⟩

end

end

/-! ## An amount that no double holds -/

def inMapOrder (transientMap : Dict String Bytes) : Iteration transientMap where
  entries := transientMap.entries
  complete := List.Perm.refl _

def bankContext : TransactionContext := ⟨"tx1", .ok "BankMSP", 1700000000, 0⟩

/-- The conversion of amd64 processors. -/
def lowest (_ : Int) : Int := -2 ^ 63

theorem bank_stores (req : TransferRequest) :
    ∃ simulation, Payment.createTransferIntent (reading lowest lenientPeer) bankContext
        (invocation bankConfig sampleCrypto req .crossOrg).arguments (fun _ => none)
        (inMapOrder (invocation bankConfig sampleCrypto req .crossOrg).transientMap) =
          .ok simulation ∧
      simulation.privateWrite ≠ none :=
  createTransferIntent_stores rfl rfl rfl (fun _ => rfl) (inMapOrder _)

theorem private_data_opens_commitment_iff_aliceTransfer :
    ∃ simulation, Payment.createTransferIntent (reading lowest lenientPeer) bankContext
        (invocation bankConfig sampleCrypto aliceTransfer .crossOrg).arguments (fun _ => none)
        (inMapOrder (invocation bankConfig sampleCrypto aliceTransfer .crossOrg).transientMap) =
          .ok simulation ∧
      (OpensCommitment sampleCrypto simulation (commitmentOf bankConfig aliceTransfer) ↔
        Carried lowest aliceTransfer.amountVND ∧ Carried lowest aliceTransfer.timestamp) := by
  obtain ⟨simulation, created, stored⟩ := bank_stores aliceTransfer
  exact ⟨simulation, created, private_data_opens_commitment_iff (by decide) (by decide)
    (inMapOrder _) created stored⟩

def vaultTransfer : TransferRequest := { aliceTransfer with amountVND := 9007199254740993 }

-- The chaincode stores 9007199254740992.
theorem private_data_alters_amount :
    ¬ ∀ (config : Config) (crypto : Crypto) (req : TransferRequest) (round : Round)
      (peer : Environment) (outside : Int → Int) (ctx : TransactionContext)
      (getState : String → Option TransferIntent)
      (iteration : Iteration (invocation config crypto req round).transientMap)
      (simulation : Simulation), req.bindErrors = [] → req.validate = none →
      InInt64 req.amountVND → InInt64 req.timestamp →
      Payment.createTransferIntent (reading outside peer) ctx
        (invocation config crypto req round).arguments getState iteration = .ok simulation →
      simulation.privateWrite ≠ none →
      OpensCommitment crypto simulation (commitmentOf config req) := by
  intro opening
  obtain ⟨simulation, created, stored⟩ := bank_stores vaultTransfer
  have opens := opening bankConfig sampleCrypto vaultTransfer .crossOrg lenientPeer lowest
    bankContext (fun _ => none) (inMapOrder _) simulation (by decide) (by decide) (by decide)
    (by decide) created stored
  have unchanged := (opensCommitment_iff_unchanged (inMapOrder _) created stored).mp opens
  exact absurd unchanged.1 (by decide)

end Kufi.Gateway

import Kufi.FabricOps.Policies
import Kufi.Gateway.HandlerSteps
import Kufi.Gateway.Conversions
import Kufi.Gateway.StoredReceipts
import Kufi.Gateway.TamperEvidence
import Kufi.Shared.Der
import Kufi.Shared.HashChains
import Mathlib.Data.List.DropRight

set_option autoImplicit false

/-!
# What a block hash is evidence of

A receipt names the block of its transaction by the hash of the block's header,
and so does another node that has observed the transaction. The header holds
the hash of the header before it, so two nodes that name one hash have one
history up to that block.
-/

namespace Kufi.Gateway

open Shared Marshal

/-! ## Block headers -/

/-- A slice has less than 2^63 bytes. -/
structure BlockHeader where
  number : UInt64
  previousHash : Bytes
  dataHash : Bytes
  previousHash_lt : previousHash.length < 2 ^ 63
  dataHash_lt : dataHash.length < 2 ^ 63
  deriving DecidableEq

structure Block where
  header : Option BlockHeader
  data : Option (List Bytes)

structure BlockInfo where
  blockNumber : Nat
  blockHash : String
  previousHash : String
  dataHash : String
  txCount : Nat
  deriving DecidableEq

/-- `asn1.Marshal` of the header. -/
def headerBytes (header : BlockHeader) : Bytes :=
  Der.sequence
    [Der.natural header.number.toNat, Der.octetString header.previousHash,
      Der.octetString header.dataHash]

def headerDigest (crypto : Crypto) (header : BlockHeader) : Bytes :=
  crypto.sha256 (headerBytes header)

def computeBlockHeaderHash (crypto : Crypto) (header : BlockHeader) : String :=
  hexEncode (headerDigest crypto header)

theorem headerBytes_injective : Function.Injective headerBytes := by
  intro first second same
  have number (header : BlockHeader) :
      (Der.naturalContent header.number.toNat).length ≤ 9 :=
    Der.length_naturalContent_le header.number.toNat_lt
  have short {n : Nat} (small : n < 256 ^ 9) : Der.Short n := Der.short_of_lt (by decide) small
  have natural (header : BlockHeader) : Der.Short (Der.naturalContent header.number.toNat).length :=
    short (by have := number header; omega)
  have previous (header : BlockHeader) : Der.Short header.previousHash.length :=
    short (by have := header.previousHash_lt; omega)
  have data (header : BlockHeader) : Der.Short header.dataHash.length :=
    short (by have := header.dataHash_lt; omega)
  have whole (header : BlockHeader) : Der.Short [Der.natural header.number.toNat,
      Der.octetString header.previousHash, Der.octetString header.dataHash].flatten.length := by
    have a := @Der.length_element_le 0x02 _ (natural header)
    have b := @Der.length_element_le 0x04 _ (previous header)
    have c := @Der.length_element_le 0x04 _ (data header)
    have := number header
    have := header.previousHash_lt
    have := header.dataHash_lt
    refine short ?_
    simp only [Der.natural, Der.octetString, List.flatten_cons, List.flatten_nil, List.length_append,
      List.length_nil]
    omega
  obtain ⟨_, content, _⟩ := Der.element_cancel (whole first) (whole second)
    (congrArg (· ++ []) (by simpa [headerBytes, Der.sequence] using same))
  simp only [List.flatten_cons, List.flatten_nil, List.append_nil] at content
  obtain ⟨_, numbers, content⟩ := Der.element_cancel (natural first) (natural second) content
  rw [← List.append_nil (Der.octetString first.dataHash),
    ← List.append_nil (Der.octetString second.dataHash)] at content
  obtain ⟨_, hashes, content⟩ := Der.element_cancel (previous first) (previous second) content
  obtain ⟨_, hashes', _⟩ := Der.element_cancel (data first) (data second) content
  have numbers := UInt64.toNat_inj.mp (Der.naturalContent_injective numbers)
  cases first
  cases second
  simp_all

theorem headerDigest_injective {crypto : Crypto} (injective : Function.Injective crypto.sha256) :
    Function.Injective (headerDigest crypto) :=
  injective.comp headerBytes_injective

/-! ## Queries of the ledger -/

structure ChannelHeader where
  channelID : String
  txID : String
  -- seconds and nanoseconds
  timestamp : Option (Int × Int)

/-- The headers are those of the payload's header, where it has one. -/
structure Payload where
  channelHeader : Option Bytes
  signatureHeader : Option Bytes
  data : Bytes

structure SerializedIdentity where
  mspID : String
  idBytes : Bytes

/-- `endorsements` are those of the endorsed action, the endorser and the signature of each. -/
structure ChaincodeActionPayload where
  endorsements : Option (List (Bytes × Bytes))

structure ProcessedTransaction where
  validationCode : Int
  envelope : Option Bytes

/-- `proto.Unmarshal` into the messages that the queries read. -/
structure Proto where
  block : Bytes → Except String Block
  processedTransaction : Bytes → Except String ProcessedTransaction
  payload : Bytes → Except String Payload
  channelHeader : Bytes → Except String ChannelHeader
  signatureHeader : Bytes → Except String Bytes
  serializedIdentity : Bytes → Except String SerializedIdentity
  transaction : Bytes → Except String (List Bytes)
  chaincodeActionPayload : Bytes → Except String ChaincodeActionPayload

/-- What the Fabric client knows of its connection and what the peer answers. -/
structure Peer where
  connected : Bool
  hasNetwork : Bool
  -- `EvaluateTransaction` of a contract: the function and its arguments
  evaluate : String → String → List String → Except String Bytes

/-- The transaction info with all that is read of it. -/
structure LedgerTransaction where
  txID : String
  validationCode : Int
  channelID : String
  timestamp : Int
  creatorMSPID : String
  creatorCert : Bytes
  endorsements : List EndorsementInfo

variable (config : Config) (crypto : Crypto) (proto : Proto)

def parseBlock (blockBytes : Bytes) : Except String BlockInfo :=
  match proto.block blockBytes with
  | .error err => .error ("failed to unmarshal block: " ++ err)
  | .ok block =>
    match block.header with
    | none => .error "block header is nil"
    | some header =>
      .ok
        { blockNumber := header.number.toNat
          previousHash := hexEncode header.previousHash
          dataHash := hexEncode header.dataHash
          blockHash := computeBlockHeaderHash crypto header
          txCount := (block.data.getD []).length }

-- The endorsements of an action; those that do not decode are left out.
def actionEndorsements (action : Bytes) : List EndorsementInfo :=
  match proto.chaincodeActionPayload action with
  | .error _ => []
  | .ok payload =>
    (payload.endorsements.getD []).filterMap fun (endorser, signature) =>
      match proto.serializedIdentity endorser with
      | .error _ => none
      | .ok sid => some { mspID := sid.mspID, certificate := sid.idBytes, signature }

def parseChannelHeader (bytes : Bytes) (txInfo : LedgerTransaction) : LedgerTransaction :=
  match proto.channelHeader bytes with
  | .error _ => txInfo
  | .ok header =>
    { txInfo with
      channelID := header.channelID
      txID := header.txID
      timestamp := match header.timestamp with
        | some (seconds, nanos) => (seconds * 1000 + nanos.tdiv 1000000).bmod (2 ^ 64)
        | none => txInfo.timestamp }

def parseCreator (bytes : Bytes) (txInfo : LedgerTransaction) : LedgerTransaction :=
  match proto.signatureHeader bytes with
  | .error _ => txInfo
  | .ok creator =>
    match proto.serializedIdentity creator with
    | .error _ => txInfo
    | .ok sid => { txInfo with creatorMSPID := sid.mspID, creatorCert := sid.idBytes }

def parsePayload (payload : Payload) (txInfo : LedgerTransaction) : LedgerTransaction :=
  let txInfo := match payload.channelHeader with
    | some bytes => parseChannelHeader proto bytes txInfo
    | none => txInfo
  let txInfo := match payload.signatureHeader with
    | some bytes => parseCreator proto bytes txInfo
    | none => txInfo
  match proto.transaction payload.data with
  | .error _ => txInfo
  | .ok actions => { txInfo with endorsements := actions.flatMap (actionEndorsements proto) }

def parseProcessedTransaction (ptBytes : Bytes) (txID : String) :
    Except String LedgerTransaction :=
  match proto.processedTransaction ptBytes with
  | .error err => .error ("failed to unmarshal processed transaction: " ++ err)
  | .ok pt =>
    let txInfo : LedgerTransaction :=
      { txID, validationCode := pt.validationCode, channelID := "", timestamp := 0
        creatorMSPID := "", creatorCert := [], endorsements := [] }
    match pt.envelope with
    | none => .ok txInfo
    | some envelope =>
      match proto.payload envelope with
      | .error _ => .ok txInfo
      | .ok payload => .ok (parsePayload proto payload txInfo)

/-- A query of the system chaincode `qscc` about the gateway's channel. -/
def qscc (peer : Peer) (function what txID : String) : Except String Bytes :=
  if peer.connected = false then .error "client not connected"
  else if peer.hasNetwork = false then .error "network not available"
  else
    match peer.evaluate "qscc" function [config.channelName, txID] with
    | .error err => .error ("failed to query " ++ what ++ " " ++ txID ++ ": " ++ err)
    | .ok bytes => .ok bytes

def getBlockByTxID (peer : Peer) (txID : String) : Except String BlockInfo := do
  let blockBytes ← qscc config peer "GetBlockByTransID" "block for tx" txID
  parseBlock crypto proto blockBytes

def getTransactionByID (peer : Peer) (txID : String) : Except String LedgerTransaction := do
  let ptBytes ← qscc config peer "GetTransactionByID" "transaction" txID
  parseProcessedTransaction proto ptBytes txID

/-- The client's `EvaluateTransaction` of the payment chaincode. -/
def evaluateTransaction (peer : Peer) (function txID : String) : Except String Bytes :=
  if peer.connected = false then .error "client not connected"
  else
    match peer.evaluate config.chaincodeName function [txID] with
    | .error err => .error ("failed to evaluate: " ++ err)
    | .ok result => .ok result

/-! ## Observations -/

structure ObservePayload where
  mspID : String
  txID : String
  blockNumber : Nat
  blockHash : String
  validationCode : Int
  observedAt : Int
  deriving DecidableEq

instance : Marshal ObservePayload where
  marshal payload := .struct
    [("msp_id", always payload.mspID),
      ("tx_id", always payload.txID),
      ("block_number", always payload.blockNumber),
      ("block_hash", always payload.blockHash),
      ("validation_code", always payload.validationCode),
      ("observed_at", always payload.observedAt)]
  injective first second same := by
    cases first
    cases second
    simpa using Json.struct_injective (by rfl) (by simp) same

/-- `signature` is that of the digest of the payload's JSON text. -/
structure ObserveResponse where
  payload : ObservePayload
  proofType : String
  payloadHash : String
  signatureHex : String
  certFingerprint : String
  deriving DecidableEq

structure Attestor where
  sign : Bytes → Except String Bytes
  certFingerprint : String

/-- The payload of what the block queries give; without a block hash it is incomplete. -/
def observedBlock (peer : Peer) (now : Time) (txID : String) : ObservePayload :=
  let payload : ObservePayload :=
    { mspID := config.mspID, txID, blockNumber := 0, blockHash := "", validationCode := 0
      observedAt := Time.unixMilli now }
  match getBlockByTxID config crypto proto peer txID with
  | .error _ => payload
  | .ok blockInfo =>
    match getTransactionByID config proto peer txID with
    | .error _ => payload
    | .ok txInfo =>
      { payload with
        blockNumber := blockInfo.blockNumber
        blockHash := blockInfo.blockHash
        validationCode := txInfo.validationCode }

def errorText : Except String BlockInfo → String
  | .error err => err
  | .ok _ => ""

/-- Without a block hash the intent has to be in the state; else what has gone wrong. -/
def missingState (peer : Peer) (txID : String) : Option String :=
  let details := errorText (getBlockByTxID config crypto proto peer txID)
  match evaluateTransaction config peer "QueryTransfer" txID with
  | .error err => some (if details = "" then err else details ++ " | " ++ err)
  | .ok [] => some details
  | .ok _ => none

def attested (attestor : Attestor) (respondedAt : Time) (payload : ObservePayload) :
    Except Reply ObserveResponse :=
  let digest := crypto.sha256 (utf8 (Marshal.marshal payload).encode)
  match attestor.sign digest with
  | .error err =>
    .error (.failure 500
      { code := "INTERNAL_ERROR", message := "Failed to sign observation", details := err }
      (Time.unixMilli respondedAt))
  | .ok sig =>
    .ok
      { payload
        proofType := if payload.blockHash ≠ "" then "block_commit" else "state_presence"
        payloadHash := hexEncode digest
        signatureHex := hexEncode sig
        certFingerprint := attestor.certFingerprint }

def trimSpace (text : String) : String :=
  String.ofList ((text.toList.dropWhile FabricOps.isSpace).rdropWhile FabricOps.isSpace)

/-- `param` is the `tx_id` of the route. -/
def observeTransaction (peer : Peer) (attestor : Attestor) (now respondedAt : Time)
    (param : String) : Except Reply ObserveResponse :=
  let txID := trimSpace param
  if txID = "" then
    .error (.failure 400
      { code := "BAD_REQUEST", message := "Transaction ID required", details := "" }
      (Time.unixMilli respondedAt))
  else
    let payload := observedBlock config crypto proto peer now txID
    if payload.blockHash ≠ "" then attested crypto attestor respondedAt payload
    else
      match missingState config crypto proto peer txID with
      | some details =>
        .error (.failure 404
          { code := "NOT_FOUND", message := "Transaction not found on this node ledger", details }
          (Time.unixMilli respondedAt))
      | none => attested crypto attestor respondedAt { payload with validationCode := 0 }

/-! ## One history -/

/-- The chain of a peer: each header holds the hash of the one before, the first one none. -/
def IsLedger (crypto : Crypto) (chain : List BlockHeader) : Prop :=
  Linked BlockHeader.previousHash (headerDigest crypto) [] chain

/-- The blocks that a peer answers with are on this chain. -/
def Serves (peer : Peer) (chain : List BlockHeader) : Prop :=
  ∀ txID bytes block header,
    peer.evaluate "qscc" "GetBlockByTransID" [config.channelName, txID] = .ok bytes →
      proto.block bytes = .ok block → block.header = some header → header ∈ chain

/-- Where a block hash of a receipt comes from: nowhere, a block or the text in its place. -/
def Evidenced (chain : List BlockHeader) (blockHash : String) : Prop :=
  blockHash = "" ∨ (∃ header ∈ chain, blockHash = computeBlockHeaderHash crypto header) ∨
    ∃ text, blockHash = hexEncode (crypto.sha256 (utf8 ('b' :: text)))

section

variable {config : Config} {crypto : Crypto} {proto : Proto} {chain chain' : List BlockHeader}

theorem getBlockByTxID_eq_ok {peer : Peer} {txID : String} {info : BlockInfo}
    (serves : Serves config proto peer chain)
    (found : getBlockByTxID config crypto proto peer txID = .ok info) :
    ∃ header ∈ chain, info.blockHash = computeBlockHeaderHash crypto header ∧
      info.blockNumber = header.number.toNat := by
  cases queried : qscc config peer "GetBlockByTransID" "block for tx" txID with
  | error err =>
    rw [getBlockByTxID, queried] at found
    cases found
  | ok bytes =>
    rw [getBlockByTxID, queried] at found
    change parseBlock crypto proto bytes = .ok info at found
    have answered : peer.evaluate "qscc" "GetBlockByTransID" [config.channelName, txID] =
        .ok bytes := by
      unfold qscc at queried
      split_ifs at queried
      split at queried
      · cases queried
      next answer answered => exact Except.ok.inj queried ▸ answered
    unfold parseBlock at found
    split at found
    · cases found
    next block decoded =>
      split at found
      · cases found
      next header own =>
        obtain rfl := Except.ok.inj found
        exact ⟨header, serves txID bytes block header answered decoded own, rfl, rfl⟩

theorem fallbackBlockHash_evidenced (req : TransferRequest) (result : SubmitResult) :
    Evidenced crypto chain (fallbackBlockHash config crypto req result) := by
  right
  right
  refine ⟨("lock:" ++ toString result.blockNumber ++ ":tx:" ++ result.txID ++ ":commit:" ++
    computeCommitmentHash crypto.sha256 (commitmentOf config req)).toList, ?_⟩
  unfold fallbackBlockHash
  simp [String.toList_append]

theorem attested_eq_ok {attestor : Attestor} {respondedAt : Time} {payload : ObservePayload}
    {response : ObserveResponse}
    (answered : attested crypto attestor respondedAt payload = .ok response) :
    response.payload = payload ∧
      (response.proofType = "block_commit" ↔ payload.blockHash ≠ "") := by
  unfold attested at answered
  dsimp only at answered
  split at answered
  · cases answered
  · obtain rfl := Except.ok.inj answered
    refine ⟨rfl, ?_⟩
    by_cases empty : payload.blockHash = "" <;> simp [empty]

/-- A node attests a block commit of a block that its peer has given for the transaction. -/
theorem observeTransaction_commit {peer : Peer} {attestor : Attestor} {now respondedAt : Time}
    {param : String} {response : ObserveResponse} (serves : Serves config proto peer chain)
    (observed : observeTransaction config crypto proto peer attestor now respondedAt param =
      .ok response) (commit : response.proofType = "block_commit") :
    ∃ header ∈ chain, response.payload.blockHash = computeBlockHeaderHash crypto header ∧
      response.payload.blockNumber = header.number.toNat := by
  unfold observeTransaction at observed
  dsimp only at observed
  split at observed
  · cases observed
  split at observed
  next =>
    obtain ⟨same, proof⟩ := attested_eq_ok observed
    have known := proof.mp commit
    rw [same]
    unfold observedBlock at known ⊢
    dsimp only at known ⊢
    split at known
    · exact absurd rfl known
    next info found =>
      split at known
      · exact absurd rfl known
      next txInfo queried =>
        exact getBlockByTxID_eq_ok serves found
  next empty =>
    split at observed
    · cases observed
    · obtain ⟨_, proof⟩ := attested_eq_ok observed
      exact absurd (proof.mp commit) empty

-- DER begins with the tag of a sequence, the text in place of a block hash with its `b`.
theorem fallback_ne_header (injective : Function.Injective crypto.sha256) (text : List Char)
    (header : BlockHeader) :
    hexEncode (crypto.sha256 (utf8 ('b' :: text))) ≠ computeBlockHeaderHash crypto header := by
  intro same
  have bytes := injective (hexEncode_injective same)
  rw [utf8_cons] at bytes
  have first : some (0x62 : UInt8) = some 0x30 := congrArg List.head? bytes
  cases first

/-- Two ledgers with a block of one hash have one history up to this block. -/
theorem shared_history (injective : Function.Injective crypto.sha256)
    (nonempty : ∀ text, crypto.sha256 text ≠ []) (ledger : IsLedger crypto chain)
    (ledger' : IsLedger crypto chain') {header header' : BlockHeader} (member : header ∈ chain)
    (member' : header' ∈ chain')
    (same : computeBlockHeaderHash crypto header = computeBlockHeaderHash crypto header') :
    header = header' ∧ ∃ history, history ++ [header] <+: chain ∧ history ++ [header] <+: chain' := by
  obtain rfl := headerDigest_injective injective (hexEncode_injective same)
  obtain ⟨history, later, rfl⟩ := List.append_of_mem member
  obtain ⟨history', later', rfl⟩ := List.append_of_mem member'
  have initial : history ++ [header] <+: history ++ header :: later := ⟨later, by simp⟩
  have initial' : history' ++ [header] <+: history' ++ header :: later' := ⟨later', by simp⟩
  obtain rfl : history = history' :=
    Linked.history_eq (headerDigest_injective injective) (fun b => nonempty _)
      (ledger.initial initial) (ledger'.initial initial')
  exact ⟨rfl, history, initial, initial'⟩

end

/-! ## Runs -/

/-- What a handler holds on its way to the store has a block hash of known origin. -/
def Stage.Evidenced (crypto : Crypto) (chain : List BlockHeader) : Stage → Prop
  | .queryTransaction _ _ _ blockHash => Kufi.Gateway.Evidenced crypto chain blockHash
  | .build _ input => Kufi.Gateway.Evidenced crypto chain input.blockHash
  | .storeReceipt _ receipt | .storeRebuilt _ receipt | .queryLedger _ receipt
  | .rebuild _ receipt _ => Kufi.Gateway.Evidenced crypto chain receipt.blockHash
  | _ => True

def Receipt.Evidenced (crypto : Crypto) (chain : List BlockHeader) (receipt : Receipt) : Prop :=
  Kufi.Gateway.Evidenced crypto chain receipt.blockHash

section

variable {I : Type}

def block? : Answer ⊕ Event → Option (Except String String)
  | .inl (.block queried) => some queried
  | _ => none

/-- The transaction whose block is asked for. -/
def queriedTx? : Stage → Option String
  | .queryBlock _ _ result => some result.txID
  | _ => none

/-- The block queries are answered by the gateway's peer, as it answers at that time. -/
def AsksPeer (peer : Time → Peer) (world : GatewayWorld I) (i : I) (action : Answer ⊕ Event) :
    Prop :=
  ∀ queried ∈ block? action, ∀ txID ∈ (world.stage? i).bind queriedTx?,
    queried = (getBlockByTxID config crypto proto (peer world.shared.state.now) txID).map
      BlockInfo.blockHash

instance (peer : Time → Peer) (world : GatewayWorld I) (i : I) (action : Answer ⊕ Event) :
    Decidable (AsksPeer config crypto proto peer world i action) := by
  unfold AsksPeer
  infer_instance

variable {config : Config} {crypto : Crypto} {proto : Proto} {peer : Time → Peer}
  {chain chain' : List BlockHeader} {world : GatewayWorld I} {i : I}

theorem Stage.Moves.evidenced {s after : Node} {stage next : Stage} {answer : Answer}
    (moves : Stage.Moves config crypto s answer stage after next)
    (every : s.stores.Every (Receipt.Evidenced crypto chain)) (own : stage.Evidenced crypto chain)
    (queried : ∀ req clientSubmitTime result blockHash,
      stage = .queryBlock req clientSubmitTime result →
      next = .queryTransaction req clientSubmitTime result blockHash →
        Kufi.Gateway.Evidenced crypto chain blockHash) :
    after.stores.Every (Receipt.Evidenced crypto chain) ∧ next.Evidenced crypto chain := by
  cases moves with
  | @begin call =>
    refine ⟨every, ?_⟩
    cases call <;> simp only [Call.begin] <;> split <;> try split
    all_goals trivial
  | addNonce => exact ⟨every.addNonce, trivial⟩
  | queryBlock => exact ⟨every, queried _ _ _ _ rfl rfl⟩
  | queryTransaction => exact ⟨every, own⟩
  | build => exact ⟨every, own⟩
  | storeReceipt => exact ⟨every.storeReceipt own, trivial⟩
  | storeKey => exact ⟨every.storeKey, trivial⟩
  | unendorsed found => exact ⟨every, every.memory _ _ found⟩
  | queryLedger => exact ⟨every, own⟩
  | rebuild => exact ⟨every, own⟩
  | storeRebuilt => exact ⟨every.storeReceipt own, trivial⟩
  | _ => exact ⟨every, trivial⟩

/-- The hash that a handler goes on with is the one it was answered, or the text in its place. -/
theorem Stage.step_queryBlock {s after : Node} {req : TransferRequest} {clientSubmitTime : Time}
    {result : SubmitResult} {blockHash : String} {answer : Answer}
    (stepped : Stage.step config crypto s (.queryBlock req clientSubmitTime result) answer =
      some (after, .queryTransaction req clientSubmitTime result blockHash)) :
    ∃ queried, answer = .block queried ∧
      (queried = .ok blockHash ∨ blockHash = fallbackBlockHash config crypto req result) := by
  cases answer with
  | block queried =>
    obtain ⟨_, same⟩ := Prod.mk.inj (Option.some.inj stepped)
    refine ⟨queried, rfl, ?_⟩
    cases queried with
    | ok answered =>
      injection same with _ _ _ same
      exact .inl (congrArg Except.ok same)
    | error err =>
      injection same with _ _ _ same
      exact .inr same.symm
  | _ => cases stepped

structure HashesKept (crypto : Crypto) (chain : List BlockHeader) (world : GatewayWorld I) :
    Prop where
  begun : world.Begun
  stores : world.shared.state.stores.Every (Receipt.Evidenced crypto chain)
  stages : ∀ j stage, world.Live j stage → stage.Evidenced crypto chain

theorem GatewayWorld.Installed.hashesKept (installed : world.Installed) :
    HashesKept crypto chain world := by
  refine ⟨installed.begun, ?_, fun j stage live => ?_⟩
  · rw [installed.stores]
    exact .empty
  · obtain ⟨call, rfl⟩ := installed.arriving j _ live
    trivial

theorem HashesKept.happened {event : Event} {state : Node} (kept : HashesKept crypto chain world)
    (applied : event.apply config world.shared.state = some state) :
    HashesKept crypto chain (world.happened state) := by
  refine ⟨kept.begun.happened applied, Event.every kept.stores ?_ applied, ?_⟩
  · intro _ file member receipt read
    obtain ⟨path, content⟩ := file
    cases content with
    | receipt stored =>
      obtain rfl := Option.some.inj read
      exact kept.stores.disk _ stored (mem_jsonFiles member)
    | torn => cases read
    | entry _ | nonces _ =>
      obtain rfl := Option.some.inj read
      exact .inl rfl
  · intro j stage alive
    rcases kept.begun.live_happened applied alive with ⟨call, rfl⟩ | ⟨_, before⟩
    · trivial
    · exact kept.stages j stage before

variable [DecidableEq I]

theorem fire_queryBlock {after : GatewayWorld I} {boot boot' : Nat} {req : TransferRequest}
    {clientSubmitTime : Time} {result : SubmitResult} {blockHash : String} {action : Answer ⊕ Event}
    (fired : (observedGateway config crypto).fire world i action = some after)
    (own : world.procs i = .inl { boot, stage := .queryBlock req clientSubmitTime result })
    (goes : after.procs i = .inl
      { boot := boot', stage := .queryTransaction req clientSubmitTime result blockHash }) :
    ∃ queried, action = .inl (.block queried) ∧
      (queried = .ok blockHash ∨ blockHash = fallbackBlockHash config crypto req result) := by
  obtain ⟨shared, proc, stepped, rfl⟩ := Machine.fire_eq_some.mp fired
  obtain ⟨moved, _⟩ := Machine.observed_step.mp stepped
  dsimp only at goes
  rw [Function.update_self] at goes
  subst goes
  rw [own] at moved
  obtain ⟨answer, handler, rfl, same, handled⟩ := Machine.either_step_inl.mp moved
  obtain rfl := Sum.inl.inj same
  simp only [handlers, Handler.step] at handled
  split at handled
  · obtain ⟨⟨state, next⟩, stepped, same⟩ := Option.map_eq_some_iff.mp handled
    obtain ⟨rfl, same⟩ := Prod.mk.inj same
    obtain ⟨_, rfl⟩ := Handler.mk.inj same
    obtain ⟨queried, rfl, known⟩ := Stage.step_queryBlock stepped
    exact ⟨queried, rfl, known⟩
  · cases handled

theorem HashesKept.handler {handler : Handler} {next : Stage} {answer : Answer} {state : Node}
    {shown : List Observation} (kept : HashesKept crypto chain world)
    (serves : ∀ now, Serves config proto (peer now) chain)
    (own : world.procs i = .inl handler)
    (live : world.Live i handler.stage ∨ ∃ call, handler.stage = .arriving call)
    (asks : AsksPeer config crypto proto peer world i (.inl answer))
    (fired : (observedGateway config crypto).fire world i (.inl answer) =
      some (world.moved i state shown next))
    (moves : Stage.Moves config crypto world.shared.state answer handler.stage state next) :
    HashesKept crypto chain (world.moved i state shown next) := by
  have boot := moves.boot
  have evidenced : handler.stage.Evidenced crypto chain := by
    rcases live with live | ⟨call, arriving⟩
    · exact kept.stages i _ live
    · rw [arriving]
      trivial
  obtain ⟨stores, arrives⟩ := moves.evidenced kept.stores evidenced
    fun req clientSubmitTime result blockHash stage goes => by
      subst goes
      obtain ⟨boot', stage'⟩ := handler
      dsimp only at stage live
      subst stage
      have alive := live.resolve_right nofun
      obtain ⟨queried, same, known⟩ := fire_queryBlock fired own (GatewayWorld.live_own boot)
      obtain rfl := Sum.inl.inj same
      rcases known with rfl | rfl
      · have asks := asks _ rfl result.txID (by rw [GatewayWorld.stage?_eq_some.mpr alive]; rfl)
        cases found : getBlockByTxID config crypto proto (peer world.shared.state.now) result.txID with
        | error err =>
          rw [found] at asks
          cases asks
        | ok info =>
          rw [found] at asks
          obtain rfl := Except.ok.inj asks
          obtain ⟨header, member, same, _⟩ := getBlockByTxID_eq_ok (serves _) found
          exact .inr (.inl ⟨header, member, same⟩)
      · exact fallbackBlockHash_evidenced req result
  refine ⟨kept.begun.moved boot, stores, fun j stage alive => ?_⟩
  rcases GatewayWorld.live_moved boot alive with ⟨_, rfl⟩ | ⟨_, before⟩
  · exact arrives
  · exact kept.stages j stage before

theorem hashes_kept {start : GatewayWorld I} (installed : start.Installed)
    (serves : ∀ now, Serves config proto (peer now) chain)
    (reached : (observedGateway config crypto).Reaches (AsksPeer config crypto proto peer) start
      world) : HashesKept crypto chain world := by
  refine reached.invariant (HashesKept crypto chain) installed.hashesKept ?_
  intro world i action after kept asks fired
  cases GatewayWorld.fire_moves fired with
  | handler own moves live => exact kept.handler serves own live asks fired moves
  | event applied => exact kept.happened applied

/-- A node that attests the block of a stored receipt shares the ledger up to this block. -/
theorem receipts_pin_history {start : GatewayWorld I}
    (injective : Function.Injective crypto.sha256) (nonempty : ∀ text, crypto.sha256 text ≠ [])
    (ledger : IsLedger crypto chain) (serves : ∀ now, Serves config proto (peer now) chain)
    (installed : start.Installed)
    (reached : (observedGateway config crypto).Reaches (AsksPeer config crypto proto peer) start
      world)
    {txID : String} {receipt : Receipt}
    (stored : world.shared.state.stores.receipts.get txID = some receipt)
    (config' : Config) (observer : Peer) (attestor : Attestor)
    (ledger' : IsLedger crypto chain') (serves' : Serves config' proto observer chain')
    {now respondedAt : Time} {param : String} {response : ObserveResponse}
    (observed : observeTransaction config' crypto proto observer attestor now respondedAt param =
      .ok response) (commit : response.proofType = "block_commit")
    (same : response.payload.blockHash = receipt.blockHash) :
    ∃ history header, history ++ [header] <+: chain ∧ history ++ [header] <+: chain' ∧
      receipt.blockHash = computeBlockHeaderHash crypto header ∧
        response.payload.blockNumber = header.number.toNat := by
  have kept := (hashes_kept installed serves reached).stores.memory txID receipt stored
  obtain ⟨header', member', hash', number⟩ := observeTransaction_commit serves' observed commit
  rw [hash'] at same
  rcases kept with empty | ⟨header, member, hash⟩ | ⟨text, hash⟩
  · have blank : hexEncode (headerDigest crypto header') = hexEncode [] := same.trans empty
    exact absurd (hexEncode_injective blank) (nonempty _)
  · obtain ⟨rfl, history, first, second⟩ := shared_history injective nonempty ledger ledger' member
      member' (hash.symm.trans same.symm)
    exact ⟨history, header, first, second, hash, number⟩
  · exact absurd (hash.symm.trans same.symm) (fallback_ne_header injective text header')

end

/-! ## A receipt and an observer -/

def genesisHeader : BlockHeader where
  number := 0
  previousHash := []
  dataHash := [0x5A]
  previousHash_lt := by decide
  dataHash_lt := by decide

def genesisDigest : Bytes :=
  [0x5F, 0x3F, 0xA3, 0x01, 0xE8, 0xA2, 0x1A, 0x0E, 0x84, 0x5B, 0x3D, 0x09, 0xFC, 0xC4, 0x84, 0x11,
    0x79, 0x20, 0xA5, 0x6D, 0xE2, 0x42, 0x0C, 0x3E, 0x64, 0x70, 0x34, 0x6C, 0xA6, 0x6E, 0x0D, 0x11]

def paymentHeader : BlockHeader where
  number := 1
  previousHash := genesisDigest
  dataHash := [0xA5]
  previousHash_lt := by decide
  dataHash_lt := by decide

def paymentDigest : Bytes :=
  [0xCB, 0x54, 0xEC, 0xD2, 0x75, 0xC3, 0xB3, 0x9E, 0xF6, 0x76, 0x13, 0x9A, 0x50, 0x01, 0x73, 0x35,
    0xC7, 0x4C, 0xB6, 0x2C, 0x73, 0xBA, 0x4B, 0xBB, 0x37, 0x9A, 0x5A, 0x77, 0x99, 0x2D, 0xCB, 0xDD]

-- SHA-256 on the listed texts; no digest of another text is computed.
def listedSha256 (listed : List (Bytes × Bytes)) (text : Bytes) : Bytes :=
  match listed.find? (·.1 = text) with
  | some (_, digest) => digest
  | none => 0 :: text

theorem listedSha256_cases (listed : List (Bytes × Bytes)) (text : Bytes) :
    (text, listedSha256 listed text) ∈ listed ∨ listedSha256 listed text = 0 :: text := by
  unfold listedSha256
  split
  next known digest found =>
    obtain rfl : known = text := by simpa using List.find?_some found
    exact .inl (List.mem_of_find?_eq_some found)
  next => exact .inr rfl

theorem listedSha256_injective {listed : List (Bytes × Bytes)}
    (digests : (listed.map Prod.snd).Nodup)
    (heads : ∀ pair ∈ listed, pair.2.head? ≠ some 0) :
    Function.Injective (listedSha256 listed) := by
  intro first second same
  rcases listedSha256_cases listed first with member | shape <;>
    rcases listedSha256_cases listed second with member' | shape'
  · exact congrArg Prod.fst (List.inj_on_of_nodup_map digests member member' same)
  · exact absurd (by rw [same, shape']; rfl) (heads _ member)
  · exact absurd (by rw [← same, shape]; rfl) (heads _ member')
  · rw [shape, shape'] at same
    exact (List.cons.inj same).2

def cryptoOf (listed : List (Bytes × Bytes)) : Crypto where
  sha256 := listedSha256 listed
  pemDecode _ := none
  parseCertificate _ := .error "no certificate"
  verifyCertificate _ _ _ := none

def commitmentText : Bytes := utf8 (marshal (commitmentOf bankConfig aliceTransfer)).encode

def commitmentDigest : Bytes :=
  [0xF4, 0x8F, 0xFC, 0xF6, 0xEE, 0x28, 0x3C, 0x95, 0xCE, 0x78, 0x02, 0x3D, 0x58, 0x16, 0xAC, 0xA7,
    0x3E, 0xC7, 0x2B, 0x0A, 0x1B, 0x50, 0x1A, 0xF1, 0x8C, 0x7E, 0xB8, 0x48, 0x27, 0x0E, 0x22, 0xD5]

def ledgerTexts : List (Bytes × Bytes) :=
  [(headerBytes genesisHeader, genesisDigest), (headerBytes paymentHeader, paymentDigest),
    (commitmentText, commitmentDigest)]

/-- The block's bytes are its number. -/
def numberedBlocks : Proto where
  block bytes :=
    if bytes = [0] then .ok { header := some genesisHeader, data := none }
    else if bytes = [1] then .ok { header := some paymentHeader, data := some [[1]] }
    else .error "unexpected EOF"
  processedTransaction bytes :=
    if bytes = [1] then .ok { validationCode := 0, envelope := none } else .error "unexpected EOF"
  payload _ := .error "unexpected EOF"
  channelHeader _ := .error "unexpected EOF"
  signatureHeader _ := .error "unexpected EOF"
  serializedIdentity _ := .error "unexpected EOF"
  transaction _ := .error "unexpected EOF"
  chaincodeActionPayload _ := .error "unexpected EOF"

def paymentPeer : Peer where
  connected := true
  hasNetwork := true
  evaluate contract _ args :=
    if contract = "qscc" ∧ args = ["payments", "transaction-1"] then .ok [1] else .error "not found"

def observerConfig : Config := { bankConfig with mspID := "TechcombankMSP" }

def observedPayload : ObservePayload :=
  observedBlock observerConfig (cryptoOf ledgerTexts) numberedBlocks paymentPeer bankNode.now
    "transaction-1"

def receiptText : Bytes :=
  utf8 (build (cryptoOf ledgerTexts) bankConfig.receiptBuilder bankNode.now
    (submitInput bankConfig (cryptoOf ledgerTexts) aliceTransfer bankNode.now
      { txID := "transaction-1"
        blockNumber := 1
        validationCode := 0
        endorsements := []
        commitTimestamp := bankNode.now } (hexEncode paymentDigest) none)).hashData.encode

def receiptDigest : Bytes :=
  [0x42, 0xFC, 0xB0, 0x23, 0xBB, 0x10, 0xF0, 0xD4, 0x43, 0xCC, 0x9F, 0xA6, 0xA0, 0x63, 0xAA, 0x11,
    0x3C, 0x55, 0x26, 0xA1, 0x83, 0xCE, 0x1E, 0x05, 0x02, 0x94, 0xFC, 0x79, 0xD0, 0x78, 0x80, 0xCB]

def observedDigest : Bytes :=
  [0xFA, 0xB0, 0x96, 0x9C, 0xBF, 0x05, 0x11, 0x20, 0x49, 0x0A, 0x5E, 0x91, 0x10, 0xBA, 0x7A, 0x68,
    0x5D, 0x97, 0x8F, 0xCD, 0x98, 0x09, 0xDA, 0xB8, 0x0C, 0xA6, 0xE1, 0xD7, 0xA1, 0x16, 0x71, 0x8D]

def listedTexts : List (Bytes × Bytes) :=
  ledgerTexts ++
    [(receiptText, receiptDigest), (utf8 (marshal observedPayload).encode, observedDigest)]

def techcombankAttestor : Attestor where
  sign digest := .ok digest
  certFingerprint := "fingerprint"

def paymentChain : List BlockHeader := [genesisHeader, paymentHeader]

theorem paymentPeer_serves (config : Config) :
    Serves config numberedBlocks paymentPeer paymentChain := by
  intro txID bytes block header answered decoded own
  simp only [paymentPeer] at answered
  split at answered
  · obtain rfl := Except.ok.inj answered
    obtain rfl := Except.ok.inj decoded
    obtain rfl := Option.some.inj own
    simp [paymentChain]
  · cases answered

def paid : List (Fin 3 × (Answer ⊕ Event)) :=
  callsLedger 0 ++
    [(2, .inr (.commit 0)),
      (0, .inl (.fabric (.status (.ok 1)))),
      (0, .inl .proceed),
      (0, .inl (.block (.ok (hexEncode paymentDigest)))),
      (0, .inl (.transaction (.error "not found")))] ++
    proceeds 0 4

theorem receipts_pin_history_payment :
    ∃ world receipt response, (observedGateway bankConfig (cryptoOf listedTexts)).run
        (twoCalls (.submitTransfer aliceTransfer) (.getReceipt "transaction-1")) paid = some world ∧
      world.shared.state.stores.receipts.get "transaction-1" = some receipt ∧
      observeTransaction observerConfig (cryptoOf listedTexts) numberedBlocks paymentPeer
        techcombankAttestor bankNode.now bankNode.now " transaction-1" = .ok response ∧
      ∃ history header, history ++ [header] <+: paymentChain ∧
        history ++ [header] <+: paymentChain ∧
        receipt.blockHash = computeBlockHeaderHash (cryptoOf listedTexts) header ∧
          response.payload.blockNumber = header.number.toNat := by
  have ends : ((observedGateway bankConfig (cryptoOf listedTexts)).checkedRun
      (AsksPeer bankConfig (cryptoOf listedTexts) numberedBlocks fun _ => paymentPeer)
      (twoCalls (.submitTransfer aliceTransfer) (.getReceipt "transaction-1")) paid).map (fun world =>
        (world.shared.state.stores.receipts.get "transaction-1").map Receipt.blockHash) =
      some (some (hexEncode paymentDigest)) := by decide +kernel
  have answers : (observeTransaction observerConfig (cryptoOf listedTexts) numberedBlocks paymentPeer
      techcombankAttestor bankNode.now bankNode.now " transaction-1").toOption.map
        (fun response => (response.payload.blockHash, response.proofType)) =
      some (hexEncode paymentDigest, "block_commit") := by decide +kernel
  obtain ⟨world, ran, stored⟩ := Option.map_eq_some_iff.mp ends
  obtain ⟨receipt, stored, hash⟩ := Option.map_eq_some_iff.mp stored
  obtain ⟨response, observed, facts⟩ := Option.map_eq_some_iff.mp answers
  obtain ⟨same, commit⟩ := Prod.mk.inj facts
  have observed : observeTransaction observerConfig (cryptoOf listedTexts) numberedBlocks paymentPeer
      techcombankAttestor bankNode.now bankNode.now " transaction-1" = .ok response := by
    revert observed
    generalize observeTransaction _ _ _ _ _ _ _ _ = answer
    cases answer with
    | error _ => exact nofun
    | ok _ => exact fun same => congrArg Except.ok (Option.some.inj same)
  have runs := Machine.Runs.checked .nil ran
  have injective : Function.Injective (cryptoOf listedTexts).sha256 :=
    listedSha256_injective (by decide +kernel) (by decide +kernel)
  have nonempty (text : Bytes) : (cryptoOf listedTexts).sha256 text ≠ [] := by
    rcases listedSha256_cases listedTexts text with member | shape
    · have all : ∀ pair ∈ listedTexts, pair.2 ≠ [] := by decide +kernel
      exact all _ member
    · exact fun empty => List.cons_ne_nil 0 text (shape.symm.trans empty)
  have ledger : IsLedger (cryptoOf listedTexts) paymentChain :=
    ⟨rfl, by decide +kernel, trivial⟩
  exact ⟨world, receipt, response, runs.run, stored, observed,
    receipts_pin_history injective nonempty ledger (fun _ => paymentPeer_serves bankConfig)
      (twoCalls_installed _ _) runs.reaches stored observerConfig paymentPeer techcombankAttestor
      ledger (paymentPeer_serves observerConfig) observed commit (same.trans hash.symm)⟩

end Kufi.Gateway

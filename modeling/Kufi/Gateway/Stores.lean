import Kufi.Gateway.Receipt
import Kufi.Shared.Dict
import Kufi.Shared.Path
import Kufi.Shared.Time
import Mathlib.Data.List.Sort

set_option autoImplicit false

/-!
# File stores

The three stores of the gateway: a map in memory each, and files written by
goroutines of their own that a restart reads back.
-/

namespace Kufi.Gateway

open Shared

structure IdempotencyEntry where
  receipt : Option Receipt
  expiresAt : Time
  deriving DecidableEq

inductive FileContent where
  | receipt (receipt : Receipt)
  | entry (entry : IdempotencyEntry)
  | nonces (nonces : Dict String Time)
  -- what an interrupted write leaves; no JSON
  | torn

inductive FileWrite where
  | file (path : Path) (content : FileContent)
  -- `persist` reads the nonces when it runs
  | nonces

inductive WriteOutcome where
  | written
  | failed
  | torn
  deriving DecidableEq

structure StoreConfig where
  idempotencyTTL : Duration
  nonceWindow : Duration
  dataDir : Path

structure Stores where
  receipts : Dict String Receipt
  idempotency : Dict String IdempotencyEntry
  nonces : Dict String Time
  disk : Dict Path FileContent
  writes : List FileWrite

def Stores.empty : Stores where
  receipts := ∅
  idempotency := ∅
  nonces := ∅
  disk := ∅
  writes := []

namespace StoreConfig

variable (config : StoreConfig)

def receiptDir : Path := config.dataDir ++ ["receipts"]
def idempotencyDir : Path := config.dataDir ++ ["idempotency"]
def noncesFile : Path := config.dataDir ++ ["nonces", "nonces.json"]

def receiptFile (txID : String) : Path := Path.join config.receiptDir (txID ++ ".json")
def keyFile (key : String) : Path := Path.join config.idempotencyDir (key ++ ".json")

end StoreConfig

/-! ## Reading files back

Members that a structure does not have are ignored and missing ones are zero,
so every JSON object can be read as any of the three structures.
-/

namespace FileContent

def zeroReceipt : Receipt where
  schemaVersion := ""
  channelID := ""
  txID := ""
  chaincodeID := ""
  commitmentHash := ""
  commitmentOpening := none
  commitmentAlgorithm := ""
  blockNumber := 0
  blockHash := ""
  txIndex := 0
  validationCode := 0
  validationCodeName := ""
  endorsements := none
  originMSPID := ""
  policyID := ""
  policyMet := false
  timestamps :=
    { clientSubmit := 0
      endorsementTime := 0
      ordererReceive := 0
      blockCommit := 0
      receiptCreated := 0 }
  statusEndpoint := ""
  observation := { observedAt := 0, anchorType := "", anchorRef := "" }
  internalRef := ""
  receiptSignature := ""
  receiptHash := ""

def asReceipt : FileContent → Option Receipt
  | .receipt stored => some stored
  | .entry _ | .nonces _ => some zeroReceipt
  | .torn => none

def asEntry : FileContent → Option IdempotencyEntry
  | .entry stored => some stored
  | .receipt _ | .nonces _ => some { receipt := none, expiresAt := Time.zero }
  | .torn => none

def asNonces : FileContent → Option (Dict String Time)
  | .nonces stored => some stored
  | .receipt _ | .entry _ => some ∅
  | .torn => none

end FileContent

-- The files of a directory as `os.ReadDir` lists those that end in `.json`, by stem.
def jsonFiles (disk : Dict Path FileContent) (dir : Path) : List (String × FileContent) :=
  let files := disk.entries.filterMap fun file => do
    let name ← file.1.getLast?
    let stem ← Path.stripExtension ".json" name
    if file.1.directory = dir then some (stem, file.2) else none
  files.insertionSort fun left right => left.1 ++ ".json" ≤ right.1 ++ ".json"

namespace Stores

variable (config : StoreConfig)

def loadReceipts (disk : Dict Path FileContent) : Dict String Receipt :=
  (jsonFiles disk config.receiptDir).foldl (fun receipts file =>
    match file.2.asReceipt with
    | some receipt => receipts.set receipt.txID receipt
    | none => receipts) ∅

def loadEntries (now : Time) (disk : Dict Path FileContent) : Dict String IdempotencyEntry :=
  (jsonFiles disk config.idempotencyDir).foldl (fun entries file =>
    match file.2.asEntry with
    | some entry => if entry.expiresAt < now then entries else entries.set file.1 entry
    | none => entries) ∅

-- Loading removes the files of entries that have expired.
def withoutExpired (now : Time) (disk : Dict Path FileContent) : Dict Path FileContent :=
  disk.keep fun path content =>
    !(decide (path.directory = config.idempotencyDir) &&
      (path.getLast?.bind (Path.stripExtension ".json")).isSome &&
      content.asEntry.any fun entry => decide (entry.expiresAt < now))

def loadNonces (now : Time) (disk : Dict Path FileContent) : Dict String Time :=
  match (disk.get config.noncesFile).bind FileContent.asNonces with
  | some nonces => nonces.keep fun _ timestamp => decide (now - timestamp < config.nonceWindow)
  | none => ∅

/-! ## Operations -/

def storeReceipt (txID : String) (receipt : Receipt) (s : Stores) : Stores :=
  { s with
    receipts := s.receipts.set txID receipt
    writes := s.writes ++ [.file (config.receiptFile txID) (.receipt receipt)] }

def storeKey (now : Time) (key : String) (receipt : Receipt) (s : Stores) : Stores :=
  let entry := { receipt := some receipt, expiresAt := now + config.idempotencyTTL }
  { s with
    idempotency := s.idempotency.set key entry
    writes := s.writes ++ [.file (config.keyFile key) (.entry entry)] }

def getKey (now : Time) (key : String) (s : Stores) : Option Receipt :=
  match s.idempotency.get key with
  | some entry => if entry.expiresAt < now then none else entry.receipt
  | none => none

def cleanupKeys (now : Time) (s : Stores) : Stores :=
  let expired := s.idempotency.entries.filter fun entry => decide (entry.2.expiresAt < now)
  { s with
    idempotency := s.idempotency.keep fun _ entry => !decide (entry.expiresAt < now)
    disk := expired.foldl (fun disk entry => disk.remove (config.keyFile entry.1)) s.disk }

-- Every hundredth nonce starts a goroutine that persists them all.
def addNonce (nonce : String) (timestamp : Time) (s : Stores) : Stores :=
  let nonces := s.nonces.set nonce timestamp
  { s with
    nonces
    writes := if nonces.size % 100 = 0 then s.writes ++ [.nonces] else s.writes }

def nonceExists (now : Time) (nonce : String) (s : Stores) : Bool :=
  (s.nonces.get nonce).any fun timestamp => decide (now - timestamp < config.nonceWindow)

def writeFile (path : Path) (content : FileContent) (outcome : WriteOutcome)
    (disk : Dict Path FileContent) : Dict Path FileContent :=
  match outcome with
  | .written => disk.set path content
  | .failed => disk
  | .torn => disk.set path .torn

def cleanupNonces (now : Time) (outcome : WriteOutcome) (s : Stores) : Stores :=
  let nonces := s.nonces.keep fun _ timestamp => !decide (config.nonceWindow < now - timestamp)
  { s with
    nonces
    disk := writeFile config.noncesFile (.nonces nonces) outcome s.disk }

def performWrite (write : FileWrite) (outcome : WriteOutcome) (s : Stores) : Stores :=
  match write with
  | .file path content => { s with disk := writeFile path content outcome s.disk }
  | .nonces =>
    { s with disk := writeFile config.noncesFile (.nonces s.nonces) outcome s.disk }

def finishWrite (i : Nat) (outcome : WriteOutcome) (s : Stores) : Option Stores :=
  s.writes[i]?.map fun write =>
    performWrite config write outcome { s with writes := s.writes.eraseIdx i }

-- What the process has not written by then is lost.
def restart (now : Time) (s : Stores) : Stores where
  receipts := loadReceipts config s.disk
  idempotency := loadEntries config now s.disk
  nonces := loadNonces config now s.disk
  disk := withoutExpired config now s.disk
  writes := []

end Stores

/-! ## What is read back -/

theorem mem_jsonFiles {disk : Dict Path FileContent} {dir : Path} {stem : String}
    {content : FileContent} (listed : (stem, content) ∈ jsonFiles disk dir) :
    disk.get (dir ++ [stem ++ ".json"]) = some content := by
  unfold jsonFiles at listed
  rw [List.mem_insertionSort, List.mem_filterMap] at listed
  obtain ⟨⟨path, found⟩, member, matched⟩ := listed
  simp only [bind, Option.bind_eq_some_iff] at matched
  obtain ⟨name, last, stem', stripped, inside⟩ := matched
  split at inside
  next same =>
    obtain ⟨rfl, rfl⟩ := Prod.mk.inj (Option.some.inj inside)
    have parts : path = dir ++ [stem' ++ ".json"] := by
      rw [← same, ← Path.append_of_stripExtension stripped]
      exact (List.dropLast_append_getLast? name last).symm
    exact Dict.get_eq_some.mpr (parts ▸ member)
  next => cases inside

theorem mem_jsonFiles_of_get {disk : Dict Path FileContent} {dir : Path} {stem : String}
    {content : FileContent} (stored : disk.get (dir ++ [stem ++ ".json"]) = some content) :
    (stem, content) ∈ jsonFiles disk dir := by
  unfold jsonFiles
  rw [List.mem_insertionSort, List.mem_filterMap]
  refine ⟨⟨dir ++ [stem ++ ".json"], content⟩, Dict.get_eq_some.mp stored, ?_⟩
  simp [Path.stripExtension_append, Path.directory]

theorem FileContent.eq_of_asEntry {content : FileContent} {entry : IdempotencyEntry}
    {receipt : Receipt} (read : content.asEntry = some entry) (has : entry.receipt = some receipt) :
    content = .entry entry := by
  cases content with
  | entry stored => rw [Option.some.inj read]
  | torn => cases read
  | _ =>
    obtain rfl := Option.some.inj read
    cases has

namespace Stores

theorem getKey_eq_some {s : Stores} {now : Time} {key : String} {receipt : Receipt} :
    s.getKey now key = some receipt ↔
      ∃ entry, s.idempotency.get key = some entry ∧ ¬ entry.expiresAt < now ∧
        entry.receipt = some receipt := by
  unfold getKey
  cases s.idempotency.get key with
  | none => simp
  | some entry =>
    simp only [Option.some.injEq, exists_eq_left']
    split <;> simp [*]

variable {config : StoreConfig}

theorem get_loadReceipts {disk : Dict Path FileContent} {txID : String} {receipt : Receipt}
    (loaded : (loadReceipts config disk).get txID = some receipt) :
    ∃ file ∈ jsonFiles disk config.receiptDir, file.2.asReceipt = some receipt := by
  refine (Dict.get_foldl (fun file => file.2.asReceipt = some receipt) ?_ _ ∅ loaded).resolve_right
    (fun empty => nomatch empty)
  intro receipts file found
  split at found
  next stored read =>
    rw [Dict.get_set] at found
    split at found
    next => exact .inl (read.trans found)
    next => exact .inr found
  next => exact .inr found

theorem get_loadEntries {now : Time} {disk : Dict Path FileContent} {key : String}
    {entry : IdempotencyEntry} (loaded : (loadEntries config now disk).get key = some entry) :
    ∃ content, disk.get (config.idempotencyDir ++ [key ++ ".json"]) = some content ∧
      content.asEntry = some entry := by
  have listed : ∃ file ∈ jsonFiles disk config.idempotencyDir,
      file.1 = key ∧ file.2.asEntry = some entry := by
    refine (Dict.get_foldl (fun file => file.1 = key ∧ file.2.asEntry = some entry) ?_ _ ∅
      loaded).resolve_right (fun empty => nomatch empty)
    intro entries file found
    split at found
    next stored read =>
      split at found
      next => exact .inr found
      next =>
        rw [Dict.get_set] at found
        split at found
        next same => exact .inl ⟨same.symm, read.trans found⟩
        next => exact .inr found
    next => exact .inr found
  obtain ⟨⟨stem, content⟩, member, rfl, read⟩ := listed
  exact ⟨content, mem_jsonFiles member, read⟩

theorem get_cleanupKeys_disk {s : Stores} {now : Time} {path : Path} {content : FileContent}
    (found : (s.cleanupKeys config now).disk.get path = some content) :
    s.disk.get path = some content := by
  refine (Dict.get_foldl (fun _ => False) ?_ _ _ found).resolve_left (fun ⟨_, _, never⟩ => never)
  intro disk entry kept
  rw [Dict.get_remove] at kept
  split at kept
  next => cases kept
  next => exact .inr kept

theorem get_writeFile {path target : Path} {content written : FileContent} {outcome : WriteOutcome}
    {disk : Dict Path FileContent}
    (found : (writeFile target written outcome disk).get path = some content) :
    disk.get path = some content ∨ (path = target ∧ (content = written ∨ content = .torn)) := by
  cases outcome with
  | failed => exact .inl found
  | written =>
    rw [writeFile, Dict.get_set] at found
    split at found
    next same => exact .inr ⟨same, .inl (Option.some.inj found).symm⟩
    next => exact .inl found
  | torn =>
    rw [writeFile, Dict.get_set] at found
    split at found
    next same => exact .inr ⟨same, .inr (Option.some.inj found).symm⟩
    next => exact .inl found

end Stores

end Kufi.Gateway

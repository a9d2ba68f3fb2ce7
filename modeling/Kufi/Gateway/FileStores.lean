import Kufi.Gateway.Stores
import Kufi.Shared.Interleaving
import Kufi.Shared.PendingWrites
import Mathlib.Algebra.GroupWithZero.Nat
import Mathlib.Data.List.Induction

set_option autoImplicit false

/-!
# What the file stores keep over a restart

A call changes the map at once and starts a goroutine for the file. The file
system decides whether the write of a path succeeds, and nothing orders the
writes.
-/

namespace Kufi.Gateway

open Shared

-- `os.Remove` at a path that is no file fails and changes nothing.
def Stores.deleteReceipt (config : StoreConfig) (txID : String) (s : Stores) : Stores :=
  { s with
    receipts := s.receipts.remove txID
    disk := s.disk.remove (config.receiptFile txID) }

/-! ## The operating system -/

def nameBytes (name : String) : Nat :=
  (name.toList.map Char.utf8Size).sum

structure FileSystem where
  directory : Path → Bool

/-- `os.WriteFile` succeeds at the path. -/
def FileSystem.accepts (fs : FileSystem) (path : Path) : Bool :=
  fs.directory path.directory && !fs.directory path &&
    -- `NAME_MAX`, `PATH_MAX` and the end of a C string
    path.all (fun name => decide (nameBytes name ≤ 255) && !name.toList.contains '\x00') &&
    decide ((path.map fun name => nameBytes name + 1).sum < 4096)

def FileWrite.target : FileWrite → Option (Path × FileContent)
  | .file path content => some (path, content)
  | .nonces => none

def FileSystem.outcome (fs : FileSystem) (write : FileWrite) : WriteOutcome :=
  if write.target.all (fun entry => fs.accepts entry.1) = true then .written else .failed

/-! ## Calls and writes -/

-- What a call has put under its key; a receipt that was deleted is none.
inductive StoreCall where
  | receipt (txID : String) (stored : Option Receipt)
  | key (key : String) (entry : IdempotencyEntry)

structure FileStores where
  stores : Stores
  now : Time
  -- records only
  calls : List StoreCall

inductive StoreStep where
  | storeReceipt (txID : String) (receipt : Receipt)
  | deleteReceipt (txID : String)
  | storeKey (key : String) (receipt : Receipt)
  | tick (elapsed : Nat)
  | finishWrite (i : Nat)
  | cleanupKeys
  | restart

section

variable (config : StoreConfig) (fs : FileSystem)

def FileStores.step (s : FileStores) : StoreStep → Option FileStores
  | .storeReceipt txID receipt =>
    some { s with
      stores := s.stores.storeReceipt config txID receipt
      calls := s.calls ++ [.receipt txID (some receipt)] }
  | .deleteReceipt txID =>
    some { s with
      stores := s.stores.deleteReceipt config txID
      calls := s.calls ++ [.receipt txID none] }
  | .storeKey key receipt =>
    some { s with
      stores := s.stores.storeKey config s.now key receipt
      calls := s.calls ++
        [.key key { receipt := some receipt, expiresAt := s.now + config.idempotencyTTL }] }
  | .tick elapsed => some { s with now := s.now + elapsed }
  | .finishWrite i =>
    (s.stores.writes[i]?.bind fun write => s.stores.finishWrite config i (fs.outcome write)).map
      fun stores => { s with stores }
  | .cleanupKeys => some { s with stores := s.stores.cleanupKeys config s.now }
  | .restart => some { s with stores := s.stores.restart config s.now }

def fileStores : Machine FileStores Unit StoreStep where
  step s _ step := (s.step config fs step).map fun after => (after, ())

/-! ## What the calls have stored -/

def lastReceipt (calls : List StoreCall) (txID : String) : Option Receipt :=
  calls.foldl (fun last call =>
    match call with
    | .receipt id stored => if id = txID then stored else last
    | .key _ _ => last) none

def lastEntry (calls : List StoreCall) (key : String) : Option IdempotencyEntry :=
  calls.foldl (fun last call =>
    match call with
    | .key id entry => if id = key then some entry else last
    | .receipt _ _ => last) none

def StoreCall.file : StoreCall → Path
  | .receipt txID _ => config.receiptFile txID
  | .key id _ => config.keyFile id

/-- The store and the key of a call. -/
def StoreCall.place : StoreCall → String ⊕ String
  | .receipt txID _ => .inl txID
  | .key id _ => .inr id

/-- What a restart finds once no write waits, and whose files the calls write. -/
structure Survives (s : FileStores) : Prop where
  receipts : s.stores.writes = [] → ∀ txID,
    (Stores.loadReceipts config s.stores.disk).get txID = lastReceipt s.calls txID
  entries : s.stores.writes = [] → ∀ key entry, lastEntry s.calls key = some entry →
    ¬entry.expiresAt < s.now →
      (Stores.loadEntries config s.now s.stores.disk).get key = some entry
  apart : ∀ first ∈ s.calls, ∀ second ∈ s.calls, first.file config = second.file config →
    first.place = second.place

/-! ## Steps that keep it -/

/-- The key makes the name of a file in the directory. -/
def NamesFile (dir : Path) (key : String) : Prop :=
  '/' ∉ key.toList ∧ fs.accepts (dir ++ [key ++ ".json"]) = true

instance (dir : Path) (key : String) : Decidable (NamesFile fs dir key) :=
  inferInstanceAs (Decidable (_ ∧ _))

-- No write waits for the file.
def Quiet (writes : List FileWrite) (path : Path) : Prop :=
  ∀ write ∈ writes, ∀ entry ∈ write.target, entry.1 ≠ path

instance (writes : List FileWrite) (path : Path) : Decidable (Quiet writes path) :=
  inferInstanceAs (Decidable (∀ _ ∈ _, _))

/-- What every step of a run must meet for the files to follow the calls. -/
def InOrder (s : FileStores) : StoreStep → Prop
  | .storeReceipt txID receipt => receipt.txID = txID ∧ NamesFile fs config.receiptDir txID
  | .deleteReceipt txID =>
    NamesFile fs config.receiptDir txID ∧
      Quiet s.stores.writes (config.receiptDir ++ [txID ++ ".json"])
  | .storeKey key _ => NamesFile fs config.idempotencyDir key
  -- the writes of one file finish in the order of their calls
  | .finishWrite i =>
    ∀ write ∈ s.stores.writes[i]?, ∀ entry ∈ write.target, Quiet (s.stores.writes.take i) entry.1
  | .restart => s.stores.writes = []
  | .tick _ | .cleanupKeys => True

instance (s : FileStores) (step : StoreStep) : Decidable (InOrder config fs s step) := by
  cases step <;> unfold InOrder <;> infer_instance

end

/-! ## Files of keys -/

section

variable {config : StoreConfig} {fs : FileSystem} {dir : Path} {key key' : String}

theorem NamesFile.join (names : NamesFile fs dir key) :
    Path.join dir (key ++ ".json") = dir ++ [key ++ ".json"] := by
  have ends : ".json".toList.length = 5 := by decide
  have short (name : String) (few : name.toList.length < 5) : key ++ ".json" ≠ name := by
    rintro rfl
    rw [String.toList_append, List.length_append] at few
    omega
  refine Path.join_of_component ?_ ⟨short "" (by decide), short "." (by decide), short ".." (by decide)⟩
  rw [String.toList_append, List.mem_append]
  rintro (inside | inside)
  · exact names.1 inside
  · exact absurd inside (by decide)

theorem file_inj : dir ++ [key ++ ".json"] = dir ++ [key' ++ ".json"] ↔ key = key' := by
  constructor
  · intro same
    have names := List.singleton_inj.mp (List.append_cancel_left same)
    have chars := congrArg String.toList names
    rw [String.toList_append, String.toList_append] at chars
    exact String.toList_inj.mp (List.append_cancel_right chars)
  · rintro rfl
    rfl

theorem dirs_apart (name name' : String) :
    config.receiptDir ++ [name] ≠ config.idempotencyDir ++ [name'] := by
  intro same
  have dirs := (List.append_inj' same rfl).1
  have names := List.singleton_inj.mp (List.append_cancel_left dirs)
  exact absurd names (by decide)

end

/-! ## What a run keeps -/

/-- What is in a file when the waiting writes are done in their order. -/
def FileStores.settled (s : FileStores) (path : Path) : Option FileContent :=
  Shared.settled FileWrite.target s.stores.disk s.stores.writes path

def StoreCall.NamesFile (config : StoreConfig) (fs : FileSystem) : StoreCall → Prop
  | .receipt txID _ => Gateway.NamesFile fs config.receiptDir txID
  | .key id _ => Gateway.NamesFile fs config.idempotencyDir id

structure FilesKept (config : StoreConfig) (fs : FileSystem) (s : FileStores) : Prop where
  calls : ∀ call ∈ s.calls, call.NamesFile config fs
  writes : ∀ write ∈ s.stores.writes, ∃ path content, write = .file path content ∧
    fs.accepts path = true
  receipts : ∀ txID, s.settled (config.receiptDir ++ [txID ++ ".json"]) =
    (lastReceipt s.calls txID).map .receipt
  own : ∀ txID receipt, lastReceipt s.calls txID = some receipt → receipt.txID = txID
  memory : ∀ key entry, s.stores.idempotency.get key = some entry →
    lastEntry s.calls key = some entry
  -- an entry that has expired may be gone
  entries : ∀ key content, s.settled (config.idempotencyDir ++ [key ++ ".json"]) = some content →
    (lastEntry s.calls key).map .entry = some content
  unexpired : ∀ key entry, lastEntry s.calls key = some entry → ¬entry.expiresAt < s.now →
    s.settled (config.idempotencyDir ++ [key ++ ".json"]) = some (.entry entry)

section

variable {config : StoreConfig} {fs : FileSystem} {s : FileStores} {calls : List StoreCall}
  {txID key : String}

theorem lastReceipt_receipt (id : String) (stored : Option Receipt) :
    lastReceipt (calls ++ [.receipt id stored]) txID =
      if id = txID then stored else lastReceipt calls txID := by
  simp [lastReceipt]

theorem lastReceipt_key (id : String) (entry : IdempotencyEntry) :
    lastReceipt (calls ++ [.key id entry]) txID = lastReceipt calls txID := by
  simp [lastReceipt]

theorem lastEntry_key (id : String) (entry : IdempotencyEntry) :
    lastEntry (calls ++ [.key id entry]) key =
      if id = key then some entry else lastEntry calls key := by
  simp [lastEntry]

theorem lastEntry_receipt (id : String) (stored : Option Receipt) :
    lastEntry (calls ++ [.receipt id stored]) key = lastEntry calls key := by
  simp [lastEntry]

theorem lastEntry_names (named : ∀ call ∈ calls, call.NamesFile config fs)
    {entry : IdempotencyEntry} (last : lastEntry calls key = some entry) :
    NamesFile fs config.idempotencyDir key := by
  induction calls using List.reverseRecOn with
  | nil => cases last
  | append_singleton calls call ih =>
    have before := ih fun call member => named call (List.mem_append_left _ member)
    cases call with
    | receipt id stored =>
      rw [lastEntry_receipt] at last
      exact before last
    | key id stored =>
      rw [lastEntry_key] at last
      split at last
      next same => exact same ▸ named (.key id stored) (by simp)
      next => exact before last

/-! ## The files in a step -/

theorem settled_write {stores : Stores} {path : Path} {content : FileContent} {now : Time}
    (disk : stores.disk = s.stores.disk)
    (writes : stores.writes = s.stores.writes ++ [.file path content]) (other : Path) :
    FileStores.settled { stores, now, calls } other =
      if other = path then some content else s.settled other := by
  unfold FileStores.settled
  rw [disk, writes]
  exact settled_append rfl

theorem settled_storeReceipt {receipt : Receipt} (names : NamesFile fs config.receiptDir txID)
    (path : Path) :
    FileStores.settled
        { s with stores := s.stores.storeReceipt config txID receipt, calls } path =
      if path = config.receiptDir ++ [txID ++ ".json"] then some (.receipt receipt)
      else s.settled path := by
  apply settled_write
  · rfl
  · rw [← names.join]
    rfl

theorem settled_storeKey {receipt : Receipt} (names : NamesFile fs config.idempotencyDir key)
    (path : Path) :
    FileStores.settled
        { s with stores := s.stores.storeKey config s.now key receipt, calls } path =
      if path = config.idempotencyDir ++ [key ++ ".json"] then
        some (.entry { receipt := some receipt, expiresAt := s.now + config.idempotencyTTL })
      else s.settled path := by
  apply settled_write
  · rfl
  · rw [← names.join]
    rfl

theorem written_quiet {writes : List FileWrite} {path : Path} (quiet : Quiet writes path) :
    ∀ write ∈ writes, written FileWrite.target write path = none := by
  intro write member
  unfold written
  cases goes : write.target with
  | none => rfl
  | some entry => rw [Option.bind_some, if_neg (quiet write member entry goes)]

theorem settled_deleteReceipt (names : NamesFile fs config.receiptDir txID)
    (quiet : Quiet s.stores.writes (config.receiptDir ++ [txID ++ ".json"])) (path : Path) :
    FileStores.settled { s with stores := s.stores.deleteReceipt config txID, calls } path =
      if path = config.receiptDir ++ [txID ++ ".json"] then none else s.settled path := by
  unfold FileStores.settled Stores.deleteReceipt StoreConfig.receiptFile
  rw [names.join]
  exact settled_remove (written_quiet quiet)

theorem settled_finishWrite {i : Nat} {stores : Stores} {path : Path} {content : FileContent}
    (waits : s.stores.writes[i]? = some (.file path content)) (accepted : fs.accepts path = true)
    (first : Quiet (s.stores.writes.take i) path)
    (finished : s.stores.finishWrite config i (fs.outcome (.file path content)) = some stores)
    (other : Path) : FileStores.settled { s with stores } other = s.settled other := by
  obtain ⟨write, waits', rfl⟩ := Option.map_eq_some_iff.mp finished
  obtain rfl := Option.some.inj (waits.symm.trans waits')
  have outcome : fs.outcome (.file path content) = .written := if_pos accepted
  rw [outcome]
  exact settled_finish waits rfl (written_quiet first)

/-! ## What a step keeps -/

theorem FilesKept.receiptCall {stores : Stores} {stored : Option Receipt}
    (kept : FilesKept config fs s) (names : NamesFile fs config.receiptDir txID)
    (own : ∀ receipt ∈ stored, receipt.txID = txID)
    (memory : stores.idempotency = s.stores.idempotency)
    (writes : ∀ write ∈ stores.writes, ∃ path content, write = .file path content ∧
      fs.accepts path = true)
    (settled : ∀ path, FileStores.settled { stores, now := s.now, calls } path =
      if path = config.receiptDir ++ [txID ++ ".json"] then stored.map .receipt
      else s.settled path)
    (calls_eq : calls = s.calls ++ [.receipt txID stored]) :
    FilesKept config fs { stores, now := s.now, calls } := by
  subst calls_eq
  constructor
  case calls =>
    intro call member
    rcases List.mem_append.mp member with old | new
    · exact kept.calls call old
    · obtain rfl := List.mem_singleton.mp new
      exact names
  case writes => exact writes
  case receipts =>
    intro id
    rw [settled, lastReceipt_receipt]
    by_cases same : txID = id
    · rw [if_pos (file_inj.mpr same.symm), if_pos same]
    · rw [if_neg fun path => same (file_inj.mp path).symm, if_neg same]
      exact kept.receipts id
  case own =>
    intro id receipt last
    rw [lastReceipt_receipt] at last
    split at last
    next same => exact (own receipt last).trans same
    next => exact kept.own id receipt last
  case memory =>
    intro id entry found
    rw [lastEntry_receipt]
    exact kept.memory id entry (memory ▸ found)
  case entries =>
    intro id content found
    rw [settled, if_neg (dirs_apart _ _).symm] at found
    rw [lastEntry_receipt]
    exact kept.entries id content found
  case unexpired =>
    intro id entry last alive
    rw [lastEntry_receipt] at last
    rw [settled, if_neg (dirs_apart _ _).symm]
    exact kept.unexpired id entry last alive

theorem FilesKept.storeReceipt {receipt : Receipt} (kept : FilesKept config fs s)
    (own : receipt.txID = txID) (names : NamesFile fs config.receiptDir txID) :
    FilesKept config fs
      { s with
        stores := s.stores.storeReceipt config txID receipt
        calls := s.calls ++ [.receipt txID (some receipt)] } := by
  refine kept.receiptCall names (fun stored same => ?_) rfl (fun write member => ?_)
    (settled_storeReceipt names) rfl
  · obtain rfl := Option.some.inj same
    exact own
  · rcases List.mem_append.mp member with old | new
    · exact kept.writes write old
    · refine ⟨_, _, List.mem_singleton.mp new, ?_⟩
      rw [StoreConfig.receiptFile, names.join]
      exact names.2

theorem FilesKept.deleteReceipt (kept : FilesKept config fs s)
    (names : NamesFile fs config.receiptDir txID)
    (quiet : Quiet s.stores.writes (config.receiptDir ++ [txID ++ ".json"])) :
    FilesKept config fs
      { s with
        stores := s.stores.deleteReceipt config txID
        calls := s.calls ++ [.receipt txID none] } :=
  kept.receiptCall names (fun receipt member => absurd member (Option.not_mem_none receipt)) rfl
    kept.writes (settled_deleteReceipt names quiet) rfl

theorem FilesKept.storeKey {receipt : Receipt} (kept : FilesKept config fs s)
    (names : NamesFile fs config.idempotencyDir key) :
    FilesKept config fs
      { s with
        stores := s.stores.storeKey config s.now key receipt
        calls := s.calls ++
          [.key key { receipt := some receipt, expiresAt := s.now + config.idempotencyTTL }] } := by
  constructor
  case calls =>
    intro call member
    rcases List.mem_append.mp member with old | new
    · exact kept.calls call old
    · obtain rfl := List.mem_singleton.mp new
      exact names
  case writes =>
    intro write member
    rcases List.mem_append.mp member with old | new
    · exact kept.writes write old
    · refine ⟨_, _, List.mem_singleton.mp new, ?_⟩
      rw [StoreConfig.keyFile, names.join]
      exact names.2
  case receipts =>
    intro id
    rw [settled_storeKey names, if_neg (dirs_apart _ _), lastReceipt_key]
    exact kept.receipts id
  case own =>
    intro id stored last
    rw [lastReceipt_key] at last
    exact kept.own id stored last
  case memory =>
    intro id entry found
    rw [Stores.storeKey, Dict.get_set] at found
    rw [lastEntry_key]
    split at found
    next same => rw [if_pos same.symm, found]
    next different =>
      rw [if_neg (Ne.symm different)]
      exact kept.memory id entry found
  case entries =>
    intro id content found
    rw [settled_storeKey names] at found
    rw [lastEntry_key]
    split at found
    next same => rwa [if_pos (file_inj.mp same).symm, Option.map_some]
    next different =>
      rw [if_neg fun same => different (file_inj.mpr same.symm)]
      exact kept.entries id content found
  case unexpired =>
    intro id entry last alive
    rw [lastEntry_key] at last
    rw [settled_storeKey names]
    split at last
    next same =>
      rw [if_pos (file_inj.mpr same.symm)]
      exact congrArg (Option.map FileContent.entry) last
    next different =>
      rw [if_neg fun same => different (file_inj.mp same).symm]
      exact kept.unexpired id entry last alive

theorem FilesKept.tick (kept : FilesKept config fs s) (elapsed : Nat) :
    FilesKept config fs { s with now := s.now + elapsed } where
  calls := kept.calls
  writes := kept.writes
  receipts := kept.receipts
  own := kept.own
  memory := kept.memory
  entries := kept.entries
  unexpired key entry last alive := by
    refine kept.unexpired key entry last fun expired => alive ?_
    exact lt_of_lt_of_le expired (Int.le_add_of_nonneg_right (Int.natCast_nonneg elapsed))

theorem FilesKept.finishWrite {i : Nat} {write : FileWrite} {stores : Stores}
    (kept : FilesKept config fs s) (waits : s.stores.writes[i]? = some write)
    (first : ∀ entry ∈ write.target, Quiet (s.stores.writes.take i) entry.1)
    (finished : s.stores.finishWrite config i (fs.outcome write) = some stores) :
    FilesKept config fs { s with stores } := by
  obtain ⟨path, content, rfl, accepted⟩ := kept.writes write (List.mem_of_getElem? waits)
  have settled := settled_finishWrite waits accepted (first _ rfl) finished
  have idempotency : stores.idempotency = s.stores.idempotency := by
    obtain ⟨write, _, rfl⟩ := Option.map_eq_some_iff.mp finished
    cases write <;> rfl
  have writes : stores.writes = s.stores.writes.eraseIdx i := by
    obtain ⟨write, _, rfl⟩ := Option.map_eq_some_iff.mp finished
    cases write <;> rfl
  constructor
  case calls => exact kept.calls
  case writes =>
    intro write member
    rw [writes] at member
    exact kept.writes write (List.mem_of_mem_eraseIdx member)
  case receipts => exact fun id => (settled _).trans (kept.receipts id)
  case own => exact kept.own
  case memory => exact fun id entry found => kept.memory id entry (idempotency ▸ found)
  case entries =>
    exact fun id content found => kept.entries id content ((settled _).symm.trans found)
  case unexpired =>
    exact fun id entry last alive => (settled _).trans (kept.unexpired id entry last alive)

theorem FilesKept.cleanupKeys (kept : FilesKept config fs s) :
    FilesKept config fs { s with stores := s.stores.cleanupKeys config s.now } := by
  have file (entry : (_ : String) × IdempotencyEntry) (member : entry ∈ s.stores.idempotency.entries) :
      s.stores.idempotency.get entry.1 = some entry.2 ∧
        config.keyFile entry.1 = config.idempotencyDir ++ [entry.1 ++ ".json"] := by
    have found := Dict.get_eq_some.mpr member
    exact ⟨found, (lastEntry_names kept.calls (kept.memory _ _ found)).join⟩
  have disk (path : Path) : (s.stores.cleanupKeys config s.now).disk.get path =
      if ∃ entry ∈ s.stores.idempotency.entries.filter
          (fun entry : (_ : String) × IdempotencyEntry => decide (entry.2.expiresAt < s.now)),
          config.keyFile entry.1 = path then none
      else s.stores.disk.get path := Dict.get_foldl_remove _ _ _ _
  constructor
  case calls => exact kept.calls
  case writes => exact kept.writes
  case receipts =>
    intro id
    refine (settled_congr ?_).trans (kept.receipts id)
    rw [disk, if_neg]
    rintro ⟨entry, member, same⟩
    rw [(file entry (List.mem_filter.mp member).1).2] at same
    exact dirs_apart _ _ same.symm
  case own => exact kept.own
  case memory => exact fun id entry found => kept.memory id entry (Dict.get_keep.mp found).1
  case entries =>
    intro id content found
    refine kept.entries id content (settled_of_subset (fun value stored => ?_) found)
    rw [disk] at stored
    split at stored
    · cases stored
    · exact stored
  case unexpired =>
    intro id entry last alive
    refine (settled_congr ?_).trans (kept.unexpired id entry last alive)
    rw [disk, if_neg]
    rintro ⟨expired, member, same⟩
    obtain ⟨among, past⟩ := List.mem_filter.mp member
    obtain ⟨found, own⟩ := file expired among
    rw [own] at same
    have known := kept.memory _ _ found
    rw [file_inj.mp same, last] at known
    exact alive (Option.some.inj known ▸ of_decide_eq_true past)

theorem FilesKept.restart (kept : FilesKept config fs s) (finished : s.stores.writes = []) :
    FilesKept config fs { s with stores := s.stores.restart config s.now } := by
  have before (path : Path) : s.settled path = s.stores.disk.get path := by
    unfold FileStores.settled
    rw [finished]
    rfl
  constructor
  case calls => exact kept.calls
  case writes => exact fun _ member => nomatch member
  case receipts =>
    intro id
    refine Eq.trans (Dict.get_keep_of_wanted fun content _ => ?_)
      ((before _).symm.trans (kept.receipts id))
    have dirs : config.receiptDir ≠ config.idempotencyDir := by
      intro same
      exact dirs_apart "" "" (congrArg (· ++ [""]) same)
    simp [Path.directory, dirs]
  case own => exact kept.own
  case memory =>
    intro id entry found
    obtain ⟨content, stored, read⟩ := Stores.get_loadEntries found
    have known := kept.entries id content ((before _).trans stored)
    obtain ⟨last, same, rfl⟩ := Option.map_eq_some_iff.mp known
    obtain rfl := Option.some.inj read
    exact same
  case entries =>
    intro id content found
    refine kept.entries id content ((before _).trans ?_)
    exact (Dict.get_keep.mp (show (Stores.withoutExpired config s.now s.stores.disk).get _ = _ from
      found)).1
  case unexpired =>
    intro id entry last alive
    have stored := (before _).symm.trans (kept.unexpired id entry last alive)
    refine Eq.trans (Dict.get_keep_of_wanted fun content found => ?_) stored
    obtain rfl := Option.some.inj (stored.symm.trans found)
    have entryRead : FileContent.asEntry (.entry entry) = some entry := rfl
    simp [entryRead, alive]

/-! ## What is loaded -/

theorem get_loadReceipts_eq {disk : Dict Path FileContent}
    (files : ∀ file ∈ jsonFiles disk config.receiptDir, ∃ receipt,
      file.2 = .receipt receipt ∧ receipt.txID = file.1) {receipt : Receipt} :
    (Stores.loadReceipts config disk).get txID = some receipt ↔
      disk.get (config.receiptDir ++ [txID ++ ".json"]) = some (.receipt receipt) := by
  have read {receipt : Receipt} (loaded : (Stores.loadReceipts config disk).get txID = some receipt) :
      disk.get (config.receiptDir ++ [txID ++ ".json"]) = some (.receipt receipt) := by
    have listed : ∃ file ∈ jsonFiles disk config.receiptDir,
        file.2.asReceipt = some receipt ∧ receipt.txID = txID := by
      refine (Dict.get_foldl (fun file => file.2.asReceipt = some receipt ∧ receipt.txID = txID) ?_ _ ∅
        loaded).resolve_right (fun empty => nomatch empty)
      intro receipts file found
      split at found
      next stored same =>
        rw [Dict.get_set] at found
        split at found
        next own =>
          obtain rfl := Option.some.inj found
          exact .inl ⟨same, own.symm⟩
        next => exact .inr found
      next => exact .inr found
    obtain ⟨⟨stem, content⟩, member, same, own⟩ := listed
    obtain ⟨stored, rfl, named⟩ := files _ member
    obtain rfl := Option.some.inj same
    exact own ▸ named ▸ mem_jsonFiles member
  refine ⟨read, fun stored => ?_⟩
  have own : receipt.txID = txID := by
    obtain ⟨_, same, named⟩ := files _ (mem_jsonFiles_of_get stored)
    obtain rfl := FileContent.receipt.inj same
    exact named
  have known : (Stores.loadReceipts config disk).get txID ≠ none := by
    refine Dict.get_foldl_ne_none (fun receipts file known => ?_) (mem_jsonFiles_of_get stored)
      (fun receipts => ?_) ∅
    · split
      · rw [Dict.get_set]
        split
        · exact Option.some_ne_none _
        · exact known
      · exact known
    · have step : FileContent.asReceipt (.receipt receipt) = some receipt := rfl
      simp only [step, Dict.get_set, own]
      exact Option.some_ne_none _
  obtain ⟨loaded, same⟩ := Option.ne_none_iff_exists'.mp known
  have content := (read same).symm.trans stored
  obtain rfl := FileContent.receipt.inj (Option.some.inj content)
  exact same

theorem get_loadEntries_of_stored {disk : Dict Path FileContent} {now : Time}
    {entry : IdempotencyEntry} (alive : ¬entry.expiresAt < now)
    (stored : disk.get (config.idempotencyDir ++ [key ++ ".json"]) = some (.entry entry)) :
    (Stores.loadEntries config now disk).get key = some entry := by
  have known : (Stores.loadEntries config now disk).get key ≠ none := by
    refine Dict.get_foldl_ne_none (fun entries file known => ?_) (mem_jsonFiles_of_get stored)
      (fun entries => ?_) ∅
    · split
      · split
        · exact known
        · rw [Dict.get_set]
          split
          · exact Option.some_ne_none _
          · exact known
      · exact known
    · have step : FileContent.asEntry (.entry entry) = some entry := rfl
      simp only [step, if_neg alive, Dict.get_set]
      exact Option.some_ne_none _
  obtain ⟨loaded, same⟩ := Option.ne_none_iff_exists'.mp known
  obtain ⟨content, found, read⟩ := Stores.get_loadEntries same
  obtain rfl := Option.some.inj (stored.symm.trans found)
  obtain rfl := Option.some.inj read
  exact same

theorem FilesKept.survives (kept : FilesKept config fs s) : Survives config s := by
  constructor
  case receipts =>
    intro finished txID
    have before (id : String) : s.stores.disk.get (config.receiptDir ++ [id ++ ".json"]) =
        (lastReceipt s.calls id).map .receipt := by
      rw [← kept.receipts id, FileStores.settled, finished]
      rfl
    have files : ∀ file ∈ jsonFiles s.stores.disk config.receiptDir, ∃ receipt,
        file.2 = .receipt receipt ∧ receipt.txID = file.1 := by
      intro file member
      have stored := (before file.1).symm.trans (mem_jsonFiles member)
      obtain ⟨receipt, last, same⟩ := Option.map_eq_some_iff.mp stored
      exact ⟨receipt, same.symm, kept.own _ _ last⟩
    apply Option.ext
    intro receipt
    rw [get_loadReceipts_eq files, before, Option.map_eq_some_iff]
    simp
  case entries =>
    intro finished key entry last alive
    have stored := kept.unexpired key entry last alive
    rw [FileStores.settled, finished] at stored
    exact get_loadEntries_of_stored alive stored
  case apart =>
    intro first member second member' same
    have named := kept.calls first member
    have named' := kept.calls second member'
    have file {call : StoreCall} (named : call.NamesFile config fs) : call.file config =
        match call with
        | .receipt txID _ => config.receiptDir ++ [txID ++ ".json"]
        | .key id _ => config.idempotencyDir ++ [id ++ ".json"] := by
      cases call with
      | receipt txID stored => exact NamesFile.join named
      | key id entry => exact NamesFile.join named
    rw [file named, file named'] at same
    cases first with
    | receipt txID stored =>
      cases second with
      | receipt txID' stored' => exact congrArg Sum.inl (file_inj.mp same)
      | key id entry => exact absurd same (dirs_apart _ _)
    | key id entry =>
      cases second with
      | receipt txID' stored' => exact absurd same.symm (dirs_apart _ _)
      | key id' entry' => exact congrArg Sum.inr (file_inj.mp same)

end

/-! ## Runs -/

def FileStores.empty (now : Time) : FileStores where
  stores := .empty
  now := now
  calls := []

section

variable {config : StoreConfig} {fs : FileSystem}

theorem FilesKept.empty (now : Time) : FilesKept config fs (.empty now) where
  calls _ member := nomatch member
  writes _ member := nomatch member
  receipts _ := rfl
  own _ _ last := nomatch last
  memory _ _ found := nomatch found
  entries _ _ found := nomatch found
  unexpired _ _ last := nomatch last

theorem FilesKept.step {s after : FileStores} {step : StoreStep}
    (kept : FilesKept config fs s) (inOrder : InOrder config fs s step)
    (stepped : s.step config fs step = some after) : FilesKept config fs after := by
  cases step with
  | storeReceipt txID receipt =>
    obtain rfl := Option.some.inj stepped
    exact kept.storeReceipt inOrder.1 inOrder.2
  | deleteReceipt txID =>
    obtain rfl := Option.some.inj stepped
    exact kept.deleteReceipt inOrder.1 inOrder.2
  | storeKey key receipt =>
    obtain rfl := Option.some.inj stepped
    exact kept.storeKey inOrder
  | tick elapsed =>
    obtain rfl := Option.some.inj stepped
    exact kept.tick elapsed
  | finishWrite i =>
    obtain ⟨stores, finished, rfl⟩ := Option.map_eq_some_iff.mp stepped
    obtain ⟨write, waits, finished⟩ := Option.bind_eq_some_iff.mp finished
    exact kept.finishWrite waits (inOrder write waits) finished
  | cleanupKeys =>
    obtain rfl := Option.some.inj stepped
    exact kept.cleanupKeys
  | restart =>
    obtain rfl := Option.some.inj stepped
    exact kept.restart inOrder

theorem stores_survive_restart {I : Type} [DecidableEq I] {start world : World I FileStores Unit}
    {now : Time} (begun : start.shared = .empty now)
    (reached : (fileStores config fs).Reaches
      (fun world _ step => InOrder config fs world.shared step) start world) :
    Survives config world.shared := by
  have kept : FilesKept config fs world.shared := by
    refine reached.invariant (fun world => FilesKept config fs world.shared) ?_ ?_
    · rw [begun]
      exact .empty now
    · intro world i step after kept inOrder fired
      obtain ⟨s, _, moved, rfl⟩ := Machine.fire_eq_some.mp fired
      obtain ⟨s', stepped, same⟩ := Option.map_eq_some_iff.mp moved
      obtain ⟨rfl, _⟩ := Prod.mk.inj same
      exact kept.step inOrder stepped
  exact kept.survives

end

/-! ## Writes that overtake and keys that leave their directory -/

def sampleStores : StoreConfig where
  idempotencyTTL := 1000
  nonceWindow := 1000
  dataDir := ["data"]

-- What `NewFileReceiptStore` and its siblings have made.
def sampleFiles : FileSystem where
  directory path := path ∈ [[], ["data"], ["data", "receipts"], ["data", "idempotency"],
    ["data", "nonces"]]

def freshStores : World Unit FileStores Unit where
  shared := .empty 0
  procs _ := ()

def receiptOf (txID : String) (blockNumber : Nat) : Receipt :=
  { FileContent.zeroReceipt with txID, blockNumber }

def steps (list : List StoreStep) : List (Unit × StoreStep) :=
  list.map fun step => ((), step)

theorem stores_not_survive :
    -- the earlier of two receipts is written last
    (¬ ∀ world, (fileStores sampleStores sampleFiles).Reaches (fun _ _ _ => True) freshStores world →
      world.shared.stores.writes = [] → ∀ txID,
        (Stores.loadReceipts sampleStores world.shared.stores.disk).get txID =
          lastReceipt world.shared.calls txID) ∧
    -- a key with a separator names a directory that does not exist
    (¬ ∀ world, (fileStores sampleStores sampleFiles).Reaches (fun _ _ _ => True) freshStores world →
      world.shared.stores.writes = [] → ∀ key entry, lastEntry world.shared.calls key = some entry →
        ¬entry.expiresAt < world.shared.now →
          (Stores.loadEntries sampleStores world.shared.now world.shared.stores.disk).get key =
            some entry) ∧
    -- a key leaves the directory of its store
    ¬ ∀ world, (fileStores sampleStores sampleFiles).Reaches (fun _ _ _ => True) freshStores world →
      ∀ first ∈ world.shared.calls, ∀ second ∈ world.shared.calls,
        first.file sampleStores = second.file sampleStores → first.place = second.place := by
  have refuted (labels : List (Unit × StoreStep)) (Q : World Unit FileStores Unit → Prop)
      [DecidablePred Q]
      (ends : ((fileStores sampleStores sampleFiles).run freshStores labels).map
        (fun world => decide (Q world)) = some false) :
      ¬ ∀ world, (fileStores sampleStores sampleFiles).Reaches (fun _ _ _ => True) freshStores world →
        Q world := Machine.not_always labels ends
  refine ⟨fun always => ?_, fun always => ?_, fun always => ?_⟩
  · refine refuted
      (steps [.storeReceipt "tx" (receiptOf "tx" 1), .storeReceipt "tx" (receiptOf "tx" 2),
        .finishWrite 1, .finishWrite 0])
      (fun world => world.shared.stores.writes.isEmpty = true →
        (Stores.loadReceipts sampleStores world.shared.stores.disk).get "tx" =
          lastReceipt world.shared.calls "tx")
      (by decide +kernel) fun world reached finished => ?_
    exact always world reached (List.isEmpty_iff.mp finished) "tx"
  · refine refuted (steps [.storeKey "a/b" (receiptOf "tx" 1), .finishWrite 0])
      (fun world => world.shared.stores.writes.isEmpty = true →
        ∀ entry ∈ lastEntry world.shared.calls "a/b", ¬entry.expiresAt < world.shared.now →
          (Stores.loadEntries sampleStores world.shared.now world.shared.stores.disk).get "a/b" =
            some entry)
      (by decide +kernel) fun world reached finished => ?_
    exact always world reached (List.isEmpty_iff.mp finished) "a/b"
  · exact refuted
      (steps [.storeReceipt "tx" (receiptOf "tx" 1), .storeKey "../receipts/tx" (receiptOf "tx" 1)])
      _ (by decide +kernel) always

theorem stores_survive_restart_inOrder :
    ∃ world, (fileStores sampleStores sampleFiles).run freshStores
        (steps [.storeReceipt "tx" (receiptOf "tx" 1), .storeReceipt "tx" (receiptOf "tx" 2),
          .storeKey "key" (receiptOf "tx" 2), .finishWrite 2, .finishWrite 0, .finishWrite 0]) =
          some world ∧
      Survives sampleStores world.shared := by
  have reached : ((fileStores sampleStores sampleFiles).checkedRun
      (fun world _ step => InOrder sampleStores sampleFiles world.shared step) freshStores
      (steps [.storeReceipt "tx" (receiptOf "tx" 1), .storeReceipt "tx" (receiptOf "tx" 2),
        .storeKey "key" (receiptOf "tx" 2), .finishWrite 2, .finishWrite 0, .finishWrite 0])).isSome := by
    decide +kernel
  obtain ⟨world, ran⟩ := Option.isSome_iff_exists.mp reached
  have runs := Machine.Runs.checked .nil ran
  exact ⟨world, runs.run, stores_survive_restart rfl runs.reaches⟩

end Kufi.Gateway

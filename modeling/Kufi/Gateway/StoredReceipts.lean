import Kufi.Gateway.Handlers

set_option autoImplicit false

/-!
# What holds of every stored receipt

A receipt is stored in memory, in a file or in a write that is pending. What
holds of each of them is kept by the events around the handlers.
-/

namespace Kufi.Gateway

open Shared

structure Stores.Every (P : Receipt → Prop) (stores : Stores) : Prop where
  memory : ∀ txID receipt, stores.receipts.get txID = some receipt → P receipt
  disk : ∀ path receipt, stores.disk.get path = some (.receipt receipt) → P receipt
  writes : ∀ path receipt, .file path (.receipt receipt) ∈ stores.writes → P receipt

section

variable {P : Receipt → Prop} {config : Config} {stores : Stores}

theorem Stores.Every.empty : Stores.empty.Every P where
  memory _ _ found := nomatch found
  disk _ _ found := nomatch found
  writes _ _ member := nomatch member

theorem Stores.Every.storeReceipt {txID : String} {receipt : Receipt} (every : stores.Every P)
    (holds : P receipt) : (stores.storeReceipt config.toStoreConfig txID receipt).Every P := by
  constructor
  · intro txID' receipt' found
    rw [Stores.storeReceipt, Dict.get_set] at found
    split at found
    next =>
      obtain rfl := Option.some.inj found
      exact holds
    next => exact every.memory txID' receipt' found
  · exact every.disk
  · intro path receipt' member
    rcases List.mem_append.mp member with old | new
    · exact every.writes path receipt' old
    · obtain ⟨_, same⟩ := FileWrite.file.inj (List.mem_singleton.mp new)
      obtain rfl := FileContent.receipt.inj same
      exact holds

theorem Stores.Every.storeKey {now : Time} {key : String} {receipt : Receipt}
    (every : stores.Every P) :
    (stores.storeKey config.toStoreConfig now key receipt).Every P := by
  refine ⟨every.memory, every.disk, fun path receipt member => every.writes path receipt ?_⟩
  simpa [Stores.storeKey] using member

theorem Stores.Every.addNonce {nonce : String} {timestamp : Time} (every : stores.Every P) :
    (stores.addNonce nonce timestamp).Every P := by
  refine ⟨every.memory, every.disk, fun path receipt member => every.writes path receipt ?_⟩
  unfold Stores.addNonce at member
  dsimp only at member
  split at member
  · simpa using member
  · exact member

/-- A write that leaves nothing but what it writes, or a torn file, in its place. -/
theorem Stores.Every.writeFile {path target : Path} {receipt : Receipt} {content : FileContent}
    {outcome : WriteOutcome} (every : stores.Every P)
    (holds : ∀ written, content = .receipt written → P written)
    (found : (Stores.writeFile target content outcome stores.disk).get path = some (.receipt receipt)) :
    P receipt := by
  rcases Stores.get_writeFile found with old | ⟨_, same | torn⟩
  · exact every.disk path receipt old
  · exact holds receipt same.symm
  · cases torn

theorem Stores.Every.finishWrite {after : Stores} {i : Nat} {outcome : WriteOutcome}
    (every : stores.Every P)
    (finished : stores.finishWrite config.toStoreConfig i outcome = some after) :
    after.Every P := by
  obtain ⟨write, pending, rfl⟩ := Option.map_eq_some_iff.mp finished
  have rest (path : Path) (receipt : Receipt)
      (member : FileWrite.file path (.receipt receipt) ∈ stores.writes.eraseIdx i) : P receipt :=
    every.writes path receipt (List.mem_of_mem_eraseIdx member)
  cases write with
  | file target content =>
    refine ⟨every.memory, fun path receipt found => every.writeFile (fun written same => ?_) found,
      rest⟩
    exact every.writes target written (same ▸ List.mem_of_getElem? pending)
  | nonces =>
    refine ⟨every.memory, fun path receipt found => every.writeFile (fun _ same => ?_) found, rest⟩
    cases same

theorem Stores.Every.restart {now : Time} (every : stores.Every P)
    (read : ∀ file ∈ jsonFiles stores.disk config.receiptDir,
      ∀ receipt, file.2.asReceipt = some receipt → P receipt) :
    (stores.restart config.toStoreConfig now).Every P := by
  constructor
  · intro txID receipt loaded
    obtain ⟨file, member, same⟩ := Stores.get_loadReceipts loaded
    exact read file member receipt same
  · exact fun path receipt found => every.disk path receipt (Dict.get_keep.mp found).1
  · exact fun path receipt member => nomatch member

theorem Event.every {event : Event} {s state : Node} (every : s.stores.Every P)
    (read : event = .restart → ∀ file ∈ jsonFiles s.stores.disk config.receiptDir,
      ∀ receipt, file.2.asReceipt = some receipt → P receipt)
    (applied : event.apply config s = some state) : state.stores.Every P := by
  cases event with
  | tick elapsed =>
    obtain rfl := Option.some.inj applied
    exact every
  | commit i =>
    obtain ⟨_, _, rfl⟩ := Option.map_eq_some_iff.mp applied
    exact every
  | invalidate i code =>
    obtain ⟨_, _, rfl⟩ := Option.map_eq_some_iff.mp applied
    exact every
  | finishWrite i outcome =>
    obtain ⟨_, finished, rfl⟩ := Option.map_eq_some_iff.mp applied
    exact every.finishWrite finished
  | cleanupKeys =>
    obtain rfl := Option.some.inj applied
    exact ⟨every.memory,
      fun path receipt found => every.disk path receipt (Stores.get_cleanupKeys_disk found),
      every.writes⟩
  | cleanupNonces outcome =>
    obtain rfl := Option.some.inj applied
    refine ⟨every.memory, fun path receipt found => every.writeFile (fun _ same => ?_) found,
      every.writes⟩
    cases same
  | restart =>
    obtain rfl := Option.some.inj applied
    exact every.restart (read rfl)

end

end Kufi.Gateway

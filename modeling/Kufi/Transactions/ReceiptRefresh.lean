import Kufi.Shared.Interleaving
import Kufi.Shared.JsonObject
import Kufi.Transactions.Chain

set_option autoImplicit false

/-!
# Receipts read again

Reading an anchored transaction asks the chain for its receipt again until the
observers have confirmed it, and saves the entity it has loaded with the answer.
-/

namespace Kufi.Transactions

open Shared Json

-- The members of a value with `typeof` object; an array has none of those asked for.
def objectMembers? : Json → Option Members
  | .object members => some members
  | .array _ => some []
  | _ => none

def normalizeReceiptPayload (payload : Members) : Members :=
  ((Members.get payload "receipt").bind objectMembers?).getD payload

def observerConfirmations (receipt : Members) : List Json :=
  match Members.get receipt "observer_confirmations" with
  | some (.array observers) => observers
  | _ => []

def quorumMet (receipt : Members) : Bool :=
  match ((Members.get receipt "transparency").bind objectMembers?).bind
      (Members.get · "quorum_met") with
  | some (.bool met) => met
  | _ => false

-- `jsonParse` is `JSON.parse`, with `none` for a text it rejects.
def shouldRefreshReceiptTransparency (jsonParse : String → Option Json)
    (receiptJson : Option String) : Bool :=
  let raw := Text.trim (receiptJson.getD "")
  if raw = "" then true
  else
    match (jsonParse raw).bind objectMembers? with
    | none => true
    | some decoded =>
      let receipt := normalizeReceiptPayload decoded
      (observerConfirmations receipt).isEmpty || !quorumMet receipt

-- `getTransaction`, one access to the database or one call at a time.
inductive ReceiptRead where
  | finding (id : Nat)
  -- `GetReceipt` is under way
  | asking (tx : TransactionEntity)
  | saving (tx : TransactionEntity)
  | done

structure ReceiptAction where
  answer : ChainAnswer
  now : Instant

-- The entity `refreshAnchoredReceiptTransparency` saves, if it saves one.
def refreshed? (action : ReceiptAction) (tx : TransactionEntity) : Option TransactionEntity :=
  match action.answer with
  | .ok response =>
    let receiptJson := Text.trim response.receiptJson
    if receiptJson = "" ∨ some receiptJson = tx.receiptJson then none
    else some { tx with receiptJson := some receiptJson, chainLastAttemptAt := some action.now }
  | .error _ => none

namespace ReceiptRead

variable (jsonParse : String → Option Json)

def found (tx : TransactionEntity) : ReceiptRead :=
  if tx.chainStatus = .anchored ∧ shouldRefreshReceiptTransparency jsonParse tx.receiptJson = true ∧
      Text.trim (tx.chainTxId.getD "") ≠ "" then
    .asking tx
  else .done

def step (s : Tables) (read : ReceiptRead) (action : ReceiptAction) :
    Option (Tables × ReceiptRead) :=
  match read with
  | .finding id =>
    match s.transactions.get? id with
    | some tx => some (s, found jsonParse tx)
    | none => some (s, .done)
  | .asking tx =>
    match refreshed? action tx with
    | some tx => some (s, .saving tx)
    | none => some (s, .done)
  | .saving tx =>
    -- an error of the save is caught as well
    match s.saveTransaction tx with
    | .ok after => some (after, .done)
    | .error _ => some (s, .done)
  | .done => none

/-- What a read holds is anchored, and what it saves has a receipt. -/
def Sound : ReceiptRead → Prop
  | .asking tx => tx.chainStatus = .anchored ∧ tx.chainTxId ≠ none
  | .saving tx => tx.chainStatus = .anchored ∧ tx.chainTxId ≠ none ∧ tx.receiptJson ≠ none
  | .finding _ | .done => True

theorem found_sound (tx : TransactionEntity) : Sound (found jsonParse tx) := by
  unfold found
  split_ifs with refreshes
  · obtain ⟨anchored, _, known⟩ := refreshes
    refine ⟨anchored, fun missing => known ?_⟩
    rw [missing]
    decide
  · trivial

theorem refreshed_sound {action : ReceiptAction} {tx tx' : TransactionEntity}
    (sound : Sound (.asking tx)) (refreshed : refreshed? action tx = some tx') :
    Sound (.saving tx') := by
  unfold refreshed? at refreshed
  split at refreshed
  · dsimp only at refreshed
    split_ifs at refreshed
    obtain rfl := Option.some.inj refreshed
    exact ⟨sound.1, sound.2, Option.some_ne_none _⟩
  · cases refreshed

variable {jsonParse}

theorem step_saves {s after : Tables} {read next : ReceiptRead} {action : ReceiptAction}
    (stepped : read.step jsonParse s action = some (after, next)) :
    after = s ∨ ∃ tx, read = .saving tx ∧ s.saveTransaction tx = .ok after := by
  cases read with
  | finding id =>
    unfold step at stepped
    dsimp only at stepped
    split at stepped <;> cases stepped <;> exact .inl rfl
  | asking tx =>
    unfold step at stepped
    dsimp only at stepped
    split at stepped <;> cases stepped <;> exact .inl rfl
  | saving tx =>
    unfold step at stepped
    dsimp only at stepped
    split at stepped
    next saved =>
      obtain ⟨rfl, rfl⟩ := Prod.mk.inj (Option.some.inj stepped)
      exact .inr ⟨tx, rfl, saved⟩
    next =>
      obtain ⟨rfl, rfl⟩ := Prod.mk.inj (Option.some.inj stepped)
      exact .inl rfl
  | done => cases stepped

/-- A step of a read changes the tables only by the save of what it holds. -/
theorem step_sound {s after : Tables} {read next : ReceiptRead} {action : ReceiptAction}
    (sound : Sound read) (stepped : read.step jsonParse s action = some (after, next)) :
    Sound next ∧ (after = s ∨ ∃ tx, read = .saving tx ∧ s.saveTransaction tx = .ok after) := by
  refine ⟨?_, step_saves stepped⟩
  cases read with
  | finding id =>
    unfold step at stepped
    dsimp only at stepped
    split at stepped
    next tx _ =>
      obtain ⟨rfl, rfl⟩ := Prod.mk.inj (Option.some.inj stepped)
      exact found_sound jsonParse tx
    next =>
      obtain ⟨rfl, rfl⟩ := Prod.mk.inj (Option.some.inj stepped)
      trivial
  | asking tx =>
    unfold step at stepped
    dsimp only at stepped
    split at stepped
    next tx' refreshed =>
      obtain ⟨rfl, rfl⟩ := Prod.mk.inj (Option.some.inj stepped)
      exact refreshed_sound sound refreshed
    next =>
      obtain ⟨rfl, rfl⟩ := Prod.mk.inj (Option.some.inj stepped)
      trivial
  | saving tx =>
    unfold step at stepped
    dsimp only at stepped
    split at stepped <;> cases stepped <;> trivial
  | done => cases stepped

end ReceiptRead

def receiptReads (jsonParse : String → Option Json) :
    Machine Tables ReceiptRead ReceiptAction where
  step := ReceiptRead.step jsonParse

end Kufi.Transactions

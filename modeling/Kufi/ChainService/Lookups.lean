import Kufi.ChainService.Observers

set_option autoImplicit false

/-!
# Receipts looked up

`getReceipt` asks the gateway for the receipt of a transaction and hands on what
it makes of the response.
-/

namespace Kufi.ChainService.Response

open Shared Ecma

variable (toUpperCase : Str → Str) (collation : Collation)

inductive GatewayReply where
  | body (body : Option Value)
  | notFound
  -- any other status, or no answer
  | failed (message : Str)

def getReceipt (requireTransparencyQuorum : Bool) (signing : Option Signer) (reply : GatewayReply)
    (replies : List (Option Value)) (txId : Str) : Thrown AnchorTransferResult :=
  let normalizedTxId := trim txId
  if normalizedTxId = [] then .error (Str.of "txId is required")
  else
    match reply with
    | .body body =>
      (parseReceiptLookupResponse toUpperCase body normalizedTxId).map
        (enrichWithObserverConfirmations toUpperCase collation requireTransparencyQuorum signing
          replies)
    | .notFound => buildPendingResult normalizedTxId none
    | .failed message => .error message

/-! ## What a body leaves -/

-- `Object.keys(value).length > 0`
def hasEntries (value : Value) : Bool := ownEntries value ≠ []

/-- The value whose text the lookup hands on: the receipt over its envelope, or the receipt alone
where nothing is decided yet. -/
def handedOn (body : Option Value) (txId : Str) : Option Value :=
  if truthy body && !unsuccessful toUpperCase body then
    match extractReceiptPayload body with
    | none => none
    | some receipt =>
      match buildResultFromReceipt toUpperCase receipt body txId with
      | .error _ => none
      | .ok parsed =>
        if parsed.chainStatus ≠ .pending then
          (some (.object (flat receipt body))).filter hasEntries
        else (some receipt).filter hasEntries
  else none

section

variable {toUpperCase} {collation}

theorem bodyText_some (value : Value) :
    bodyText (some value) = (((some value).filter hasEntries).map stringify).getD [] := by
  unfold bodyText hasEntries entriesOf
  by_cases empty : ownEntries value = [] <;> simp [Option.filter, empty]

theorem bind_ok {α β : Type} {first : Thrown α} {rest : α → Thrown β} {result : β}
    (ok : first.bind rest = .ok result) : ∃ value, first = .ok value ∧ rest value = .ok result := by
  cases first with
  | error message => cases ok
  | ok value => exact ⟨value, rfl, ok⟩

theorem buildPendingResult_ok {txId : Str} {body : Option Value} {result : AnchorTransferResult}
    (built : buildPendingResult txId body = .ok result) :
    result.receiptJson = bodyText body ∧ result.txId = txId := by
  obtain ⟨blockNumber, -, same⟩ := bind_ok built
  obtain rfl := Except.ok.inj same
  exact ⟨rfl, rfl⟩

theorem receiptTxId_ne_nil {receipt envelope : Option Value} {fallbackTxId : Str}
    (named : fallbackTxId ≠ []) : receiptTxId receipt envelope fallbackTxId ≠ [] := by
  unfold receiptTxId
  cases own : stringMember receipt "tx_id" with
  | some txId => exact stringMember_ne_nil own
  | none =>
    cases outer : stringMember envelope "tx_id" with
    | some txId => exact stringMember_ne_nil outer
    | none => exact named

theorem buildResult_ok {receipt envelope : Option Value} {fallbackTxId : Str}
    {result : AnchorTransferResult}
    (built : buildResultFromReceipt toUpperCase receipt envelope fallbackTxId = .ok result) :
    (∃ blockNumber, number (memberOrZero receipt "block_number") = .ok blockNumber) ∧
      result.receiptJson = bodyText (some (.object (flat receipt envelope))) ∧
      result.txId = receiptTxId receipt envelope fallbackTxId := by
  obtain ⟨blockNumber, converted, built⟩ := bind_ok built
  refine ⟨⟨blockNumber, converted⟩, ?_⟩
  obtain ⟨validationCode, -, built⟩ := bind_ok built
  dsimp only at built
  split_ifs at built
  · obtain rfl := Except.ok.inj built
    exact ⟨rfl, rfl⟩
  · obtain rfl := Except.ok.inj built
    exact ⟨rfl, rfl⟩
  · exact buildPendingResult_ok built

/-- The text of a lookup is the text of what is handed on. -/
theorem lookup_text {body : Option Value} {txId : Str} {result : AnchorTransferResult}
    (named : txId ≠ []) (parsed : parseReceiptLookupResponse toUpperCase body txId = .ok result) :
    result.receiptJson = ((handedOn toUpperCase body txId).map stringify).getD [] ∧
      result.txId ≠ [] := by
  have nothing {rest : Thrown AnchorTransferResult} (same : rest = .ok result)
      (pending : rest = buildPendingResult txId none) : result.receiptJson = [] ∧ result.txId ≠ [] := by
    rw [pending] at same
    obtain ⟨text, txId'⟩ := buildPendingResult_ok same
    exact ⟨text, txId' ▸ named⟩
  unfold parseReceiptLookupResponse at parsed
  unfold handedOn
  split_ifs at parsed with empty refused missing
  · simp only [Bool.not_eq_true'] at empty
    simpa [empty] using nothing parsed rfl
  · simpa [refused] using nothing parsed rfl
  · simp only [Bool.not_eq_true', Bool.not_eq_false] at empty refused
    rw [if_pos (by simp [empty, refused])]
    cases extracted : extractReceiptPayload body with
    | none =>
      simp only [extracted] at parsed
      simpa using nothing parsed rfl
    | some receipt =>
      simp only [extracted] at parsed
      obtain ⟨built, made, parsed⟩ := bind_ok parsed
      simp only [made]
      obtain ⟨-, text, txId'⟩ := buildResult_ok made
      have named' : built.txId ≠ [] := txId' ▸ receiptTxId_ne_nil named
      split_ifs at parsed ⊢ with decided
      · obtain rfl := Except.ok.inj parsed
        exact ⟨text.trans (bodyText_some _), named'⟩
      · obtain ⟨text', txId''⟩ := buildPendingResult_ok parsed
        exact ⟨text'.trans (bodyText_some _), txId'' ▸ named'⟩

theorem lookup_ok {body : Option Value} {txId : Str} {handed : Value}
    (hands : handedOn toUpperCase body txId = some handed) :
    ∃ result, parseReceiptLookupResponse toUpperCase body txId = .ok result := by
  unfold handedOn at hands
  split_ifs at hands with heard
  simp only [Bool.and_eq_true, Bool.not_eq_true'] at heard
  split at hands
  next => cases hands
  next receipt extracted =>
    split at hands
    next => cases hands
    next parsed built =>
      unfold parseReceiptLookupResponse
      rw [if_neg (by simp [heard.1]), if_neg (by simp [heard.2]), extracted]
      dsimp only
      rw [built]
      obtain ⟨⟨blockNumber, converted⟩, -, -⟩ := buildResult_ok built
      simp only [bind, Except.bind]
      have pending (txId : Str) : ∃ result, buildPendingResult txId (some receipt) = .ok result := by
        unfold buildPendingResult
        rw [converted]
        exact ⟨_, rfl⟩
      split_ifs
      · exact ⟨_, rfl⟩
      · exact pending _
      · exact pending _

/-! ## What is handed on of a body -/

theorem own_property {value : Option Value} (own : ∀ v ∈ value, Own v) {name : String} {found : Value}
    (there : property value name = some found) : Own found := by
  unfold property at there
  split at there
  · exact (own _ rfl).member (Members.mem_of_get there)
  · cases there

theorem own_entries {value : Option Value} (own : ∀ v ∈ value, Own v) :
    ∀ entry ∈ entriesOf value, Own entry.2 := by
  intro entry listed
  cases value with
  | none => cases listed
  | some value =>
    cases value with
    | object members => exact (own _ rfl).member listed
    | array items =>
      obtain ⟨item, there, rfl⟩ := List.mem_map.mp listed
      have same := (List.mem_zipIdx' there).2
      exact (own _ rfl).item (same ▸ List.getElem_mem _)
    | _ => cases listed

theorem own_flat {receipt envelope : Option Value} (own : ∀ v ∈ receipt, Own v)
    (own' : ∀ v ∈ envelope, Own v) : Own (.object (flat receipt envelope)) := by
  unfold flat
  split_ifs
  · refine .object (Members.kept_spread (Members.kept_spread Members.kept_nil _) _)
      fun member listed => ?_
    rcases Members.mem_spread listed with before | after
    · exact own_entries own' member (Members.mem_ofEntries before)
    · exact own_entries own member after
  · exact .object (Members.kept_ofEntries _) fun member listed =>
      own_entries own member (Members.mem_ofEntries listed)

/-- What is handed on is an object or array that the language keeps. -/
theorem own_handedOn {body : Option Value} (own : ∀ v ∈ body, Own v) {txId : Str} {handed : Value}
    (hands : handedOn toUpperCase body txId = some handed) :
    Own handed ∧ isObject (some handed) = true := by
  unfold handedOn at hands
  split_ifs at hands
  split at hands
  next => cases hands
  next receipt extracted =>
    have ownReceipt : Own receipt ∧ isObject (some receipt) = true := by
      unfold extractReceiptPayload at extracted
      dsimp only at extracted
      split_ifs at extracted with object nested
      · exact ⟨own_property own extracted, extracted ▸ nested⟩
      · exact ⟨own _ extracted, extracted ▸ object⟩
    split at hands
    next => cases hands
    next parsed built =>
      split_ifs at hands
      · obtain ⟨rfl, -⟩ := Option.filter_eq_some_iff.mp hands |>.imp_left Option.some.inj
        refine ⟨own_flat (fun v same => ?_) own, rfl⟩
        obtain rfl := Option.some.inj same
        exact ownReceipt.1
      · obtain ⟨rfl, -⟩ := Option.filter_eq_some_iff.mp hands |>.imp_left Option.some.inj
        exact ownReceipt

end

end Kufi.ChainService.Response

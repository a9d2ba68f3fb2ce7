import Kufi.ChainService.Lookups
import Kufi.Transactions.Entities

set_option autoImplicit false

/-!
# The evidence in a stored receipt

Reading an anchored transaction may put what the chain service returns in place
of its receipt. The row is taken as far as that read uses it, and texts are the
strings of the language.
-/

namespace Kufi.Transactions.Stored

open Shared Ecma ChainService.Response

structure TransactionEntity where
  chainStatus : ChainStatus
  chainTxId : Option Str
  receiptJson : Option Str
  chainLastAttemptAt : Option Number

def normalizeReceiptPayload (payload : Value) : Value :=
  ((property (some payload) "receipt").filter fun nested => isObject (some nested)).getD payload

def observers (receipt : Value) : List Value :=
  match property (some receipt) "observer_confirmations" with
  | some (.array observers) => observers
  | _ => []

def quorumMet (receipt : Value) : Bool :=
  match property (property (some receipt) "transparency") "quorum_met" with
  | some (.bool true) => true
  | _ => false

/-- The receipt in a stored text, if it holds one. -/
def storedReceipt (receiptJson : Option Str) : Option Value :=
  let raw := trim (receiptJson.getD [])
  if raw = [] then none
  else ((parse raw).filter fun decoded => isObject (some decoded)).map normalizeReceiptPayload

def shouldRefreshReceiptTransparency (receiptJson : Option Str) : Bool :=
  match storedReceipt receiptJson with
  | none => true
  | some receipt => (observers receipt).isEmpty || !quorumMet receipt

/-- The row after a refresh; `answers` is the chain service, and the save may fail. -/
def refreshAnchoredReceiptTransparency (answers : Str → Thrown AnchorTransferResult) (now : Number)
    (saved : Bool) (tx : TransactionEntity) : TransactionEntity :=
  let chainTxId := trim (tx.chainTxId.getD [])
  if chainTxId = [] then tx
  else
    match answers chainTxId with
    | .error _ => tx
    | .ok refreshed =>
      let receiptJson := trim refreshed.receiptJson
      if receiptJson = [] ∨ some receiptJson = tx.receiptJson then tx
      else if saved then
        { tx with receiptJson := some receiptJson, chainLastAttemptAt := some now }
      else tx

/-- The row after `getTransaction` has found it. -/
def getTransaction (answers : Str → Thrown AnchorTransferResult) (now : Number) (saved : Bool)
    (tx : TransactionEntity) : TransactionEntity :=
  if tx.chainStatus = .anchored ∧ shouldRefreshReceiptTransparency tx.receiptJson = true then
    refreshAnchoredReceiptTransparency answers now saved tx
  else tx

/-! ## Evidence -/

/-- A receipt with all that proves the transaction. -/
structure Evidence (chainTxId : Str) (receipt : Value) : Prop where
  complete : Complete (some receipt) chainTxId
  txId : stringMember (some receipt) "tx_id" = some chainTxId

def Successful (receipt : Value) : Prop :=
  property (some receipt) "validation_code" = some (.number Number.zero)

/-- The row still has a complete receipt for its transaction, one of success, and no quorum is
gone. -/
structure Keeps (chainTxId : Str) (old : Value) (after : TransactionEntity) (receipt : Value) :
    Prop where
  transaction : after.chainTxId = some chainTxId
  stored : storedReceipt after.receiptJson = some receipt
  evidence : Evidence chainTxId receipt
  successful : Successful receipt
  quorum : quorumMet old = true → quorumMet receipt = true

/-! ## What a reader finds in a refreshed text -/

theorem trim_enclosed {first last : UInt16} (solid : isBlank first = false)
    (solid' : isBlank last = false) (middle : Str) :
    trim (first :: (middle ++ [last])) = first :: (middle ++ [last]) := by
  unfold trim
  rw [List.dropWhile_cons_of_neg (by simp [solid]), ← List.cons_append,
    List.rdropWhile_concat_neg _ _ _ (by simp [solid'])]

theorem trim_stringify {value : Value} (object : isObject (some value) = true) :
    trim (stringify value) = stringify value := by
  cases value with
  | array items =>
    rw [stringify, stringifyItems_joined]
    exact trim_enclosed (by decide) (by decide) _
  | object members =>
    rw [stringify, stringifyMembers_joined]
    exact trim_enclosed (by decide) (by decide) _
  | _ => cases object

section

variable {toUpperCase : Str → Str} {collation : Collation}

/-- The text of an object or array. -/
def IsText (text : Str) : Prop := ∃ value, isObject (some value) = true ∧ text = stringify value

theorem isText_signed {signing : Option Signer} {result : AnchorTransferResult}
    (isText : IsText result.receiptJson) :
    IsText (enrichWithReceiptIntegrity collation signing result).receiptJson := by
  unfold enrichWithReceiptIntegrity
  split
  · exact isText
  · split_ifs
    · exact isText
    · split
      · exact isText
      · next receipt decoded =>
        split
        · exact isText
        · refine ⟨_, ?_, rfl⟩
          have object := (Option.filter_eq_some_iff.mp decoded).2
          cases receipt <;> first | rfl | cases object

theorem isText_enriched {requireTransparencyQuorum : Bool} {signing : Option Signer}
    {replies : List (Option Value)} {result : AnchorTransferResult}
    (isText : IsText result.receiptJson) :
    IsText (enrichWithObserverConfirmations toUpperCase collation requireTransparencyQuorum signing
      replies result).receiptJson := by
  unfold enrichWithObserverConfirmations
  split_ifs
  · exact isText_signed isText
  · split
    · exact isText
    · next receipt parsed =>
      split_ifs with object
      · refine isText_signed ⟨_, ?_, rfl⟩
        cases receipt <;> first | rfl | cases object
      · exact isText_signed isText

theorem storedReceipt_text {text : Str} (isText : IsText text) :
    storedReceipt (some (trim text)) =
      ((parse text).filter fun decoded => isObject (some decoded)).map normalizeReceiptPayload := by
  obtain ⟨value, object, rfl⟩ := isText
  unfold storedReceipt
  rw [Option.getD_some, trim_stringify object, trim_stringify object, if_neg]
  obtain ⟨u, rest, same, -⟩ := stringify_cons value
  simp [same]

/-! ## A receipt is read by its members -/

/-- The members that are written into a receipt on its way. -/
def addedNames : List Str := [integrityName, confirmationsName, transparencyName]

theorem evidence_congr {first second : Value} {chainTxId : Str}
    (same : ∀ name : String, Str.of name ∉ addedNames →
      property (some first) name = property (some second) name) :
    Evidence chainTxId first ↔ Evidence chainTxId second := by
  have fields : (Complete (some first) chainTxId ↔ Complete (some second) chainTxId) ∧
      stringMember (some first) "tx_id" = stringMember (some second) "tx_id" := by
    unfold Complete hasVerifiableBundle hasBlockProof hasPolicyInfo memberOrZero stringMember
    rw [same "block_number" (by decide), same "block_hash" (by decide),
      same "commitment_hash" (by decide), same "receipt_hash" (by decide),
      same "policy_id" (by decide), same "endorsements" (by decide),
      same "schema_version" (by decide), same "tx_id" (by decide)]
    exact ⟨Iff.rfl, rfl⟩
  constructor
  · exact fun evidence => ⟨fields.1.mp evidence.complete, fields.2 ▸ evidence.txId⟩
  · exact fun evidence => ⟨fields.1.mpr evidence.complete, fields.2.symm ▸ evidence.txId⟩

theorem property_finite (value : Value) (name : String) :
    property (some (finiteValue value)) name = (property (some value) name).map finiteValue := by
  cases value with
  | object members => exact get_finiteMembers members _
  | number n => cases n <;> rfl
  | _ => rfl

theorem quorumMet_finite (receipt : Value) : quorumMet (finiteValue receipt) = quorumMet receipt := by
  unfold quorumMet
  rw [property_finite]
  cases property (some receipt) "transparency" with
  | none => rfl
  | some transparency =>
    rw [Option.map_some, property_finite]
    cases property (some transparency) "quorum_met" with
    | none => rfl
    | some met =>
      cases met with
      | number n => cases n <;> rfl
      | _ => rfl

theorem successful_finite {receipt : Value} :
    Successful (finiteValue receipt) ↔ Successful receipt := by
  unfold Successful
  rw [property_finite]
  cases property (some receipt) "validation_code" with
  | none => simp
  | some code =>
    cases code with
    | number n => cases n <;> simp [finiteValue, Number.zero]
    | _ => simp [finiteValue]

theorem isObject_finite (value : Value) :
    isObject (some (finiteValue value)) = isObject (some value) := by
  cases value with
  | number n => cases n <;> rfl
  | _ => rfl

theorem normalize_nested {payload nested : Value}
    (found : property (some payload) "receipt" = some nested)
    (object : isObject (some nested) = true) : normalizeReceiptPayload payload = nested := by
  rw [normalizeReceiptPayload, found, Option.filter_some, if_pos object, Option.getD_some]

theorem normalize_flat {payload : Value} (flat : isObject (property (some payload) "receipt") = false) :
    normalizeReceiptPayload payload = payload := by
  unfold normalizeReceiptPayload
  cases found : property (some payload) "receipt" with
  | none => rfl
  | some nested =>
    rw [found] at flat
    rw [Option.filter_some, if_neg (by simp [flat]), Option.getD_none]

/-! ## What is put in place of a receipt -/

end

/-- The receipt that a reader will find in what is handed on has the evidence, and a quorum if the
old one had. -/
structure Carries (toUpperCase : Str → Str) (chainTxId : Str) (replies : List (Option Value))
    (old handed : Value) : Prop where
  evidence : Evidence chainTxId (finiteValue (normalizeReceiptPayload handed))
  successful : Successful (normalizeReceiptPayload handed)
  -- the observers' report is not written into a nested receipt
  quorum : quorumMet old = true →
    (if isObject (property (some handed) "receipt") = true ∨ replies = [] then
      quorumMet (normalizeReceiptPayload handed)
    else (transparencyOf toUpperCase (finiteValue handed) replies).quorumMet) = true

/-- What is handed on in place of the stored receipt, if anything is. -/
def replacing (toUpperCase : Str → Str) (reply : GatewayReply) (saved : Bool)
    (tx : TransactionEntity) : Option Value :=
  if shouldRefreshReceiptTransparency tx.receiptJson && saved then
    match reply with
    | .body body => handedOn toUpperCase body (trim (tx.chainTxId.getD []))
    | .notFound | .failed _ => none
  else none

section

variable {toUpperCase : Str → Str} {collation : Collation}

theorem carries_iff {chainTxId : Str} {replies : List (Option Value)} {old handed : Value} :
    Carries toUpperCase chainTxId replies old handed ↔
      Evidence chainTxId (finiteValue (normalizeReceiptPayload handed)) ∧
        Successful (normalizeReceiptPayload handed) ∧
        (quorumMet old = true →
          (if isObject (property (some handed) "receipt") = true ∨ replies = [] then
            quorumMet (normalizeReceiptPayload handed)
          else (transparencyOf toUpperCase (finiteValue handed) replies).quorumMet) = true) :=
  ⟨fun carries => ⟨carries.evidence, carries.successful, carries.quorum⟩,
    fun ⟨evidence, successful, quorum⟩ => ⟨evidence, successful, quorum⟩⟩

theorem not_evidence_array {chainTxId : Str} (items : List Value) :
    ¬ Evidence chainTxId (.array items) := by
  intro evidence
  cases evidence.txId

theorem quorumMet_report (report : Transparency) {receipt : Value}
    (written : property (some receipt) "transparency" = some (finiteValue report.value)) :
    quorumMet receipt = report.quorumMet := by
  unfold quorumMet
  rw [written, property_finite]
  cases report with
  | mk totalNodes requiredQuorum confirmedNodes met =>
    cases met <;> rfl

/-- A reader finds the evidence in the enriched text exactly where what was handed on carries it. -/
theorem enriched_carries_iff (toUpperCase : Str → Str) (collation : Collation)
    (requireTransparencyQuorum : Bool) (signing : Option Signer) (replies : List (Option Value))
    (old : Value) (chainTxId : Str) {result : AnchorTransferResult} {handed : Value}
    (own : Own handed) (object : isObject (some handed) = true)
    (text : result.receiptJson = stringify handed) (named : result.txId ≠ []) :
    ∃ decoded, decodedReceipt (enrichWithObserverConfirmations toUpperCase collation
        requireTransparencyQuorum signing replies result) = some decoded ∧
      (Evidence chainTxId (normalizeReceiptPayload decoded) ∧
          Successful (normalizeReceiptPayload decoded) ∧
          (quorumMet old = true → quorumMet (normalizeReceiptPayload decoded) = true) ↔
        Carries toUpperCase chainTxId replies old handed) := by
  have read : decodedReceipt result = some (finiteValue handed) := by
    rw [decodedReceipt, text, parse_stringify_own own]
    exact Option.filter_eq_some_iff.mpr ⟨rfl, by rwa [isObject_finite]⟩
  cases handed with
  | array items =>
    obtain ⟨items', decoded⟩ := decodedReceipt_enriched_array toUpperCase collation
      requireTransparencyQuorum signing replies read
    refine ⟨_, decoded, iff_of_false (fun found => ?_) fun carries => ?_⟩
    · exact not_evidence_array items' found.1
    · exact not_evidence_array _ carries.evidence
  | object members =>
    obtain ⟨stored, decoded, kept, report⟩ := get_enriched toUpperCase collation
      requireTransparencyQuorum signing replies read named
    refine ⟨_, decoded, ?_⟩
    have same (name : String) (other : Str.of name ≠ integrityName)
        (other' : Str.of name ≠ confirmationsName)
        (other'' : replies ≠ [] → Str.of name ≠ transparencyName) :
        property (some (.object stored)) name =
          property (some (finiteValue (.object members))) name := by
      refine kept _ other other' other'' fun value listed => ?_
      rw [get_finiteMembers] at listed
      obtain ⟨value, -, rfl⟩ := Option.map_eq_some_iff.mp listed
      exact finiteValue_idem value
    have nested := same "receipt" (by decide) (by decide) fun _ => by decide
    rw [property_finite] at nested
    by_cases inside : isObject (property (some (.object members)) "receipt") = true
    · obtain ⟨receipt, found⟩ : ∃ receipt,
          property (some (.object members)) "receipt" = some receipt := by
        cases found : property (some (.object members)) "receipt" with
        | none => rw [found] at inside; cases inside
        | some receipt => exact ⟨receipt, rfl⟩
      rw [found] at nested inside
      rw [normalize_nested nested (by rwa [isObject_finite]), successful_finite, quorumMet_finite]
      rw [carries_iff, found, if_pos (.inl inside), normalize_nested found inside]
    · have flat : isObject (property (some (.object members)) "receipt") = false := by
        simpa using inside
      have flat' : isObject (property (some (.object stored)) "receipt") = false := by
        rw [nested]
        cases found : property (some (.object members)) "receipt" with
        | none => rfl
        | some receipt =>
          rw [found] at flat
          rwa [Option.map_some, isObject_finite]
      have evidence : Evidence chainTxId (.object stored) ↔
          Evidence chainTxId (finiteValue (.object members)) :=
        evidence_congr fun name other => by
          simp only [addedNames, List.mem_cons, List.not_mem_nil, or_false, not_or] at other
          exact same name other.1 other.2.1 fun _ => other.2.2
      have successful : Successful (.object stored) ↔ Successful (.object members) := by
        rw [← @successful_finite (.object members), Successful, Successful,
          same "validation_code" (by decide) (by decide) fun _ => by decide]
      rw [carries_iff, normalize_flat flat, normalize_flat flat', evidence, successful]
      by_cases asked : replies = []
      · have transparency := same "transparency" (by decide) (by decide) fun some => absurd asked some
        have quorum : quorumMet (.object stored) = quorumMet (.object members) := by
          rw [← quorumMet_finite (.object members), quorumMet, quorumMet, transparency]
        rw [if_pos (.inr asked), quorum]
      · have written : property (some (.object stored)) "transparency" = _ := report asked
        rw [if_neg (by simp [flat, asked]), quorumMet_report _ written, finiteValue]
  | _ => cases object

theorem keeps_unchanged_iff {tx : TransactionEntity} {old : Value} {chainTxId : Str}
    (known : tx.chainTxId = some chainTxId) (stored : storedReceipt tx.receiptJson = some old)
    (evidence : Evidence chainTxId old) :
    (∃ receipt, Keeps chainTxId old tx receipt) ↔ Successful old := by
  constructor
  · rintro ⟨receipt, keeps⟩
    obtain rfl := Option.some.inj (stored.symm.trans keeps.stored)
    exact keeps.successful
  · exact fun successful => ⟨old, known, stored, evidence, successful, id⟩

theorem enriched_empty {requireTransparencyQuorum : Bool} {signing : Option Signer}
    {replies : List (Option Value)} {result : AnchorTransferResult}
    (empty : result.receiptJson = []) :
    enrichWithObserverConfirmations toUpperCase collation requireTransparencyQuorum signing replies
      result = result := by
  rw [enrichWithObserverConfirmations, if_pos (.inl empty)]
  cases signing with
  | none => rfl
  | some signer => exact if_pos empty

theorem chainTxId_nonblank {receipt : Value} {chainTxId : Str} (evidence : Evidence chainTxId receipt) :
    trim chainTxId ≠ [] := by
  have named := evidence.txId
  unfold stringMember asString at named
  split at named
  · split_ifs at named with blank
    rwa [← Option.some.inj named]
  · cases named

variable {answers : Str → Thrown AnchorTransferResult} {now : Number} {saved : Bool}
  {tx : TransactionEntity} {old : Value} {chainTxId : Str}

theorem refresh_nothing (known : tx.chainTxId = some chainTxId)
    (nothing : ∀ refreshed, answers (trim chainTxId) = .ok refreshed →
      trim refreshed.receiptJson = []) :
    refreshAnchoredReceiptTransparency answers now saved tx = tx := by
  unfold refreshAnchoredReceiptTransparency
  rw [known, Option.getD_some]
  dsimp only
  by_cases blank : trim chainTxId = []
  · rw [if_pos blank]
  rw [if_neg blank]
  cases answered : answers (trim chainTxId) with
  | error message => rfl
  | ok refreshed => exact if_pos (.inl (nothing refreshed answered))

/-- The row after a refresh whose answer holds a receipt. -/
theorem refresh_found_iff (known : tx.chainTxId = some chainTxId)
    (stored : storedReceipt tx.receiptJson = some old) (evidence : Evidence chainTxId old)
    {refreshed : AnchorTransferResult} {receipt : Value}
    (answered : answers (trim chainTxId) = .ok refreshed)
    (found : storedReceipt (some (trim refreshed.receiptJson)) = some receipt) :
    (∃ receipt, Keeps chainTxId old (refreshAnchoredReceiptTransparency answers now saved tx)
        receipt) ↔
      if saved then
        Evidence chainTxId receipt ∧ Successful receipt ∧
          (quorumMet old = true → quorumMet receipt = true)
      else Successful old := by
  have unchanged := keeps_unchanged_iff known stored evidence
  have written : trim refreshed.receiptJson ≠ [] := by
    intro empty
    rw [empty] at found
    cases found
  unfold refreshAnchoredReceiptTransparency
  rw [known, Option.getD_some]
  dsimp only
  rw [if_neg (chainTxId_nonblank evidence), answered]
  dsimp only
  by_cases same : some (trim refreshed.receiptJson) = tx.receiptJson
  · -- the text is the stored one
    rw [if_pos (.inr same), unchanged]
    rw [same] at found
    obtain rfl := Option.some.inj (stored.symm.trans found)
    split_ifs
    · exact ⟨fun successful => ⟨evidence, successful, id⟩, fun both => both.2.1⟩
    · exact Iff.rfl
  · rw [if_neg (by simp [written, same])]
    split_ifs
    · constructor
      · rintro ⟨after, keeps⟩
        obtain rfl := Option.some.inj (found.symm.trans keeps.stored)
        exact ⟨keeps.evidence, keeps.successful, keeps.quorum⟩
      · rintro ⟨evidence', successful, quorum⟩
        exact ⟨receipt, rfl, found, evidence', successful, quorum⟩
    · exact unchanged

end

variable (toUpperCase : Str → Str) (collation : Collation)

/-- A read keeps the evidence exactly where what is handed on in place of the receipt carries it,
or nothing is and the old receipt was one of success. -/
theorem refresh_keeps_evidence_iff (requireTransparencyQuorum : Bool) (signing : Option Signer)
    (replies : List (Option Value)) (now : Number) (saved : Bool) {reply : GatewayReply}
    (own : ∀ body, reply = .body (some body) → Own body) {tx : TransactionEntity} {old : Value}
    {chainTxId : Str} (anchored : tx.chainStatus = .anchored)
    (known : tx.chainTxId = some chainTxId) (stored : storedReceipt tx.receiptJson = some old)
    (evidence : Evidence chainTxId old) :
    (∃ receipt, Keeps chainTxId old
        (getTransaction
          (getReceipt toUpperCase collation requireTransparencyQuorum signing reply replies) now saved
          tx)
        receipt) ↔
      match replacing toUpperCase reply saved tx with
      | some handed => Carries toUpperCase chainTxId replies old handed
      | none => Successful old := by
  have unchanged := keeps_unchanged_iff known stored evidence
  have nonblank := chainTxId_nonblank evidence
  unfold getTransaction replacing
  rw [known, Option.getD_some]
  by_cases refreshes : shouldRefreshReceiptTransparency tx.receiptJson = true
  swap
  · rw [if_neg fun both => refreshes both.2, if_neg (by simp [refreshes])]
    exact unchanged
  rw [if_pos ⟨anchored, refreshes⟩, refreshes, Bool.true_and]
  cases reply with
  | notFound =>
    rw [refresh_nothing known fun refreshed answered => ?_, ite_self]
    · exact unchanged
    · rw [getReceipt, trim_trim, if_neg nonblank] at answered
      rw [(buildPendingResult_ok answered).1]
      rfl
  | failed message =>
    rw [refresh_nothing known fun refreshed answered => ?_, ite_self]
    · exact unchanged
    · rw [getReceipt, trim_trim, if_neg nonblank] at answered
      cases answered
  | body body =>
    have ownBody : ∀ value ∈ body, Own value := fun value same => own value (by rw [same])
    have asked : getReceipt toUpperCase collation requireTransparencyQuorum signing (.body body)
        replies (trim chainTxId) =
          (parseReceiptLookupResponse toUpperCase body (trim chainTxId)).map
            (enrichWithObserverConfirmations toUpperCase collation requireTransparencyQuorum signing
              replies) := by
      rw [getReceipt, trim_trim, if_neg nonblank]
    cases hands : handedOn toUpperCase body (trim chainTxId) with
    | none =>
      -- nothing is handed on: there is no answer or its text is empty
      rw [refresh_nothing known fun refreshed answered => ?_]
      · dsimp only
        rw [hands, ite_self]
        exact unchanged
      · rw [asked] at answered
        cases parsed : parseReceiptLookupResponse toUpperCase body (trim chainTxId) with
        | error message =>
          rw [parsed] at answered
          cases answered
        | ok result =>
          have empty : result.receiptJson = [] := by
            rw [(lookup_text nonblank parsed).1, hands]
            rfl
          rw [parsed, Except.map, enriched_empty empty] at answered
          rw [← Except.ok.inj answered, empty]
          rfl
    | some handed =>
      obtain ⟨result, parsed⟩ := lookup_ok hands
      obtain ⟨text, named⟩ := lookup_text nonblank parsed
      rw [hands, Option.map_some, Option.getD_some] at text
      obtain ⟨ownHanded, object⟩ := own_handedOn ownBody hands
      obtain ⟨decoded, read, carries⟩ := enriched_carries_iff toUpperCase collation
        requireTransparencyQuorum signing replies old chainTxId ownHanded object text named
      rw [parsed] at asked
      rw [refresh_found_iff known stored evidence asked
        ((storedReceipt_text (isText_enriched ⟨handed, object, text⟩)).trans
          (congrArg (Option.map normalizeReceiptPayload) read)), carries]
      dsimp only
      rw [hands]
      cases saved <;> simp

/-! ## A receipt that is replaced by less -/

def completeReceipt : Members :=
  [(Str.of "tx_id", text "t1"), (Str.of "validation_code", .number Number.zero),
    (Str.of "commitment_hash", text "c0"), (Str.of "block_hash", text "b7"),
    (Str.of "receipt_hash", text "r0"), (Str.of "policy_id", text "inter_bank_standard"),
    (Str.of "endorsements", .array []), (Str.of "schema_version", text "v1")]

def anchoredTransaction : TransactionEntity where
  chainStatus := .anchored
  chainTxId := some (Str.of "t1")
  receiptJson := some (stringify (.object completeReceipt))
  chainLastAttemptAt := none

/-- A body that has nothing but the transaction's id. -/
def bareBody : Value := .object [(Str.of "tx_id", text "t1")]

theorem storedReceipt_complete :
    storedReceipt anchoredTransaction.receiptJson = some (.object completeReceipt) := by
  have own : Own (.object completeReceipt) := by
    refine .object (Members.kept_of_unindexed (by decide) (by decide +kernel))
      fun member listed => ?_
    simp only [completeReceipt, List.mem_cons, List.not_mem_nil, or_false] at listed
    rcases listed with rfl | rfl | rfl | rfl | rfl | rfl | rfl | rfl <;>
      first | exact .string _ | exact .number _ | exact .array fun _ none => by cases none
  have object : isObject (some (.object completeReceipt)) = true := rfl
  have read := storedReceipt_text ⟨_, object, rfl⟩
  rw [trim_stringify object, parse_stringify_own own] at read
  exact read

theorem evidence_complete : Evidence (Str.of "t1") (.object completeReceipt) :=
  ⟨⟨some Number.zero, rfl, by decide⟩, by decide⟩

theorem own_bareBody : Own bareBody := by
  refine .object (Members.kept_of_unindexed (by decide) (by decide +kernel)) fun member listed => ?_
  obtain rfl := List.mem_singleton.mp listed
  exact .string _

theorem replacing_bare :
    replacing asciiUpperCase (.body (some bareBody)) true anchoredTransaction = some bareBody := by
  unfold replacing shouldRefreshReceiptTransparency
  rw [storedReceipt_complete]
  rfl

theorem bare_body_replaces_evidence :
    ¬ ∀ (toUpperCase : Str → Str) (collation : Collation) (requireTransparencyQuorum : Bool)
        (signing : Option Signer) (replies : List (Option Value)) (now : Number) (saved : Bool)
        (reply : GatewayReply) (tx : TransactionEntity) (old : Value) (chainTxId : Str),
      (∀ body, reply = .body (some body) → Own body) → tx.chainStatus = .anchored →
      tx.chainTxId = some chainTxId → storedReceipt tx.receiptJson = some old →
      Evidence chainTxId old → Successful old →
      ∃ receipt, Keeps chainTxId old
        (getTransaction
          (getReceipt toUpperCase collation requireTransparencyQuorum signing reply replies) now
          saved tx)
        receipt := by
  intro claimed
  have own (body : Value) (same : GatewayReply.body (some bareBody) = .body (some body)) :
      Own body := by
    obtain rfl := Option.some.inj (GatewayReply.body.inj same)
    exact own_bareBody
  have anchored : anchoredTransaction.chainStatus = .anchored := rfl
  have known : anchoredTransaction.chainTxId = some (Str.of "t1") := rfl
  have successful : Successful (.object completeReceipt) := rfl
  have kept := claimed asciiUpperCase overlooking false none [] Number.zero true
    (.body (some bareBody)) anchoredTransaction (.object completeReceipt) (Str.of "t1") own anchored
    known storedReceipt_complete evidence_complete successful
  have kept_iff := @refresh_keeps_evidence_iff asciiUpperCase overlooking false none []
    Number.zero true (.body (some bareBody)) own anchoredTransaction (.object completeReceipt)
    (Str.of "t1") anchored known storedReceipt_complete evidence_complete
  rw [replacing_bare] at kept_iff
  have carries := kept_iff.mp kept
  obtain ⟨blockNumber, -, bundle⟩ := carries.evidence.complete
  have bare : finiteValue (normalizeReceiptPayload bareBody) = bareBody := rfl
  have missing : stringMember (some bareBody) "commitment_hash" = none := by decide
  rw [bare, hasVerifiableBundle, missing] at bundle
  simp at bundle

/-- A lookup without a receipt leaves the stored one. -/
theorem refresh_keeps_evidence_again :
    (∃ receipt, Keeps (Str.of "t1") (.object completeReceipt)
        (getTransaction
          (getReceipt asciiUpperCase overlooking false none .notFound []) Number.zero true
          anchoredTransaction)
        receipt) ↔
      match replacing asciiUpperCase .notFound true anchoredTransaction with
      | some handed => Carries asciiUpperCase (Str.of "t1") [] (.object completeReceipt) handed
      | none => Successful (.object completeReceipt) := by
  have anchored : anchoredTransaction.chainStatus = .anchored := rfl
  have known : anchoredTransaction.chainTxId = some (Str.of "t1") := rfl
  exact @refresh_keeps_evidence_iff asciiUpperCase overlooking false none [] Number.zero true
    .notFound (fun _ same => by cases same) anchoredTransaction (.object completeReceipt)
    (Str.of "t1") anchored known storedReceipt_complete evidence_complete

end Kufi.Transactions.Stored

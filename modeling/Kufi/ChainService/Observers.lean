import Kufi.ChainService.AnchoredReceipts
import Kufi.ChainService.Signatures
import Mathlib.Data.List.Dedup

set_option autoImplicit false

/-!
# Confirmations of observers

Other nodes are asked whether they see the transaction; their confirmations and
the quorum that they make are written into the receipt.
-/

namespace Kufi.ChainService.Response

open Shared Ecma

variable (toUpperCase : Str → Str) (collation : Collation)

def upperMember (value : Option Value) (name : String) : Str :=
  toUpperCase ((stringMember value name).getD [])

/-- The transaction that observers are asked for. -/
def observedTxId (receipt : Value) (fallback : Str) : Str :=
  (stringMember (some receipt) "tx_id").getD fallback

/-- What a reply has to pass. -/
def confirms (receipt data : Value) : Bool :=
  let expectedBlockHash := (stringMember (some receipt) "block_hash").getD []
  let originMsp := upperMember toUpperCase (some receipt) "origin_msp_id"
  let blockHash := (stringMember (some data) "block_hash").getD []
  let mspId := upperMember toUpperCase (some data) "msp_id"
  isObject (some data) &&
    (match number (property (some data) "validation_code") with
      | .ok (some validationCode) => validationCode.isFinite && validationCode = Number.zero
      -- what the conversion throws is caught
      | _ => false) &&
    !(expectedBlockHash ≠ [] && blockHash ≠ [] && blockHash ≠ expectedBlockHash) &&
    mspId ≠ [] && !(originMsp ≠ [] && mspId = originMsp)

-- A reply that does not come, or comes without a body, is `none`.
def collectObserverConfirmations (receipt : Value) (replies : List (Option Value)) : List Value :=
  replies.reduceOption.filter (confirms toUpperCase receipt)

structure Transparency where
  totalNodes : ℕ
  requiredQuorum : ℕ
  confirmedNodes : ℕ
  quorumMet : Bool

def Transparency.value (transparency : Transparency) : Value :=
  .object
    [member "total_nodes" (.number (Number.ofNat transparency.totalNodes)),
      member "required_quorum" (.number (Number.ofNat transparency.requiredQuorum)),
      member "confirmed_nodes" (.number (Number.ofNat transparency.confirmedNodes)),
      member "quorum_met" (.bool transparency.quorumMet)]

def transparencyOf (receipt : Value) (replies : List (Option Value)) : Transparency :=
  let confirmations := collectObserverConfirmations toUpperCase receipt replies
  let totalNodes := 1 + replies.length
  let requiredQuorum := totalNodes / 2 + 1
  let confirmedNodes := 1 + confirmations.length
  { totalNodes, requiredQuorum, confirmedNodes, quorumMet := requiredQuorum ≤ confirmedNodes }

/-- The receipt with what the observers said. -/
def observed (receipt : Value) (replies : List (Option Value)) : Value :=
  assigned
    (assigned receipt "observer_confirmations"
      (.array (collectObserverConfirmations toUpperCase receipt replies)))
    "transparency" (transparencyOf toUpperCase receipt replies).value

def enrichWithObserverConfirmations (requireTransparencyQuorum : Bool) (signing : Option Signer)
    (replies : List (Option Value)) (result : AnchorTransferResult) : AnchorTransferResult :=
  if result.receiptJson = [] ∨ replies = [] ∨ result.txId = [] then
    enrichWithReceiptIntegrity collation signing result
  else
    match parse result.receiptJson with
    | none => result
    | some receipt =>
      if isObject (some receipt) then
        let quorumMet := (transparencyOf toUpperCase receipt replies).quorumMet
        let chainStatus :=
          if result.chainStatus = .anchored ∧ requireTransparencyQuorum ∧ !quorumMet then .pending
          else result.chainStatus
        enrichWithReceiptIntegrity collation signing
          { result with
            receiptJson := stringify (observed toUpperCase receipt replies)
            chainStatus }
      else enrichWithReceiptIntegrity collation signing result

/-! ## What is stored of the report -/

section

variable {toUpperCase} {collation}

-- A member whose value has a text of its own comes back as it is.
theorem get_signed (collation : Collation) (signing : Option Signer)
    {result : AnchorTransferResult} {receipt : Members}
    (decoded : decodedReceipt result = some (.object receipt)) :
    ∃ stored : Members,
      decodedReceipt (enrichWithReceiptIntegrity collation signing result) =
          some (.object stored) ∧
        ∀ name ≠ integrityName, (∀ value ∈ receipt.get name, finiteValue value = value) →
          stored.get name = receipt.get name := by
  have unchanged : ∃ stored : Members, decodedReceipt result = some (.object stored) ∧
      ∀ name ≠ integrityName, (∀ value ∈ receipt.get name, finiteValue value = value) →
        stored.get name = receipt.get name := ⟨receipt, decoded, fun _ _ _ => rfl⟩
  cases signing with
  | none => exact unchanged
  | some signer =>
    cases signed : integrityOf collation signer (.object receipt) with
    | none =>
      unfold enrichWithReceiptIntegrity
      rw [decoded]
      dsimp only
      rw [signed]
      split_ifs <;> exact unchanged
    | some integrity =>
      obtain ⟨stored, decoded', own, -, same⟩ := decodedReceipt_enriched decoded signed
      refine ⟨stored, decoded', fun name other finite => ?_⟩
      have ownReceipt : Own (.object receipt) := own_parse (Option.filter_eq_some_iff.mp decoded).1
      rw [payload_object own.kept, payload_object ownReceipt.kept, finiteValue] at same
      have there := congrArg (fun members => Members.get members name) (Value.object.inj same)
      simp only [get_finiteMembers, Members.get_delete, if_neg other] at there
      rw [there]
      exact Option.map_congr finite |>.trans Option.map_id'

theorem own_transparency (transparency : Transparency) : Own transparency.value := by
  let names := [Str.of "total_nodes", Str.of "required_quorum", Str.of "confirmed_nodes",
    Str.of "quorum_met"]
  have kept : Members.Kept (names.map fun name => (name, .null)) :=
    Members.kept_of_unindexed (by decide) (by decide +kernel)
  refine .object ⟨kept.distinct, kept.ordered⟩ fun member listed => ?_
  simp only [List.mem_cons, List.not_mem_nil, or_false] at listed
  rcases listed with rfl | rfl | rfl | rfl <;> constructor

abbrev confirmationsName : Str := Str.of "observer_confirmations"
abbrev transparencyName : Str := Str.of "transparency"

/-- What the enriched receipt holds: the report, and what was in the receipt before. -/
theorem get_enriched (toUpperCase : Str → Str) (collation : Collation)
    (requireTransparencyQuorum : Bool) (signing : Option Signer) (replies : List (Option Value))
    {result : AnchorTransferResult} {receipt : Members}
    (decoded : decodedReceipt result = some (.object receipt)) (named : result.txId ≠ []) :
    ∃ stored : Members,
      decodedReceipt (enrichWithObserverConfirmations toUpperCase collation
          requireTransparencyQuorum signing replies result) = some (.object stored) ∧
        (∀ name ≠ integrityName, name ≠ confirmationsName →
          (replies ≠ [] → name ≠ transparencyName) →
          (∀ value ∈ receipt.get name, finiteValue value = value) →
          stored.get name = receipt.get name) ∧
        (replies ≠ [] → stored.get transparencyName =
          some (finiteValue (transparencyOf toUpperCase (.object receipt) replies).value)) := by
  obtain ⟨parsed, -⟩ := Option.filter_eq_some_iff.mp decoded
  have own : Own (.object receipt) := own_parse parsed
  have nonempty : result.receiptJson ≠ [] := by
    intro empty
    rw [empty] at parsed
    cases parsed
  unfold enrichWithObserverConfirmations
  by_cases asked : replies = []
  · rw [if_pos (.inr (.inl asked))]
    obtain ⟨stored, decoded', kept⟩ := get_signed collation signing decoded
    exact ⟨stored, decoded', fun name other _ _ => kept name other, fun some => absurd asked some⟩
  rw [if_neg (by simp [nonempty, asked, named]), parsed]
  dsimp only
  rw [if_pos (show isObject (some (.object receipt)) = true from rfl)]
  have kept := Members.kept_set own.kept confirmationsName
    (.array (collectObserverConfirmations toUpperCase (.object receipt) replies))
  have kept' := Members.kept_set kept transparencyName
    (transparencyOf toUpperCase (.object receipt) replies).value
  have read (chainStatus : ChainStatus) : decodedReceipt
      { result with
        receiptJson := stringify (observed toUpperCase (.object receipt) replies)
        chainStatus } = some (.object _) :=
    Option.filter_eq_some_iff.mpr ⟨parse_object kept', rfl⟩
  obtain ⟨stored, decoded', same⟩ := get_signed collation signing
    (read (if result.chainStatus = .anchored ∧ requireTransparencyQuorum ∧
      !(transparencyOf toUpperCase (.object receipt) replies).quorumMet then .pending
      else result.chainStatus))
  have get (name : Str) := get_built_finite
    (Members.set (Members.set receipt confirmationsName
      (.array (collectObserverConfirmations toUpperCase (.object receipt) replies)))
      transparencyName (transparencyOf toUpperCase (.object receipt) replies).value) name
  refine ⟨stored, decoded', fun name other other' other'' finite => ?_, fun _ => ?_⟩
  · have there := get name
    rw [Members.get_set kept.distinct, if_neg (other'' asked), Members.get_set own.kept.distinct,
      if_neg other'] at there
    have before : Members.get (builtMembers (finiteMembers (Members.set (Members.set receipt
        confirmationsName (.array (collectObserverConfirmations toUpperCase (.object receipt)
          replies))) transparencyName (transparencyOf toUpperCase (.object receipt) replies).value)))
        name = receipt.get name := by
      rw [there]
      refine (Option.map_congr fun value listed => ?_).trans Option.map_id'
      have ownValue := own.member (Members.mem_of_get listed)
      rw [built_own (own_finiteValue ownValue), finite value listed]
    rw [same name other (by rwa [before]), before]
  · have there := get transparencyName
    rw [Members.get_set kept.distinct, if_pos rfl, Option.map_some,
      built_own (own_finiteValue (own_transparency _))] at there
    rw [same _ (by decide), there]
    intro value listed
    rw [there] at listed
    obtain rfl := Option.some.inj listed
    exact finiteValue_idem _

theorem parse_array (items : List Value) :
    ∃ items', parse (stringify (.array items)) = some (.array items') := by
  rw [parse_stringify, finiteValue, built]
  exact ⟨_, rfl⟩

theorem decodedReceipt_signed_array {signing : Option Signer} {result : AnchorTransferResult}
    {items : List Value} (decoded : decodedReceipt result = some (.array items)) :
    ∃ items', decodedReceipt (enrichWithReceiptIntegrity collation signing result) =
      some (.array items') := by
  unfold enrichWithReceiptIntegrity
  cases signing with
  | none => exact ⟨_, decoded⟩
  | some signer =>
    rw [decoded]
    dsimp only
    split_ifs
    · exact ⟨_, decoded⟩
    · split
      · exact ⟨_, decoded⟩
      · obtain ⟨items', read⟩ := parse_array items
        exact ⟨items', Option.filter_eq_some_iff.mpr ⟨read, rfl⟩⟩

/-- A receipt that is an array stays one. -/
theorem decodedReceipt_enriched_array (toUpperCase : Str → Str) (collation : Collation)
    (requireTransparencyQuorum : Bool) (signing : Option Signer) (replies : List (Option Value))
    {result : AnchorTransferResult} {items : List Value}
    (decoded : decodedReceipt result = some (.array items)) :
    ∃ items', decodedReceipt (enrichWithObserverConfirmations toUpperCase collation
      requireTransparencyQuorum signing replies result) = some (.array items') := by
  obtain ⟨parsed, -⟩ := Option.filter_eq_some_iff.mp decoded
  unfold enrichWithObserverConfirmations
  split_ifs
  · exact decodedReceipt_signed_array decoded
  · rw [parsed]
    dsimp only
    rw [if_pos (show isObject (some (.array items)) = true from rfl)]
    obtain ⟨items', read⟩ := parse_array items
    exact decodedReceipt_signed_array (Option.filter_eq_some_iff.mpr ⟨read, rfl⟩)

/-! ## A quorum of independent nodes -/

/-- The MSPs of replies as they are compared. -/
def mspIds (toUpperCase : Str → Str) (replies : List Value) : List Str :=
  replies.map fun data => upperMember toUpperCase (some data) "msp_id"

/-- A confirmation of the transaction by another node than the origin. -/
structure Independent (toUpperCase : Str → Str) (receipt : Value) (txId : Str) (data : Value) :
    Prop where
  code : property (some data) "validation_code" = some (.number Number.zero)
  txId : stringMember (some data) "tx_id" = some txId
  known : upperMember toUpperCase (some data) "msp_id" ≠ []
  other : upperMember toUpperCase (some data) "msp_id" ≠
    upperMember toUpperCase (some receipt) "origin_msp_id"
  blockHash : ∀ expected ∈ stringMember (some receipt) "block_hash",
    ∀ blockHash ∈ stringMember (some data) "block_hash", blockHash = expected

/-- The quorum that is reported is one of independent nodes. -/
def IndependentQuorum (toUpperCase : Str → Str) (receipt : Value) (txId : Str)
    (replies : List (Option Value)) : Prop :=
  let report := transparencyOf toUpperCase receipt replies
  let origin := upperMember toUpperCase (some receipt) "origin_msp_id"
  (report.quorumMet = true →
      ∃ confirmations : List Value, confirmations.Sublist replies.reduceOption ∧
        (∀ data ∈ confirmations, Independent toUpperCase receipt txId data) ∧
        (mspIds toUpperCase confirmations).Nodup ∧
        (1 + replies.length) / 2 + 1 ≤ 1 + confirmations.length) ∧
    report.confirmedNodes ≤
      (origin :: mspIds toUpperCase
        (collectObserverConfirmations toUpperCase receipt replies)).dedup.length

/-- The reply says itself that it confirms the transaction. -/
def states (txId : Str) (data : Value) : Bool :=
  (match property (some data) "validation_code" with
    | some (.number code) => code = Number.zero
    | _ => false) &&
    stringMember (some data) "tx_id" = some txId

/-- Replies that pass come from different MSPs, and if they make a quorum, then so do those of them
that say what they confirm. -/
structure Sound (toUpperCase : Str → Str) (receipt : Value) (txId : Str)
    (replies : List (Option Value)) : Prop where
  distinct : (mspIds toUpperCase (replies.reduceOption.filter (confirms toUpperCase receipt))).Nodup
  stated : (1 + replies.length) / 2 ≤
      (replies.reduceOption.filter (confirms toUpperCase receipt)).length →
    (1 + replies.length) / 2 ≤
      ((replies.reduceOption.filter (confirms toUpperCase receipt)).filter (states txId)).length

theorem states_iff {txId : Str} {data : Value} :
    states txId data = true ↔
      property (some data) "validation_code" = some (.number Number.zero) ∧
        stringMember (some data) "tx_id" = some txId := by
  unfold states
  split
  next code found => simp [found]
  next other =>
    refine iff_of_false (by simp) fun both => other _ both.1

theorem number_zero {value : Option Value} (zero : value = some (.number Number.zero)) :
    number value = .ok (some Number.zero) := by
  rw [zero]
  rfl

theorem isObject_of_property {value : Option Value} {name : String} {found : Value}
    (there : property value name = some found) : isObject value = true := by
  unfold property at there
  split at there
  · rfl
  · cases there

theorem stringMember_ne_nil {value : Option Value} {name : String} {text : Str}
    (named : stringMember value name = some text) : text ≠ [] := by
  unfold stringMember asString at named
  split at named
  · split_ifs at named with blank
    rw [← Option.some.inj named]
    rintro rfl
    exact blank rfl
  · cases named

/-- What is asked of a confirmation is what is checked and what it has to say itself. -/
theorem independent_iff {receipt data : Value} {txId : Str} :
    Independent toUpperCase receipt txId data ↔
      confirms toUpperCase receipt data = true ∧ states txId data = true := by
  rw [states_iff]
  constructor
  · intro independent
    refine ⟨?_, independent.code, independent.txId⟩
    have blocks : ((stringMember (some receipt) "block_hash").getD [] = [] ∨
          (stringMember (some data) "block_hash").getD [] = []) ∨
        (stringMember (some data) "block_hash").getD [] =
          (stringMember (some receipt) "block_hash").getD [] := by
      cases expected : stringMember (some receipt) "block_hash" with
      | none => exact .inl (.inl rfl)
      | some hash =>
        cases named : stringMember (some data) "block_hash" with
        | none => exact .inl (.inr rfl)
        | some hash' => exact .inr (independent.blockHash hash expected hash' named)
    unfold confirms
    rw [number_zero independent.code, isObject_of_property independent.code]
    simp only [Bool.and_eq_true, Bool.not_eq_true', decide_eq_true_eq, Bool.and_eq_false_iff,
      decide_eq_false_iff_not, not_not]
    exact ⟨⟨⟨⟨trivial, rfl, trivial⟩, blocks⟩, independent.known⟩, .inr independent.other⟩
  · rintro ⟨passes, code, txId⟩
    unfold confirms at passes
    rw [number_zero code] at passes
    simp only [Bool.and_eq_true, Bool.not_eq_true', decide_eq_true_eq, Bool.and_eq_false_iff,
      decide_eq_false_iff_not, not_not] at passes
    obtain ⟨⟨⟨-, blocks⟩, known⟩, other⟩ := passes
    refine ⟨code, txId, known, fun same => ?_, fun expected listed named listed' => ?_⟩
    · rcases other with unknown | differs
      · exact known (same.trans unknown)
      · exact differs same
    · rw [Option.mem_def] at listed listed'
      rw [listed, listed', Option.getD_some, Option.getD_some] at blocks
      rcases blocks with (empty | empty) | same
      · exact absurd empty (stringMember_ne_nil listed)
      · exact absurd empty (stringMember_ne_nil listed')
      · exact same

theorem origin_notMem (receipt : Value) (replies : List (Option Value)) :
    upperMember toUpperCase (some receipt) "origin_msp_id" ∉
      mspIds toUpperCase (collectObserverConfirmations toUpperCase receipt replies) := by
  intro listed
  obtain ⟨data, accepted, same⟩ := List.mem_map.mp listed
  have passes := (List.mem_filter.mp accepted).2
  unfold confirms at passes
  simp only [Bool.and_eq_true, Bool.not_eq_true', decide_eq_true_eq, Bool.and_eq_false_iff,
    decide_eq_false_iff_not, not_not] at passes
  rcases passes.2 with unknown | differs
  · exact passes.1.2 (same.trans unknown)
  · exact differs same

theorem length_le_dedup_iff {names : List Str} : names.length ≤ names.dedup.length ↔ names.Nodup := by
  constructor
  · intro enough
    have same := (List.dedup_sublist names).eq_of_length_le enough
    rw [← same]
    exact List.nodup_dedup names
  · exact fun distinct => (List.dedup_eq_self.mpr distinct).symm ▸ le_refl _

theorem quorumMet_iff {receipt : Value} {replies : List (Option Value)} :
    (transparencyOf toUpperCase receipt replies).quorumMet = true ↔
      (1 + replies.length) / 2 ≤
        (replies.reduceOption.filter (confirms toUpperCase receipt)).length := by
  rw [transparencyOf, collectObserverConfirmations, decide_eq_true_eq]
  omega

theorem independentQuorum_iff {receipt : Value} {txId : Str} {replies : List (Option Value)} :
    IndependentQuorum toUpperCase receipt txId replies ↔ Sound toUpperCase receipt txId replies := by
  have distinct_iff : (transparencyOf toUpperCase receipt replies).confirmedNodes ≤
        (upperMember toUpperCase (some receipt) "origin_msp_id" :: mspIds toUpperCase
          (collectObserverConfirmations toUpperCase receipt replies)).dedup.length ↔
      (mspIds toUpperCase (collectObserverConfirmations toUpperCase receipt replies)).Nodup := by
    rw [List.dedup_cons_of_notMem (origin_notMem receipt replies), ← length_le_dedup_iff]
    simp only [transparencyOf, List.length_cons, mspIds, List.length_map]
    omega
  constructor
  · rintro ⟨quorum, counted⟩
    refine ⟨distinct_iff.mp counted, fun enough => ?_⟩
    obtain ⟨confirmations, sub, independent, -, required⟩ := quorum (quorumMet_iff.mpr enough)
    have kept : (confirmations.filter (confirms toUpperCase receipt)).filter (states txId) =
        confirmations := by
      rw [List.filter_filter]
      refine List.filter_eq_self.mpr fun data listed => ?_
      have both := independent_iff.mp (independent data listed)
      simp [both.1, both.2]
    have shorter := ((sub.filter (confirms toUpperCase receipt)).filter (states txId)).length_le
    rw [kept] at shorter
    omega
  · intro sound
    refine ⟨fun met => ?_, distinct_iff.mpr sound.distinct⟩
    have accepted : List.Sublist ((replies.reduceOption.filter (confirms toUpperCase receipt)).filter
        (states txId)) (replies.reduceOption.filter (confirms toUpperCase receipt)) :=
      List.filter_sublist
    refine ⟨_, accepted.trans List.filter_sublist, fun data listed => ?_,
      sound.distinct.sublist (accepted.map _), ?_⟩
    · obtain ⟨passed, said⟩ := List.mem_filter.mp listed
      exact independent_iff.mpr ⟨(List.mem_filter.mp passed).2, said⟩
    · have enough := sound.stated (quorumMet_iff.mp met)
      omega

end

/-- The report that is stored counts independent nodes exactly where no MSP is counted twice and a
quorum does not need replies that leave out what they confirm. -/
theorem quorum_counts_independent_iff {requireTransparencyQuorum : Bool} {signing : Option Signer}
    {replies : List (Option Value)} {result : AnchorTransferResult} {receipt : Members}
    (decoded : decodedReceipt result = some (.object receipt)) (asked : replies ≠ [])
    (named : result.txId ≠ []) :
    ∃ stored : Members,
      decodedReceipt (enrichWithObserverConfirmations toUpperCase collation
          requireTransparencyQuorum signing replies result) = some (.object stored) ∧
        stored.get (Str.of "transparency") =
          some (finiteValue (transparencyOf toUpperCase (.object receipt) replies).value) ∧
        (IndependentQuorum toUpperCase (.object receipt)
            (observedTxId (.object receipt) result.txId) replies ↔
          Sound toUpperCase (.object receipt) (observedTxId (.object receipt) result.txId)
            replies) := by
  obtain ⟨stored, decoded', -, report⟩ := get_enriched toUpperCase collation
    requireTransparencyQuorum signing replies decoded named
  exact ⟨stored, decoded', report asked, independentQuorum_iff⟩

/-! ## One node that is asked twice -/

def anchoredReceipt : Members :=
  [(Str.of "tx_id", text "t1"), (Str.of "origin_msp_id", text "BankMSP")]

def anchoredResult : AnchorTransferResult where
  chainStatus := .anchored
  txId := Str.of "t1"
  blockNumber := some Number.zero
  commitmentHash := []
  receiptJson := stringify (.object anchoredReceipt)

theorem decoded_anchored : decodedReceipt anchoredResult = some (.object anchoredReceipt) := by
  have own : Own (.object anchoredReceipt) := by
    refine .object (Members.kept_of_unindexed (by decide) (by decide +kernel))
      fun member listed => ?_
    simp only [anchoredReceipt, List.mem_cons, List.not_mem_nil, or_false] at listed
    rcases listed with rfl | rfl <;> exact .string _
  exact Option.filter_eq_some_iff.mpr ⟨parse_stringify_own own, rfl⟩

def techcombankReply : Value :=
  .object
    [(Str.of "msp_id", text "TechcombankMSP"), (Str.of "tx_id", text "t1"),
      (Str.of "validation_code", .number Number.zero)]

/-- Two addresses of one node out of four observers. -/
def twiceReplied : List (Option Value) :=
  [some techcombankReply, some techcombankReply, none, none]

theorem one_node_makes_quorum :
    (transparencyOf asciiUpperCase (.object anchoredReceipt) twiceReplied).quorumMet = true ∧
      ¬ ∀ (toUpperCase : Str → Str) (receipt : Members) (result : AnchorTransferResult)
          (replies : List (Option Value)),
        decodedReceipt result = some (.object receipt) → replies ≠ [] → result.txId ≠ [] →
        IndependentQuorum toUpperCase (.object receipt)
          (observedTxId (.object receipt) result.txId) replies := by
  refine ⟨by decide +kernel, fun claimed => ?_⟩
  have independent := claimed asciiUpperCase anchoredReceipt anchoredResult twiceReplied
    decoded_anchored (by decide) (by decide)
  have distinct := (independentQuorum_iff.mp independent).distinct
  revert distinct
  decide +kernel

theorem quorum_counts_independent_twice :
    ∃ stored : Members,
      decodedReceipt (enrichWithObserverConfirmations asciiUpperCase overlooking true
          (some testSigner) twiceReplied anchoredResult) = some (.object stored) ∧
        stored.get (Str.of "transparency") =
          some (finiteValue
            (transparencyOf asciiUpperCase (.object anchoredReceipt) twiceReplied).value) ∧
        (IndependentQuorum asciiUpperCase (.object anchoredReceipt)
            (observedTxId (.object anchoredReceipt) anchoredResult.txId) twiceReplied ↔
          Sound asciiUpperCase (.object anchoredReceipt)
            (observedTxId (.object anchoredReceipt) anchoredResult.txId) twiceReplied) :=
  quorum_counts_independent_iff asciiUpperCase overlooking decoded_anchored (by decide) (by decide)

end Kufi.ChainService.Response

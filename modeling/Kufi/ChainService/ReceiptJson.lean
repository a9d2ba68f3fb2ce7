import Kufi.ChainService.Adapter
import Kufi.Gateway.OwnReceipts
import Kufi.Gateway.ReceiptJson

set_option autoImplicit false

/-!
# A receipt on its way through the adapter

The adapter parses the gateway's body, lays the receipt over it, adds what the
observers say and its own signature, and writes JSON again.
-/

namespace Kufi.ChainService

open Shared Json Gateway Marshal Unmarshal

/-! ## The gateway's bodies -/

/-- The body of a `TransferResponse` of success. -/
def transferResponse (txID : String) (receipt : ReceiptDTO) (processedAt : Int) :
    List (String × Option Json) :=
  [("success", always true),
    ("tx_id", omitEmpty "" txID),
    ("receipt", some receipt.json),
    ("error", none),
    ("processed_at", always processedAt)]

/-! ## Parse and merge -/

def jsParse (text : List Char) : Option Json := (parse text).map jsValue

def stringify (json : Json) : List Char := jsStyle.write 0 json

def memberString (members : Members) (name : String) : Option String :=
  match Members.get members name with
  | some (.string text) => asString text
  | _ => none

-- The gateway sends no array in place of the receipt.
def extractReceiptPayload (body : Members) : Option Members :=
  match Members.get body "receipt" with
  | some (.object receipt) => some receipt
  | _ =>
    let maybeDirectReceipt :=
      ((((memberString body "tx_id").or (memberString body "receipt_hash")).or
        (memberString body "commitment_hash")).or (memberString body "schema_version"))
    if maybeDirectReceipt.isSome then some body else none

def truthy : Option Json → Bool
  | none | some .null | some (.bool false) => false
  | some (.number n) => n ≠ 0
  | some (.string text) => text ≠ ""
  | _ => true

def flat (receipt envelope : Members) : Members :=
  if truthy (Members.get envelope "receipt") = true then
    Members.spread (Members.spread [] envelope) receipt
  else Members.spread [] receipt

-- Every branch of `buildResultFromReceipt` returns this text.
def receiptText (receipt envelope : Members) : List Char :=
  let flat := flat receipt envelope
  if flat = [] then [] else stringify (.object flat)

def receiptTxID (receipt envelope : Members) (fallbackTxID : String) : String :=
  ((memberString receipt "tx_id").or (memberString envelope "tx_id")).getD fallbackTxID

/-! ## Enrichment -/

/-- What the enrichment of one receipt finds: the confirmations of the observers, and the
signature if the adapter signs. -/
structure Enrichment where
  observers : Nat
  confirmations : List Json
  integrity : Option Json

variable (enrichment : Enrichment)

def enrichWithReceiptIntegrity (text : List Char) : List Char :=
  match enrichment.integrity, jsParse text with
  | some integrity, some (.object receipt) =>
    stringify (.object (Members.set receipt "receipt_integrity" integrity))
  | _, _ => text

def transparency : Json :=
  let totalNodes := 1 + enrichment.observers
  let requiredQuorum := totalNodes / 2 + 1
  let confirmedNodes := 1 + enrichment.confirmations.length
  .object
    [("total_nodes", .number totalNodes),
      ("required_quorum", .number requiredQuorum),
      ("confirmed_nodes", .number confirmedNodes),
      ("quorum_met", .bool (requiredQuorum ≤ confirmedNodes))]

def enrichText (txID : String) (text : List Char) : List Char :=
  if text = [] ∨ enrichment.observers = 0 ∨ txID = "" then
    enrichWithReceiptIntegrity enrichment text
  else
    match jsParse text with
    | some (.object receipt) =>
      let receipt := Members.set receipt "observer_confirmations" (.array enrichment.confirmations)
      let receipt := Members.set receipt "transparency" (transparency enrichment)
      enrichWithReceiptIntegrity enrichment (stringify (.object receipt))
    | some _ => enrichWithReceiptIntegrity enrichment text
    | none => text

/-- The `receiptJson` for a body of the gateway. -/
def receiptJson (fallbackTxID : String) (text : List Char) : Option (List Char) :=
  match jsParse text with
  | some (.object body) =>
    (extractReceiptPayload body).map fun receipt =>
      enrichText enrichment (receiptTxID receipt body fallbackTxID) (receiptText receipt body)
  | _ => none

def decodeReceiptDTO (text : List Char) : Option ReceiptDTO :=
  (parse text).bind fun json => intoReceiptDTO json .zero

/-! ## Members that carry a receipt -/

section

variable {fields : List (String × Option Json)} {members base : Members}

structure Carries (fields : List (String × Option Json)) (members : Members) : Prop where
  well : WellNamed (Members.names members)
  found : ∀ entry ∈ fields, Members.get members entry.1 = entry.2

theorem carries_present (well : WellNamed (fields.map Prod.fst)) :
    Carries fields (present fields) :=
  ⟨wellNamed_present well, fun _ listed => get_present well.1 listed⟩

/-- The receipt lies on top: what it leaves out must be missing below. -/
theorem carries_spread (well : WellNamed (Members.names base)) (carried : Carries fields members)
    (missing : ∀ entry ∈ fields, entry.2 = none → Members.get base entry.1 = none) :
    Carries fields (Members.spread base members) where
  well := by
    refine ⟨Members.nodup_spread well.1 _, fun name listed => ?_⟩
    rcases Members.mem_names_spread listed with below | above
    · exact well.2 name below
    · exact carried.well.2 name above
  found entry listed := by
    rw [Members.get_spread _ carried.well.1, carried.found entry listed]
    cases value : entry.2 with
    | some json => rfl
    | none => simp [missing entry listed value]

theorem carries_set (carried : Carries fields members) {name : String} (lower : Lower name)
    (other : name ∉ fields.map Prod.fst) (value : Json) :
    Carries fields (Members.set members name value) where
  well := by
    refine ⟨Members.nodup_set carried.well.1 _ _, fun name' listed => ?_⟩
    rcases Members.mem_names_set.mp listed with rfl | before
    · exact lower
    · exact carried.well.2 name' before
  found entry listed := by
    have different : entry.1 ≠ name := by
      rintro rfl
      exact other (List.mem_map_of_mem listed)
    rw [Members.get_set, if_neg different, carried.found entry listed]

theorem carries_jsMembers (steady : ∀ entry ∈ fields, SteadyField entry.2)
    (carried : Carries fields members) : Carries fields (jsMembers members) where
  well := by simpa using carried.well
  found entry listed := by
    rw [get_jsMembers, carried.found entry listed]
    cases value : entry.2 with
    | none => rfl
    | some json => exact congrArg some (steady entry listed json value)

theorem jsParse_stringify (steady : ∀ entry ∈ fields, SteadyField entry.2)
    (carried : Carries fields members) :
    ∃ parsed, jsParse (stringify (.object members)) = some (.object parsed) ∧
      Carries fields parsed := by
  refine ⟨jsMembers members, ?_, carries_jsMembers steady carried⟩
  rw [jsParse, stringify, parse_write, Option.map_some, jsValue_object carried.well.1]

/-- The text of an object that carries the receipt. -/
def Written (fields : List (String × Option Json)) (text : List Char) : Prop :=
  ∃ members, text = stringify (.object members) ∧ Carries fields members

variable {enrichment : Enrichment} {text : List Char}

-- The members that the adapter adds are none of the receipt's.
def Apart (fields : List (String × Option Json)) : Prop :=
  ∀ name ∈ ["receipt_integrity", "observer_confirmations", "transparency"],
    name ∉ fields.map Prod.fst

theorem written_integrity (steady : ∀ entry ∈ fields, SteadyField entry.2) (apart : Apart fields)
    (written : Written fields text) :
    Written fields (enrichWithReceiptIntegrity enrichment text) := by
  obtain ⟨members, rfl, carried⟩ := written
  obtain ⟨parsed, parses, carried'⟩ := jsParse_stringify steady carried
  unfold enrichWithReceiptIntegrity
  rw [parses]
  cases enrichment.integrity with
  | none => exact ⟨members, rfl, carried⟩
  | some integrity =>
    exact ⟨_, rfl, carries_set carried' (by decide) (apart _ (by simp)) integrity⟩

theorem written_enrichText (steady : ∀ entry ∈ fields, SteadyField entry.2) (apart : Apart fields)
    (written : Written fields text) (txID : String) :
    Written fields (enrichText enrichment txID text) := by
  unfold enrichText
  split
  next => exact written_integrity steady apart written
  next =>
    obtain ⟨members, rfl, carried⟩ := written
    obtain ⟨parsed, parses, carried'⟩ := jsParse_stringify steady carried
    simp only [parses]
    have confirmed := carries_set carried' (by decide) (apart "observer_confirmations" (by simp))
      (.array enrichment.confirmations)
    have transparent := carries_set confirmed (by decide) (apart "transparency" (by simp))
      (transparency enrichment)
    exact written_integrity steady apart ⟨_, rfl, transparent⟩

end

/-! ## The two bodies -/

section

variable {receipt : Receipt} {enrichment : Enrichment}

theorem fields_wellNamed (dto : ReceiptDTO) : WellNamed (dto.fields.map Prod.fst) := by
  simp only [ReceiptDTO.fields, List.map]
  decide

theorem fields_apart (dto : ReceiptDTO) : Apart dto.fields := by
  simp only [Apart, ReceiptDTO.fields, List.map]
  decide

-- The envelope names one member of the receipt, and no receipt leaves that out.
theorem fields_apart_envelope (dto : ReceiptDTO) : ∀ entry ∈ dto.fields, entry.2 = none →
    entry.1 ∉ ["success", "tx_id", "receipt", "error", "processed_at"] := by
  simp [ReceiptDTO.fields, always]

theorem decode_written (small : receipt.SmallIntegers) (compact : receipt.Compact)
    {text : List Char} (written : Written (receiptToDTO receipt).fields text) :
    decodeReceiptDTO text = some (receiptToDTO receipt) := by
  obtain ⟨members, rfl, carried⟩ := written
  rw [decodeReceiptDTO, stringify, parse_write, Option.bind_some]
  exact readReceiptDTO_agree small compact
    (agree_of_get carried.well (fields_wellNamed _) carried.found)

theorem spread_nil {members : Members} (distinct : (Members.names members).Nodup) :
    Members.spread [] members = members := by
  change Members.spread [] members = [] ++ members
  exact Members.spread_append distinct

theorem receiptText_written (dto : ReceiptDTO) {envelope : Members}
    (well : WellNamed (Members.names envelope))
    (missing : ∀ entry ∈ dto.fields, entry.2 = none → Members.get envelope entry.1 = none) :
    Written dto.fields (receiptText (present dto.fields) envelope) := by
  have carried := carries_present (fields_wellNamed dto)
  have laid : Carries dto.fields (flat (present dto.fields) envelope) := by
    unfold flat
    split
    · rw [spread_nil well.1]
      exact carries_spread well carried missing
    · rw [spread_nil carried.well.1]
      exact carried
  have listed : ("schema_version", always dto.schemaVersion) ∈ dto.fields := by
    simp [ReceiptDTO.fields]
  have nonempty : flat (present dto.fields) envelope ≠ [] := by
    intro empty
    have found := laid.found _ listed
    rw [empty] at found
    cases found
  rw [receiptText, if_neg nonempty]
  exact ⟨_, rfl, laid⟩

/-- The body of a receipt lookup is the receipt itself. -/
theorem receiptJson_lookup (small : receipt.SmallIntegers) (compact : receipt.Compact)
    (versioned : (asString receipt.schemaVersion).isSome = true) (fallbackTxID : String) :
    ∃ text, receiptJson enrichment fallbackTxID (receiptToDTO receipt).json.encode = some text ∧
      Written (receiptToDTO receipt).fields text := by
  have steady := steady_fields small compact
  have well := fields_wellNamed (receiptToDTO receipt)
  have parsed : jsParse (receiptToDTO receipt).json.encode =
      some (.object (present (receiptToDTO receipt).fields)) := by
    rw [jsParse, parse_encode]
    exact congrArg some (steady_struct well steady)
  have listed : ("schema_version", always receipt.schemaVersion) ∈ (receiptToDTO receipt).fields :=
    List.mem_cons_self
  have absent : "receipt" ∉ Members.names (present (receiptToDTO receipt).fields) := by
    refine fun found => absurd (names_present.subset found) ?_
    simp only [ReceiptDTO.fields, List.map]
    decide
  have missing := Members.get_eq_none absent
  have version : Members.get (present (receiptToDTO receipt).fields) "schema_version" = _ :=
    get_present well.1 listed
  have direct : extractReceiptPayload (present (receiptToDTO receipt).fields) =
      some (present (receiptToDTO receipt).fields) := by
    have named : (memberString (present (receiptToDTO receipt).fields) "schema_version").isSome := by
      unfold memberString
      rw [version]
      exact versioned
    unfold extractReceiptPayload
    rw [missing]
    simp [Option.isSome_or, named]
  refine ⟨_, by rw [receiptJson, parsed]; exact congrArg (Option.map _) direct, ?_⟩
  refine written_enrichText steady (fields_apart _) (receiptText_written _ ?_ ?_) _
  · exact wellNamed_present well
  · exact fun entry listed none => (get_present well.1 listed).trans none

/-- The body of a transfer response holds the receipt. -/
theorem receiptJson_transfer (small : receipt.SmallIntegers) (compact : receipt.Compact)
    (txID : String) (processedAt : Int) (fallbackTxID : String) :
    ∃ text, receiptJson enrichment fallbackTxID
        (Json.struct (transferResponse txID (receiptToDTO receipt) processedAt)).encode = some text ∧
      Written (receiptToDTO receipt).fields text := by
  have steady := steady_fields small compact
  have well := fields_wellNamed (receiptToDTO receipt)
  have envelope : WellNamed
      ((transferResponse txID (receiptToDTO receipt) processedAt).map Prod.fst) := by
    simp only [transferResponse, List.map]
    decide
  have parsed :
      jsParse (Json.struct (transferResponse txID (receiptToDTO receipt) processedAt)).encode =
        some (.object (jsMembers
          (present (transferResponse txID (receiptToDTO receipt) processedAt)))) := by
    rw [jsParse, parse_encode]
    exact congrArg some (jsValue_object (wellNamed_present envelope).1)
  have member : ("receipt", some (receiptToDTO receipt).json) ∈
      transferResponse txID (receiptToDTO receipt) processedAt := by
    simp [transferResponse]
  have inside : Members.get (jsMembers
      (present (transferResponse txID (receiptToDTO receipt) processedAt))) "receipt" =
        some (.object (present (receiptToDTO receipt).fields)) := by
    rw [get_jsMembers, show Members.get _ "receipt" = _ from get_present envelope.1 member]
    exact congrArg some (steady_struct well steady)
  have payload : extractReceiptPayload (jsMembers
      (present (transferResponse txID (receiptToDTO receipt) processedAt))) =
        some (present (receiptToDTO receipt).fields) := by
    rw [extractReceiptPayload, inside]
  refine ⟨_, by rw [receiptJson, parsed]; exact congrArg (Option.map _) payload, ?_⟩
  refine written_enrichText steady (fields_apart _) (receiptText_written _ ?_ ?_) _
  · simpa using wellNamed_present envelope
  · intro entry listed omitted
    refine Members.get_eq_none fun found => ?_
    rw [names_jsMembers] at found
    exact fields_apart_envelope _ entry listed omitted (names_present.subset found)

end

/-! ## The round trip -/

variable (crypto : Crypto) (builder : ReceiptBuilder) (now : Time) (input : BuildInput)

/-- A receipt comes back from its file, and from either body of the gateway, whatever the
adapter adds to it, with the digests it had. -/
theorem receipt_round_trip (small : (build crypto builder now input).SmallIntegers)
    (enrichment : Enrichment) (fallbackTxID envelopeTxID : String) (processedAt : Int) :
    ∃ stored, loadReceipt (saveReceipt (build crypto builder now input)) = some stored ∧
      ∀ body ∈ [(receiptToDTO stored).json,
          .struct (transferResponse envelopeTxID (receiptToDTO stored) processedAt)],
        ∃ text dto, receiptJson enrichment fallbackTxID body.encode = some text ∧
          decodeReceiptDTO text = some dto ∧
          (dtoToReceipt dto).computeReceiptHash crypto.sha256 =
            (build crypto builder now input).computeReceiptHash crypto.sha256 ∧
          ∀ opening, (build crypto builder now input).commitmentOpening = some opening →
            ∃ opening', (dtoToReceipt dto).commitmentOpening = some opening' ∧
              computeCommitmentHash crypto.sha256 opening' =
                computeCommitmentHash crypto.sha256 opening := by
  have compact := build_compact crypto builder now input
  have versioned : (asString "v1").isSome = true := by decide
  refine ⟨_, loadReceipt_saveReceipt small, fun body listed => ?_⟩
  have written : ∃ text, receiptJson enrichment fallbackTxID body.encode = some text ∧
      Written (receiptToDTO (build crypto builder now input)).fields text := by
    simp only [List.mem_cons, List.not_mem_nil, or_false] at listed
    rcases listed with rfl | rfl
    · exact receiptJson_lookup small compact versioned fallbackTxID
    · exact receiptJson_transfer small compact envelopeTxID processedAt fallbackTxID
  obtain ⟨text, encoded, carried⟩ := written
  have back := dtoToReceipt_receiptToDTO compact
  refine ⟨text, _, encoded, decode_written small compact carried, ?_, fun opening opened => ?_⟩
  · rw [back]
    rfl
  · exact ⟨opening, by rw [back]; exact opened, rfl⟩

def builtTransfer : BuildInput :=
  submitInput bankConfig sampleCrypto aliceTransfer 1700000001000000000 committedTransfer "b7" none

theorem builtTransfer_small :
    (build sampleCrypto bankConfig.receiptBuilder 1700000003000000000 builtTransfer).SmallIntegers where
  opening := by
    rintro commitment ⟨⟩
    decide
  blockNumber := by decide
  txIndex := by decide
  validationCode := by decide
  endorsements := by decide
  clientSubmit := by decide
  endorsementTime := by decide
  ordererReceive := by decide
  blockCommit := by decide
  receiptCreated := by decide
  observedAt := by decide

theorem receipt_round_trip_builtTransfer :
    ∃ stored, loadReceipt (saveReceipt (build sampleCrypto bankConfig.receiptBuilder
        1700000003000000000 builtTransfer)) = some stored ∧
      ∀ body ∈ [(receiptToDTO stored).json,
          .struct (transferResponse "t1" (receiptToDTO stored) 1700000004000)],
        ∃ text dto, receiptJson ⟨2, [.object [("validation_code", .number 0)]], none⟩ "t1"
            body.encode = some text ∧
          decodeReceiptDTO text = some dto ∧
          (dtoToReceipt dto).computeReceiptHash sampleSha256 =
            (build sampleCrypto bankConfig.receiptBuilder 1700000003000000000
              builtTransfer).computeReceiptHash sampleSha256 ∧
          ∀ opening, some (commitmentOf bankConfig aliceTransfer) = some opening →
            ∃ opening', (dtoToReceipt dto).commitmentOpening = some opening' ∧
              computeCommitmentHash sampleSha256 opening' =
                computeCommitmentHash sampleSha256 opening :=
  receipt_round_trip sampleCrypto bankConfig.receiptBuilder 1700000003000000000 builtTransfer
    builtTransfer_small ⟨2, [.object [("validation_code", .number 0)]], none⟩ "t1" "t1"
    1700000004000

end Kufi.ChainService

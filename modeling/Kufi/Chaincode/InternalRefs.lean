import Kufi.Chaincode.Intents
import Kufi.Gateway.Receipt
import Mathlib.Data.List.Perm.Basic

set_option autoImplicit false

/-!
# Transfers of an internal reference

`QueryTransfersByInternalRef` asks the state database with a selector that it
puts together as a text.
-/

namespace Kufi.Chaincode.Payment

open Shared Marshal

/-! ## The text of the query -/

/-- The bytes that `sanitizeQueryInput` keeps: ASCII letters and digits, dash, underscore, dot. -/
def allowedByte (c : UInt8) : Bool :=
  (0x61 ≤ c && c ≤ 0x7A) || (0x41 ≤ c && c ≤ 0x5A) || (0x30 ≤ c && c ≤ 0x39) || c = 0x2D ||
    c = 0x5F || c = 0x2E

def sanitizeQueryInput (s : String) : String :=
  Gateway.goString ((Gateway.utf8 s.toList).filter allowedByte)

def queryString (internalRef : String) : List Char :=
  "\x7b\"selector\":\x7b\"docType\":\"transferIntent\",\"internalRef\":\"".toList ++
    internalRef.toList ++ "\"\x7d\x7d".toList

/-- A character of one byte, which is kept. -/
def allowedChar (c : Char) : Bool := c.toNat < 0x80 && allowedByte (UInt8.ofNat c.toNat)

theorem toNat_lt_of_allowedByte {c : UInt8} (allowed : allowedByte c = true) : c.toNat < 0x80 := by
  simp [allowedByte, UInt8.le_iff_toNat_le, ← UInt8.toNat_inj] at allowed
  omega

theorem allowedByte_ofNat_high {n : Nat} (high : 0x80 ≤ n) (byte : n < 0x100) :
    allowedByte (UInt8.ofNat n) = false := by
  by_contra allowed
  have low := toNat_lt_of_allowedByte (Bool.not_eq_false _ ▸ allowed)
  rw [UInt8.toNat_ofNat_of_lt' byte] at low
  omega

/-- Of the bytes of a character all are kept or none. -/
theorem filter_utf8EncodeChar (c : Char) :
    (String.utf8EncodeChar c).filter allowedByte =
      if allowedChar c then String.utf8EncodeChar c else [] := by
  have value : c.val.toNat = c.toNat := rfl
  unfold allowedChar
  fun_cases String.utf8EncodeChar c with
  | case1 v small =>
    have ascii : c.toNat < 0x80 := by omega
    simp only [v, value, ascii, decide_true, Bool.true_and, List.filter_cons, List.filter_nil]
  | case2 v _ | case3 v _ _ | case4 v _ _ =>
    have wide : ¬ c.toNat < 0x80 := by omega
    simp only [wide, decide_false, Bool.false_and, Bool.false_eq_true, if_false,
      List.filter_cons, List.filter_nil]
    repeat rw [allowedByte_ofNat_high (by omega) (by omega)]
    simp

theorem filter_utf8 (text : List Char) :
    (Gateway.utf8 text).filter allowedByte = Gateway.utf8 (text.filter allowedChar) := by
  induction text with
  | nil => rfl
  | cons c rest ih =>
    rw [Gateway.utf8_cons, List.filter_append, filter_utf8EncodeChar, ih, List.filter_cons]
    split
    · rw [Gateway.utf8_cons]
    · rfl

theorem sanitizeQueryInput_eq (s : String) :
    sanitizeQueryInput s = String.ofList (s.toList.filter allowedChar) := by
  rw [sanitizeQueryInput, filter_utf8, Gateway.goString, Gateway.decodeUtf8_utf8 _ le_rfl]

theorem sanitizeQueryInput_eq_self_iff (s : String) :
    sanitizeQueryInput s = s ↔ ∀ c ∈ s.toList, allowedChar c = true := by
  rw [sanitizeQueryInput_eq, ← String.toList_inj, String.toList_ofList, List.filter_eq_self]

theorem escape_allowed {c : Char} (allowed : allowedChar c = true) : Json.escape c = [c] := by
  have table : ∀ n : Fin 128, allowedByte (UInt8.ofNat n) = true →
      Json.escape (Char.ofNat n) = [Char.ofNat n] := by decide +kernel
  simp only [allowedChar, Bool.and_eq_true, decide_eq_true_eq] at allowed
  have escaped := table ⟨c.toNat, allowed.1⟩ allowed.2
  rwa [Char.ofNat_toNat] at escaped

theorem encodeString_allowed {s : String} (allowed : ∀ c ∈ s.toList, allowedChar c = true) :
    Json.encodeString s = Json.quote :: (s.toList ++ [Json.quote]) := by
  unfold Json.encodeString
  congr 1
  generalize s.toList = text at allowed
  induction text with
  | nil => rfl
  | cons c rest ih =>
    rw [List.forall_mem_cons] at allowed
    rw [Json.encodeChars, escape_allowed allowed.1, ih allowed.2]
    rfl

/-- The members that a document must have. -/
abbrev Fields := List (String × String)

def wantedFields (internalRef : String) : Fields :=
  [("docType", "transferIntent"), ("internalRef", internalRef)]

def selectorJson (fields : Fields) : Json :=
  .object [("selector", .object (fields.map fun field => (field.1, .string field.2)))]

theorem encode_selectorJson (s : String) :
    (selectorJson (wantedFields s)).encode =
      "\x7b\"selector\":\x7b\"docType\":\"transferIntent\",\"internalRef\":".toList ++
        (Json.encodeString s ++ "\x7d\x7d".toList) := by
  have head : "\x7b\"selector\":\x7b\"docType\":\"transferIntent\",\"internalRef\":".toList =
      '{' :: (Json.encodeString "selector" ++ ':' :: '{' ::
        (Json.encodeString "docType" ++ ':' :: (Json.encodeString "transferIntent" ++ ',' ::
          (Json.encodeString "internalRef" ++ [':'])))) := by decide +kernel
  have last : "\x7d\x7d".toList = ['}', '}'] := by decide +kernel
  rw [head, last]
  simp only [selectorJson, wantedFields, List.map, Json.encode, Json.encodeMembers,
    List.nil_append, List.cons_append, List.append_assoc]

/-- The pieces of the text that JSON escapes, and those around them. -/
theorem queryString_eq (s : String) :
    queryString s = "\x7b\"selector\":\x7b\"docType\":\"transferIntent\",\"internalRef\":".toList ++
      (Json.quote :: (s.toList ++ Json.quote :: "\x7d\x7d".toList)) := by
  have before : "\x7b\"selector\":\x7b\"docType\":\"transferIntent\",\"internalRef\":\"".toList =
      "\x7b\"selector\":\x7b\"docType\":\"transferIntent\",\"internalRef\":".toList ++
        [Json.quote] := by decide +kernel
  have after : "\"\x7d\x7d".toList = Json.quote :: "\x7d\x7d".toList := by decide +kernel
  change "\x7b\"selector\":\x7b\"docType\":\"transferIntent\",\"internalRef\":\"".toList ++
    s.toList ++ "\"\x7d\x7d".toList = _
  rw [before, after, List.append_assoc, List.append_assoc]
  rfl

theorem queryString_allowed {s : String} (allowed : ∀ c ∈ s.toList, allowedChar c = true) :
    queryString s = (selectorJson (wantedFields s)).encode := by
  rw [encode_selectorJson, encodeString_allowed allowed, queryString_eq, List.cons_append,
    List.append_assoc]
  rfl

theorem allowed_sanitizeQueryInput (s : String) :
    ∀ c ∈ (sanitizeQueryInput s).toList, allowedChar c = true := by
  intro c kept
  rw [sanitizeQueryInput_eq, String.toList_ofList] at kept
  exact (List.mem_filter.mp kept).2

/-- Whatever is asked for, the query is the selector of two fields. -/
theorem parse_queryString (s : String) :
    Json.parse (queryString (sanitizeQueryInput s)) =
      some (selectorJson (wantedFields (sanitizeQueryInput s))) := by
  rw [queryString_allowed (allowed_sanitizeQueryInput s), Json.parse_encode]

/-! ## The query -/

abbrev Text := List Char

/-- The document has the wanted members. -/
def matchesFields (fields : Fields) (document : Text) : Bool :=
  match Json.parse document with
  | some (.object members) => fields.all fun field =>
    match Json.Members.get members field.1 with
    | some (.string value) => value = field.2
    | _ => false
  | _ => false

/-- A name that is neither an operator nor a path into a document. -/
def PlainName (name : String) : Prop := ∀ c ∈ name.toList, c ≠ '$' ∧ c ≠ '.'

instance (name : String) : Decidable (PlainName name) :=
  List.decidableBAll _ _

/-- A state database that answers with exactly the documents that match the selector, in some
order. -/
def RichQueries
    (getQueryResult : PublicState → Text → Except String (List (Except String Text))) : Prop :=
  ∀ state query fields, Json.parse query = some (selectorJson fields) →
    (∀ field ∈ fields, PlainName field.1) →
    ∃ documents : List Text,
      documents.Perm ((state.entries.map Sigma.snd).filter (matchesFields fields)) ∧
        getQueryResult state query = .ok (documents.map .ok)

/-- The loop over the iterator. -/
def readResults : List (Except String Text) → Except String (List Text)
  | [] => .ok []
  | .error err :: _ => .error ("failed to get next result: " ++ err)
  | .ok value :: rest => (readResults rest).map fun values => value :: values

-- `json.Marshal` compacts a raw message, which changes nothing in a text that it has written.
def marshalResults (results : List Text) : Text :=
  match results.mapM Json.parse with
  | some documents => (Json.array documents).encode
  | none => []

variable (getQueryResult : PublicState → Text → Except String (List (Except String Text)))

def queryTransfersByInternalRef (state : PublicState) (internalRef : String) :
    Except String Text :=
  match getQueryResult state (queryString (sanitizeQueryInput internalRef)) with
  | .error err => .error ("failed to execute query: " ++ err)
  | .ok resultsIterator =>
    match readResults resultsIterator with
    | .error err => .error err
    | .ok [] => .ok ['[', ']']
    | .ok results => .ok (marshalResults results)

/-! ## What is stored -/

def intents (state : PublicState) : List TransferIntent :=
  state.entries.filterMap fun entry => TransferIntent.decode entry.2

/-- The answer has the intents with the reference, and no others. -/
def ReturnsExactly (state : PublicState) (internalRef : String) (answer : Except String Text) :
    Prop :=
  ∃ found : List TransferIntent,
    found.Perm ((intents state).filter fun intent => intent.internalRef = internalRef) ∧
      answer = .ok (Json.array (found.map TransferIntent.json)).encode

/-- The lookup returns exactly the intents with the reference, by a selector of its two fields. -/
structure LooksUp (state : PublicState) (internalRef : String) : Prop where
  selector : ∃ asked, Json.parse (queryString (sanitizeQueryInput internalRef)) =
    some (selectorJson (wantedFields asked))
  exactly : ReturnsExactly state internalRef
    (queryTransfersByInternalRef getQueryResult state internalRef)

/-- The values are the texts of transfer intents. -/
def Documented (state : PublicState) : Prop :=
  ∀ key text, state.get key = some text → ∃ intent : TransferIntent,
    intent.docType = "transferIntent" ∧ intent.TimesHeld ∧ text = intent.encode

section

variable {getQueryResult} {state : PublicState}

theorem TransferIntent.json_injective : Function.Injective TransferIntent.json := by
  intro first second same
  have fields : first.fields = second.fields :=
    Json.struct_injective (by rfl) (by simp [TransferIntent.fields]) same
  cases first
  cases second
  simpa [TransferIntent.fields] using fields

theorem matchesFields_encode {intent : TransferIntent} (docType : intent.docType = "transferIntent")
    (internalRef : String) :
    matchesFields (wantedFields internalRef) intent.encode = (intent.internalRef = internalRef) := by
  have written (text : String) : marshal text = Json.string text := rfl
  simp [matchesFields, TransferIntent.encode, Json.parse_encode, TransferIntent.json,
    TransferIntent.fields, Json.struct, always, wantedFields, docType, written]

theorem documented_values (documented : Documented state) :
    state.entries.map Sigma.snd = (intents state).map TransferIntent.encode ∧
      ∀ intent ∈ intents state, intent.docType = "transferIntent" ∧ intent.TimesHeld := by
  have listed : ∀ entry ∈ state.entries, ∃ intent : TransferIntent,
      intent.docType = "transferIntent" ∧ intent.TimesHeld ∧ entry.2 = intent.encode :=
    fun entry stored => documented entry.1 entry.2 (Dict.get_eq_some.mpr stored)
  unfold intents
  generalize state.entries = entries at listed
  induction entries with
  | nil => exact ⟨rfl, fun _ none => by cases none⟩
  | cons entry rest ih =>
    rw [List.forall_mem_cons] at listed
    obtain ⟨⟨intent, docType, held, written⟩, later⟩ := listed
    obtain ⟨values, ok⟩ := ih later
    simp only [List.filterMap_cons, List.map_cons, written, TransferIntent.decode_encode held,
      values, true_and]
    exact List.forall_mem_cons.mpr ⟨⟨docType, held⟩, ok⟩

/-- The documents that match the selector are those of the intents with the reference. -/
theorem matching_documents (documented : Documented state) (internalRef : String) :
    (state.entries.map Sigma.snd).filter (matchesFields (wantedFields internalRef)) =
      ((intents state).filter fun intent => intent.internalRef = internalRef).map
        TransferIntent.encode := by
  obtain ⟨values, ok⟩ := documented_values documented
  rw [values, List.filter_map]
  congr 1
  refine List.filter_congr fun intent listed => ?_
  rw [Function.comp_apply, Bool.eq_iff_iff, matchesFields_encode (ok intent listed).1,
    decide_eq_true_iff]

theorem readResults_ok (documents : List Text) :
    readResults (documents.map .ok) = .ok documents := by
  induction documents with
  | nil => rfl
  | cons document rest ih =>
    rw [List.map_cons, readResults, ih]
    rfl

theorem marshalResults_encode (found : List TransferIntent) :
    marshalResults (found.map TransferIntent.encode) =
      (Json.array (found.map TransferIntent.json)).encode := by
  have parsed : (found.map TransferIntent.encode).mapM Json.parse =
      some (found.map TransferIntent.json) := by
    induction found with
    | nil => rfl
    | cons intent rest ih =>
      rw [List.map_cons, List.mapM_cons, TransferIntent.encode, Json.parse_encode, ih]
      rfl
  rw [marshalResults, parsed]

theorem exists_perm_of_map {A B : Type} {f : A → B} {values : List B} {elements : List A}
    (order : values.Perm (elements.map f)) :
    ∃ others : List A, values = others.map f ∧ others.Perm elements := by
  have images : List.Forall₂ (fun value element => value = f element) (elements.map f) elements := by
    rw [List.forall₂_map_left_iff]
    exact List.forall₂_same.mpr fun _ _ => rfl
  obtain ⟨others, same, order⟩ := List.perm_comp_forall₂ order images
  refine ⟨others, ?_, order⟩
  rwa [← List.forall₂_map_right_iff, List.forall₂_eq_eq_eq] at same

/-- The lookup returns the intents with the reference that is left of the one asked for. -/
theorem queryTransfersByInternalRef_ok (rich : RichQueries getQueryResult)
    (documented : Documented state) (internalRef : String) :
    ReturnsExactly state (sanitizeQueryInput internalRef)
      (queryTransfersByInternalRef getQueryResult state internalRef) := by
  obtain ⟨documents, matching, answered⟩ := rich state _ (wantedFields (sanitizeQueryInput internalRef))
    (parse_queryString internalRef) (by simp [wantedFields]; decide)
  rw [matching_documents documented] at matching
  obtain ⟨found, same, order⟩ := exists_perm_of_map matching
  refine ⟨found, order, ?_⟩
  rw [queryTransfersByInternalRef, answered]
  simp only [readResults_ok, same]
  cases found with
  | nil => rfl
  | cons intent rest => exact congrArg Except.ok (marshalResults_encode (intent :: rest))


theorem returnsExactly_agree {first second : String} {answer : Except String Text}
    (returned : ReturnsExactly state first answer) :
    ReturnsExactly state second answer ↔
      ((intents state).filter fun intent => intent.internalRef = first).Perm
        ((intents state).filter fun intent => intent.internalRef = second) := by
  obtain ⟨found, order, rfl⟩ := returned
  constructor
  · rintro ⟨found', order', same⟩
    have arrays := Json.array.inj (Json.encode_injective (Except.ok.inj same))
    obtain rfl := (List.map_injective_iff.mpr TransferIntent.json_injective) arrays
    exact order.symm.trans order'
  · exact fun agree => ⟨found, order.trans agree, rfl⟩

theorem filter_reference_perm_iff (listed : List TransferIntent) {first second : String}
    (different : first ≠ second) :
    (listed.filter fun intent => intent.internalRef = first).Perm
        (listed.filter fun intent => intent.internalRef = second) ↔
      ∀ intent ∈ listed, intent.internalRef ≠ first ∧ intent.internalRef ≠ second := by
  constructor
  · intro agree intent stored
    constructor
    · rintro rfl
      have left := agree.subset (List.mem_filter.mpr ⟨stored, decide_eq_true rfl⟩)
      exact different (of_decide_eq_true (List.mem_filter.mp left).2)
    · rintro rfl
      have right := agree.symm.subset (List.mem_filter.mpr ⟨stored, decide_eq_true rfl⟩)
      exact different (of_decide_eq_true (List.mem_filter.mp right).2).symm
  · intro absent
    rw [List.filter_eq_nil_iff.mpr, List.filter_eq_nil_iff.mpr]
    · exact fun intent stored same => (absent intent stored).2 (of_decide_eq_true same)
    · exact fun intent stored same => (absent intent stored).1 (of_decide_eq_true same)

end

/-! ## The states that invocations reach -/

section

variable {environment : Environment} {state later : PublicState} {invocation : Invocation}

theorem createTransferIntent_docType {ctx : TransactionContext} {arguments : CreateArguments}
    {getState : String → Option TransferIntent} {intent : TransferIntent}
    (created : Chaincode.createTransferIntent ctx arguments getState = .ok intent) :
    intent.docType = "transferIntent" := by
  unfold Chaincode.createTransferIntent at created
  split at created
  next => cases created
  next =>
    split at created
    next => cases created
    next => rw [← Except.ok.inj created]

theorem Documented.docType {key : String} {intent : TransferIntent}
    (documented : Documented state) (stored : intentAt state key = some intent) :
    intent.docType = "transferIntent" := by
  obtain ⟨text, found, decoded⟩ := Option.bind_eq_some_iff.mp stored
  obtain ⟨intent', docType, held, rfl⟩ := documented key text found
  rw [TransferIntent.decode_encode held] at decoded
  exact Option.some.inj decoded ▸ docType

theorem documented_step (recorded : Recorded state) (documented : Documented state)
    (timely : Timely state invocation) : Documented (step environment state invocation) := by
  rcases step_cases environment state invocation with same | ⟨intent, written, set⟩
  · rw [same]
    exact documented
  · rw [set]
    intro key text found
    rw [Dict.get_set] at found
    split at found
    next =>
      refine ⟨intent, ?_, (written.lawful recorded timely).times, (Option.some.inj found).symm⟩
      generalize invocation.key = target at written
      cases written with
      | created created => exact createTransferIntent_docType created
      | settled closable | cancelled closable =>
        have kept := documented.docType closable.stored
        exact kept
    next => exact documented key text found

theorem documented_reach (reached : Reach (step environment) Timely ∅ state) :
    Documented state := by
  have both : Recorded state ∧ Documented state := by
    refine reached.invariant (fun state => Recorded state ∧ Documented state)
      ⟨fun _ _ found => by simp at found, fun _ _ found => by simp at found⟩ ?_
    intro state invocation inv timely
    exact ⟨recorded_step inv.1 timely, documented_step inv.1 inv.2 timely⟩
  exact both.2

/-- An intent keeps the reference that it was created with. -/
theorem reference_kept {arguments : CreateArguments} {transientMap : Dict String Bytes}
    {iteration : Iteration transientMap} {simulation : Simulation} (recorded : Recorded state)
    (timely : Timely state invocation)
    (call : invocation.call = .createTransferIntent arguments transientMap iteration)
    (accepted : execute environment state invocation = .ok simulation)
    (onward : Reach (step environment) Timely (step environment state invocation) later) :
    ∃ intent, intentAt later invocation.ctx.txID = some intent ∧
      intent.internalRef = arguments.internalRef := by
  have stepped : step environment state invocation =
      state.set simulation.publicWrite.1 simulation.publicWrite.2 := by
    rw [step, accepted]
  simp only [execute, call] at accepted
  obtain ⟨intent, fresh, written⟩ := createTransferIntent_written accepted
  have lawful := (Written.created fresh).lawful recorded timely
  have now : intentAt (step environment state invocation) invocation.ctx.txID = some intent :=
    intentAt_encode lawful (by rw [stepped, written, Dict.get_set, if_pos rfl]) rfl
  obtain ⟨intent', found, same⟩ := identity_reach (recorded_step recorded timely) now onward
  have reference := congrArg TransferIntent.Identity.internalRef same
  exact ⟨intent', found, reference.trans (createTransferIntent_created fresh).internalRef⟩

variable {getQueryResult : PublicState → Text → Except String (List (Except String Text))}

theorem looksUp_iff (rich : RichQueries getQueryResult) (documented : Documented state)
    (internalRef : String) :
    LooksUp getQueryResult state internalRef ↔
      sanitizeQueryInput internalRef = internalRef ∨
        ∀ intent ∈ intents state, intent.internalRef ≠ sanitizeQueryInput internalRef ∧
          intent.internalRef ≠ internalRef := by
  have returned := queryTransfersByInternalRef_ok rich documented internalRef
  by_cases clean : sanitizeQueryInput internalRef = internalRef
  · rw [clean] at returned
    exact iff_of_true ⟨⟨_, parse_queryString internalRef⟩, returned⟩ (.inl clean)
  · rw [or_iff_right clean, ← filter_reference_perm_iff _ clean,
      ← returnsExactly_agree returned]
    exact ⟨fun looks => looks.exactly, fun looks => ⟨⟨_, parse_queryString internalRef⟩, looks⟩⟩

/-- A lookup is exact if the sanitizer leaves the reference as it is, or if neither the reference
nor what is left of it is that of an intent. -/
theorem lookup_exact_iff (reached : Reach (step environment) Timely ∅ state)
    (rich : RichQueries getQueryResult) (internalRef : String) :
    LooksUp getQueryResult state internalRef ↔
      sanitizeQueryInput internalRef = internalRef ∨
        ∀ intent ∈ intents state, intent.internalRef ≠ sanitizeQueryInput internalRef ∧
          intent.internalRef ≠ internalRef :=
  looksUp_iff rich (documented_reach reached) internalRef

end

/-! ## A reference with a slash -/

def fields? : Json → Option Fields
  | .object [(name, .object members)] =>
    if name = "selector" then
      members.mapM fun member =>
        match member.2 with
        | .string value => some (member.1, value)
        | _ => none
    else none
  | _ => none

theorem fields?_selectorJson (fields : Fields) : fields? (selectorJson fields) = some fields := by
  rw [selectorJson, fields?, if_pos rfl]
  induction fields with
  | nil => rfl
  | cons field rest ih =>
    rw [List.map_cons, List.mapM_cons, ih]
    rfl

/-- A state database that knows plain selectors only. -/
def plainQueries (state : PublicState) (query : Text) :
    Except String (List (Except String Text)) :=
  match (Json.parse query).bind fields? with
  | some fields =>
    .ok (((state.entries.map Sigma.snd).filter (matchesFields fields)).map .ok)
  | none => .error "invalid_selector"

theorem plainQueries_rich : RichQueries plainQueries := by
  intro state query fields parsed plain
  refine ⟨_, .refl _, ?_⟩
  rw [plainQueries, parsed, Option.bind_some, fields?_selectorJson]

def createFor (internalRef txID : String) (seconds : Int) : Invocation :=
  ⟨⟨txID, .ok "VPBankMSP", seconds, 0⟩,
    .createTransferIntent ⟨"c0ffee", internalRef, "high_risk"⟩ ∅ ⟨[], .nil⟩⟩

def slashRun : List Invocation := [createFor "ref/1" "tx1" 1700000000]

theorem slashRun_reached :
    Reach (step lenientPeer) Timely ∅ (slashRun.foldl (step lenientPeer) ∅) :=
  reach_foldl ⟨by decide, trivial⟩

theorem lookup_exact_iff_slashRun :
    LooksUp plainQueries (slashRun.foldl (step lenientPeer) ∅) "ref-1" ↔
      sanitizeQueryInput "ref-1" = "ref-1" ∨
        ∀ intent ∈ intents (slashRun.foldl (step lenientPeer) ∅),
          intent.internalRef ≠ sanitizeQueryInput "ref-1" ∧ intent.internalRef ≠ "ref-1" :=
  lookup_exact_iff slashRun_reached plainQueries_rich "ref-1"

-- The query asks for ref1.
theorem lookup_loses_slash :
    ¬ ∀ (environment : Environment)
      (getQueryResult : PublicState → Text → Except String (List (Except String Text)))
      (state : PublicState) (internalRef : String), Reach (step environment) Timely ∅ state →
      RichQueries getQueryResult → LooksUp getQueryResult state internalRef := by
  intro lookup
  have looks := lookup lenientPeer plainQueries (slashRun.foldl (step lenientPeer) ∅) "ref/1"
    slashRun_reached plainQueries_rich
  rw [looksUp_iff plainQueries_rich (documented_reach slashRun_reached),
    sanitizeQueryInput_eq_self_iff] at looks
  rcases looks with clean | absent
  · exact absurd (clean '/' (by decide)) (by decide)
  · have stored : ∃ intent ∈ intents (slashRun.foldl (step lenientPeer) ∅),
        intent.internalRef = "ref/1" := by decide +kernel
    obtain ⟨intent, listed, same⟩ := stored
    exact (absent intent listed).2 same

end Kufi.Chaincode.Payment

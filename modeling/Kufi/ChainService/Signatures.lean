import Kufi.ChainService.Responses
import Kufi.Shared.EcmaSimilar

set_option autoImplicit false

/-!
# Signed receipts

A receipt is signed in a canonical text, in which the members of every object
stand in the order of `localeCompare`.
-/

namespace Kufi.ChainService.Response

open Shared Ecma

variable (collation : Collation)

mutual

def canonicalStringify : Value → Str
  | .null => nullText
  | .number n => if n.isFinite then stringify (.number n) else nullText
  | .bool value => if value then trueText else falseText
  | .string text => stringify (.string text)
  | .array items => unit '[' :: (joined (unit ',') (canonicalItems items) ++ [unit ']'])
  | .object members =>
    -- the keys are distinct, so that the members can be sorted for them
    let entries := (collation.byName (canonicalMembers members)).map fun member =>
      stringify (.string member.1) ++ unit ':' :: member.2
    unit '{' :: (joined (unit ',') entries ++ [unit '}'])

def canonicalItems : List Value → List Str
  | [] => []
  | item :: rest => canonicalStringify item :: canonicalItems rest

def canonicalMembers : List (Str × Value) → List (Str × Str)
  | [] => []
  | (name, value) :: rest => (name, canonicalStringify value) :: canonicalMembers rest

end

/-! ## Signing -/

structure Signer where
  keyId : Str
  publicKeyFingerprint : Str
  -- hexadecimal digests of the UTF-8 encoding of a text
  sha256 : Str → Str
  sha3 : Str → Str
  -- base64 of the signature of it; `none` when it throws
  sign : Str → Option Str
  now : Number
  -- `createTsaAttestation`: `none` when it throws, `some none` without an attestation
  attest : Str → Option (Option Value)

def member (name : String) (value : Value) : Str × Value := (Str.of name, value)

/-- What is signed of a receipt. -/
def payload (receipt : Value) : Value :=
  .object (Members.delete (Members.spread [] (ownEntries receipt)) (Str.of "receipt_integrity"))

def canonicalPayload (receipt : Value) : Str := canonicalStringify collation (payload receipt)

def receiptIntegrity (signer : Signer) (canonical signature : Str)
    (tsaAttestation : Option Value) : Value :=
  let hashSha256 := signer.sha256 canonical
  let hashSha3 := signer.sha3 canonical
  let combinedHash := signer.sha256 (hashSha256 ++ unit ':' :: hashSha3)
  .object
    ([member "version" (.string (Str.of "v1")),
      member "canonicalization" (.string (Str.of "json-sorted-v1")),
      member "hashes" (.object
        [member "sha256" (.string hashSha256), member "sha3_256" (.string hashSha3),
          member "combined_sha256" (.string combinedHash)]),
      member "signature" (.object
        [member "algorithm" (.string (Str.of "ed25519")), member "key_id" (.string signer.keyId),
          member "signature_base64" (.string signature), member "signed_at" (.number signer.now)]),
      member "signer" (.object
        [member "public_key_fingerprint_sha256" (.string signer.publicKeyFingerprint)])] ++
      (tsaAttestation.map (member "tsa_attestation")).toList)

/-- The signature of a receipt; `none` when something throws. -/
def integrityOf (signer : Signer) (receipt : Value) : Option Value := do
  let canonical := canonicalPayload collation receipt
  let signature ← signer.sign canonical
  let tsaAttestation ← signer.attest canonical
  some (receiptIntegrity signer canonical signature tsaAttestation)

/-- `receipt[name] = value` as far as `JSON.stringify` sees it. -/
def assigned (receipt : Value) (name : String) (value : Value) : Value :=
  match receipt with
  | .object members => .object (Members.set members (Str.of name) value)
  -- a named property of an array is no item
  | receipt => receipt

/-- The receipt that the text of a result holds, if it is an object. -/
def decodedReceipt (result : AnchorTransferResult) : Option Value :=
  (parse result.receiptJson).filter fun decoded => isObject (some decoded)

-- `none`: signing is not enabled or there is no private key.
def enrichWithReceiptIntegrity (signing : Option Signer) (result : AnchorTransferResult) :
    AnchorTransferResult :=
  match signing with
  | none => result
  | some signer =>
    if result.receiptJson = [] then result
    else
      match decodedReceipt result with
      | none => result
      | some receipt =>
        match integrityOf collation signer receipt with
        | none => result
        | some integrity =>
          { result with receiptJson := stringify (assigned receipt "receipt_integrity" integrity) }

/-! ## The canonical text -/

theorem canonicalItems_eq_map (items : List Value) :
    canonicalItems collation items = items.map (canonicalStringify collation) := by
  induction items with
  | nil => rfl
  | cons item rest ih => simp [canonicalItems, ih]

theorem canonicalMembers_eq_map (members : Members) :
    canonicalMembers collation members =
      members.map fun member => (member.1, canonicalStringify collation member.2) := by
  induction members with
  | nil => rfl
  | cons member rest ih => simp [canonicalMembers, ih]

theorem stringifyItems_cons (separator : Str) (item : Value) (items : List Value) :
    stringifyItems separator (item :: items) =
      separator ++ (joined (unit ',') ((item :: items).map stringify) ++ [unit ']']) := by
  induction items generalizing separator item with
  | nil => simp [stringifyItems, joined]
  | cons next rest ih => rw [stringifyItems, ih]; simp [joined]

theorem stringifyItems_joined (items : List Value) :
    stringifyItems [] items = joined (unit ',') (items.map stringify) ++ [unit ']'] := by
  cases items with
  | nil => rfl
  | cons item rest => exact stringifyItems_cons [] item rest

def memberText (member : Str × Value) : Str := quoted member.1 ++ unit ':' :: stringify member.2

theorem stringifyMembers_cons (separator : Str) (member : Str × Value) (members : Members) :
    stringifyMembers separator (member :: members) =
      separator ++ (joined (unit ',') ((member :: members).map memberText) ++ [unit '}']) := by
  induction members generalizing separator member with
  | nil => simp [stringifyMembers, joined, memberText]
  | cons next rest ih => rw [stringifyMembers, ih]; simp [joined, memberText]

theorem stringifyMembers_joined (members : Members) :
    stringifyMembers [] members = joined (unit ',') (members.map memberText) ++ [unit '}'] := by
  cases members with
  | nil => rfl
  | cons member rest => exact stringifyMembers_cons [] member rest

/-- The canonical text is the text of the sorted value. -/
theorem canonicalStringify_eq (value : Value) :
    canonicalStringify collation value = stringify (sorted collation value) := by
  induction value using Value.induction with
  | null => simp [canonicalStringify, sorted, stringify]
  | bool value => cases value <;> simp [canonicalStringify, sorted, stringify]
  | number n => cases n <;> simp [canonicalStringify, sorted, stringify, Number.isFinite]
  | string text => simp [canonicalStringify, sorted]
  | array items ih =>
    rw [canonicalStringify, sorted, stringify, stringifyItems_joined, canonicalItems_eq_map,
      sortedItems_eq_map, List.map_map, List.map_congr_left ih]
    rfl
  | object members ih =>
    have texts : canonicalMembers collation members =
        (sortedMembers collation members).map fun member => (member.1, stringify member.2) := by
      rw [canonicalMembers_eq_map, sortedMembers_eq_map, List.map_map]
      exact List.map_congr_left fun member listed => Prod.ext rfl (ih member listed)
    rw [canonicalStringify, sorted, stringify, stringifyMembers_joined, texts,
      collation.byName_map stringify, List.map_map]
    rfl

theorem canonicalStringify_inj {first second : Value} :
    canonicalStringify collation first = canonicalStringify collation second ↔
      finiteValue (sorted collation first) = finiteValue (sorted collation second) := by
  rw [canonicalStringify_eq, canonicalStringify_eq, stringify_inj]

/-! ## Checking a signature again -/

/-- However the members of a stored receipt are reordered, its payload gives the text. -/
def Recheckable (text : Str) (stored : Value) : Prop :=
  ∀ reordered, Own reordered → Similar stored reordered →
    canonicalPayload collation reordered = text

section

variable {collation}

abbrev integrityName : Str := Str.of "receipt_integrity"

theorem payload_object {members : Members} (kept : members.Kept) :
    payload (.object members) = .object (members.delete integrityName) :=
  congrArg (fun members => Value.object (Members.delete members integrityName))
    (Members.ofEntries_eq kept)

theorem delete_map (f : Value → Value) (members : Members) (name : Str) :
    Members.delete (members.map fun member => (member.1, f member.2)) name =
      (members.delete name).map fun member => (member.1, f member.2) := by
  rw [Members.delete, List.filter_map]
  rfl

theorem own_delete {members : Members} (own : Own (.object members)) (name : Str) :
    Own (.object (members.delete name)) :=
  .object (Members.kept_delete own.kept name) fun _ listed =>
    own.member (List.mem_filter.mp listed).1

theorem finiteValue_idem (value : Value) : finiteValue (finiteValue value) = finiteValue value :=
  stringify_inj.mp (stringify_finiteValue value)

theorem canonicalStringify_finiteValue (value : Value) :
    canonicalStringify collation (finiteValue value) = canonicalStringify collation value := by
  rw [canonicalStringify_inj, finiteValue_sorted, finiteValue_idem, ← finiteValue_sorted]

theorem distinguished_finiteValue {value : Value} :
    Distinguished collation (finiteValue value) ↔ Distinguished collation value := by
  induction value using Value.induction with
  | number n =>
    cases n with
    | finite x => exact Iff.rfl
    | infinity negative =>
      exact iff_of_true (fun _ within => by cases within) fun _ within => by cases within
  | array items ih =>
    rw [finiteValue, finiteItems_eq_map, distinguished_array, distinguished_array,
      List.forall_mem_map]
    exact forall₂_congr ih
  | object members ih =>
    rw [finiteValue, distinguished_object, distinguished_object, names_finiteMembers,
      finiteMembers_eq_map, List.forall_mem_map]
    exact and_congr_right fun _ => forall₂_congr ih
  | _ => exact Iff.rfl

theorem parse_object {entries : Members} (kept : entries.Kept) :
    parse (stringify (.object entries)) =
      some (.object (builtMembers (finiteMembers entries))) := by
  have names : Members.names (builtMembers (finiteMembers entries)) = entries.names := by
    simp [builtMembers_eq_map, finiteMembers_eq_map, Members.names]
  rw [parse_stringify, finiteValue, built,
    Members.ofEntries_eq ⟨names ▸ kept.distinct, names ▸ kept.ordered⟩]

/-- What is stored of a signed receipt: the payload is the one that was signed. -/
theorem decodedReceipt_enriched {signer : Signer} {result : AnchorTransferResult}
    {receipt : Members} {integrity : Value}
    (decoded : decodedReceipt result = some (.object receipt))
    (signed : integrityOf collation signer (.object receipt) = some integrity) :
    ∃ stored : Members,
      decodedReceipt (enrichWithReceiptIntegrity collation (some signer) result) =
          some (.object stored) ∧
        Own (.object stored) ∧ integrityName ∈ stored.names ∧
        payload (.object stored) = finiteValue (payload (.object receipt)) := by
  have parsed : parse result.receiptJson = some (.object receipt) :=
    (Option.filter_eq_some_iff.mp decoded).1
  have own : Own (.object receipt) := own_parse parsed
  have nonempty : result.receiptJson ≠ [] := by
    intro empty
    rw [empty] at parsed
    cases parsed
  let entries := Members.set receipt integrityName integrity
  have kept : Members.Kept entries := Members.kept_set own.kept _ _
  have read := parse_object kept
  refine ⟨builtMembers (finiteMembers entries), ?_, own_parse read, ?_, ?_⟩
  · rw [enrichWithReceiptIntegrity, if_neg nonempty, decoded]
    dsimp only
    rw [signed]
    exact Option.filter_eq_some_iff.mpr ⟨read, rfl⟩
  · rw [builtMembers_eq_map, finiteMembers_eq_map, List.map_map, Members.names, List.map_map]
    exact Members.mem_names_set.mpr (.inl rfl)
  · rw [payload_object (own_parse read).kept, payload_object own.kept, finiteValue, builtMembers_eq_map,
      delete_map, finiteMembers_eq_map, delete_map, Members.delete_set, finiteMembers_eq_map,
      List.map_map]
    refine congrArg Value.object (List.map_congr_left fun member listed => Prod.ext rfl ?_)
    exact built_own (own_finiteValue (own.member (List.mem_filter.mp listed).1))

theorem similar_payload {stored reordered : Members} (kept : stored.Kept) (kept' : reordered.Kept)
    (similar : Ecma.Similar (.object stored) (.object reordered)) :
    Ecma.Similar (payload (.object stored)) (payload (.object reordered)) := by
  obtain ⟨names, each⟩ := similar_object_iff.mp similar
  rw [payload_object kept, payload_object kept']
  have namesOf (members : Members) : Members.names (members.delete integrityName) =
      members.names.filter fun name => name ≠ integrityName := by
    simp [Members.delete, Members.names, List.filter_map, Function.comp_def]
  refine .object ?_ fun name value value' here there => ?_
  · rw [namesOf, namesOf]
    exact names.filter _
  · rw [Members.get_delete] at here there
    split_ifs at here there
    exact each name _ _ here there

/-- A reordering of the payload comes from a reordering of the receipt. -/
theorem exists_reordered {stored : Members} (own : Own (.object stored))
    (listed : integrityName ∈ stored.names) {other : Value} (own' : Own other)
    (similar : Similar (payload (.object stored)) other) :
    ∃ reordered, Own reordered ∧ Similar (.object stored) reordered ∧ payload reordered = other := by
  rw [payload_object own.kept] at similar
  obtain ⟨members, rfl⟩ : ∃ members : Members, other = .object members := by
    cases similar with
    | refl => exact ⟨_, rfl⟩
    | object => exact ⟨_, rfl⟩
  obtain ⟨names, each⟩ := similar_object_iff.mp similar
  obtain ⟨integrity, found⟩ : ∃ integrity, stored.get integrityName = some integrity := by
    cases found : stored.get integrityName with
    | none => exact absurd listed (Members.get_eq_none.mp found)
    | some integrity => exact ⟨integrity, rfl⟩
  have fresh : integrityName ∉ members.names := by
    rw [← names.mem_iff, ← Members.get_eq_none, Members.get_delete, if_pos rfl]
  have perm : (members ++ [(integrityName, integrity)]).Perm ((integrityName, integrity) :: members) :=
    List.perm_append_singleton _ _
  -- the signature is put at the end: its name is no index
  have kept : Members.Kept (members ++ [(integrityName, integrity)]) := by
    refine ⟨((perm.map Prod.fst).nodup_iff).mpr (List.nodup_cons.mpr ⟨fresh, own'.kept.distinct⟩), ?_⟩
    rw [Members.names_append, List.pairwise_append]
    refine ⟨own'.kept.ordered, List.pairwise_singleton _ _, fun first _ second last => ?_⟩
    obtain rfl := List.mem_singleton.mp last
    intro j indexed
    rw [show index? integrityName = none by decide +kernel] at indexed
    cases indexed
  have get (name : Str) : Members.get (members ++ [(integrityName, integrity)]) name =
      if name = integrityName then some integrity else members.get name := by
    rw [Members.get_perm kept.distinct perm, Members.get_cons]
  refine ⟨.object (members ++ [(integrityName, integrity)]), .object kept fun member listed => ?_,
    .object ?_ fun name value value' here there => ?_, ?_⟩
  · rcases List.mem_append.mp listed with before | last
    · exact own'.member before
    · obtain rfl := List.mem_singleton.mp last
      exact own.member (Members.mem_of_get found)
  · rw [List.perm_ext_iff_of_nodup own.kept.distinct kept.distinct]
    intro name
    have same : name ∈ (stored.delete integrityName).names ↔ name ∈ members.names := names.mem_iff
    rw [← not_iff_not, ← Members.get_eq_none, Members.get_delete] at same
    rw [← not_iff_not, ← Members.get_eq_none, ← Members.get_eq_none, get]
    by_cases here : name = integrityName
    · simp [here, found]
    · rw [if_neg here] at same
      rw [if_neg here, same, Members.get_eq_none]
  · rw [get] at there
    split_ifs at there with same
    · obtain rfl := Option.some.inj (found.symm.trans (same ▸ here))
      obtain rfl := Option.some.inj there
      exact .refl _
    · exact each name _ _ (by rw [Members.get_delete, if_neg same, here]) there
  · rw [payload_object kept, Members.delete, List.filter_append]
    have unchanged : members.filter (fun member => decide (member.1 ≠ integrityName)) = members :=
      List.filter_eq_self.mpr fun member listed => by
        have other : member.1 ≠ integrityName := fun same =>
          fresh (same ▸ List.mem_map_of_mem (f := Prod.fst) listed)
        simpa using other
    rw [unchanged]
    simp

theorem recheckable_iff {stored receipt : Members} (own : Own (.object stored))
    (listed : integrityName ∈ stored.names)
    (same : payload (.object stored) = finiteValue (payload (.object receipt))) :
    Recheckable collation (canonicalPayload collation (.object receipt)) (.object stored) ↔
      Distinguished collation (payload (.object receipt)) := by
  have ownPayload : Own (payload (.object stored)) := by
    rw [payload_object own.kept]
    exact own_delete own _
  have text : canonicalPayload collation (.object receipt) =
      canonicalPayload collation (.object stored) := by
    rw [canonicalPayload, canonicalPayload, same, canonicalStringify_finiteValue]
  rw [← distinguished_finiteValue, ← same, ← settled_iff ownPayload, text]
  constructor
  · intro recheckable other own' similar
    obtain ⟨reordered, ownReordered, similar', rfl⟩ := exists_reordered own listed own' similar
    exact (canonicalStringify_inj collation).mp (recheckable reordered ownReordered similar')
  · intro settled reordered ownReordered similar
    obtain ⟨members, rfl⟩ : ∃ members : Members, reordered = .object members := by
      cases similar with
      | refl => exact ⟨_, rfl⟩
      | object => exact ⟨_, rfl⟩
    have ownPayload' : Own (payload (.object members)) := by
      rw [payload_object ownReordered.kept]
      exact own_delete ownReordered _
    exact (canonicalStringify_inj collation).mpr
      (settled _ ownPayload' (similar_payload own.kept ownReordered.kept similar))

end

/-- A stored signature can be checked in any order of the members exactly where the comparison
tells the names of every object apart; the canonical text tells values apart up to that order. -/
theorem signatures_recheckable_iff {signer : Signer} {result : AnchorTransferResult}
    {receipt : Members} {integrity : Value}
    (decoded : decodedReceipt result = some (.object receipt))
    (signed : integrityOf collation signer (.object receipt) = some integrity)
    {value : Value} (own : Own value) :
    (∃ stored,
      decodedReceipt (enrichWithReceiptIntegrity collation (some signer) result) = some stored ∧
        canonicalPayload collation stored = canonicalPayload collation (.object receipt) ∧
        (Recheckable collation (canonicalPayload collation (.object receipt)) stored ↔
          Distinguished collation (payload (.object receipt)))) ∧
    (FiniteNumbers value → ∀ other, Own other → FiniteNumbers other →
      canonicalStringify collation value = canonicalStringify collation other →
        Similar value other) ∧
    ((∀ other, Own other →
        canonicalStringify collation value = canonicalStringify collation other →
          Similar value other) ↔
      ¬ Within .null value ∧ FiniteNumbers value) := by
  refine ⟨?_, fun finite other own' finite' same => ?_, ?_⟩
  · obtain ⟨stored, decoded', ownStored, listed, same⟩ := decodedReceipt_enriched decoded signed
    refine ⟨_, decoded', ?_, recheckable_iff ownStored listed same⟩
    rw [canonicalPayload, same, canonicalStringify_finiteValue, canonicalPayload]
  · exact similar_of_finite own own' finite finite' ((canonicalStringify_inj collation).mp same)
  · simp only [canonicalStringify_inj]
    exact unmistaken_iff own

/-! ## A comparison that overlooks control characters -/

/-- Code units in order, the control characters from U+0000 to U+0008 left out. -/
def overlooking : Collation where
  le first second :=
    decide ((first.filter fun u => 8 < u.toNat) ≤ second.filter fun u => 8 < u.toNat)
  total first second := by simpa using List.le_total _ _
  transitive first second third below below' := by
    simp only [decide_eq_true_eq] at below below' ⊢
    exact List.le_trans below below'

def testSigner : Signer where
  keyId := Str.of "kufi-receipt-ed25519-v1"
  publicKeyFingerprint := Str.of "f0"
  sha256 text := digits text.length
  sha3 text := digits text.length
  sign _ := some (Str.of "c2ln")
  now := Number.ofNat 1
  attest _ := some none

def plain : Value := .string (Str.of "x")

/-- Two members whose names differ in a control character. -/
def controlled : Members := [(Str.of "a", plain), ([unit 'a', 1], .string (Str.of "y"))]

def controlledResult : AnchorTransferResult where
  chainStatus := .anchored
  txId := Str.of "t1"
  blockNumber := some Number.zero
  commitmentHash := []
  receiptJson := stringify (.object controlled)

theorem own_controlled : Own (.object controlled) := by
  refine .object (Members.kept_of_unindexed (by decide) (by decide +kernel)) fun member listed => ?_
  simp only [controlled, List.mem_cons, List.not_mem_nil, or_false] at listed
  rcases listed with rfl | rfl <;> exact .string _

theorem decoded_controlled : decodedReceipt controlledResult = some (.object controlled) :=
  Option.filter_eq_some_iff.mpr ⟨parse_stringify_own own_controlled, rfl⟩

theorem order_breaks_signature :
    ¬ ∀ (collation : Collation) (signer : Signer) (result : AnchorTransferResult)
        (receipt : Members) (integrity stored : Value),
      decodedReceipt result = some (.object receipt) →
      integrityOf collation signer (.object receipt) = some integrity →
      decodedReceipt (enrichWithReceiptIntegrity collation (some signer) result) = some stored →
      Recheckable collation (canonicalPayload collation (.object receipt)) stored := by
  intro claimed
  have signed : integrityOf overlooking testSigner (.object controlled) = some _ := rfl
  obtain ⟨stored, decoded, own, listed, same⟩ := decodedReceipt_enriched decoded_controlled signed
  have recheckable := claimed overlooking testSigner controlledResult _ _ _ decoded_controlled rfl
    decoded
  have distinguished := (recheckable_iff own listed same).mp recheckable
  rw [payload_object own_controlled.kept] at distinguished
  have apart := (distinguished_object.mp distinguished).1
  have equal := apart (Str.of "a") (by decide) [unit 'a', 1] (by decide) (by decide +kernel)
    (by decide +kernel) ⟨by decide, by decide⟩
  revert equal
  decide

theorem signatures_recheckable_controlled :
    (∃ stored,
      decodedReceipt (enrichWithReceiptIntegrity overlooking (some testSigner) controlledResult) =
          some stored ∧
        canonicalPayload overlooking stored = canonicalPayload overlooking (.object controlled) ∧
        (Recheckable overlooking (canonicalPayload overlooking (.object controlled)) stored ↔
          Distinguished overlooking (payload (.object controlled)))) ∧
    (FiniteNumbers plain → ∀ other, Own other → FiniteNumbers other →
      canonicalStringify overlooking plain = canonicalStringify overlooking other →
        Similar plain other) ∧
    ((∀ other, Own other →
        canonicalStringify overlooking plain = canonicalStringify overlooking other →
          Similar plain other) ↔
      ¬ Within .null plain ∧ FiniteNumbers plain) :=
  signatures_recheckable_iff overlooking decoded_controlled rfl (.string _)

end Kufi.ChainService.Response

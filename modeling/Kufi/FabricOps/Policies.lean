import Kufi.Shared.StdEncoding
import Mathlib.Data.List.Sort
import Mathlib.Data.String.Basic

set_option autoImplicit false

/-!
# Endorsement policies

The validation parameter of a committed definition is the base64 text of nested
protobuf messages. It is read back into the text of an OR policy, which is then
compared with the one that is configured. What protobuf makes of bytes is a
parameter.
-/

namespace Kufi.FabricOps

open Shared

/-! ## Messages -/

structure MSPPrincipal where
  principalClassification : Int
  principal : List UInt8
  deriving DecidableEq

def MSPPrincipal.role : Int := 0

structure MSPRole where
  mspIdentifier : String
  role : Int
  deriving DecidableEq

namespace MSPRole

def peer : Int := 3

/-- `MSPRole_MSPRoleType.String`. -/
def roleName (role : Int) : String :=
  match role with
  | 0 => "MEMBER"
  | 1 => "ADMIN"
  | 2 => "CLIENT"
  | 3 => "PEER"
  | 4 => "ORDERER"
  | other => toString other

end MSPRole

inductive SignaturePolicy where
  | signedBy (index : Int)
  | nOutOf (n : Int) (rules : List SignaturePolicy)
  -- no type is set
  | unset

structure SignaturePolicyEnvelope where
  rule : Option SignaturePolicy
  identities : List MSPPrincipal

inductive ApplicationPolicy where
  | signaturePolicy (env : SignaturePolicyEnvelope)
  | channelConfigPolicyReference (ref : String)
  | unset

/-- What `proto.Unmarshal` makes of bytes. -/
structure Proto where
  applicationPolicy : List UInt8 → Except String ApplicationPolicy
  signaturePolicyEnvelope : List UInt8 → Except String SignaturePolicyEnvelope
  mspRole : List UInt8 → Except String MSPRole

/-! ## Reading a validation parameter -/

def peerPrincipal (id : String) : String := "'" ++ id ++ ".peer'"

/-- The OR policy of the peers of these MSPs, in this order. -/
def orPolicy (mspIDs : List String) : String :=
  "OR(" ++ ",".intercalate (mspIDs.map peerPrincipal) ++ ")"

-- The indices seen so far, unless a rule is no signature, is out of range or comes again.
def seenSigners (identities : Nat) : List Int → List SignaturePolicy → Option (List Int)
  | seen, [] => some seen
  | seen, .signedBy index :: rules =>
    if index < 0 ∨ identities ≤ index then none
    else if index ∈ seen then none
    else seenSigners identities (index :: seen) rules
  | _, _ :: _ => none

def isORPolicyRule (rule : Option SignaturePolicy) (identities : Nat) : Bool :=
  match rule with
  | some (.nOutOf n rules) =>
    if n ≠ 1 ∨ rules.length ≠ identities then false
    else
      match seenSigners identities [] rules with
      | none => false
      | some seen => seen.length == identities
  | _ => false

section Decode

variable (proto : Proto)

def peerMSP (principal : MSPPrincipal) : Except String String := do
  if principal.principalClassification ≠ MSPPrincipal.role then
    throw "unsupported principal classification"
  let role ← proto.mspRole principal.principal
  if role.role ≠ MSPRole.peer then
    throw ("unsupported MSP role " ++ MSPRole.roleName role.role)
  pure role.mspIdentifier

def peerMSPs : List MSPPrincipal → Except String (List String)
  | [] => pure []
  | principal :: rest => do
    let id ← peerMSP proto principal
    let ids ← peerMSPs rest
    pure (id :: ids)

def sortStrings (texts : List String) : List String := texts.mergeSort fun a b => decide (a ≤ b)

def signatureEnvelopeToPolicy (env : SignaturePolicyEnvelope) : Except String String := do
  let mspIDs ← peerMSPs proto env.identities
  if isORPolicyRule env.rule mspIDs.length then
    pure (orPolicy (sortStrings mspIDs))
  else throw "unsupported signature policy shape"

/-- `unicode.IsSpace`. -/
def isSpace (c : Char) : Bool :=
  c.toNat ∈ [0x09, 0x0A, 0x0B, 0x0C, 0x0D, 0x20, 0x85, 0xA0, 0x1680, 0x2028, 0x2029, 0x202F, 0x205F,
    0x3000] || (0x2000 ≤ c.toNat && c.toNat ≤ 0x200A)

-- Neither message: the bytes are tried as an envelope.
def decodeEnvelope (raw : List UInt8) : Except String String := do
  let env ← proto.signaturePolicyEnvelope raw
  signatureEnvelopeToPolicy proto env

def decodeValidationPolicy (encoded : String) : Except String String :=
  if encoded.toList.all isSpace then pure ""
  else
    match StdEncoding.decodeString encoded with
    | none => throw "illegal base64 data"
    | some raw =>
      match proto.applicationPolicy raw with
      | .ok (.signaturePolicy env) => signatureEnvelopeToPolicy proto env
      | .ok (.channelConfigPolicyReference ref) =>
        if ref ≠ "" then pure ("channelconfig:" ++ ref) else decodeEnvelope proto raw
      | .ok .unset | .error _ => decodeEnvelope proto raw

/-- The policy that a committed definition is held to have. -/
def committedPolicy (encoded : String) : String :=
  match decodeValidationPolicy proto encoded with
  | .ok policy => policy
  | .error _ => ""

end Decode

/-! ## What a validation parameter says -/

/-- A signature of any of these identities. -/
def SignaturePolicy.anyOf (signers : List Nat) : SignaturePolicy :=
  .nOutOf 1 (signers.map fun index : Nat => .signedBy (index : Int))

/-- The envelope asks for one signature of a peer of any of these MSPs. -/
structure SignaturePolicyEnvelope.Names (proto : Proto) (env : SignaturePolicyEnvelope)
    (mspIDs : List String) : Prop where
  identities : ∃ listed, listed.Perm mspIDs ∧ List.Forall₂
    (fun principal id => principal.principalClassification = MSPPrincipal.role ∧
      proto.mspRole principal.principal = .ok ⟨id, MSPRole.peer⟩) env.identities listed
  rule : ∃ signers : List Nat, signers.Perm (List.range env.identities.length) ∧
    env.rule = some (.anyOf signers)

/-- The text of a definition whose policy names these MSPs. -/
def Reports (proto : Proto) (mspIDs : List String) (encoded : String) : Prop :=
  ∃ raw env, encoded = StdEncoding.encodeToString raw ∧ raw ≠ [] ∧
    proto.applicationPolicy raw = .ok (.signaturePolicy env) ∧ env.Names proto mspIDs

/-! ## Reading it back -/

section Read

variable {proto : Proto}

theorem peerMSPs_eq {principals : List MSPPrincipal} {ids : List String}
    (roles : List.Forall₂ (fun principal id =>
      principal.principalClassification = MSPPrincipal.role ∧
        proto.mspRole principal.principal = .ok ⟨id, MSPRole.peer⟩) principals ids) :
    peerMSPs proto principals = .ok ids := by
  induction roles with
  | nil => rfl
  | @cons principal id rest ids role _ ih =>
    have first : peerMSP proto principal = .ok id := by
      simp only [peerMSP, role.1, role.2]
      rfl
    simp only [peerMSPs, first, ih]
    rfl

theorem seenSigners_eq {identities : Nat} {signers : List Nat} {seen : List Int}
    (inRange : ∀ index ∈ signers, index < identities) (distinct : signers.Nodup)
    (unseen : ∀ index ∈ signers, (index : Int) ∉ seen) :
    seenSigners identities seen (signers.map fun index : Nat => .signedBy (index : Int)) =
      some ((signers.map fun index : Nat => (index : Int)).reverse ++ seen) := by
  induction signers generalizing seen with
  | nil => rfl
  | cons index rest ih =>
    rw [List.forall_mem_cons] at inRange unseen
    rw [List.nodup_cons] at distinct
    have bounds : ¬((index : Int) < 0 ∨ (identities : Int) ≤ index) := by omega
    have later : ∀ other ∈ rest, (other : Int) ∉ (index : Int) :: seen := by
      intro other member listed
      rcases List.mem_cons.mp listed with same | old
      · exact distinct.1 (Int.ofNat_inj.mp same ▸ member)
      · exact unseen.2 other member old
    simp only [List.map_cons, seenSigners, if_neg bounds, if_neg unseen.1,
      ih inRange.2 distinct.2 later, List.reverse_cons, List.append_assoc, List.singleton_append]

theorem isORPolicyRule_anyOf {identities : Nat} {signers : List Nat}
    (each : signers.Perm (List.range identities)) :
    isORPolicyRule (some (.anyOf signers)) identities = true := by
  have length : signers.length = identities := by simpa using each.length_eq
  have inRange (index : Nat) (member : index ∈ signers) : index < identities :=
    List.mem_range.mp (each.subset member)
  have seen := seenSigners_eq inRange (each.nodup_iff.mpr List.nodup_range)
    fun _ _ => List.not_mem_nil
  simp [isORPolicyRule, SignaturePolicy.anyOf, seen, length]

theorem sortStrings_pairwise (texts : List String) :
    (sortStrings texts).Pairwise (· ≤ ·) :=
  List.sortedLE_mergeSort.pairwise

/-- Of the lists of the same texts one is sorted. -/
theorem sortStrings_eq_iff {texts sorted : List String} :
    sortStrings texts = sorted ↔ texts.Perm sorted ∧ sorted.Pairwise (· ≤ ·) := by
  have perm : (sortStrings texts).Perm texts := List.mergeSort_perm _ _
  constructor
  · rintro rfl
    exact ⟨perm.symm, sortStrings_pairwise texts⟩
  · rintro ⟨same, pairwise⟩
    exact List.Perm.eq_of_pairwise (fun _ _ _ _ => le_antisymm) (sortStrings_pairwise texts)
      pairwise (perm.trans same)

theorem sortStrings_congr {texts others : List String} (perm : texts.Perm others) :
    sortStrings texts = sortStrings others :=
  sortStrings_eq_iff.mpr
    ⟨perm.trans (List.mergeSort_perm _ _).symm, sortStrings_pairwise others⟩

theorem decodeValidationPolicy_reports {mspIDs : List String} {encoded : String}
    (reports : Reports proto mspIDs encoded) :
    decodeValidationPolicy proto encoded = .ok (orPolicy (sortStrings mspIDs)) := by
  obtain ⟨raw, env, rfl, bytes, message, ⟨listed, perm, roles⟩, signers, each, rule⟩ := reports
  have blank : ¬(StdEncoding.encodeToString raw).toList.all isSpace = true := by
    have solid : ∀ c ∈ '=' :: StdEncoding.alphabet, (!isSpace c) = true :=
      List.all_eq_true.mp (by decide +kernel)
    obtain ⟨c, member⟩ := List.exists_mem_of_ne_nil _ (StdEncoding.encode_ne_nil bytes)
    rw [StdEncoding.encodeToString, String.toList_ofList, List.all_eq_true]
    intro all
    have filled := solid c (StdEncoding.mem_encode raw c member)
    rw [all c member] at filled
    cases filled
  rw [decodeValidationPolicy, if_neg blank, StdEncoding.decodeString_encodeToString]
  simp only [message, signatureEnvelopeToPolicy, peerMSPs_eq roles, rule]
  rw [roles.length_eq] at each
  rw [← sortStrings_congr perm]
  exact if_pos (isORPolicyRule_anyOf each)

theorem committedPolicy_reports {mspIDs : List String} {encoded : String}
    (reports : Reports proto mspIDs encoded) :
    committedPolicy proto encoded = orPolicy (sortStrings mspIDs) := by
  rw [committedPolicy, decodeValidationPolicy_reports reports]

end Read

/-! ## One text for each list -/

/-- An id between quotes ends at the next one. -/
def Quotable (mspIDs : List String) : Prop := ∀ id ∈ mspIDs, '\'' ∉ id.toList

instance (mspIDs : List String) : Decidable (Quotable mspIDs) :=
  inferInstanceAs (Decidable (∀ id ∈ mspIDs, '\'' ∉ id.toList))

theorem append_quote_inj {first second : List Char} (rest later : List Char)
    (plain : '\'' ∉ first) (plain' : '\'' ∉ second)
    (same : first ++ '\'' :: rest = second ++ '\'' :: later) : first = second ∧ rest = later := by
  induction first generalizing second with
  | nil =>
    cases second with
    | nil => exact ⟨rfl, (List.cons.inj same).2⟩
    | cons c second => exact absurd (List.mem_cons.mpr (.inl (List.cons.inj same).1)) plain'
  | cons c first ih =>
    cases second with
    | nil => exact absurd (List.mem_cons.mpr (.inl (List.cons.inj same).1.symm)) plain
    | cons d second =>
      obtain ⟨rfl, tail⟩ := List.cons.inj same
      obtain ⟨rfl, rfl⟩ := ih (fun member => plain (List.mem_cons_of_mem _ member))
        (fun member => plain' (List.mem_cons_of_mem _ member)) tail
      exact ⟨rfl, rfl⟩

/-- The text of the principals with what closes it. -/
def principals (mspIDs : List String) : List Char :=
  [','].intercalate (mspIDs.map fun id => (peerPrincipal id).toList) ++ [')']

theorem toList_orPolicy (mspIDs : List String) :
    (orPolicy mspIDs).toList = "OR(".toList ++ principals mspIDs := by
  rw [orPolicy, String.toList_append, String.toList_append, String.toList_intercalate, List.map_map,
    List.append_assoc]
  rfl

theorem principals_cons (id : String) (rest : List String) :
    principals (id :: rest) = '\'' :: (id.toList ++ ".peer".toList ++
      '\'' :: if rest = [] then [')'] else ',' :: principals rest) := by
  cases rest with
  | nil => simp [principals, peerPrincipal]
  | cons next rest =>
    simp only [principals, List.map_cons, List.intercalate_cons_cons, peerPrincipal,
      String.toList_append, reduceCtorEq, if_false]
    simp

theorem principals_inj {mspIDs others : List String} (plain : Quotable mspIDs)
    (plain' : Quotable others) (same : principals mspIDs = principals others) : mspIDs = others := by
  have quoteless {id : String} (quotable : '\'' ∉ id.toList) :
      '\'' ∉ id.toList ++ ".peer".toList := by simp [quotable]
  induction mspIDs generalizing others with
  | nil =>
    cases others with
    | nil => rfl
    | cons other others =>
      rw [principals_cons] at same
      exact absurd (List.cons.inj same).1 (by decide)
  | cons id rest ih =>
    cases others with
    | nil =>
      rw [principals_cons] at same
      exact absurd (List.cons.inj same).1 (by decide)
    | cons other others =>
      rw [principals_cons, principals_cons] at same
      obtain ⟨plain, plainRest⟩ := List.forall_mem_cons.mp plain
      obtain ⟨plain', plainOthers⟩ := List.forall_mem_cons.mp plain'
      obtain ⟨ids, tails⟩ := append_quote_inj _ _ (quoteless plain) (quoteless plain')
        (List.cons.inj same).2
      obtain rfl : id = other := String.toList_inj.mp (List.append_cancel_right ids)
      split_ifs at tails with last last'
      · rw [last, last']
      · exact absurd (List.cons.inj tails).1 (by decide)
      · exact absurd (List.cons.inj tails).1 (by decide)
      · rw [ih plainRest plainOthers (List.cons.inj tails).2]

theorem orPolicy_inj {mspIDs others : List String} (plain : Quotable mspIDs)
    (plain' : Quotable others) : orPolicy mspIDs = orPolicy others ↔ mspIDs = others := by
  refine ⟨fun same => principals_inj plain plain' ?_, congrArg orPolicy⟩
  have texts := congrArg String.toList same
  rw [toList_orPolicy, toList_orPolicy] at texts
  exact List.append_cancel_left texts

/-- A committed policy is held to be the configured one. -/
theorem committedPolicy_eq_iff {proto : Proto} {mspIDs others : List String} {encoded : String}
    (plain : Quotable mspIDs) (plain' : Quotable others) (reports : Reports proto others encoded) :
    committedPolicy proto encoded = orPolicy mspIDs ↔
      others.Perm mspIDs ∧ mspIDs.Pairwise (· ≤ ·) := by
  have quotable : Quotable (sortStrings others) := fun id member =>
    plain' id ((List.mergeSort_perm _ _).subset member)
  rw [committedPolicy_reports reports, orPolicy_inj quotable plain, sortStrings_eq_iff]

end Kufi.FabricOps

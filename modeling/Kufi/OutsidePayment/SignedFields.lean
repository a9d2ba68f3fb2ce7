import Kufi.OutsidePayment.Signing

set_option autoImplicit false

/-!
# What a signature pins

A partner that reads a request finds the code of a text that it can put together
from the other fields. Two requests with one code agree on those fields.
-/

namespace Kufi.OutsidePayment

open Shared Shared.Ecma

/-! ## Digests and bodies -/

theorem digestText_injective : Function.Injective digestText := by
  have digits : ∀ m n : Fin 16, unit (Nat.digitChar m) = unit (Nat.digitChar n) → m = n := by
    decide
  have digit {m n : Nat} (small : m < 16) (small' : n < 16)
      (same : unit (Nat.digitChar m) = unit (Nat.digitChar n)) : m = n :=
    congrArg Fin.val (digits ⟨m, small⟩ ⟨n, small'⟩ same)
  intro first
  induction first with
  | nil =>
    intro second same
    cases second with
    | nil => rfl
    | cons b rest => simp [digestText] at same
  | cons b rest ih =>
    intro second same
    cases second with
    | nil => simp [digestText] at same
    | cons b' rest' =>
      simp only [digestText, List.flatMap_cons, List.cons_append, List.nil_append,
        List.cons.injEq] at same
      have bound := b.toNat_lt
      have bound' := b'.toNat_lt
      have high := digit (by omega) (by omega) same.1
      have low := digit (by omega) (by omega) same.2.1
      rw [UInt8.toNat_inj.mp (by omega : b.toNat = b'.toNat), ih same.2.2]

/-- A payload that a JSON text can carry: nothing in it is an infinite number. -/
structure Carried (payload : Members) : Prop where
  own : Own (.object payload)
  finite : FiniteNumbers (.object payload)

theorem Carried.read {payload : Members} (carried : Carried payload) :
    parse (stringify (.object payload)) = some (.object payload) := by
  rw [parse_stringify_own carried.own, finiteValue_eq_self carried.finite]

theorem Carried.set {payload : Members} (carried : Carried payload) (name text : Str) :
    Carried (payload.set name (.string text)) where
  own := by
    refine .object (Members.kept_set carried.own.kept name _) fun member listed => ?_
    rcases Members.mem_set listed with rfl | old
    · exact .string text
    · exact carried.own.member old
  finite negative within := by
    cases within with
    | member listed within =>
      rcases Members.mem_set listed with rfl | old
      · cases within
      · exact carried.finite negative (.member old within)

theorem Carried.values {payload : Members} (carried : Carried payload) {member : Str × Value}
    (listed : member ∈ payload) : Own member.2 ∧ FiniteNumbers member.2 :=
  ⟨carried.own.member listed, fun negative within => carried.finite negative (.member listed within)⟩

theorem carried_of_values {payload : Members} (kept : payload.Kept)
    (values : ∀ member ∈ payload, Own member.2 ∧ FiniteNumbers member.2) : Carried payload where
  own := .object kept fun member listed => (values member listed).1
  finite negative within := by
    cases within with
    | member listed within => exact (values _ listed).2 negative within

theorem Carried.spread {base extra : Members} (carried : Carried base) (carried' : Carried extra) :
    Carried (base.spread extra) := by
  refine carried_of_values (Members.kept_spread carried.own.kept _) fun member listed => ?_
  rcases Members.mem_spread listed with before | after
  · exact carried.values before
  · exact carried'.values after

theorem Carried.delete {payload : Members} (carried : Carried payload) (name : Str) :
    Carried (payload.delete name) :=
  carried_of_values (Members.kept_delete carried.own.kept name) fun _ listed =>
    carried.values (List.mem_filter.mp listed).1

/-- A text, `null` or a finite number. -/
def isPlain : Value → Bool
  | .string _ | .null => true
  | .number n => n.isFinite
  | _ => false

theorem carried_of_plain {names : List String} {payload : Members}
    (named : payload.names = names.map Str.of) (distinct : (names.map Str.of).Nodup)
    (unindexed : ∀ name ∈ names.map Str.of, index? name = none)
    (plain : ∀ member ∈ payload, isPlain member.2 = true) : Carried payload := by
  refine carried_of_values (Members.kept_of_unindexed (named ▸ distinct) (named ▸ unindexed))
    fun member listed => ?_
  have simple := plain member listed
  generalize member.2 = value at simple
  cases value with
  | null => exact ⟨.null, fun negative within => nomatch within⟩
  | string text => exact ⟨.string text, fun negative within => nomatch within⟩
  | number n =>
    refine ⟨.number n, fun negative within => ?_⟩
    cases within
    cases simple
  | _ => cases simple

section Received

variable (env : SigningEnv) (config : RequestConfig)

/-- What the partner reads in a request that carries its fields in the body. -/
def Received (payload received : Members) : Prop :=
  ∃ path tokens request body, callPartnerApi env config path .post payload tokens = some request ∧
    request.body = some body ∧ parse body = some (.object received)

/-- The code over a text, or no code over an empty one. -/
def codeOf (algorithm : SignatureAlgorithm) (canonical : Str) : Option Value :=
  if canonical = [] then none else some (.string (signText env config algorithm canonical))

variable {env config}

/-- The body is the signed payload. -/
theorem Received.signed {payload received : Members}
    (sent : Received env config payload received) :
    ∃ args signed headers, args.payload = payload ∧
      applySignature env config args = some (signed, headers) ∧
      parse (stringify (.object signed)) = some (.object received) := by
  obtain ⟨path, tokens, request, body, called, carries, read⟩ := sent
  simp only [callPartnerApi, Option.bind_eq_bind, Option.bind_eq_some_iff, Option.some.injEq] at called
  obtain ⟨⟨signed, headers⟩, applied, _, _, rfl⟩ := called
  cases carries
  exact ⟨_, signed, headers, rfl, applied, read⟩

theorem appTimeOf_finite {now appTime : Number} (clock : now.isFinite = true)
    (timed : appTimeOf config now = some appTime) : appTime.isFinite = true := by
  unfold appTimeOf at timed
  split at timed
  · cases timed
  · cases timed
    exact clock
  · cases timed
    split
    next finite => exact finite
    next => exact clock

theorem zalopay_carried {data : TransferData} {user : Str} {appTime : Number}
    (amount : data.amount.isFinite = true) (finite : appTime.isFinite = true)
    (appId : Option Str) {fields : Members} (static : Carried fields) :
    Carried (withAppId appId (zalopayFields env config data user appTime) fields) := by
  have literal (id : Value) (plain : isPlain id = true) :
      Carried ((Str.of "app_id", id) :: zalopayFields env config data user appTime) := by
    refine @carried_of_plain ["app_id", "app_trans_id", "app_user", "app_time", "amount", "item",
      "embed_data", "currency", "description", "transferType"] _ rfl (by decide +kernel)
      (by decide +kernel) ?_
    refine List.forall_mem_cons.mpr ⟨plain, ?_⟩
    simp [zalopayFields, textField, isPlain, amount, finite]
  cases appId with
  | none =>
    have carried := (literal .null rfl).spread static
    unfold withAppId
    dsimp only
    split_ifs
    · exact carried.delete _
    · exact carried
  | some id =>
    have carried := (literal (.string id) rfl).spread static
    simpa only [withAppId, reduceCtorEq, false_and, if_false] using carried

/-- The payload of a transfer, when the fields of the configuration can be carried. -/
theorem initiate_carried {data : TransferData} {tokens : Tokens} {payload : Members}
    (static : Carried config.initiateStaticFields) (amount : data.amount.isFinite = true)
    (hundred : (hundredfold data.amount).isFinite = true)
    (clock : (Number.ofNat tokens.appTime).isFinite = true)
    (built : buildInitiatePayload env config data tokens = some payload) : Carried payload := by
  unfold buildInitiatePayload at built
  split at built
  case h_1 =>
    cases built
    refine .spread (@carried_of_plain ["requestId", "orderId", "partnerCode", "amount",
      "orderInfo", "extraData", "lang", "accountNo", "currency", "transferType"] _ rfl
      (by decide +kernel) (by decide +kernel) ?_) static
    simp [textField, isPlain, amount]
  case h_2 =>
    cases built
    refine .spread (@carried_of_plain ["requestId", "requestTime", "transactionId",
      "referenceId", "accountNo", "amount", "currency", "description", "transferType"] _ rfl
      (by decide +kernel) (by decide +kernel) ?_) static
    simp [textField, isPlain, amount]
  case h_3 =>
    cases built
    refine .spread (@carried_of_plain ["vnp_TxnRef", "vnp_OrderInfo", "vnp_Amount",
      "vnp_CurrCode", "vnp_IpAddr", "transferType"] _ rfl (by decide +kernel) (by decide +kernel) ?_)
      static
    simp [textField, isPlain, hundred]
  case h_4 =>
    simp only [zalopayInitiate, Option.bind_eq_bind, Option.bind_eq_some_iff,
      Option.some.injEq] at built
    obtain ⟨appId, -, user, -, appTime, timed, rfl⟩ := built
    exact zalopay_carried amount (appTimeOf_finite clock timed) appId static
  case h_5 =>
    cases built
    refine .spread (@carried_of_plain ["transactionId", "partnerCode", "accountNo",
      "amount", "currency", "transferType", "note", "requestId", "requestTime"] _ rfl
      (by decide +kernel) (by decide +kernel) ?_) static
    simp [textField, isPlain, amount]

theorem applySignature_carried {args : SignatureArgs} {signed headers : Members}
    (carried : Carried args.payload)
    (applied : applySignature env config args = some (signed, headers)) : Carried signed := by
  by_cases secret : config.apiSecret = []
  · simp only [applySignature, secret, if_true] at applied
    cases applied
    exact carried
  · simp only [applySignature, secret, if_false] at applied
    cases mode : config.signatureMode with
    | vnpayQuerySha512 =>
      simp only [mode, Option.bind_eq_bind, Option.bind_eq_some_iff] at applied
      obtain ⟨canonical, -, applied⟩ := applied
      split_ifs at applied <;> cases applied
      · exact carried
      · exact (carried.set _ _).set _ _
    | headerCanonical | legacyHeaderSha256 =>
      simp only [mode] at applied
      cases applied
      exact carried
    | zalopayMacSha256 | payloadFieldsHmac =>
      simp only [mode] at applied
      split_ifs at applied <;> cases applied
      · exact carried
      · exact carried.set _ _

/-- A call that gets to be sent is read by the partner. -/
theorem exists_received {path : Str} {payload : Members} {tokens : Tokens}
    (carried : Carried payload)
    (sent : (callPartnerApi env config path .post payload tokens).isSome) :
    ∃ received, Received env config payload received := by
  obtain ⟨request, called⟩ := Option.isSome_iff_exists.mp sent
  have parts := called
  simp only [callPartnerApi, Option.bind_eq_bind, Option.bind_eq_some_iff, Option.some.injEq] at parts
  obtain ⟨⟨signed, headers⟩, applied, _, _, rfl⟩ := parts
  exact ⟨signed, path, tokens, _, _, called, rfl,
    Carried.read (applySignature_carried carried applied)⟩

end Received

/-! ## VNPAY -/

section Hidden

variable {p : Str × Value → Bool} {name : Str} (hidden : ∀ value, p (name, value) = false)
include hidden

theorem filter_replace (members : Members) (value : Value) :
    (members.replace name value).filter p = members.filter p := by
  induction members with
  | nil => rfl
  | cons member rest ih =>
    rw [Members.replace, List.map_cons, List.filter_cons, List.filter_cons]
    change (if _ then _ :: (Members.replace rest name value).filter p else
      (Members.replace rest name value).filter p) = _
    rw [ih]
    by_cases own : member.1 = name
    · obtain ⟨_, old⟩ := member
      obtain rfl : _ = name := own
      simp [hidden]
    · simp [own]

/-- A filter that never takes a member does not see it set. -/
theorem filter_set (unindexed : index? name = none) (members : Members) (value : Value) :
    (members.set name value).filter p = members.filter p := by
  unfold Members.set
  split_ifs with known
  · exact filter_replace hidden members value
  · rw [unindexed]
    simp [hidden]

end Hidden

theorem vnpayEntries_set {name : Str} (hash : isHashField name = true) (payload : Members)
    (value : Value) : vnpayEntries (payload.set name value) = vnpayEntries payload := by
  have unindexed : index? name = none := by
    simp only [isHashField, Bool.or_eq_true, decide_eq_true_eq] at hash
    rcases hash with rfl | rfl <;> decide +kernel
  exact filter_set (fun value => by simp [hash]) unindexed payload value

/-- The text a field is signed with; a member that is `null` is no field. -/
def fieldText (payload : Members) (name : Str) : Option Str :=
  ((vnpayEntries payload).lookup name).bind toText

theorem vnpayPart_injective {entry entry' : Str × Value} {part : Str}
    (left : vnpayPart entry = some part) (right : vnpayPart entry' = some part) :
    entry.1 = entry'.1 ∧ ∃ text, toText entry.2 = some text ∧ toText entry'.2 = some text := by
  simp only [vnpayPart, Option.bind_eq_bind, Option.bind_eq_some_iff, Option.some.injEq] at left right
  obtain ⟨key, keyed, text, told, value, valued, rfl⟩ := left
  obtain ⟨key', keyed', text', told', value', valued', same⟩ := right
  obtain ⟨rfl, -, rfl⟩ := (List.append_cons_inj_of_notMem (encodeURIComponent_plain keyed').2
    (encodeURIComponent_plain valued').2).mp same
  obtain rfl := encodeURIComponent_injective valued valued'
  exact ⟨encodeURIComponent_injective keyed keyed', text, told, told'⟩

/-- Entries that are signed alike have the same names and texts in the same order. -/
theorem same_texts {entries entries' : Members} {parts : List Str}
    (left : entries.mapM vnpayPart = some parts) (right : entries'.mapM vnpayPart = some parts) :
    (entries.map fun entry => (entry.1, toText entry.2)) =
        (entries'.map fun entry => (entry.1, toText entry.2)) ∧
      ∀ entry ∈ entries, (toText entry.2).isSome := by
  induction entries generalizing entries' parts with
  | nil =>
    cases left
    cases entries' with
    | nil => simp
    | cons entry rest => simp [Option.bind_eq_some_iff] at right
  | cons entry rest ih =>
    simp only [List.mapM_cons, Option.pure_def, Option.bind_eq_bind, Option.bind_eq_some_iff,
      Option.some.injEq] at left
    obtain ⟨part, first, parts, later, rfl⟩ := left
    cases entries' with
    | nil => simp at right
    | cons entry' rest' =>
      simp only [List.mapM_cons, Option.pure_def, Option.bind_eq_bind, Option.bind_eq_some_iff,
        Option.some.injEq, List.cons.injEq] at right
      obtain ⟨part', first', parts', later', rfl, rfl⟩ := right
      obtain ⟨name, text, told, told'⟩ := vnpayPart_injective first first'
      obtain ⟨rest, all⟩ := ih later later'
      simp [name, told, told', rest]
      exact fun name value listed => all (name, value) listed

theorem part_plain {entries : Members} {parts : List Str}
    (built : entries.mapM vnpayPart = some parts) :
    ∀ part ∈ parts, unit '&' ∉ part ∧ Ascii part ∧ part ≠ [] := by
  induction entries generalizing parts with
  | nil =>
    cases built
    exact nofun
  | cons entry rest ih =>
    simp only [List.mapM_cons, Option.pure_def, Option.bind_eq_bind, Option.bind_eq_some_iff,
      Option.some.injEq] at built
    obtain ⟨part, first, parts, later, rfl⟩ := built
    rintro other (_ | ⟨_, listed⟩)
    · simp only [vnpayPart, Option.bind_eq_bind, Option.bind_eq_some_iff, Option.some.injEq] at first
      obtain ⟨key, keyed, text, -, value, valued, rfl⟩ := first
      refine ⟨?_, ?_, by simp⟩
      · have other : unit '&' ≠ unit '=' := by decide
        simp [(encodeURIComponent_plain keyed).1, (encodeURIComponent_plain valued).1, other]
      · refine (encodeURIComponent_ascii keyed).append fun u listed => ?_
        rcases List.mem_cons.mp listed with rfl | listed
        · decide
        · exact encodeURIComponent_ascii valued u listed
    · exact ih later other listed

theorem joined_eq_nil {u : UInt16} {parts : List Str} (nonempty : ∀ part ∈ parts, part ≠ []) :
    joined u parts = [] ↔ parts = [] := by
  cases parts with
  | nil => simp [joined]
  | cons part rest => cases rest <;> simp_all [joined]

theorem ascii_joined {u : UInt16} (small : u.toNat < 128) {parts : List Str}
    (ascii : ∀ part ∈ parts, Ascii part) : Ascii (joined u parts) := by
  induction parts with
  | nil => exact nofun
  | cons part rest ih =>
    have tail := ih fun part listed => ascii part (List.mem_cons_of_mem _ listed)
    cases rest with
    | nil => exact ascii part List.mem_cons_self
    | cons next rest =>
      refine (ascii part List.mem_cons_self).append fun v listed => ?_
      rcases List.mem_cons.mp listed with rfl | listed
      · exact small
      · exact tail v listed

def hashField : Str := Str.of "vnp_SecureHash"

section Vnpay

variable {env : SigningEnv} {config : RequestConfig}

theorem buildVnpayCanonical_set {name : Str} (hash : isHashField name = true) (payload : Members)
    (value : Value) :
    buildVnpayCanonical env (payload.set name value) = buildVnpayCanonical env payload := by
  rw [buildVnpayCanonical, vnpayEntries_set hash, buildVnpayCanonical]

/-- The code can be put together again from what was received. -/
theorem Received.vnpay {payload received : Members} (sent : Received env config payload received)
    (mode : config.signatureMode = .vnpayQuerySha512) (secret : config.apiSecret ≠ [])
    (named : orText config.signaturePayloadField hashField = hashField)
    (carried : Carried payload) (unhashed : payload.get hashField = none) :
    ∃ canonical, buildVnpayCanonical env payload = some canonical ∧
      buildVnpayCanonical env received = some canonical ∧
      received.get hashField = codeOf env config .sha512 canonical := by
  obtain ⟨args, signed, headers, rfl, applied, read⟩ := sent.signed
  simp only [applySignature, secret, if_false, mode, Option.bind_eq_bind,
    Option.bind_eq_some_iff] at applied
  obtain ⟨canonical, built, applied⟩ := applied
  split_ifs at applied with empty
  · cases applied
    rw [carried.read] at read
    cases read
    exact ⟨canonical, built, built, by rw [unhashed, codeOf, if_pos empty]⟩
  · obtain ⟨rfl, rfl⟩ := Prod.mk.inj (Option.some.inj applied)
    have typed := carried.set (Str.of "vnp_SecureHashType") (Str.of "HmacSHA512")
    rw [(typed.set _ _).read] at read
    cases read
    change orText config.signaturePayloadField (Str.of "vnp_SecureHash") = hashField at named
    rw [named]
    refine ⟨canonical, built, ?_, ?_⟩
    · rw [buildVnpayCanonical_set (by decide), buildVnpayCanonical_set (by decide), built]
    · rw [Members.get_set typed.own.kept.distinct, if_pos rfl, codeOf, if_neg empty]

/-- Codes are told apart. -/
def Unforged (env : SigningEnv) (config : RequestConfig) (algorithm : SignatureAlgorithm) : Prop :=
  ∀ text text', env.hmac algorithm (Utf8.encode config.apiSecret) text =
    env.hmac algorithm (Utf8.encode config.apiSecret) text' → text = text'

theorem codeOf_eq {algorithm : SignatureAlgorithm} (unforged : Unforged env config algorithm)
    {canonical canonical' : Str}
    (same : codeOf env config algorithm canonical = codeOf env config algorithm canonical') :
    Utf8.encode canonical = Utf8.encode canonical' := by
  unfold codeOf at same
  split_ifs at same with empty empty'
  · rw [empty, empty']
  · have digest : signText env config algorithm canonical = signText env config algorithm canonical' := by
      simpa using same
    exact unforged _ _ (digestText_injective digest)

theorem perm_of_canonical {payload payload' : Members} {canonical : Str}
    (built : buildVnpayCanonical env payload = some canonical)
    (built' : buildVnpayCanonical env payload' = some canonical) :
    ((vnpayEntries payload).map fun entry => (entry.1, toText entry.2)).Perm
      ((vnpayEntries payload').map fun entry => (entry.1, toText entry.2)) := by
  obtain ⟨parts, mapped, rfl⟩ := Option.map_eq_some_iff.mp built
  obtain ⟨parts', mapped', same⟩ := Option.map_eq_some_iff.mp built'
  have plain := part_plain mapped
  have plain' := part_plain mapped'
  have equal : parts' = parts := by
    by_cases empty : parts = []
    · rw [empty] at same ⊢
      exact (joined_eq_nil fun part listed => (plain' part listed).2.2).mp same
    · have nonempty : parts' ≠ [] := by
        rintro rfl
        exact empty ((joined_eq_nil fun part listed => (plain part listed).2.2).mp same.symm)
      exact joined_injective (fun part listed => (plain' part listed).1)
        (fun part listed => (plain part listed).1) nonempty empty same
  rw [equal] at mapped'
  have sorted := (same_texts mapped mapped').1
  have first := (env.collation.byName_perm (vnpayEntries payload)).map
    fun entry => (entry.1, toText entry.2)
  have second := (env.collation.byName_perm (vnpayEntries payload')).map
    fun entry => (entry.1, toText entry.2)
  rw [sorted] at first
  exact first.symm.trans second

theorem fieldText_eq_some {payload : Members} (distinct : payload.names.Nodup) {name text : Str} :
    fieldText payload name = some text ↔
      (name, some text) ∈ (vnpayEntries payload).map fun entry => (entry.1, toText entry.2) := by
  have distinct' : (Members.names (vnpayEntries payload)).Nodup :=
    distinct.sublist (List.filter_sublist.map _)
  rw [fieldText, Option.bind_eq_some_iff, List.mem_map]
  constructor
  · rintro ⟨value, found, told⟩
    exact ⟨(name, value), Members.mem_of_get found, by rw [told]⟩
  · rintro ⟨⟨other, value⟩, listed, same⟩
    obtain ⟨rfl, told⟩ := Prod.mk.inj same
    exact ⟨value, Members.get_of_mem distinct' listed, told⟩

theorem Received.distinct {payload received : Members}
    (sent : Received env config payload received) : received.names.Nodup := by
  obtain ⟨_, _, _, _, _, _, read⟩ := sent
  exact (own_parse read).kept.distinct

theorem ascii_canonical {payload : Members} {canonical : Str}
    (built : buildVnpayCanonical env payload = some canonical) : Ascii canonical := by
  obtain ⟨parts, mapped, rfl⟩ := Option.map_eq_some_iff.mp built
  exact ascii_joined (by decide) fun part listed => (part_plain mapped part listed).2.1

theorem vnpay_hash_pins_fields {payload payload' received received' : Members}
    (sent : Received env config payload received) (sent' : Received env config payload' received')
    (mode : config.signatureMode = .vnpayQuerySha512) (secret : config.apiSecret ≠ [])
    (named : orText config.signaturePayloadField hashField = hashField)
    (unforged : Unforged env config .sha512)
    (carried : Carried payload) (carried' : Carried payload')
    (unhashed : payload.get hashField = none) (unhashed' : payload'.get hashField = none)
    (same : received.get hashField = received'.get hashField) (name : Str) :
    fieldText received name = fieldText received' name := by
  obtain ⟨canonical, -, built, code⟩ := sent.vnpay mode secret named carried unhashed
  obtain ⟨canonical', -, built', code'⟩ := sent'.vnpay mode secret named carried' unhashed'
  have bytes := codeOf_eq unforged (code.symm.trans (same.trans code'))
  obtain rfl := Utf8.eq_of_encode_eq (ascii_canonical built') bytes
  ext text
  rw [fieldText_eq_some sent.distinct, fieldText_eq_some sent'.distinct,
    (perm_of_canonical built built').mem_iff]

end Vnpay

/-! ## Codes over chosen fields -/

theorem joinTexts_eq_joined (u : UInt16) (parts : List Str) : joinTexts [u] parts = joined u parts := by
  induction parts with
  | nil => rfl
  | cons part rest ih =>
    cases rest with
    | nil => rfl
    | cons next rest => simp [joinTexts, joined, ih]

def canonicalText (payload : Members) (name : Str) : Str := normalizeCanonicalValue (payload.get name)

section Fields

variable {env : SigningEnv} {config : RequestConfig}

def macField (config : RequestConfig) : Str := orText config.signaturePayloadField (Str.of "mac")

def signedFields (config : RequestConfig) : List Str :=
  config.signatureFields.filter fun item => trim item ≠ []

def fieldsCanonical (config : RequestConfig) (payload : Members) : Str :=
  buildCanonicalFromFields payload config.signatureFields config.signatureJoiner

theorem fieldsCanonical_congr {payload payload' : Members}
    (same : ∀ name ∈ signedFields config, payload.get name = payload'.get name) :
    fieldsCanonical config payload = fieldsCanonical config payload' := by
  unfold fieldsCanonical buildCanonicalFromFields
  exact congrArg _ (List.map_congr_left fun name listed => congrArg _ (same name listed))

theorem fieldsCanonical_set {payload : Members} (distinct : payload.names.Nodup) {name : Str}
    (unsigned : name ∉ signedFields config) (value : Value) :
    fieldsCanonical config (payload.set name value) = fieldsCanonical config payload := by
  refine fieldsCanonical_congr fun other listed => ?_
  have different : other ≠ name := by
    rintro rfl
    exact unsigned listed
  rw [Members.get_set distinct, if_neg different]

theorem Received.fields {payload received : Members} (sent : Received env config payload received)
    (mode : config.signatureMode = .zalopayMacSha256 ∨ config.signatureMode = .payloadFieldsHmac)
    (secret : config.apiSecret ≠ []) (unsigned : macField config ∉ signedFields config)
    (carried : Carried payload) (uncoded : payload.get (macField config) = none) :
    (∀ name ∈ signedFields config, received.get name = payload.get name) ∧
      received.get (macField config) =
        codeOf env config config.signatureAlgorithm (fieldsCanonical config received) := by
  obtain ⟨args, signed, headers, rfl, applied, read⟩ := sent.signed
  have applied : (if fieldsCanonical config args.payload = [] then some (args.payload, args.headers)
      else some (args.payload.set (macField config) (.string (signText env config
        config.signatureAlgorithm (fieldsCanonical config args.payload))), args.headers)) =
      some (signed, headers) := by
    rcases mode with mode | mode
    · simp only [applySignature, secret, if_false, mode] at applied
      exact applied
    · simp only [applySignature, secret, if_false, mode] at applied
      exact applied
  split_ifs at applied with empty
  · cases applied
    rw [carried.read] at read
    cases read
    exact ⟨fun _ _ => rfl, by rw [uncoded, codeOf, if_pos empty]⟩
  · cases applied
    rw [(carried.set _ _).read] at read
    cases read
    have distinct := carried.own.kept.distinct
    refine ⟨fun name listed => ?_, ?_⟩
    · have other : name ≠ macField config := fun same => unsigned (same ▸ listed)
      rw [Members.get_set distinct, if_neg other]
    · rw [Members.get_set distinct, if_pos rfl, fieldsCanonical_set distinct unsigned, codeOf,
        if_neg empty]

theorem mac_pins_fields {payload payload' received received' : Members}
    (sent : Received env config payload received) (sent' : Received env config payload' received')
    (mode : config.signatureMode = .zalopayMacSha256 ∨ config.signatureMode = .payloadFieldsHmac)
    (secret : config.apiSecret ≠ []) (unsigned : macField config ∉ signedFields config)
    (unforged : Unforged env config config.signatureAlgorithm)
    (carried : Carried payload) (carried' : Carried payload')
    (uncoded : payload.get (macField config) = none)
    (uncoded' : payload'.get (macField config) = none)
    {u : UInt16} (joiner : orText config.signatureJoiner [unit '|'] = [u])
    {before after : List Str} {free : Str} (fields : signedFields config = before ++ free :: after)
    (plain : ∀ name ∈ before ++ after, u ∉ canonicalText received name ∧
      u ∉ canonicalText received' name)
    (wellFormed : Utf8.paired (fieldsCanonical config received) = true)
    (wellFormed' : Utf8.paired (fieldsCanonical config received') = true)
    (same : received.get (macField config) = received'.get (macField config)) {name : Str}
    (listed : name ∈ signedFields config) :
    canonicalText received name = canonicalText received' name := by
  have canonical (payload : Members) : fieldsCanonical config payload =
      joined u (before.map (canonicalText payload) ++ canonicalText payload free ::
        after.map (canonicalText payload)) := by
    change joinTexts _ ((signedFields config).map _) = _
    rw [joiner, fields, joinTexts_eq_joined, List.map_append, List.map_cons]
    rfl
  have code := (sent.fields mode secret unsigned carried uncoded).2
  have code' := (sent'.fields mode secret unsigned carried' uncoded').2
  have bytes := codeOf_eq unforged (code.symm.trans (same.trans code'))
  have texts := Utf8.encode_injective_paired wellFormed wellFormed' bytes
  rw [canonical, canonical] at texts
  obtain ⟨fronts, own, backs⟩ := joined_pins (by simp) (by simp)
    (by
      rw [← List.map_append, List.forall_mem_map]
      exact fun name listed => (plain name listed).1)
    (by
      rw [← List.map_append, List.forall_mem_map]
      exact fun name listed => (plain name listed).2) texts
  rw [fields, List.mem_append, List.mem_cons] at listed
  rcases listed with front | rfl | back
  · exact List.map_inj_left.mp fronts name front
  · exact own
  · exact List.map_inj_left.mp backs name back

end Fields

/-! ## Sample requests -/

def sampleSettings : List (String × String) :=
  [("VNPAY_API_BASE_URL", "https://vnpay.test"), ("VNPAY_API_SECRET", "vnpay-secret"),
    ("ZALOPAY_API_BASE_URL", "https://zalopay.test"), ("ZALOPAY_API_SECRET", "zalopay-secret"),
    ("ZALOPAY_CLIENT_ID", "2553")]

def vnpayText : Str := Str.of
  ("transferType=WITHDRAWAL&vnp_Amount=5000000&vnp_CurrCode=VND&vnp_IpAddr=127.0.0.1&" ++
    "vnp_OrderInfo=Transfer%203f2b8c1e-0d5a-4c7e-9b1f-2a6d8e4c0b57&" ++
    "vnp_TxnRef=3f2b8c1e-0d5a-4c7e-9b1f-2a6d8e4c0b57")

def zalopayText : Str :=
  Str.of "2553|3f2b8c1e-0d5a-4c7e-9b1f-2a6d8e4c0b57|0912345678|50000|1700000000000|" ++
    Str.of "\x7b\x7d|[]"

-- The codes of the two texts under their keys; no other code begins as they do.
def sampleHmac (algorithm : SignatureAlgorithm) (key text : Bytes) : Bytes :=
  if algorithm = .sha512 ∧ key = Utf8.encode (Str.of "vnpay-secret") ∧
      text = Utf8.encode vnpayText then
    [170, 123, 56, 148, 24, 135, 79, 174, 60, 122, 90, 105, 73, 73, 61, 228, 19, 214, 84, 179, 220,
      192, 67, 241, 78, 126, 18, 253, 174, 83, 136, 75, 131, 128, 172, 118, 189, 188, 83, 175, 89,
      50, 47, 122, 158, 252, 143, 33, 223, 1, 129, 57, 242, 202, 233, 221, 251, 92, 31, 177, 144,
      246, 17, 144]
  else if algorithm = .sha256 ∧ key = Utf8.encode (Str.of "zalopay-secret") ∧
      text = Utf8.encode zalopayText then
    [64, 104, 70, 162, 45, 1, 60, 237, 96, 156, 241, 16, 153, 94, 70, 63, 204, 173, 1, 104, 17,
      246, 180, 121, 44, 115, 65, 98, 181, 137, 107, 6]
  else 0 :: text

def samplePartnerEnv : SigningEnv where
  cfg name := (sampleSettings.lookup name).map Str.of
  toUpperCase := id
  toLowerCase := id
  collation :=
    { le := fun first second => decide (first ≤ second)
      total := fun first second => by simpa using List.le_total first second
      transitive := fun first second third below below' => by
        simp only [decide_eq_true_eq] at below below' ⊢
        exact List.le_trans below below' }
  hmac := sampleHmac

theorem samplePartnerEnv_unforged (config : RequestConfig) (algorithm : SignatureAlgorithm) :
    Unforged samplePartnerEnv config algorithm := by
  intro text text' same
  simp only [samplePartnerEnv, sampleHmac] at same
  split_ifs at same
  all_goals simp_all

def withdrawal : TransferData where
  transactionId := Str.of "3f2b8c1e-0d5a-4c7e-9b1f-2a6d8e4c0b57"
  partnerCode := Str.of "VNPAY"
  accountNo := Str.of "0912345678"
  amount := .ofNat 50000
  currency := Str.of "VND"
  note := []
  transferType := Str.of "WITHDRAWAL"

def sampleTokens (requestId nonce : String) : Tokens where
  requestId := Str.of requestId
  requestTime := Str.of "2023-11-14T22:13:20.000Z"
  appTime := 1700000000000
  timestamp := 1700000000001
  nonce := Str.of nonce

section Samples

variable (partner : String)

def sampleConfig : RequestConfig := requestConfig samplePartnerEnv partner

def samplePayload : Members :=
  (buildInitiatePayload samplePartnerEnv (sampleConfig partner) withdrawal
    (sampleTokens "r-1" "n-1")).getD []

variable {partner}

theorem samplePayload_carried (static : (sampleConfig partner).initiateStaticFields.length = 0)
    (built : (buildInitiatePayload samplePartnerEnv (sampleConfig partner) withdrawal
      (sampleTokens "r-1" "n-1")).isSome) : Carried (samplePayload partner) := by
  obtain ⟨payload, same⟩ := Option.isSome_iff_exists.mp built
  have nothing : Carried (sampleConfig partner).initiateStaticFields := by
    rw [List.eq_nil_of_length_eq_zero static]
    exact @carried_of_plain [] _ rfl .nil nofun nofun
  rw [samplePayload, same]
  exact initiate_carried nothing (by decide +kernel) (by decide +kernel) (by decide +kernel) same

end Samples

theorem vnpay_hash_pins_fields_withdrawal :
    ∃ received received', (∃ hash, received.get hashField = some hash ∧
        received'.get hashField = some hash) ∧
      ∀ name, fieldText received name = fieldText received' name := by
  have carried : Carried (samplePayload "VNPAY") :=
    samplePayload_carried (by decide +kernel) (by decide +kernel)
  obtain ⟨received, sent⟩ := @exists_received samplePartnerEnv (sampleConfig "VNPAY")
    (sampleConfig "VNPAY").initiatePath _ (sampleTokens "r-1" "n-1") carried (by decide +kernel)
  obtain ⟨received', sent'⟩ := @exists_received samplePartnerEnv (sampleConfig "VNPAY")
    (Str.of "/again") _ (sampleTokens "r-2" "n-2") carried (by decide +kernel)
  have mode : (sampleConfig "VNPAY").signatureMode = .vnpayQuerySha512 := by decide +kernel
  have secret : (sampleConfig "VNPAY").apiSecret ≠ [] := by decide +kernel
  have named : orText (sampleConfig "VNPAY").signaturePayloadField hashField = hashField := by
    decide +kernel
  have unhashed : (samplePayload "VNPAY").get hashField = none :=
    Option.isNone_iff_eq_none.mp (by decide +kernel)
  obtain ⟨canonical, built, _, code⟩ := sent.vnpay mode secret named carried unhashed
  obtain ⟨_, built', _, code'⟩ := sent'.vnpay mode secret named carried unhashed
  cases built.symm.trans built'
  have text : buildVnpayCanonical samplePartnerEnv (samplePayload "VNPAY") ≠ some [] := by
    decide +kernel
  have nonempty : canonical ≠ [] := fun empty => text (empty ▸ built)
  rw [codeOf, if_neg nonempty] at code code'
  exact ⟨received, received', ⟨_, code, code'⟩, vnpay_hash_pins_fields sent sent' mode secret named
    (samplePartnerEnv_unforged _ _) carried carried unhashed unhashed (code.trans code'.symm)⟩

theorem mac_pins_fields_withdrawal :
    ∃ received received', received.get (Str.of "mac") = received'.get (Str.of "mac") ∧
      canonicalText received (Str.of "amount") = canonicalText received' (Str.of "amount") := by
  have carried : Carried (samplePayload "ZALOPAY") :=
    samplePayload_carried (by decide +kernel) (by decide +kernel)
  obtain ⟨received, sent⟩ := @exists_received samplePartnerEnv (sampleConfig "ZALOPAY")
    (sampleConfig "ZALOPAY").initiatePath _ (sampleTokens "r-1" "n-1") carried (by decide +kernel)
  obtain ⟨received', sent'⟩ := @exists_received samplePartnerEnv (sampleConfig "ZALOPAY")
    (Str.of "/again") _ (sampleTokens "r-2" "n-2") carried (by decide +kernel)
  have mode : (sampleConfig "ZALOPAY").signatureMode = .zalopayMacSha256 := by decide +kernel
  have secret : (sampleConfig "ZALOPAY").apiSecret ≠ [] := by decide +kernel
  have named : macField (sampleConfig "ZALOPAY") = Str.of "mac" := by decide +kernel
  have unsigned : macField (sampleConfig "ZALOPAY") ∉ signedFields (sampleConfig "ZALOPAY") := by
    decide +kernel
  have uncoded : (samplePayload "ZALOPAY").get (macField (sampleConfig "ZALOPAY")) = none :=
    Option.isNone_iff_eq_none.mp (by decide +kernel)
  have fields : signedFields (sampleConfig "ZALOPAY") = [Str.of "app_id", Str.of "app_trans_id"] ++
      Str.of "app_user" :: [Str.of "amount", Str.of "app_time", Str.of "embed_data", Str.of "item"] := by
    decide +kernel
  have plain : ∀ name ∈ signedFields (sampleConfig "ZALOPAY"),
      unit '|' ∉ canonicalText (samplePayload "ZALOPAY") name := by decide +kernel
  have paired : Utf8.paired (fieldsCanonical (sampleConfig "ZALOPAY") (samplePayload "ZALOPAY")) =
      true := by decide +kernel
  obtain ⟨own, code⟩ := sent.fields (.inl mode) secret unsigned carried uncoded
  obtain ⟨own', code'⟩ := sent'.fields (.inl mode) secret unsigned carried uncoded
  have text := fieldsCanonical_congr own
  have text' := fieldsCanonical_congr own'
  have listed {name : Str} (chosen : name ∈ [Str.of "app_id", Str.of "app_trans_id"] ++
      [Str.of "amount", Str.of "app_time", Str.of "embed_data", Str.of "item"]) :
      name ∈ signedFields (sampleConfig "ZALOPAY") := by
    rw [fields]
    rcases List.mem_append.mp chosen with front | back
    · exact List.mem_append_left _ front
    · exact List.mem_append_right _ (List.mem_cons_of_mem _ back)
  have same : received.get (macField (sampleConfig "ZALOPAY")) =
      received'.get (macField (sampleConfig "ZALOPAY")) := by
    rw [code, code', text, text']
  have joiner : orText (sampleConfig "ZALOPAY").signatureJoiner [unit '|'] = [unit '|'] := by
    decide +kernel
  have wellFormed : Utf8.paired (fieldsCanonical (sampleConfig "ZALOPAY") received) = true := by
    rw [text, paired]
  have wellFormed' : Utf8.paired (fieldsCanonical (sampleConfig "ZALOPAY") received') = true := by
    rw [text', paired]
  have amount : Str.of "amount" ∈ signedFields (sampleConfig "ZALOPAY") :=
    listed (List.mem_append_right _ List.mem_cons_self)
  have plain' : ∀ name ∈ [Str.of "app_id", Str.of "app_trans_id"] ++
      [Str.of "amount", Str.of "app_time", Str.of "embed_data", Str.of "item"],
      unit '|' ∉ canonicalText received name ∧ unit '|' ∉ canonicalText received' name := by
    intro name chosen
    rw [canonicalText, canonicalText, own name (listed chosen), own' name (listed chosen)]
    exact ⟨plain name (listed chosen), plain name (listed chosen)⟩
  rw [← named]
  clear named code code' text text' own own' listed plain paired
  have unforged := samplePartnerEnv_unforged (sampleConfig "ZALOPAY")
    (sampleConfig "ZALOPAY").signatureAlgorithm
  generalize sampleConfig "ZALOPAY" = config at *
  generalize samplePayload "ZALOPAY" = payload at *
  exact ⟨received, received', same, mac_pins_fields sent sent' (.inl mode) secret unsigned unforged
    carried carried uncoded uncoded joiner fields plain' wellFormed wellFormed' same amount⟩

end Kufi.OutsidePayment

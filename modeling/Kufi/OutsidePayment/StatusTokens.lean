import Kufi.OutsidePayment.Transfers
import Kufi.Transactions.Service

set_option autoImplicit false

/-!
# Which replies end a transfer

The status of a reply is compared with the tokens of the mapping by substring,
the failed tokens first; a reply without a token is judged by its HTTP status.
-/

namespace Kufi.OutsidePayment

open Shared Shared.Text

section

variable (env : PartnerEnv)

/-- The status string of a response, in upper case. -/
def pickedStatus (config : PartnerConfig) (body : Body) : Option String :=
  (pickString (safeParseJson body) config.mapping.checkStatusPaths).map env.toUpperCase

/-- The string is, as a whole, one of the tokens. -/
def IsToken (raw : String) (tokens : List String) : Prop :=
  ∃ token ∈ tokens, normalizedToken env token ≠ "" ∧ raw = normalizedToken env token

instance (raw : String) (tokens : List String) : Decidable (IsToken env raw tokens) :=
  inferInstanceAs (Decidable (∃ _ ∈ _, _))

/-- The string has one of the tokens in it. -/
def HasToken (raw : String) (tokens : List String) : Prop :=
  ∃ token ∈ tokens, normalizedToken env token ≠ "" ∧
    includes raw (normalizedToken env token) = true

instance (raw : String) (tokens : List String) : Decidable (HasToken env raw tokens) :=
  inferInstanceAs (Decidable (∃ _ ∈ _, _))

/-- Only a token of the mapping, as a whole, has ended the transfer. -/
structure DefiniteOutcome (config : PartnerConfig) (body : Body)
    (status : ExternalTransferStatus) : Prop where
  settled : status = .settled →
    ∃ raw ∈ pickedStatus env config body, IsToken env raw config.mapping.successTokens
  failed : status = .failed →
    ∃ raw ∈ pickedStatus env config body, IsToken env raw config.mapping.failedTokens

/-- A status string that is a token if it has one, and an HTTP status that agrees if not. -/
def Decisive (mapping : FieldMapping) (httpStatus : Nat) (raw : String) : Prop :=
  if HasToken env raw mapping.failedTokens then IsToken env raw mapping.failedTokens
  else if HasToken env raw mapping.successTokens then IsToken env raw mapping.successTokens
  else httpOk httpStatus = true ∨ HasToken env raw mapping.pendingTokens

instance (mapping : FieldMapping) (httpStatus : Nat) (raw : String) :
    Decidable (Decisive env mapping httpStatus raw) := by
  unfold Decisive
  infer_instance

/-- The response leaves the transfer as it is: a server error, a status or message whose
conversion to a string throws, or a message that its column does not hold. -/
def Ignored (config : PartnerConfig) (httpStatus : Nat) (body : Body) : Prop :=
  (httpOk httpStatus = false ∧ 500 ≤ httpStatus) ∨ pickedStatus env config body = none ∨
    ∀ message ∈ pickString (safeParseJson body) config.mapping.checkMessagePaths,
      message ≠ "" ∧ Transactions.fitsVarchar 1024 message = false

/-! ## Tokens -/

variable {env : PartnerEnv} {raw : String} {tokens : List String}

theorem matchesAnyToken_iff : matchesAnyToken env raw tokens = true ↔ HasToken env raw tokens := by
  have whole (token : String) (same : raw = token) : includes raw token = true := by
    rw [same, includes, decide_eq_true_eq]
  simp only [matchesAnyToken, List.any_eq_true, Bool.and_eq_true, Bool.or_eq_true, beq_iff_eq,
    decide_eq_true_eq]
  constructor
  · rintro ⟨token, member, nonempty, same | inside⟩
    · exact ⟨token, member, nonempty, whole _ same⟩
    · exact ⟨token, member, nonempty, inside⟩
  · rintro ⟨token, member, nonempty, inside⟩
    exact ⟨token, member, nonempty, .inr inside⟩

theorem IsToken.has (token : IsToken env raw tokens) : HasToken env raw tokens := by
  obtain ⟨token, member, nonempty, rfl⟩ := token
  refine ⟨token, member, nonempty, ?_⟩
  rw [includes, decide_eq_true_eq]

theorem not_hasToken_empty : ¬HasToken env "" tokens := by
  rintro ⟨token, -, nonempty, inside⟩
  rw [includes, decide_eq_true_eq, String.toList_empty, List.infix_nil] at inside
  exact nonempty (String.toList_eq_nil_iff.mp inside)

/-- The status that a response is taken for, by the tokens in it. -/
theorem classify_check (mapping : FieldMapping) (isHttpOk : Bool) :
    classify env raw .check isHttpOk mapping =
      if HasToken env raw mapping.failedTokens then .failed
      else if HasToken env raw mapping.successTokens then .settled
      else if isHttpOk = true ∨ HasToken env raw mapping.pendingTokens then .submitted
      else .failed := by
  unfold classify
  simp only [matchesAnyToken_iff]
  by_cases empty : raw = ""
  · subst empty
    simp only [not_hasToken_empty, if_false, if_true, or_false]
  · simp only [if_neg empty, reduceCtorEq, if_false]
    split
    · rfl
    · split
      · rfl
      · by_cases pending : HasToken env raw mapping.pendingTokens
        · simp [pending]
        · simp [pending]

end

/-! ## A check on its own -/

section Check

variable {env : PartnerEnv} {s : TransfersState} {data : CheckTransferRequest}
  {transfer : ExternalTransfer} {config : PartnerConfig}

def checkAnswer (reply : PartnerReply) : TransfersOp → TransfersChoice
  | .check _ _ => .reply reply
  | _ => .nothing

theorem saveChecked_answered (reply : PartnerReply) (row : ExternalTransfer) :
    ∃ response after, (saveChecked row).answered performTransfers (checkAnswer reply) s =
      some (response, after) ∧ (s.transfers.save? row = none → after = s) ∧
      ∀ saved, s.transfers.save? row = some saved → after.transfers = saved := by
  cases saving : s.transfers.save? row with
  | none =>
    refine ⟨.error .queryFailed, s, ?_, fun _ => rfl, by simp⟩
    simp [saveChecked, Procedure.answered, checkAnswer, performTransfers, saving]
  | some after =>
    refine ⟨.ok (checkResponse row),
      { s with transfers := after, outcomes := s.outcomes ++ outcomeOf row }, ?_, by simp, by simp⟩
    simp [saveChecked, Procedure.answered, checkAnswer, performTransfers, saving]

theorem resolved_code {partnerCode : String}
    (resolved : resolvePartnerRuntimeConfig env partnerCode = some config) :
    config.partnerCode ∈ ["MOMO", "VNPAY", "ZALOPAY", "TECHCOMBANK", "VIETCOMBANK"] := by
  unfold resolvePartnerRuntimeConfig partnerPrefixByCode at resolved
  by_cases known : partnerCode ∈ ["MOMO", "VNPAY", "ZALOPAY", "TECHCOMBANK", "VIETCOMBANK"]
  · rw [if_pos known] at resolved
    dsimp only at resolved
    split at resolved
    · cases resolved
    · cases resolved
      exact known
  · rw [if_neg known] at resolved
    cases resolved

/-- The message that stands in for a missing one fits its column. -/
theorem defaultMessage_fits {partnerCode : String}
    (resolved : resolvePartnerRuntimeConfig env partnerCode = some config)
    (status : ExternalTransferStatus) :
    Transactions.fitsVarchar 1024
      ("Partner " ++ config.partnerCode ++ " status: " ++ status.text) = true := by
  have known := resolved_code resolved
  simp only [List.mem_cons, List.not_mem_nil, or_false] at known
  rcases known with same | same | same | same | same <;> rw [same] <;> cases status <;> decide

theorem DefiniteOutcome.of_submitted {body : Body} {status : ExternalTransferStatus}
    (submitted : status = .submitted) : DefiniteOutcome env config body status := by
  subst submitted
  constructor <;> intro other <;> cases other

/-- A reply that is taken for an outcome is taken rightly just if it is decisive. -/
theorem definiteOutcome_classify {body : Body} {raw : String} (httpStatus : Nat)
    (picked : pickedStatus env config body = some raw) :
    DefiniteOutcome env config body
        (classify env raw .check (httpOk httpStatus) config.mapping) ↔
      Decisive env config.mapping httpStatus raw := by
  have settled : DefiniteOutcome env config body .settled ↔
      IsToken env raw config.mapping.successTokens := by
    constructor
    · intro definite
      obtain ⟨raw', same, token⟩ := definite.settled rfl
      rw [picked] at same
      exact Option.some.inj same ▸ token
    · intro token
      exact ⟨fun _ => ⟨raw, picked, token⟩, fun other => by cases other⟩
  have failed : DefiniteOutcome env config body .failed ↔
      IsToken env raw config.mapping.failedTokens := by
    constructor
    · intro definite
      obtain ⟨raw', same, token⟩ := definite.failed rfl
      rw [picked] at same
      exact Option.some.inj same ▸ token
    · intro token
      exact ⟨fun other => (by cases other), fun _ => ⟨raw, picked, token⟩⟩
  rw [classify_check, Decisive]
  by_cases fails : HasToken env raw config.mapping.failedTokens
  · rw [if_pos fails, if_pos fails, failed]
  · rw [if_neg fails, if_neg fails]
    by_cases succeeds : HasToken env raw config.mapping.successTokens
    · rw [if_pos succeeds, if_pos succeeds, settled]
    · rw [if_neg succeeds, if_neg succeeds]
      by_cases waits : httpOk httpStatus = true ∨ HasToken env raw config.mapping.pendingTokens
      · rw [if_pos waits]
        exact iff_of_true (.of_submitted rfl) waits
      · rw [if_neg waits, failed]
        exact iff_of_false (fun token => fails token.has) waits

/-- A response that is not ignored for what it lacks is classified. -/
theorem checkViaPartner_cases (httpStatus : Nat) (body : Body) :
    (checkViaPartner env config (.response httpStatus body) = none ∧
      Ignored env config httpStatus body) ∨
    ∃ raw message, pickedStatus env config body = some raw ∧
      pickString (safeParseJson body) config.mapping.checkMessagePaths = some message ∧
      ¬(httpOk httpStatus = false ∧ 500 ≤ httpStatus) ∧
      checkViaPartner env config (.response httpStatus body) =
        some (classify env raw .check (httpOk httpStatus) config.mapping,
          orElse message ("Partner " ++ config.partnerCode ++ " status: " ++
            (classify env raw .check (httpOk httpStatus) config.mapping).text)) := by
  cases picked : pickString (safeParseJson body) config.mapping.checkStatusPaths with
  | none =>
    refine .inl ⟨?_, .inr (.inl ?_)⟩
    · simp [checkViaPartner, extractStatus, picked]
    · rw [pickedStatus, picked]
      rfl
  | some text =>
    cases said : pickString (safeParseJson body) config.mapping.checkMessagePaths with
    | none =>
      refine .inl ⟨?_, .inr (.inr ?_)⟩
      · simp [checkViaPartner, extractStatus, picked, said]
      · simp [said]
    | some message =>
      by_cases broken : httpOk httpStatus = false ∧ 500 ≤ httpStatus
      · refine .inl ⟨?_, .inl broken⟩
        simp [checkViaPartner, extractStatus, picked, said, broken]
      · refine .inr ⟨env.toUpperCase text, message, ?_, rfl, broken, ?_⟩
        · rw [pickedStatus, picked]
          rfl
        · simp only [checkViaPartner, extractStatus, picked, said, Option.map_some, bind,
            Option.bind_some, if_neg broken]

theorem columnsFit_checked (fits : transfer.columnsFit = true) (status : ExternalTransferStatus)
    (message : String) :
    ({ transfer with status, partnerMessage := some message } : ExternalTransfer).columnsFit =
      Transactions.fitsVarchar 1024 message := by
  simp only [ExternalTransfer.columnsFit, Bool.and_eq_true] at fits ⊢
  obtain ⟨⟨⟨⟨⟨code, account⟩, amount⟩, currency⟩, ref⟩, -⟩ := fits
  simp [code, account, amount, currency, ref]

/-- The row after an answer to the check: the transfer as it was, or with what fits the column. -/
theorem applyRemote_answered (member : transfer ∈ s.transfers.table) (reply : PartnerReply)
    (status : ExternalTransferStatus) (message : String) :
    ∃ response after row, (applyRemote transfer (some (status, message))).answered
        performTransfers (checkAnswer reply) s = some (response, after) ∧
      after.transfers.table.get? transfer.id = some row ∧
      row.status = if status = .submitted ∨ Transactions.fitsVarchar 1024 message = false then
        transfer.status else status := by
  have stored : s.transfers.table.get? transfer.id = some transfer := Table.get?_of_mem member
  by_cases waits : status = .submitted
  · subst waits
    exact ⟨_, s, transfer, rfl, stored, rfl⟩
  have saves : applyRemote transfer (some (status, message)) =
      saveChecked { transfer with status, partnerMessage := some message } := by
    cases status with
    | submitted => exact absurd rfl waits
    | settled => rfl
    | failed => rfl
  obtain ⟨response, after, ran, refused, accepted⟩ := saveChecked_answered (s := s) reply
    { transfer with status, partnerMessage := some message }
  have fits : (s.transfers.save?
      { transfer with status, partnerMessage := some message }).isSome =
        { transfer with status, partnerMessage := some message }.columnsFit :=
    ExternalTransfers.save?_isSome member rfl rfl rfl
  rw [columnsFit_checked (s.transfers.fits transfer member)] at fits
  rw [saves]
  cases saving : s.transfers.save? { transfer with status, partnerMessage := some message } with
  | none =>
    rw [saving] at fits
    refine ⟨response, after, transfer, ran, ?_, ?_⟩
    · rw [refused saving]
      exact stored
    · rw [if_pos (.inr fits.symm)]
  | some saved =>
    rw [saving] at fits
    refine ⟨response, after, { transfer with status, partnerMessage := some message }, ran, ?_, ?_⟩
    · rw [accepted saved saving,
        Table.get?_update? (ExternalTransfers.save?_spec saving) member rfl]
      exact if_pos rfl
    · rw [if_neg]
      rintro (other | unfit)
      · exact waits other
      · rw [unfit] at fits
        cases fits

end Check

/-- A check moves a submitted transfer only on a whole token, just if the response is ignored or
decisive. -/
theorem definite_outcome_iff (env : PartnerEnv) (s : TransfersState) (data : CheckTransferRequest)
    (transfer : ExternalTransfer) (config : PartnerConfig) (httpStatus : Nat) (body : Body)
    (found : s.transfers.table.find? (·.partnerRef == data.partnerRef) = some transfer)
    (submitted : transfer.status = .submitted)
    (resolved : resolvePartnerRuntimeConfig env
      (normalizeKnownPartnerCode env (orElse transfer.partnerCode data.partnerCode)) = some config) :
    ∃ response after row, (checkTransfer env data).answered performTransfers
        (checkAnswer (.response httpStatus body)) s = some (response, after) ∧
      after.transfers.table.get? transfer.id = some row ∧
      (DefiniteOutcome env config body row.status ↔ Ignored env config httpStatus body ∨
        ∃ raw ∈ pickedStatus env config body, Decisive env config.mapping httpStatus raw) := by
  have member : transfer ∈ s.transfers.table := Table.mem_of_find? found
  have stored : s.transfers.table.get? transfer.id = some transfer := Table.get?_of_mem member
  have asked : (checkTransfer env data).answered performTransfers
      (checkAnswer (.response httpStatus body)) s =
      (applyRemote transfer (checkViaPartner env config (.response httpStatus body))).answered
        performTransfers (checkAnswer (.response httpStatus body)) s := by
    simp [checkTransfer, Procedure.answered, checkAnswer, performTransfers, found, submitted,
      resolved]
  rw [asked]
  rcases checkViaPartner_cases httpStatus body with
    ⟨silent, ignored⟩ | ⟨raw, message, picked, said, answered, classified⟩
  · rw [silent]
    exact ⟨_, s, transfer, rfl, stored, iff_of_true (.of_submitted submitted) (.inl ignored)⟩
  rw [classified]
  obtain ⟨response, after, row, ran, held, status⟩ := applyRemote_answered member
    (.response httpStatus body) (classify env raw .check (httpOk httpStatus) config.mapping)
    (orElse message ("Partner " ++ config.partnerCode ++ " status: " ++
      (classify env raw .check (httpOk httpStatus) config.mapping).text))
  refine ⟨response, after, row, ran, held, ?_⟩
  have decisive := definiteOutcome_classify httpStatus picked
  have chosen : (∃ raw ∈ pickedStatus env config body,
      Decisive env config.mapping httpStatus raw) ↔
      Decisive env config.mapping httpStatus raw := by
    simp [picked]
  -- the message that is saved is the partner's own if it does not fit
  have ignored : Ignored env config httpStatus body ↔
      Transactions.fitsVarchar 1024 (orElse message ("Partner " ++ config.partnerCode ++
        " status: " ++ (classify env raw .check (httpOk httpStatus) config.mapping).text)) =
          false := by
    simp only [Ignored, answered, picked, said, false_or, reduceCtorEq, Option.mem_some_iff,
      forall_eq', orElse]
    by_cases empty : message = ""
    · simp [empty, defaultMessage_fits resolved]
    · simp [empty]
  rw [status, chosen, ignored, ← decisive]
  split
  next unmoved =>
    refine iff_of_true (.of_submitted submitted) ?_
    rcases unmoved with waits | unfit
    · exact .inr (.of_submitted waits)
    · exact .inl unfit
  next moved =>
    rw [not_or] at moved
    exact (or_iff_right moved.2).symm

/-! ## A transfer at MoMo -/

/-- Only the base URL of MoMo is configured. -/
def samplePartners : PartnerEnv where
  toUpperCase := Transactions.asciiUpper
  toLowerCase text := String.ofList (text.toList.map Char.toLower)
  cfg name := if name = "MOMO_API_BASE_URL" then some "https://partner.test" else none
  mockSettleDelayMs := 1000

def momo : PartnerConfig where
  partnerCode := "MOMO"
  mapping :=
    { defaultFieldMappingFor "MOMO" with
      failedTokens := (defaultFieldMappingFor "MOMO").failedTokens.map Transactions.asciiUpper
      successTokens := (defaultFieldMappingFor "MOMO").successTokens.map Transactions.asciiUpper
      pendingTokens := (defaultFieldMappingFor "MOMO").pendingTokens.map Transactions.asciiUpper }

def sampleTransfer : ExternalTransfer where
  id := 0
  transactionId := Transactions.aliceId
  partnerCode := "MOMO"
  accountNo := "0912345678"
  transferType := .topup
  amount := 100
  currency := "VND"
  partnerRef := "MOMO-1"
  status := .submitted
  partnerMessage := some "Transfer accepted"
  createdAt := 0

def sampleTransfers : TransfersState where
  transfers :=
    { table :=
        { rows := [sampleTransfer]
          next := 1
          fresh := by decide
          ids := by decide
          unique := by decide }
      fits := by decide
      partnerRefs := by decide }
  asked := [Transactions.aliceId]
  outcomes := []

def sampleCheck : CheckTransferRequest where
  partnerCode := "MOMO"
  partnerRef := "MOMO-1"

def resultCode (code : String) : Body := .json (.object [("resultCode", .number code)])

-- MoMo's result code 0 is a token as a whole.
theorem definite_outcome_iff_zero :
    ∃ response after row, (checkTransfer samplePartners sampleCheck).answered performTransfers
        (checkAnswer (.response 200 (resultCode "0"))) sampleTransfers = some (response, after) ∧
      after.transfers.table.get? 0 = some row ∧
      (DefiniteOutcome samplePartners momo (resultCode "0") row.status ↔
        Ignored samplePartners momo 200 (resultCode "0") ∨
        ∃ raw ∈ pickedStatus samplePartners momo (resultCode "0"),
          Decisive samplePartners momo.mapping 200 raw) :=
  definite_outcome_iff samplePartners sampleTransfers sampleCheck sampleTransfer momo 200
    (resultCode "0") (by decide +kernel) rfl (by decide +kernel)

-- Its code 1000, a payment that waits for the user, has a 0 in it.
theorem waiting_payment_settled :
    ¬∀ httpStatus body response after row,
      (checkTransfer samplePartners sampleCheck).answered performTransfers
        (checkAnswer (.response httpStatus body)) sampleTransfers = some (response, after) →
      after.transfers.table.get? 0 = some row →
      DefiniteOutcome samplePartners momo body row.status := by
  intro always
  have settles : ((checkTransfer samplePartners sampleCheck).answered performTransfers
      (checkAnswer (.response 200 (resultCode "1000"))) sampleTransfers).map
        (fun result => (result.2.transfers.table.get? 0).map ExternalTransfer.status) =
      some (some .settled) := by decide +kernel
  obtain ⟨⟨response, after⟩, ran, held⟩ := Option.map_eq_some_iff.mp settles
  obtain ⟨row, found, settled⟩ := Option.map_eq_some_iff.mp held
  obtain ⟨raw, picked, token⟩ := (always 200 (resultCode "1000") response after row ran found).settled
    settled
  have shown : pickedStatus samplePartners momo (resultCode "1000") = some "1000" := by
    decide +kernel
  rw [shown] at picked
  obtain rfl := Option.some.inj picked
  exact absurd token (by decide +kernel)

end Kufi.OutsidePayment

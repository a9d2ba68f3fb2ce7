import Kufi.Shared.Double
import Kufi.Shared.ExpiringCache
import Kufi.Transactions.Service
import Kufi.Wire.Amounts

set_option autoImplicit false

/-!
# Risk of a movement

The risk service scores a movement beside what went to the same destination
before. The figures of a destination are kept for a while; the model that scores
runs elsewhere and may be out of reach.
-/

namespace Kufi.Transactions.AtoRisk

open Shared Shared.Text

structure AssessTransferRiskRequest where
  requestingUserId : String
  fromUserId : String
  toUserId : String
  amount : Wire.Raw
  currency : String
  isExternal : Bool
  externalPartner : String
  externalAccountNo : String
  deviceId : String

structure NormalizedRiskRequest where
  requestingUserId : String
  fromUserId : String
  toUserId : String
  amount : Int
  currency : String
  isExternal : Bool
  externalPartner : String
  externalAccountNo : String
  deviceId : String

structure DestinationStats where
  txCount : Nat
  avgAmount : ℚ
  uniqueSenders : Nat
  deriving DecidableEq

inductive AtoTransactionType where
  | cashIn
  | cashOut
  | debit
  | payment
  | transfer
  deriving DecidableEq

structure AtoModelResponse where
  verdict : String
  probability : ℚ
  threshold : ℚ
  modelVersion : String

structure AtoRiskAssessment where
  requiresStepUp : Bool
  reasons : List String
  verdict : String
  probability : ℚ
  threshold : ℚ
  modelVersion : String
  modelType : AtoTransactionType
  senderBalance : Int
  destinationTxCount : Nat
  destinationAvgAmount : ℚ
  destinationUniqueSenders : Nat

structure RiskEnv where
  env : Env
  -- `Number` on a text
  number : String → Wire.Num
  -- what `Number` makes of the `AVG` of so many amounts with this sum
  average : Int → Nat → ℚ
  statsCacheTtlMs : Int
  statsCacheMaxEntries : Int
  fallbackHardAmount : Int
  failOpen : Bool

-- The clock when the cache is read and when it is written, and what `callAtoModel` comes to.
structure RiskAnswers where
  now : Instant
  storedAt : Instant
  model : Except String AtoModelResponse

def validate (risk : RiskEnv) (request : AssessTransferRiskRequest) :
    Except ServiceError NormalizedRiskRequest :=
  let requestingUserId := trim request.requestingUserId
  let fromUserId := trim request.fromUserId
  let toUserId := trim request.toUserId
  let currency := risk.env.toUpperCase (trim (orElse request.currency "VND"))
  let externalPartner := trim request.externalPartner
  let externalAccountNo := trim request.externalAccountNo
  if requestingUserId = "" ∨ fromUserId = "" ∨ toUserId = "" then
    .error (.badRequest "requestingUserId, fromUserId, toUserId required")
  else if requestingUserId ≠ fromUserId then
    .error (.badRequest "requestingUserId must match fromUserId")
  else match Wire.riskNormalizeAmount risk.number request.amount with
  | .finite amount =>
    if amount ≠ ⌊amount⌋ ∨ amount ≤ 0 then .error (.badRequest "amount must be positive integer")
    else if currency = "" ∨ 16 < utf16Length currency then
      .error (.badRequest "currency is invalid")
    else if request.isExternal ∧ (externalPartner = "" ∨ externalAccountNo = "") then
      .error (.badRequest "external transfer requires externalPartner and externalAccountNo")
    else .ok
      { requestingUserId, fromUserId, toUserId, currency, externalPartner, externalAccountNo
        amount := ⌊amount⌋
        isExternal := request.isExternal
        deviceId := trim request.deviceId }
  | _ => .error (.badRequest "amount must be positive integer")

/-! ## Figures of a destination -/

section

variable (average : Int → Nat → ℚ)

/-- `COUNT(*)`, `COALESCE(AVG(amount), 0)` and `COUNT(DISTINCT fromUserId)`. -/
def destinationStats (rows : List TransactionEntity) : DestinationStats where
  txCount := rows.length
  avgAmount := if rows = [] then 0 else average (rows.map (·.amount)).sum rows.length
  uniqueSenders := (rows.map (·.fromUserId)).dedup.length

/-- The figures together with the rows they are of, which the program does not keep. -/
structure Figures where
  rows : List TransactionEntity
  value : DestinationStats
  ofRows : value = destinationStats average rows

abbrev StatsCache := ExpiringCache String (Figures average)

end

def selectDestination (req : NormalizedRiskRequest) (s : Tables) :
    Except ServiceError (List TransactionEntity) :=
  let rows := s.transactions.rows.filter fun tx =>
    tx.currency == req.currency && tx.status != .failed
  if req.isExternal then .ok (rows.filter fun tx =>
    tx.isExternal && tx.externalAccountNo == some req.externalAccountNo)
  else (parseUuid req.toUserId).map fun toUserId =>
    rows.filter fun tx => tx.toUserId == some toUserId

def destinationCacheKey (req : NormalizedRiskRequest) : String :=
  if req.isExternal then
    "external:" ++ req.currency ++ ":" ++ req.externalPartner ++ ":" ++ req.externalAccountNo
  else "wallet:" ++ req.currency ++ ":" ++ req.toUserId

variable {risk : RiskEnv}

def cacheDestinationStats (storedAt : Instant) (key : String) (figures : Figures risk.average)
    (statsCache : StatsCache risk.average) : StatsCache risk.average :=
  if risk.statsCacheTtlMs ≤ 0 then statsCache
  else statsCache.put risk.statsCacheMaxEntries
    { key, value := figures, expiresAt := storedAt + risk.statsCacheTtlMs }

def getDestinationStats (answers : RiskAnswers) (req : NormalizedRiskRequest) (s : Tables)
    (statsCache : StatsCache risk.average) :
    Except ServiceError (Figures risk.average × StatsCache risk.average) :=
  let cacheKey := destinationCacheKey req
  match statsCache.fresh? cacheKey answers.now with
  | some figures => .ok (figures, statsCache)
  | none => (selectDestination req s).map fun rows =>
    let figures : Figures risk.average :=
      { rows, value := destinationStats risk.average rows, ofRows := rfl }
    (figures, cacheDestinationStats answers.storedAt cacheKey figures statsCache)

/-! ## The assessment -/

variable (risk) in
def fallbackReasons (req : NormalizedRiskRequest) (senderBalance : Int) (stats : DestinationStats) :
    List String :=
  (if risk.fallbackHardAmount ≤ req.amount then ["amount_over_fallback_threshold"] else []) ++
  (if 0 < senderBalance ∧ Double.rounded (senderBalance * Double.rounded (9 / 10)) ≤ req.amount then
    ["amount_near_sender_balance"] else []) ++
  (if 0 < stats.avgAmount ∧ Double.rounded (stats.avgAmount * 5) ≤ req.amount then
    ["destination_amount_spike"] else [])

def toModelType (req : NormalizedRiskRequest) : AtoTransactionType :=
  if req.isExternal then .cashOut else .transfer

variable (risk) in
def assessment (req : NormalizedRiskRequest) (senderBalance : Int) (stats : DestinationStats)
    (model : Except String AtoModelResponse) : AtoRiskAssessment :=
  let fallback := fallbackReasons risk req senderBalance stats
  match model with
  | .ok model =>
    let modelRequiresStepUp := model.verdict = "ATO_SUSPECTED"
    { requiresStepUp := modelRequiresStepUp || !fallback.isEmpty
      reasons := (if modelRequiresStepUp then ["ato_model_suspected"] else []) ++ fallback
      verdict := model.verdict
      probability := model.probability
      threshold := model.threshold
      modelVersion := model.modelVersion
      modelType := toModelType req
      senderBalance := senderBalance
      destinationTxCount := stats.txCount
      destinationAvgAmount := stats.avgAmount
      destinationUniqueSenders := stats.uniqueSenders }
  | .error _ =>
    let requiresStepUp := !risk.failOpen || !fallback.isEmpty
    { requiresStepUp := requiresStepUp
      reasons := if requiresStepUp then "ato_model_unavailable" :: fallback
        else ["ato_model_unavailable_fail_open"]
      verdict := "UNAVAILABLE"
      probability := 0
      threshold := 0
      modelVersion := ""
      modelType := toModelType req
      senderBalance := senderBalance
      destinationTxCount := stats.txCount
      destinationAvgAmount := stats.avgAmount
      destinationUniqueSenders := stats.uniqueSenders }

def assessTransferRisk (answers : RiskAnswers) (request : AssessTransferRiskRequest) (s : Tables)
    (statsCache : StatsCache risk.average) :
    Except ServiceError (AtoRiskAssessment × StatsCache risk.average) := do
  let req ← validate risk request
  let wallet ← s.getWallet req.fromUserId req.currency
  let senderBalance := walletBalance wallet
  let (stats, statsCache) ← getDestinationStats answers req s statsCache
  .ok (assessment risk req senderBalance stats.value answers.model, statsCache)

/-- The figures that the assessment is made with. -/
def AtoRiskAssessment.stats (assessment : AtoRiskAssessment) : DestinationStats where
  txCount := assessment.destinationTxCount
  avgAmount := assessment.destinationAvgAmount
  uniqueSenders := assessment.destinationUniqueSenders

/-! ## What the figures are of -/

section

variable {answers : RiskAnswers} {s : Tables} {statsCache after : StatsCache risk.average}
  {request : AssessTransferRiskRequest} {req : NormalizedRiskRequest}

theorem validate_eq_ok (valid : validate risk request = .ok req) :
    normalizeCurrency risk.env request.currency = .ok req.currency ∧
      req.isExternal = request.isExternal ∧ req.externalPartner = trim request.externalPartner ∧
      req.externalAccountNo = trim request.externalAccountNo := by
  unfold validate at valid
  cases amount : Wire.riskNormalizeAmount risk.number request.amount with
  | finite value =>
    simp only [amount] at valid
    split_ifs at valid with _ _ _ currency
    obtain rfl := Except.ok.inj valid
    rw [not_or] at currency
    exact ⟨by simp [normalizeCurrency, currency.1, currency.2], rfl, rfl, rfl⟩
  | _ =>
    simp only [amount] at valid
    split_ifs at valid

theorem assessment_stats (req : NormalizedRiskRequest) (senderBalance : Int)
    (stats : DestinationStats) (model : Except String AtoModelResponse) :
    (assessment risk req senderBalance stats model).stats = stats := by
  cases model <;> rfl

theorem assessTransferRisk_stats {assessed : AtoRiskAssessment}
    (done : assessTransferRisk answers request s statsCache = .ok (assessed, after)) :
    ∃ req figures, validate risk request = .ok req ∧
      getDestinationStats answers req s statsCache = .ok (figures, after) ∧
      assessed.stats = destinationStats risk.average figures.rows := by
  simp only [assessTransferRisk, bind_eq_ok, Prod.exists, Except.ok.injEq, Prod.mk.injEq] at done
  obtain ⟨req, valid, wallet, _, figures, _, found, rfl, rfl⟩ := done
  exact ⟨req, figures, valid, found, (assessment_stats ..).trans figures.ofRows⟩

/-- The figures are those in the cache, or of the rows that the database selects. -/
theorem getDestinationStats_cases {figures : Figures risk.average}
    (done : getDestinationStats answers req s statsCache = .ok (figures, after)) :
    (statsCache.fresh? (destinationCacheKey req) answers.now = some figures ∧
        after = statsCache) ∨
      (statsCache.fresh? (destinationCacheKey req) answers.now = none ∧
        selectDestination req s = .ok figures.rows ∧
        after = statsCache) ∨
      (statsCache.fresh? (destinationCacheKey req) answers.now = none ∧
        selectDestination req s = .ok figures.rows ∧
        after = statsCache.put risk.statsCacheMaxEntries
          { key := destinationCacheKey req, value := figures
            expiresAt := answers.storedAt + risk.statsCacheTtlMs }) := by
  simp only [getDestinationStats] at done
  split at done
  next served =>
    obtain ⟨rfl, rfl⟩ := Prod.mk.inj (Except.ok.inj done)
    exact .inl ⟨served, rfl⟩
  next missing =>
    obtain ⟨rows, selected, same⟩ := map_eq_ok.mp done
    obtain ⟨rfl, rfl⟩ := Prod.mk.inj same
    unfold cacheDestinationStats
    split_ifs
    · exact .inr (.inl ⟨missing, selected, rfl⟩)
    · exact .inr (.inr ⟨missing, selected, rfl⟩)

theorem mem_selectDestination {rows : List TransactionEntity} {row : TransactionEntity}
    (selected : selectDestination req s = .ok rows) (member : row ∈ rows) :
    row ∈ s.transactions ∧
      (req.isExternal = true → row.externalAccountNo = some req.externalAccountNo) := by
  simp only [selectDestination] at selected
  split_ifs at selected with external
  · obtain rfl := Except.ok.inj selected
    simp only [List.mem_filter, Bool.and_eq_true, beq_iff_eq] at member
    exact ⟨member.1.1, fun _ => member.2.2⟩
  · obtain ⟨toUserId, _, rfl⟩ := map_eq_ok.mp selected
    simp only [List.mem_filter] at member
    exact ⟨member.1.1, fun other => absurd other external⟩

/-- Keys are joined with colons, which the texts between them may have as well. -/
theorem suffix_of_sameKey {req other : NormalizedRiskRequest} (external : req.isExternal = true)
    (plain : ':' ∉ req.externalAccountNo.toList)
    (same : destinationCacheKey other = destinationCacheKey req) :
    other.isExternal = true ∧
      (':' :: req.externalAccountNo.toList) <:+ (':' :: other.externalAccountNo.toList) := by
  have texts := congrArg String.toList same
  simp only [destinationCacheKey, external, if_true] at texts
  split_ifs at texts with otherExternal
  · refine ⟨otherExternal, ?_⟩
    simp only [String.toList_append] at texts
    have own : (':' :: req.externalAccountNo.toList) <:+
        "external:".toList ++ req.currency.toList ++ ":".toList ++ req.externalPartner.toList ++
          ":".toList ++ req.externalAccountNo.toList :=
      ⟨"external:".toList ++ req.currency.toList ++ ":".toList ++ req.externalPartner.toList,
        by simp⟩
    have others : (':' :: other.externalAccountNo.toList) <:+
        "external:".toList ++ other.currency.toList ++ ":".toList ++
          other.externalPartner.toList ++ ":".toList ++ other.externalAccountNo.toList :=
      ⟨"external:".toList ++ other.currency.toList ++ ":".toList ++ other.externalPartner.toList,
        by simp⟩
    rw [texts] at others
    rcases List.suffix_or_suffix_of_suffix own others with within | around
    · exact within
    · rcases List.suffix_cons_iff.mp around with whole | inside
      · exact whole ▸ List.suffix_refl _
      · exact absurd (inside.subset List.mem_cons_self) plain
  · simp at texts

end

end Kufi.Transactions.AtoRisk

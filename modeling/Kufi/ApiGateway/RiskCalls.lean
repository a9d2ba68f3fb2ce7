import Kufi.ApiGateway.Movements
import Kufi.Transactions.AtoRisk
import Kufi.Transactions.FundingSources
import Kufi.Workers.StoredPayments

set_option autoImplicit false

/-!
# Movements beside the transactions they are scored on

Handlers of the gateway run interleaved with the operations of the transaction
service. The gateway names the destination of a movement, the service looks it
up among the transactions that it has stored.
-/

namespace Kufi.ApiGateway

open Shared Shared.Text Kufi.Auth Kufi.Transactions Kufi.Transactions.AtoRisk Kufi.Workers

/-- The state of the transaction service. -/
structure RiskState (risk : RiskEnv) where
  tables : Tables
  accountRefHashes : List (Uuid × String)
  statsCache : StatsCache risk.average
  -- the funding source whose request created a transaction; nothing reads it
  created : List (Nat × Uuid)

variable {risk : RiskEnv}

/-! ## Operations of the transaction service -/

def fundingSource? : Prepared → Option FundingSource
  | .transfer _ => none
  | .topup _ fundingSource | .withdrawal _ fundingSource => some fundingSource

-- The database transaction of a top-up or a withdrawal leaves its row with the next stage.
def createdBy (stage next : Stage) : List (Nat × Uuid) :=
  match stage with
  | .inl (.insert work) =>
    match fundingSource? work, next.entity? with
    | some fundingSource, some tx => [(tx.id, fundingSource.id)]
    | _, _ => []
  | _ => []

def recordedOperations (risk : RiskEnv) :
    Machine (RiskState risk) Stage (Answers ⊕ (Instant ⊕ ChainJobAction)) where
  step state stage action :=
    ((operations risk.env).step state.tables stage action).map fun (tables, next) =>
      ({ state with tables, created := state.created ++ createdBy stage next }, next)

inductive Registration where
  | request (request : CreateFundingSourceRequest)
  | registered (result : Except ServiceError FundingSource)

-- The action is the id that the database generates.
def registrations (risk : RiskEnv) (sha256 : String → String) :
    Machine (RiskState risk) Registration Uuid where
  step state registration id :=
    match registration with
    | .request request =>
      match createFundingSource risk.env sha256 id request state.tables state.accountRefHashes with
      | .ok (source, tables, accountRefHashes) =>
        some ({ state with tables, accountRefHashes }, .registered (.ok source))
      | .error error => some (state, .registered (.error error))
    | .registered _ => none

/-! ## Calls of the gateway -/

/-- Whether a call gets there and its answer back, with what is decided outside. -/
structure CallAnswers where
  reached : Bool
  replied : Bool
  risk : RiskAnswers
  -- the replies to calls of other services
  other : (op : GatewayOp) → Option op.Reply

def fundingSourceItem (source : FundingSource) : FundingSourceItem where
  fundingSourceId := source.id.format
  provider := source.provider

def listedItems (userId : String) (s : Tables) : Option (List FundingSourceItem) :=
  match listFundingSources userId s with
  | .ok sources => some (sources.map fundingSourceItem)
  | .error _ => none

def riskResponse (assessed : AtoRiskAssessment) : RiskResponse where
  requiresStepUp := assessed.requiresStepUp
  reasons := assessed.reasons
  verdict := assessed.verdict
  probability := .finite assessed.probability
  threshold := .finite assessed.threshold
  modelVersion := assessed.modelVersion

/-- The request as the risk service gets it. -/
def RiskRequest.received (wire : ℚ → Wire.Raw) (request : RiskRequest) :
    AssessTransferRiskRequest where
  requestingUserId := request.requestingUserId
  fromUserId := request.fromUserId
  toUserId := request.toUserId
  amount := wire request.amount
  currency := request.currency
  isExternal := request.isExternal
  externalPartner := request.externalPartner
  externalAccountNo := request.externalAccountNo
  deviceId := request.deviceId

def RiskState.assess (wire : ℚ → Wire.Raw) (answers : RiskAnswers) (request : RiskRequest)
    (state : RiskState risk) : Except ServiceError (AtoRiskAssessment × StatsCache risk.average) :=
  AtoRisk.assessTransferRisk answers (request.received wire) state.tables state.statsCache

variable (wire : ℚ → Wire.Raw)

-- The movements submitted here are creations of their own, and so any requests.
def performCall : Performer GatewayOp GatewayOp.Reply CallAnswers (RiskState risk)
  | .listFundingSources userId, answers, state =>
    some (if answers.replied then listedItems userId state.tables else none, state)
  | .assessTransferRisk request, answers, state =>
    if answers.reached then
      match state.assess wire answers.risk request with
      | .ok (assessed, statsCache) =>
        some (if answers.replied then some (riskResponse assessed) else none,
          { state with statsCache })
      | .error _ => some (none, state)
    else some (none, state)
  | op, answers, state => (answers.other op).map fun reply => (reply, state)

abbrev RiskProcess := Stage ⊕ (Registration ⊕ GatewayHandler (Except GatewayError MovementResponse))

def riskProcesses (risk : RiskEnv) (sha256 : String → String) (wire : ℚ → Wire.Raw) :
    Machine (RiskState risk) RiskProcess
      ((Answers ⊕ (Instant ⊕ ChainJobAction)) ⊕ (Uuid ⊕ CallAnswers)) :=
  (recordedOperations risk).either
    ((registrations risk sha256).either (Procedure.machine (performCall wire)))

/-- The handler of a top-up or of a withdrawal. -/
inductive MovementCall (number : String → Wire.Num) (env : GatewayEnv) (headers : Headers) :
    CreateTopupDto → GatewayHandler (Except GatewayError MovementResponse) → Prop
  | topup (dto : CreateTopupDto) :
      MovementCall number env headers dto (createTopupIntent number env headers dto)
  | withdrawal (dto : CreateWithdrawalDto) :
      MovementCall number env headers dto.toCreateTopupDto
        (createWithdrawalRequest number env headers dto)

/-! ## The destination of a movement -/

/-- The request asks about the id of the source, whoever the payer is and whatever the amount. -/
structure AsksAbout (dto : CreateTopupDto) (source : FundingSource) (request : RiskRequest) :
    Prop where
  named : source.id.format = trim dto.fundingSourceId
  currency : request.currency = trim dto.currency
  isExternal : request.isExternal = true
  externalPartner : request.externalPartner = trim source.provider
  externalAccountNo : request.externalAccountNo = source.id.format

section

variable (dto : CreateTopupDto) (sources : List FundingSource)

def AsksOnly : GatewayOp → Prop
  | .assessTransferRisk request => ∃ source ∈ sources, AsksAbout dto source request
  | _ => True

def ListsOnly : (op : GatewayOp) → op.Reply → Prop
  | .listFundingSources _, some items =>
    ∀ item ∈ items, ∃ source ∈ sources, item = fundingSourceItem source
  | _, _ => True

variable {A : Type}

/-- The handler asks about sources among these only, if these are what it is told. -/
abbrev AboutSources (handler : GatewayHandler A) (post : A → Prop) : Prop :=
  handler.Asks (AsksOnly dto sources) (ListsOnly sources) post

variable {dto sources}

theorem atAuth_asks (handler : AuthHandler A) :
    AboutSources dto sources (atAuth handler) fun _ => True := by
  induction handler with
  | done value => trivial
  | perform op next ih => exact ⟨trivial, fun reply _ => ih reply⟩

theorem stepUpAndSubmit_asks (number : String → Wire.Num) (headers : Headers) (deviceId : String)
    (risk : Risk) (toUserId idempotencyKey : Option String) (movement : String → Movement) :
    AboutSources dto sources
      (stepUpAndSubmit number headers deviceId risk toUserId idempotencyKey movement)
      fun _ => True := by
  have verified (stepUpToken : String) : AboutSources dto sources
      (verifyStepUpToken headers.userId deviceId stepUpToken) fun _ => True := by
    refine .ask trivial fun connected _ => ?_
    split_ifs
    · exact .bind (atAuth_asks _) fun valid _ => .ask trivial fun responded _ => trivial
    · trivial
  have allowed : AboutSources dto sources (requireStepUpIfNeeded headers deviceId risk)
      fun _ => True := by
    unfold requireStepUpIfNeeded
    dsimp only
    split_ifs
    · trivial
    · refine .bind (verified _) fun valid _ => ?_
      split_ifs <;> trivial
    · trivial
  have keyed : AboutSources dto sources (keyOrUuid idempotencyKey) fun _ => True := by
    unfold keyOrUuid
    dsimp only
    split_ifs
    · exact ⟨trivial, fun _ _ => trivial⟩
    · trivial
  refine .bind allowed fun result _ => ?_
  cases result with
  | error err => trivial
  | ok done =>
    have submits : ∀ key, True → AboutSources dto sources (do
        let answer ← askGateway (.submit (movement key))
        pure (answered number answer toUserId risk)) fun _ => True :=
      fun key _ => ⟨trivial, fun answer _ => trivial⟩
    exact .bind keyed submits

theorem resolveFundingSourceRiskTarget_asks (userId fundingSourceId : String) :
    AboutSources dto sources (resolveFundingSourceRiskTarget userId fundingSourceId) fun result =>
      ∀ provider, result = .ok provider → ∃ source ∈ sources,
        source.id.format = fundingSourceId ∧ provider = trim source.provider := by
  unfold resolveFundingSourceRiskTarget
  refine .ask trivial fun result told => ?_
  cases result with
  | none => exact fun _ failed => nomatch failed
  | some items =>
    dsimp only
    split
    next => exact fun _ failed => nomatch failed
    next item found =>
      rintro provider done
      obtain rfl := Except.ok.inj done
      obtain ⟨source, registered, rfl⟩ := told item (List.mem_of_find?_eq_some found)
      have named := List.find?_some found
      rw [beq_iff_eq, fundingSourceItem, trim_format] at named
      exact ⟨source, registered, named, rfl⟩

theorem moveFunds_asks (number : String → Wire.Num) (headers : Headers)
    (movement : String → Movement) :
    AboutSources dto sources (moveFunds number headers dto movement) fun _ => True := by
  unfold moveFunds
  dsimp only
  split_ifs
  · trivial
  · trivial
  refine .bind (resolveFundingSourceRiskTarget_asks headers.userId (trim dto.fundingSourceId))
    fun target resolved => ?_
  cases target with
  | error err => trivial
  | ok provider =>
    obtain ⟨source, registered, named, rfl⟩ := resolved provider rfl
    refine .bind (?_ : AboutSources dto sources _ fun _ => True) fun assessed _ => ?_
    · exact .ask ⟨source, registered, named, rfl, rfl, rfl, named.symm⟩ fun _ _ => trivial
    · cases assessed with
      | none => trivial
      | some risk => exact stepUpAndSubmit_asks ..

theorem MovementCall.asks {number : String → Wire.Num} {env : GatewayEnv} {headers : Headers}
    {handler : GatewayHandler (Except GatewayError MovementResponse)}
    (call : MovementCall number env headers dto handler) :
    AboutSources dto sources handler fun _ => True := by
  cases call with
  | topup => exact moveFunds_asks ..
  | withdrawal => exact moveFunds_asks ..

end

end Kufi.ApiGateway

import Kufi.ApiGateway.Movements

set_option autoImplicit false

/-!
# Movements that need a step-up

Calls of both services run here interleaved. The run is recorded with the tokens
issued and the codes they were issued for, and with the movements that reached
the transaction service.
-/

namespace Kufi.ApiGateway

open Shared Shared.Text Kufi.Auth Kufi.Wire Kufi.Transactions

/-- A token with the code that was consumed for it. -/
structure IssuedToken where
  row : AuthStepUpToken
  factor : Option AuthOtp
  deriving DecidableEq

/-- A movement passed to the transaction service: the risk assessed, the headers presented, and
the token found for them with the time of its verification. -/
structure Attempt where
  movement : Movement
  risk : Option RiskResponse
  faceVerified : Option String
  stepUpToken : Option String
  row : Option AuthStepUpToken
  verifiedAt : Time

structure StepUpState where
  tables : AuthTables
  issued : List IssuedToken
  attempts : List Attempt

/-- What a call has presented and heard so far. -/
structure Trail where
  faceVerified : Option String
  stepUpToken : Option String
  risk : Option RiskResponse
  row : Option AuthStepUpToken
  clock : Time
  -- the code that has been consumed and not yet exchanged
  factor : Option AuthOtp

def Trail.advance (trail : Trail) : (op : GatewayOp) → op.Reply → Trail
  | .assessTransferRisk _, risk => { trail with risk := risk }
  | .auth (.findToken _), row => { trail with row := row }
  | .auth .now, now => { trail with clock := now }
  | .auth (.saveOtp row), true =>
    if row.usedAt = none then trail else { trail with factor := some row }
  | .auth (.insertToken _), _ => { trail with factor := none }
  | _, _ => trail

def StepUpState.record (s : StepUpState) (trail : Trail) : (op : GatewayOp) → op.Reply → StepUpState
  | .auth (.insertToken row), true =>
    { s with issued := s.issued ++ [⟨Row.withId row s.tables.tokens.next, trail.factor⟩] }
  | .submit movement, _ =>
    { s with
      attempts := s.attempts ++
        [{ movement := movement
           risk := trail.risk
           faceVerified := trail.faceVerified
           stepUpToken := trail.stepUpToken
           row := trail.row
           verifiedAt := trail.clock }] }
  | _, _ => s

/-! ## Calls -/

inductive WalletCall where
  | issueOtp (dto : IssueOtpDto)
  | issueStepUpToken (dto : IssueStepUpTokenDto)
  | verifyStepUpToken (dto : VerifyStepUpTokenDto)
  | cleanupExpiredAndRevokedSessions
  | createTransfer (headers : Headers) (dto : CreateTransferDto)
  | createTopupIntent (headers : Headers) (dto : CreateTopupDto)
  | createWithdrawalRequest (headers : Headers) (dto : CreateWithdrawalDto)

inductive WalletResult where
  | otp (result : Except OtpError IssueOtpResponse)
  | stepUp (result : Except OtpError StepUpResponse)
  | valid (result : Option Bool)
  | cleaned
  | movement (result : Except GatewayError MovementResponse)

section

variable (number : String → Wire.Num) (env : GatewayEnv)

def WalletCall.handler : WalletCall → GatewayHandler WalletResult
  | .issueOtp dto => do
    let result ← atAuth (Auth.issueOtp env.auth dto)
    pure (.otp result)
  | .issueStepUpToken dto => do
    let result ← atAuth (Auth.issueStepUpToken env.auth dto)
    pure (.stepUp result)
  | .verifyStepUpToken dto => do
    let result ← atAuth (Auth.verifyStepUpToken dto)
    pure (.valid result)
  | .cleanupExpiredAndRevokedSessions => do
    let _ ← atAuth Auth.cleanupExpiredAndRevokedSessions
    pure .cleaned
  | .createTransfer headers dto => do
    let result ← ApiGateway.createTransfer number env headers dto
    pure (.movement result)
  | .createTopupIntent headers dto => do
    let result ← ApiGateway.createTopupIntent number env headers dto
    pure (.movement result)
  | .createWithdrawalRequest headers dto => do
    let result ← ApiGateway.createWithdrawalRequest number env headers dto
    pure (.movement result)

def WalletCall.headers : WalletCall → Option Headers
  | .createTransfer headers _ | .createTopupIntent headers _ | .createWithdrawalRequest headers _ =>
    some headers
  | _ => none

def WalletCall.trail (call : WalletCall) : Trail where
  faceVerified := call.headers.bind Headers.faceVerified
  stepUpToken := call.headers.bind Headers.stepUpToken
  risk := none
  row := none
  clock := 0
  factor := none

structure WalletProcess where
  trail : Trail
  code : GatewayHandler WalletResult

def WalletCall.process (call : WalletCall) : WalletProcess := ⟨call.trail, call.handler number env⟩

def wallets : Machine StepUpState WalletProcess GatewayChoice where
  step s
    | ⟨trail, .perform op next⟩, choice =>
      (performGateway op choice s.tables).map fun result =>
        ({ s.record trail op result.1 with tables := result.2 },
          ⟨trail.advance op result.1, next result.1⟩)
    | _, _ => none

end

def sampleGateway : GatewayEnv where
  auth :=
    { otpTtlSeconds := 120
      stepUpEmailOtpTtlSeconds := 180
      stepUpTokenTtlSeconds := 180
      toLowerCase := id
      hmac := id }
  wire amount := .number (some ⌊amount⌋)

/-! ## What is asked of a run -/

def Attempt.StepUp (a : Attempt) : Prop := ∃ risk ∈ a.risk, risk.requiresStepUp = true

/-- A token of the user that is presented and has not expired. -/
structure Attempt.Presents (a : Attempt) (row : AuthStepUpToken) : Prop where
  found : a.row = some row
  user : row.userId = a.movement.userId
  presented : row.token = trim (a.stepUpToken.getD "")
  unexpired : a.verifiedAt < row.expiresAt

def TokenPresented (s : StepUpState) : Prop :=
  ∀ a ∈ s.attempts, a.StepUp → ∃ token ∈ s.issued, a.Presents token.row

def FactorPassed (s : StepUpState) : Prop :=
  ∀ a ∈ s.attempts, a.StepUp → ∀ token ∈ s.issued, a.Presents token.row → token.factor ≠ none

def TokensUsedOnce (s : StepUpState) : Prop :=
  s.attempts.Pairwise fun first second => first.StepUp → second.StepUp →
    ∀ token ∈ s.issued, first.Presents token.row → ¬second.Presents token.row

/-- No two tokens were issued for one code. -/
def CodesUsedOnce (s : StepUpState) : Prop :=
  (s.issued.filterMap fun token => token.factor.map AuthOtp.id).Nodup

/-- A token of the method `otp_email` was issued for a mailed code of its user. -/
def IssuedToken.Earned (env : GatewayEnv) (token : IssuedToken) : Prop :=
  ∀ method ∈ token.row.method, env.auth.toLowerCase method = "otp_email" →
    ∃ code ∈ token.factor, code.userId = token.row.userId ∧ code.purpose = .stepUpEmail

/-- The client says that it has verified the face, or it presents a token. -/
def StepUpDone (env : GatewayEnv) (s : StepUpState) : Prop :=
  ∀ a ∈ s.attempts, a.StepUp → a.faceVerified = some "true" ∨
    ∃ token ∈ s.issued, a.Presents token.row ∧ token.Earned env

variable {I : Type}

/-- A code is saved while its row is stored and unused. -/
def SavesUnused (world : World I StepUpState WalletProcess) (i : I) (_ : GatewayChoice) : Prop :=
  match world.procs i with
  | ⟨_, .perform (.auth (.saveOtp row)) _⟩ =>
    ∃ stored ∈ world.shared.tables.otps, stored.id = row.id ∧ stored.usedAt = none
  | _ => True

/-! ## What a handler does -/

section Handlers

-- What a text is after trimming is nowhere computed here.
attribute [local irreducible] trim

variable (env : GatewayEnv)

def Permitted (trail : Trail) : GatewayOp → Prop
  | .auth (.insertToken row) => IssuedToken.Earned env ⟨row, trail.factor⟩
  | .submit movement =>
    (∃ risk ∈ trail.risk, risk.requiresStepUp = true) → trail.faceVerified = some "true" ∨
      ∃ row, trail.row = some row ∧ row.userId = movement.userId ∧
        row.token = trim (trail.stepUpToken.getD "") ∧ trail.clock < row.expiresAt
  | _ => True

def Heard : (op : GatewayOp) → op.Reply → Prop
  | .auth (.findOtp userId purpose deviceId now), found =>
    ∀ row ∈ found, row.Usable userId purpose deviceId now
  | .auth (.findToken token), found => ∀ row ∈ found, row.token = token
  | _, _ => True

def Trail.Becomes (trail : Trail) (op : GatewayOp) (reply : op.Reply) (after : Trail) : Prop :=
  after = trail.advance op reply ∧ Heard op reply

abbrev TracksTrail {A : Type} (trail : Trail) (post : Trail → A → Prop)
    (procedure : GatewayHandler A) : Prop :=
  procedure.Tracks (Permitted env) Trail.Becomes post trail

/-- The same for a handler of the auth service. -/
abbrev TracksAuth {A : Type} (trail : Trail) (post : Trail → A → Prop)
    (procedure : AuthHandler A) : Prop :=
  procedure.Tracks (fun trail op => Permitted env trail (.auth op))
    (fun trail op reply after => trail.Becomes (.auth op) reply after) post trail

variable {env} {trail : Trail}

theorem TracksAuth.atAuth {A : Type} {post : Trail → A → Prop} {handler : AuthHandler A}
    (tracks : TracksAuth env trail post handler) : TracksTrail env trail post (atAuth handler) :=
  Procedure.Tracks.lift tracks (fun _ _ => id) fun _ _ _ _ => id

theorem storeOtpCode_tracks (userId deviceId : String) (purpose : OtpPurpose) (otpCode : String)
    (expiresIn : Int) :
    TracksAuth env trail (fun _ _ => True)
      (storeOtpCode env.auth userId deviceId purpose otpCode expiresIn) := by
  refine .ask trivial fun deleted after _ => ?_
  cases deleted with
  | false => trivial
  | true => exact .ask trivial fun _ _ _ => .ask trivial fun _ _ _ => trivial

theorem issueOtp_tracks (dto : IssueOtpDto) :
    TracksAuth env trail (fun _ _ => True) (Auth.issueOtp env.auth dto) := by
  refine .ask trivial fun user after _ => ?_
  cases user with
  | none => trivial
  | some email =>
    refine .ask trivial fun otpCode after _ => ?_
    refine .bind (storeOtpCode_tracks _ _ _ _ _) fun stored after _ => ?_
    cases stored <;> trivial

theorem challenge_tracks (userId deviceKey email : String) :
    TracksAuth env trail (fun _ _ => True) (challenge env.auth userId deviceKey email) := by
  refine .ask trivial fun otpCode after _ => ?_
  refine .bind (storeOtpCode_tracks _ _ _ _ _) fun stored after _ => ?_
  cases stored with
  | false => trivial
  | true =>
    refine .ask trivial fun sent after _ => ?_
    cases sent <;> trivial

/-- A code that is accepted is one of the user, and it is held. -/
theorem consumeOtpCode_tracks (userId deviceId : String) (purpose : OtpPurpose) (otpCode : String) :
    TracksAuth env trail
      (fun after valid => valid = some true →
        ∃ code, after.factor = some code ∧ code.userId = userId ∧ code.purpose = purpose)
      (consumeOtpCode env.auth userId deviceId purpose otpCode) := by
  refine .ask trivial fun now after _ => ?_
  refine .ask trivial fun found after moved => ?_
  obtain ⟨rfl, heard⟩ := moved
  cases found with
  | none => exact nofun
  | some row =>
    have usable := heard row rfl
    dsimp only
    split
    · refine .ask trivial fun usedAt after moved => ?_
      refine .ask trivial fun saved after moved => ?_
      obtain rfl := moved.1
      cases saved with
      | false => exact nofun
      | true => exact fun _ => ⟨_, rfl, usable.1, usable.2.1⟩
    · refine .ask trivial fun saved after moved => ?_
      cases saved <;> exact nofun

theorem issueToken_tracks (dto : IssueStepUpTokenDto) {method : String}
    (earned : env.auth.toLowerCase method = "otp_email" →
      ∃ code, trail.factor = some code ∧ code.userId = dto.userId ∧ code.purpose = .stepUpEmail) :
    TracksAuth env trail (fun _ _ => True) (issueToken env.auth dto method) := by
  refine .ask trivial fun stepUpToken after moved => ?_
  obtain rfl := moved.1
  refine .ask trivial fun now after moved => ?_
  obtain rfl := moved.1
  refine .ask ?_ fun saved after _ => ?_
  · intro own same mailed
    obtain rfl := Option.some.inj same
    exact earned mailed
  · cases saved <;> trivial

theorem issueStepUpToken_tracks (dto : IssueStepUpTokenDto) :
    TracksAuth env trail (fun _ _ => True) (Auth.issueStepUpToken env.auth dto) := by
  refine .ask trivial fun user after _ => ?_
  cases user with
  | none => trivial
  | some email =>
    dsimp only
    generalize orElse (trim (dto.method.getD "")) "face" = method
    split
    · split
      · trivial
      · split
        · exact challenge_tracks _ _ _
        · refine .bind (consumeOtpCode_tracks _ _ _ _) fun validOtp after passed => ?_
          match validOtp with
          | none => trivial
          | some false => trivial
          | some true => exact issueToken_tracks dto fun _ => passed rfl
    next other => exact issueToken_tracks dto fun mailed => absurd mailed other

/-- Only what a verification has found may be new. -/
def Verified (trail : Trail) (userId stepUpToken : String) (valid : Prop) (after : Trail) : Prop :=
  ∃ row clock, after = { trail with row := row, clock := clock } ∧
    (valid → ∃ token, row = some token ∧ token.userId = userId ∧ token.token = trim stepUpToken ∧
      clock < token.expiresAt)

theorem verifyStepUpToken_tracks (dto : VerifyStepUpTokenDto) :
    TracksAuth env trail
      (fun after valid => Verified trail dto.userId dto.stepUpToken (valid = some true) after)
      (Auth.verifyStepUpToken dto) := by
  refine .ask trivial fun found after moved => ?_
  obtain ⟨rfl, heard⟩ := moved
  cases found with
  | none => exact ⟨none, trail.clock, rfl, nofun⟩
  | some row =>
    have token := heard row rfl
    refine .ask trivial fun now after moved => ?_
    obtain rfl := moved.1
    dsimp only
    split
    · refine .ask trivial fun deleted after moved => ?_
      obtain rfl := moved.1
      cases deleted <;> exact ⟨some row, now, rfl, nofun⟩
    next unexpired =>
      split
      · exact ⟨some row, now, rfl, nofun⟩
      next user =>
        exact ⟨some row, now, rfl, fun _ =>
          ⟨row, rfl, not_not.mp user, token, not_le.mp unexpired⟩⟩

theorem atGateway_tracks (userId deviceId stepUpToken : String) :
    TracksTrail env trail
      (fun after valid => Verified trail userId stepUpToken (valid = true) after)
      (ApiGateway.verifyStepUpToken userId deviceId stepUpToken) := by
  refine .ask trivial fun connected after moved => ?_
  obtain rfl := moved.1
  cases connected with
  | false => exact ⟨after.row, after.clock, rfl, nofun⟩
  | true =>
    refine .bind (TracksAuth.atAuth (verifyStepUpToken_tracks _)) fun valid after verified => ?_
    refine .ask trivial fun responded after' moved => ?_
    obtain rfl := moved.1
    obtain ⟨row, clock, rfl, passed⟩ := verified
    refine ⟨row, clock, rfl, fun accepted => passed ?_⟩
    simp only [Bool.and_eq_true, beq_iff_eq] at accepted
    exact accepted.2

theorem requireStepUpIfNeeded_tracks (headers : Headers) (deviceId : String) (risk : Risk) :
    TracksTrail env trail
      (fun after allowed => ∃ row clock, after = { trail with row := row, clock := clock } ∧
        (allowed = .ok () → risk.requiresStepUp = true → headers.faceVerified = some "true" ∨
          ∃ token, row = some token ∧ token.userId = headers.userId ∧
            token.token = trim (headers.stepUpToken.getD "") ∧ clock < token.expiresAt))
      (requireStepUpIfNeeded headers deviceId risk) := by
  unfold requireStepUpIfNeeded
  have trimmed := trim_trim (headers.stepUpToken.getD "")
  generalize trim (headers.stepUpToken.getD "") = stepUpToken at trimmed
  split
  · dsimp only
    split
    · exact ⟨trail.row, trail.clock, rfl, nofun⟩
    · refine .bind (atGateway_tracks _ _ _) fun valid after verified => ?_
      obtain ⟨row, clock, rfl, passed⟩ := verified
      cases valid with
      | false => exact ⟨row, clock, rfl, nofun⟩
      | true =>
        obtain ⟨token, found, user, same, unexpired⟩ := passed rfl
        exact ⟨row, clock, rfl, fun _ _ => .inr ⟨token, found, user, same.trans trimmed, unexpired⟩⟩
  next unneeded =>
    refine ⟨trail.row, trail.clock, rfl, fun _ required => .inl ?_⟩
    simpa [required] using unneeded

theorem keyOrUuid_tracks (idempotencyKey : Option String) :
    TracksTrail env trail (fun after _ => after = trail) (keyOrUuid idempotencyKey) := by
  unfold keyOrUuid
  dsimp only
  split
  · exact .ask trivial fun _ _ moved => moved.1
  · exact rfl

variable {number : String → Wire.Num}

theorem stepUpAndSubmit_tracks {headers : Headers} (deviceId : String) {risk : Risk}
    (toUserId idempotencyKey : Option String) {movement : String → Movement}
    (face : trail.faceVerified = headers.faceVerified)
    (presented : trail.stepUpToken = headers.stepUpToken)
    (assessed : ∀ response ∈ trail.risk, response.requiresStepUp = risk.requiresStepUp)
    (user : ∀ key, (movement key).userId = headers.userId) :
    TracksTrail env trail (fun _ _ => True)
      (stepUpAndSubmit number headers deviceId risk toUserId idempotencyKey movement) := by
  refine .bind (requireStepUpIfNeeded_tracks headers deviceId risk) fun allowed after checked => ?_
  obtain ⟨row, clock, rfl, passed⟩ := checked
  match allowed with
  | .error err => trivial
  | .ok () =>
    refine .bind (keyOrUuid_tracks idempotencyKey) fun key after same => ?_
    subst same
    refine .ask ?_ fun _ _ _ => trivial
    rintro ⟨response, heard, required⟩
    rw [user key]
    dsimp only
    rw [face, presented]
    exact passed rfl ((assessed response heard).symm.trans required)

theorem assessTransferRisk_tracks (request : RiskRequest) :
    TracksTrail env trail
      (fun after risk => ∃ response, after = { trail with risk := response } ∧
        ∀ own ∈ risk, ∀ heard ∈ response, heard.requiresStepUp = own.requiresStepUp)
      (assessTransferRisk request) := by
  refine .ask trivial fun response after moved => ?_
  obtain rfl := moved.1
  refine ⟨response, rfl, ?_⟩
  rintro own same heard rfl
  obtain rfl := Option.some.inj same
  rfl

theorem createTransfer_tracks {headers : Headers} (dto : CreateTransferDto)
    (face : trail.faceVerified = headers.faceVerified)
    (presented : trail.stepUpToken = headers.stepUpToken) :
    TracksTrail env trail (fun _ _ => True) (createTransfer number env headers dto) := by
  unfold createTransfer
  dsimp only
  generalize orElse (trim (dto.toUserId.getD "")) (trim (dto.recipient.getD "")) = toUserId
  split
  · trivial
  · refine .bind (assessTransferRisk_tracks _) fun risk after assessed => ?_
    obtain ⟨response, rfl, same⟩ := assessed
    cases risk with
    | none => trivial
    | some risk =>
      exact stepUpAndSubmit_tracks _ _ _ face presented (fun heard known => same risk rfl heard known)
        fun _ => rfl

theorem resolveFundingSourceRiskTarget_tracks (userId fundingSourceId : String) :
    TracksTrail env trail (fun after _ => after = trail)
      (resolveFundingSourceRiskTarget userId fundingSourceId) := by
  refine .ask trivial fun items after moved => ?_
  obtain rfl := moved.1
  cases items with
  | none => rfl
  | some items =>
    dsimp only
    split <;> rfl

theorem moveFunds_tracks {headers : Headers} (dto : CreateTopupDto) {movement : String → Movement}
    (face : trail.faceVerified = headers.faceVerified)
    (presented : trail.stepUpToken = headers.stepUpToken)
    (user : ∀ key, (movement key).userId = headers.userId) :
    TracksTrail env trail (fun _ _ => True) (moveFunds number headers dto movement) := by
  unfold moveFunds
  generalize trim dto.fundingSourceId = fundingSourceId
  generalize trim dto.currency = currency
  dsimp only
  split
  · trivial
  · split
    · trivial
    · refine .bind (resolveFundingSourceRiskTarget_tracks _ _) fun provider after same => ?_
      subst same
      match provider with
      | .error err => trivial
      | .ok provider =>
        refine .bind (assessTransferRisk_tracks _) fun risk after assessed => ?_
        obtain ⟨response, rfl, same⟩ := assessed
        cases risk with
        | none => trivial
        | some risk =>
          exact stepUpAndSubmit_tracks _ _ _ face presented
            (fun heard known => same risk rfl heard known) user

theorem createTopupIntent_tracks {headers : Headers} (dto : CreateTopupDto)
    (face : trail.faceVerified = headers.faceVerified)
    (presented : trail.stepUpToken = headers.stepUpToken) :
    TracksTrail env trail (fun _ _ => True) (createTopupIntent number env headers dto) := by
  unfold createTopupIntent
  exact moveFunds_tracks dto face presented fun _ => rfl

theorem createWithdrawalRequest_tracks {headers : Headers} (dto : CreateWithdrawalDto)
    (face : trail.faceVerified = headers.faceVerified)
    (presented : trail.stepUpToken = headers.stepUpToken) :
    TracksTrail env trail (fun _ _ => True) (createWithdrawalRequest number env headers dto) := by
  unfold createWithdrawalRequest
  exact moveFunds_tracks dto.toCreateTopupDto face presented fun _ => rfl

theorem cleanup_tracks :
    TracksAuth env trail (fun _ _ => True) cleanupExpiredAndRevokedSessions := by
  refine .ask trivial fun now after _ => ?_
  refine .ask trivial fun expiredOtp after _ => ?_
  cases expiredOtp with
  | false => trivial
  | true =>
    refine .ask trivial fun usedOtp after _ => ?_
    cases usedOtp with
    | false => trivial
    | true => exact .ask trivial fun _ _ _ => trivial

theorem TracksTrail.result {A B : Type} {post : Trail → A → Prop} {handler : GatewayHandler A}
    {f : A → B} (tracks : TracksTrail env trail post handler) :
    TracksTrail env trail (fun _ _ => True) (handler >>= fun result => pure (f result)) :=
  tracks.bind fun _ _ _ => trivial

theorem WalletCall.tracks (call : WalletCall) :
    TracksTrail env call.trail (fun _ _ => True) (call.handler number env) := by
  cases call with
  | issueOtp dto =>
    rw [WalletCall.handler]
    apply TracksTrail.result
    exact TracksAuth.atAuth (issueOtp_tracks dto)
  | issueStepUpToken dto =>
    rw [WalletCall.handler]
    apply TracksTrail.result
    exact TracksAuth.atAuth (issueStepUpToken_tracks dto)
  | verifyStepUpToken dto =>
    rw [WalletCall.handler]
    apply TracksTrail.result
    exact TracksAuth.atAuth (verifyStepUpToken_tracks dto)
  | cleanupExpiredAndRevokedSessions =>
    rw [WalletCall.handler]
    apply TracksTrail.result
    exact TracksAuth.atAuth cleanup_tracks
  | createTransfer headers dto =>
    rw [WalletCall.handler]
    apply TracksTrail.result
    apply createTransfer_tracks <;> rfl
  | createTopupIntent headers dto =>
    rw [WalletCall.handler]
    apply TracksTrail.result
    apply createTopupIntent_tracks <;> rfl
  | createWithdrawalRequest headers dto =>
    rw [WalletCall.handler]
    apply TracksTrail.result
    apply createWithdrawalRequest_tracks <;> rfl

end Handlers

end Kufi.ApiGateway

import Kufi.NodeManager.ApprovalFlow
import Kufi.NodeManager.Node

set_option autoImplicit false

/-!
# Consent to channel updates

The signing service signs what it is sent, and the approval flow puts what a
peer returns in the place of its own envelope. The run of a node is recorded
here with the requests its org has approved and the update each flow has built.
-/

namespace Kufi.NodeManager

open Shared

def Bytes.update : Bytes → Option String
  | .envelope content => some content.update
  | .other _ => none

/-- A config update with the org definition it was built for. -/
structure Update where
  orgDefinition : String
  update : String

/-- A call, and the update that its approval flow has built and not yet submitted. -/
structure Flow where
  call : Call
  built : Option Update

structure Submission where
  call : Call
  built : Option Update
  bytes : Bytes

/-- A node with the ids of the requests its org has approved by `CastVote` and the envelopes
submitted. -/
structure Recorded where
  node : Node
  approved : List String
  submissions : List Submission

inductive ConsentProcess where
  | idle
  | running (flow : Flow) (code : Handler Result)

inductive ConsentMove where
  | start (call : Call)
  | next (choice : Choice)

namespace Flow

variable (flow : Flow)

def advance : Op → Choice → Flow
  | .addOrgToChannel orgDefinition, .builds (some update) =>
    { flow with built := some ⟨orgDefinition, update⟩ }
  | .signConfigUpdate _ .configUpdateEnvelope, .signs none => { flow with built := none }
  | .submitConfigUpdate, _ => { flow with built := none }
  | _, _ => flow

/-- A vote of `CastVote` is cast once the request is saved with it. -/
def approves : (op : Op) → op.Reply → List String
  | .saveJoinRequest _, true =>
    match flow.call with
    | .castVote requestID true => [requestID]
    | _ => []
  | _, _ => []

def submits (node : Node) : Op → List Submission
  | .submitConfigUpdate => [⟨flow.call, flow.built, node.work .configUpdateEnvelope⟩]
  | _ => []

end Flow

def consenting (config : NodeConfig) : Machine Recorded ConsentProcess ConsentMove where
  step s
    | .idle, .start call =>
      (s.node.start call).map fun node =>
        ({ s with node := node }, .running ⟨call, none⟩ (call.handler config))
    | .running flow (.perform op next), .next choice =>
      (perform op choice s.node).map fun result =>
        ({ node := result.2
           approved := s.approved ++ flow.approves op result.1
           submissions := s.submissions ++ flow.submits s.node op },
          .running (flow.advance op choice) (next result.1))
    | _, _ => none

/-- The update built for the request of the flow, with any signatures. -/
def Submission.AsBuilt (submission : Submission) : Prop :=
  ∃ req envelope, submission.call = .executeApproval req ∧
    submission.bytes = .envelope envelope ∧
    submission.built = some ⟨req.orgDefinition, envelope.update⟩

def SignedWithConsent (s : Recorded) : Prop :=
  ∀ req response, (req, response) ∈ s.node.responses → response.error = "" →
    req.requestID ∈ s.approved

def SubmittedAsBuilt (s : Recorded) : Prop :=
  ∀ submission ∈ s.submissions, submission.AsBuilt

structure Consent (s : Recorded) : Prop where
  signed : SignedWithConsent s
  submitted : SubmittedAsBuilt s

variable {I : Type}

def ConsentProcess.built : ConsentProcess → Option Update
  | .idle => none
  | .running flow _ => flow.built

/-- What the environment is trusted with: a node is asked to sign only for requests it has
approved, one flow at a time has an update under way, the peers return the update they are sent
and the disk keeps what is written. -/
def Trusted (world : World I Recorded ConsentProcess) (i : I) (move : ConsentMove) : Prop :=
  match world.procs i, move with
  | _, .start (.handleSignConfigUpdate req) =>
    req.envelopePB.valid = true → req.requestID ∈ world.shared.approved
  | .running _ (.perform (.addOrgToChannel _) _), _ =>
    ∀ j, j ≠ i → (world.procs j).built = none
  | .running _ (.perform (.post _ request) _), .next (.answers (some response)) =>
    response.error = "" → response.envelopePB.bytes.update = request.envelopePB.bytes.update
  | .running _ (.perform (.writeFile .configUpdateEnvelope _) _), .next choice =>
    choice ≠ .write .torn
  | _, _ => True

/-! ## What a handler does with envelopes -/

namespace Flow

/-- The flow is under way with this update. -/
def Carries (flow : Flow) (bytes : Bytes) : Prop :=
  ∃ built, flow.built = some built ∧ bytes.update = some built.update

def Permitted (flow : Flow) : Op → Prop
  | .addOrgToChannel orgDefinition =>
    flow.built = none ∧ ∃ req, flow.call = .executeApproval req ∧ orgDefinition = req.orgDefinition
  | .submitConfigUpdate => ∃ built, flow.built = some built
  | .writeFile .configUpdateEnvelope bytes => flow.Carries bytes
  | .post _ request => flow.Carries request.envelopePB.bytes
  | .respond req response =>
    flow.call = .handleSignConfigUpdate req ∧ (response.error = "" → req.envelopePB.valid = true)
  | _ => True

def Becomes (flow : Flow) (op : Op) (reply : op.Reply) (after : Flow) : Prop :=
  match op, reply with
  | .addOrgToChannel orgDefinition, true =>
    ∃ update, after = { flow with built := some ⟨orgDefinition, update⟩ }
  | .signConfigUpdate _ .configUpdateEnvelope, false => after = { flow with built := none }
  | .submitConfigUpdate, _ => after = { flow with built := none }
  | .readFile .configUpdateEnvelope, bytes =>
    after = flow ∧ ∀ built, flow.built = some built → bytes.update = some built.update
  | .post _ request, some response =>
    after = flow ∧ (response.error = "" →
      response.envelopePB.bytes.update = request.envelopePB.bytes.update)
  | _, _ => after = flow

end Flow

abbrev TracksFlow {A : Type} (post : Flow → A → Prop) (flow : Flow) (procedure : Handler A) : Prop :=
  procedure.Tracks Flow.Permitted Flow.Becomes post flow

/-- The operation has nothing to do with envelopes. -/
def Op.Plain : Op → Prop
  | .addOrgToChannel _ | .submitConfigUpdate | .signConfigUpdate _ _ | .readFile _
  | .writeFile _ _ | .post _ _ | .respond _ _ => False
  | _ => True

abbrev Plainly {A : Type} (procedure : Handler A) : Prop :=
  procedure.Asks Op.Plain (fun _ _ => True) fun _ => True

theorem Plainly.tracks {A : Type} {procedure : Handler A} (plain : Plainly procedure)
    (flow : Flow) : TracksFlow (fun after _ => after = flow) flow procedure := by
  have traced : TracksFlow (fun after _ => after = flow ∧ True) flow procedure := by
    refine Procedure.Asks.tracks plain fun op plain => ?_
    cases op <;> first
      | exact plain.elim
      | exact ⟨trivial, fun _ _ moved => ⟨moved, trivial⟩⟩
  simpa only [and_true] using traced

section Handlers

variable (config : NodeConfig)

theorem checkMajority_plain (r : JoinRequest) : Plainly (checkMajority config r) := by
  unfold checkMajority
  split
  · trivial
  · split
    · trivial
    · refine .ask trivial fun now _ => .ask trivial fun _ _ => .ask trivial fun _ _ => ?_
      split
      · exact ⟨trivial, fun _ _ => trivial⟩
      · trivial

theorem submitJoinRequest_plain (generatedID : String) (now : Time) (req : JoinRequest) :
    Plainly (submitJoinRequest generatedID now req) := by
  refine .ask trivial fun peers _ => .ask trivial fun saved _ => ?_
  cases saved with
  | false => trivial
  | true => exact .ask trivial fun _ _ => trivial

theorem receiveGossipedRequest_plain (req : JoinRequest) :
    Plainly (receiveGossipedRequest config req) := by
  refine .ask trivial fun existing _ => ?_
  cases existing with
  | none =>
    refine .ask trivial fun saved _ => ?_
    cases saved <;> trivial
  | some existing =>
    dsimp only
    split
    · exact .ask trivial fun _ _ => .bind (checkMajority_plain config _) fun _ _ => trivial
    · trivial

theorem castVote_plain (requestID : String) (approve : Bool) :
    Plainly (castVote config requestID approve) := by
  refine .ask trivial fun found _ => ?_
  cases found with
  | none => trivial
  | some req =>
    dsimp only
    split
    · trivial
    · split
      · trivial
      · refine .ask trivial fun now _ => .ask trivial fun saved _ => ?_
        cases saved with
        | false => trivial
        | true =>
          exact .ask trivial fun _ _ => .bind (checkMajority_plain config _) fun _ _ => trivial

theorem receiveGossipedVote_plain (requestID : String) (vote : Vote) :
    Plainly (receiveGossipedVote config requestID vote) := by
  refine .ask trivial fun found _ => ?_
  cases found with
  | none => trivial
  | some req =>
    dsimp only
    split
    · trivial
    · exact .ask trivial fun _ _ => .bind (checkMajority_plain config _) fun _ _ => trivial

theorem failApproval_plain (req : JoinRequest) : Plainly (failApproval req) :=
  .ask trivial fun _ _ => .ask trivial fun _ _ => ⟨trivial, fun _ _ => trivial⟩

theorem registerPeer_plain (req : JoinRequest) : Plainly (registerPeer req) :=
  .ask trivial fun _ _ => .ask trivial fun _ _ => .ask trivial fun _ _ => ⟨trivial, fun _ _ => trivial⟩

variable {flow : Flow}

theorem requestSignature_tracks (mgmtAddr : String) {request : SignRequest}
    (carried : flow.Carries request.envelopePB.bytes) :
    TracksFlow (fun after response => after = flow ∧
      ∀ signed, response = some signed → flow.Carries signed.envelopePB.bytes) flow
      (requestSignature mgmtAddr request) := by
  refine .ask carried fun response after moved => ?_
  cases response with
  | none => exact ⟨moved, nofun⟩
  | some response =>
    obtain ⟨rfl, honest⟩ := moved
    dsimp only
    split_ifs with erred
    · exact ⟨rfl, nofun⟩
    · refine ⟨rfl, fun signed same => ?_⟩
      obtain rfl := Option.some.inj same
      obtain ⟨built, under, update⟩ := carried
      exact ⟨built, under, (honest (not_not.mp erred)).trans update⟩

theorem askPeers_tracks (requestID voterMSP : String) {envelopeB64 : Base64}
    (peers : List PeerInfo) (carried : flow.Carries envelopeB64.bytes) :
    TracksFlow (fun after signed => after = flow ∧ flow.Carries signed.bytes) flow
      (askPeers requestID voterMSP envelopeB64 peers) := by
  induction peers with
  | nil => exact ⟨rfl, carried⟩
  | cons p peers ih =>
    unfold askPeers
    split
    · refine .bind (requestSignature_tracks p.mgmtAddr carried) ?_
      rintro response _ ⟨rfl, signed⟩
      cases response with
      | none => exact ih
      | some response =>
        refine .ask (signed response rfl) fun written after moved => ?_
        exact ⟨moved, signed response rfl⟩
    · exact ih

theorem collectSignatures_tracks (requestID : String) (peers : List PeerInfo)
    {envelopeB64 : Base64} (votes : List Vote) (carried : flow.Carries envelopeB64.bytes) :
    TracksFlow (fun after _ => after = flow) flow
      (collectSignatures config requestID peers envelopeB64 votes) := by
  induction votes generalizing envelopeB64 with
  | nil => rfl
  | cons vote votes ih =>
    unfold collectSignatures
    split
    · exact ih carried
    · refine .bind (askPeers_tracks requestID vote.voterMSP peers carried) ?_
      rintro signed _ ⟨rfl, carried⟩
      exact ih carried

theorem submitUpdate_tracks {req : JoinRequest} (call : flow.call = .executeApproval req)
    (fresh : flow.built = none) :
    TracksFlow (fun _ _ => True) flow (submitUpdate config req) := by
  refine .ask ⟨fresh, req, call, rfl⟩ fun built after moved => ?_
  cases built with
  | false => trivial
  | true =>
    obtain ⟨update, rfl⟩ := moved
    refine .ask trivial fun signed after moved => ?_
    cases signed with
    | false => trivial
    | true =>
      obtain rfl : after = _ := moved
      refine .ask trivial fun envelopeData after read => ?_
      obtain ⟨rfl, under⟩ := read
      refine .ask trivial fun peers after moved => ?_
      obtain rfl : after = _ := moved
      refine .bind (collectSignatures_tracks config req.id peers req.votes
        ⟨_, rfl, under _ rfl⟩) ?_
      rintro _ _ rfl
      exact ⟨⟨_, rfl⟩, fun _ _ _ => trivial⟩

theorem updateChannel_tracks {req : JoinRequest} (call : flow.call = .executeApproval req)
    (fresh : flow.built = none) :
    TracksFlow (fun _ _ => True) flow (updateChannel config req) := by
  unfold updateChannel
  split
  · exact submitUpdate_tracks config call fresh
  · refine .ask trivial fun unpacked after moved => ?_
    obtain rfl : after = flow := moved
    cases unpacked with
    | false => trivial
    | true => exact submitUpdate_tracks config call fresh

theorem executeApproval_tracksFlow {req : JoinRequest} (call : flow.call = .executeApproval req)
    (fresh : flow.built = none) :
    TracksFlow (fun _ _ => True) flow (executeApproval config req) := by
  refine .bind (updateChannel_tracks config call fresh) fun updated after _ => ?_
  have plain : Plainly (if updated then registerPeer req else failApproval req) := by
    cases updated with
    | false => exact failApproval_plain req
    | true => exact registerPeer_plain req
  exact (plain.tracks after).mono fun _ _ _ => trivial

/-- An envelope comes back signed only if it could be decoded, else there is an error text. -/
def Answers (envelopeB64 : Base64) : Except String Base64 → Prop
  | .ok _ => envelopeB64.valid = true
  | .error err => err ≠ ""

theorem signEnvelopeBytes_tracks (envelopeB64 : Base64) :
    TracksFlow (fun after signed => after = flow ∧ Answers envelopeB64 signed) flow
      (signEnvelopeBytes config envelopeB64) := by
  unfold signEnvelopeBytes
  split
  next valid =>
    refine .ask trivial fun written after moved => ?_
    obtain rfl : after = _ := moved
    cases written with
    | false => exact ⟨rfl, by simp [Answers]⟩
    | true =>
      refine .ask trivial fun signed after moved => ?_
      obtain rfl : after = _ := moved
      cases signed with
      | false => exact ⟨rfl, by simp [Answers]⟩
      | true => exact .ask trivial fun bytes after moved => ⟨moved, valid⟩
  · exact ⟨rfl, by simp [Answers]⟩

theorem handleSignConfigUpdate_tracks {req : SignRequest}
    (call : flow.call = .handleSignConfigUpdate req) :
    TracksFlow (fun _ _ => True) flow (handleSignConfigUpdate config req) := by
  refine .bind (signEnvelopeBytes_tracks config req.envelopePB) ?_
  rintro signed _ ⟨rfl, answers⟩
  cases signed with
  | ok signed => exact ⟨⟨call, fun _ => answers⟩, fun _ _ _ => trivial⟩
  | error err => exact ⟨⟨call, fun none => absurd none answers⟩, fun _ _ _ => trivial⟩

theorem handler_tracksFlow (call : Call) :
    TracksFlow (fun _ _ => True) ⟨call, none⟩ (call.handler config) := by
  have plainly {A : Type} {procedure : Handler A} {rest : A → Handler Result}
      (plain : Plainly procedure) (ends : ∀ value, ∃ result, rest value = .done result) :
      TracksFlow (fun _ _ => True) ⟨call, none⟩ (procedure >>= rest) := by
    refine .bind (plain.tracks _) fun value after _ => ?_
    obtain ⟨result, done⟩ := ends value
    rw [done]
    trivial
  cases call with
  | submitJoinRequest generatedID now req =>
    refine plainly (submitJoinRequest_plain generatedID now req) fun result => ?_
    cases result <;> exact ⟨_, rfl⟩
  | receiveGossipedRequest req =>
    exact plainly (receiveGossipedRequest_plain config req) fun _ => ⟨_, rfl⟩
  | castVote requestID approve =>
    exact plainly (castVote_plain config requestID approve) fun _ => ⟨_, rfl⟩
  | receiveGossipedVote requestID vote =>
    exact plainly (receiveGossipedVote_plain config requestID vote) fun _ => ⟨_, rfl⟩
  | handlePeerJoined peer => exact ⟨trivial, fun _ _ _ => trivial⟩
  | handleSignConfigUpdate req =>
    exact .bind (handleSignConfigUpdate_tracks config rfl) fun _ _ _ => trivial
  | executeApproval req =>
    exact .bind (executeApproval_tracksFlow config rfl rfl) fun _ _ _ => trivial

end Handlers

/-! ## What an operation does to the envelope -/

section Operations

variable {node after : Node} {op : Op} {choice : Choice} {reply : op.Reply}

/-- The update in the envelope file changes only where one is built or the file is written. -/
theorem perform_update (performed : perform op choice node = some (reply, after)) :
    (after.work .configUpdateEnvelope).update = (node.work .configUpdateEnvelope).update ∨
      (∃ orgDefinition update, op = .addOrgToChannel orgDefinition ∧ choice = .builds (some update) ∧
        (after.work .configUpdateEnvelope).update = some update) ∨
      ∃ bytes outcome, op = .writeFile .configUpdateEnvelope bytes ∧ choice = .write outcome ∧
        (outcome = .written → (after.work .configUpdateEnvelope).update = bytes.update) ∧
        (outcome = .failed → after = node) := by
  have other (bytes : Bytes) :
      (node.write .signTmp bytes).work .configUpdateEnvelope = node.work .configUpdateEnvelope := by
    simp [Node.write]
  have own (bytes : Bytes) :
      (node.write .configUpdateEnvelope bytes).work .configUpdateEnvelope = bytes := by
    simp [Node.write]
  cases op with
  | addOrgToChannel orgDefinition =>
    cases choice with
    | builds update =>
      cases update with
      | none => cases performed; exact .inl rfl
      | some update =>
        cases performed
        exact .inr (.inl ⟨orgDefinition, update, rfl, rfl, by rw [own]; rfl⟩)
    | _ => cases performed
  | signConfigUpdate mspID file =>
    refine .inl ?_
    cases choice with
    | signs signature =>
      cases signature with
      | none => cases performed; rfl
      | some signature =>
        simp only [perform] at performed
        split at performed
        next envelope stored =>
          cases performed
          cases file with
          | configUpdateEnvelope => rw [own, stored]; rfl
          | signTmp => rw [other]
        next => cases performed
    | _ => cases performed
  | writeFile file bytes =>
    cases choice with
    | write outcome =>
      cases file with
      | configUpdateEnvelope =>
        refine .inr (.inr ⟨bytes, outcome, rfl, rfl, ?_, ?_⟩)
        · rintro rfl
          cases performed
          rw [own]
        · rintro rfl
          cases performed
          rfl
      | signTmp =>
        refine .inl ?_
        cases outcome <;> cases performed <;> rfl
    | _ => cases performed
  | _ =>
    cases choice <;> cases performed
    exact .inl rfl

theorem perform_responses (performed : perform op choice node = some (reply, after)) :
    after.responses = node.responses ∨ ∃ req response, op = .respond req response ∧
      after.responses = node.responses ++ [(req, response)] := by
  cases op with
  | respond req response =>
    cases choice <;> cases performed
    exact .inr ⟨req, response, rfl, rfl⟩
  | addOrgToChannel =>
    cases choice with
    | builds update => cases update <;> cases performed <;> exact .inl rfl
    | _ => cases performed
  | signConfigUpdate mspID file =>
    cases choice with
    | signs signature =>
      cases signature with
      | none => cases performed; exact .inl rfl
      | some signature =>
        simp only [perform] at performed
        split at performed <;> cases performed
        exact .inl rfl
    | _ => cases performed
  | writeFile =>
    cases choice with
    | write outcome => cases outcome <;> cases performed <;> exact .inl rfl
    | _ => cases performed
  | _ =>
    cases choice <;> cases performed
    exact .inl rfl

end Operations

/-! ## The invariant of a run -/

def ConsentProcess.Sound (approved : List String) : ConsentProcess → Prop
  | .idle => True
  | .running flow code =>
    (∀ built, flow.built = some built →
      ∃ req, flow.call = .executeApproval req ∧ built.orgDefinition = req.orgDefinition) ∧
    (∀ req, flow.call = .handleSignConfigUpdate req → req.envelopePB.valid = true →
      req.requestID ∈ approved) ∧
    TracksFlow (fun _ _ => True) flow code

structure Consenting (world : World I Recorded ConsentProcess) : Prop where
  consent : Consent world.shared
  file : ∀ i built, (world.procs i).built = some built →
    (world.shared.node.work .configUpdateEnvelope).update = some built.update
  single : ∀ i j built built', (world.procs i).built = some built →
    (world.procs j).built = some built' → i = j
  sound : ∀ i, (world.procs i).Sound world.shared.approved

theorem Flow.call_advance (flow : Flow) (op : Op) (choice : Choice) :
    (flow.advance op choice).call = flow.call := by
  unfold advance
  split <;> rfl

theorem Flow.built_advance {flow : Flow} {op : Op} {choice : Choice} {built : Update}
    (later : (flow.advance op choice).built = some built) :
    flow.built = some built ∨ op = .addOrgToChannel built.orgDefinition ∧
      choice = .builds (some built.update) := by
  unfold advance at later
  split at later
  · obtain rfl := Option.some.inj later
    exact .inr ⟨rfl, rfl⟩
  · cases later
  · cases later
  · exact .inl later

theorem Flow.becomes_advance {flow : Flow} {op : Op} {choice : Choice} {reply : op.Reply}
    {node after : Node} (performed : perform op choice node = some (reply, after))
    (file : ∀ built, flow.built = some built →
      (node.work .configUpdateEnvelope).update = some built.update)
    (honest : ∀ mgmtAddr request response, op = .post mgmtAddr request →
      choice = .answers (some response) → response.error = "" →
        response.envelopePB.bytes.update = request.envelopePB.bytes.update) :
    flow.Becomes op reply (flow.advance op choice) := by
  cases op with
  | addOrgToChannel orgDefinition =>
    cases choice with
    | builds update =>
      cases update with
      | none => cases performed; rfl
      | some update => cases performed; exact ⟨update, rfl⟩
    | _ => cases performed
  | signConfigUpdate mspID bytesFile =>
    cases choice with
    | signs signature =>
      cases signature with
      | none => cases performed; cases bytesFile <;> rfl
      | some signature =>
        simp only [perform] at performed
        split at performed <;> cases performed
        cases bytesFile <;> rfl
    | _ => cases performed
  | readFile bytesFile =>
    cases choice <;> cases performed
    cases bytesFile with
    | configUpdateEnvelope => exact ⟨rfl, file⟩
    | signTmp => rfl
  | post mgmtAddr request =>
    cases choice with
    | answers response =>
      cases performed
      cases reply with
      | none => rfl
      | some response => exact ⟨rfl, honest mgmtAddr request response rfl rfl⟩
    | _ => cases performed
  | writeFile bytesFile bytes =>
    cases choice with
    | write outcome => cases outcome <;> cases performed <;> rfl
    | _ => cases performed
  | _ =>
    cases choice <;> cases performed
    rfl

section Step

variable {world : World I Recorded ConsentProcess} {i : I} {config : NodeConfig}

theorem ConsentProcess.Sound.mono {approved approved' : List String} {process : ConsentProcess}
    (sound : process.Sound approved) (grown : ∀ id ∈ approved, id ∈ approved') :
    process.Sound approved' := by
  cases process with
  | idle => trivial
  | running flow code =>
    exact ⟨sound.1, fun req call valid => grown _ (sound.2.1 req call valid), sound.2.2⟩

/-- What the flow has under way after an operation, the file holds, and nobody else has one. -/
theorem Consenting.under {flow : Flow} {op : Op} {rest : op.Reply → Handler Result}
    {choice : Choice} {reply : op.Reply} {node : Node} (consenting : Consenting world)
    (running : world.procs i = .running flow (.perform op rest)) (permitted : flow.Permitted op)
    (trusted : Trusted world i (.next choice))
    (performed : perform op choice world.shared.node = some (reply, node)) :
    (∀ j built, j ≠ i → (world.procs j).built = some built →
      (node.work .configUpdateEnvelope).update = some built.update) ∧
    ∀ built, (flow.advance op choice).built = some built →
      (node.work .configUpdateEnvelope).update = some built.update ∧
        ∀ j, j ≠ i → (world.procs j).built = none := by
  have own : (world.procs i).built = flow.built := by rw [running]; rfl
  have alone (built : Update) (under : flow.built = some built) (j : I) (apart : j ≠ i) :
      (world.procs j).built = none := by
    cases other : (world.procs j).built with
    | none => rfl
    | some built' => exact absurd (consenting.single j i built' built other (own.trans under)) apart
  unfold Trusted at trusted
  rw [running] at trusted
  rcases perform_update performed with
    same | ⟨orgDefinition, update, rfl, rfl, holds⟩ | ⟨bytes, outcome, rfl, rfl, written, failed⟩
  · refine ⟨fun j built _ under => same.trans (consenting.file j built under), ?_⟩
    intro built later
    rcases Flow.built_advance later with under | ⟨rfl, rfl⟩
    · exact ⟨same.trans (consenting.file i built (own.trans under)), alone built under⟩
    · cases performed
      refine ⟨?_, trusted⟩
      simp [Node.write, Bytes.update]
  · refine ⟨fun j built apart under => ?_, fun built later => ?_⟩
    · rw [trusted j apart] at under
      cases under
    · obtain rfl : (⟨orgDefinition, update⟩ : Update) = built := Option.some.inj later
      exact ⟨holds, trusted⟩
  · obtain ⟨built, under, carried⟩ := permitted
    have kept : (node.work .configUpdateEnvelope).update = some built.update := by
      cases outcome with
      | written => exact (written rfl).trans carried
      | failed => rw [failed rfl]; exact consenting.file i built (own.trans under)
      | torn => exact absurd rfl trusted
    refine ⟨fun j other apart holds => ?_, fun later advanced => ?_⟩
    · rw [alone built under j apart] at holds
      cases holds
    · obtain rfl : built = later := Option.some.inj (under.symm.trans advanced)
      exact ⟨kept, alone built under⟩

theorem Consenting.consent_perform {flow : Flow} {op : Op} {rest : op.Reply → Handler Result}
    {choice : Choice} {reply : op.Reply} {node : Node} (consenting : Consenting world)
    (running : world.procs i = .running flow (.perform op rest)) (permitted : flow.Permitted op)
    (performed : perform op choice world.shared.node = some (reply, node)) :
    Consent
      { node := node
        approved := world.shared.approved ++ flow.approves op reply
        submissions := world.shared.submissions ++ flow.submits world.shared.node op } where
  signed := by
    intro req response member unerred
    refine List.mem_append_left _ ?_
    rcases perform_responses performed with same | ⟨req', response', rfl, same⟩
    · exact consenting.consent.signed req response (same ▸ member) unerred
    · rcases List.mem_append.mp (same ▸ member) with old | new
      · exact consenting.consent.signed req response old unerred
      · cases List.mem_singleton.mp new
        obtain ⟨call, valid⟩ := permitted
        have sound := consenting.sound i
        rw [running] at sound
        exact sound.2.1 req call (valid unerred)
  submitted := by
    intro submission member
    rcases List.mem_append.mp member with old | new
    · exact consenting.consent.submitted submission old
    · cases op with
      | submitConfigUpdate =>
        obtain rfl := List.mem_singleton.mp new
        obtain ⟨built, under⟩ := permitted
        have sound := consenting.sound i
        rw [running] at sound
        obtain ⟨req, call, named⟩ := sound.1 built under
        have file := consenting.file i built (by rw [running]; exact under)
        cases stored : world.shared.node.work .configUpdateEnvelope with
        | envelope content =>
          rw [stored] at file
          obtain same : content.update = built.update := Option.some.inj file
          refine ⟨req, content, call, rfl, under.trans ?_⟩
          rw [same, ← named]
        | other text =>
          rw [stored] at file
          cases file
      | _ => cases new

theorem Consenting.sound_perform {flow : Flow} {op : Op} {rest : op.Reply → Handler Result}
    {choice : Choice} {reply : op.Reply} {node : Node} (consenting : Consenting world)
    (running : world.procs i = .running flow (.perform op rest))
    (trusted : Trusted world i (.next choice))
    (performed : perform op choice world.shared.node = some (reply, node)) :
    (ConsentProcess.running (flow.advance op choice) (rest reply)).Sound world.shared.approved := by
  have own : (world.procs i).built = flow.built := by rw [running]; rfl
  have sound := consenting.sound i
  rw [running] at sound
  obtain ⟨named, asked, permitted, later⟩ := sound
  refine ⟨?_, ?_, later reply _ (Flow.becomes_advance performed ?_ ?_)⟩
  · intro built advanced
    rw [Flow.call_advance]
    rcases Flow.built_advance advanced with under | ⟨rfl, rfl⟩
    · exact named built under
    · exact permitted.2
  · rw [Flow.call_advance]
    exact asked
  · exact fun built under => consenting.file i built (own.trans under)
  · rintro mgmtAddr request response rfl rfl
    simpa only [Trusted, running] using trusted

variable [DecidableEq I]

theorem Consenting.perform {flow : Flow} {op : Op} {rest : op.Reply → Handler Result}
    {choice : Choice} {reply : op.Reply} {node : Node} (consenting : Consenting world)
    (running : world.procs i = .running flow (.perform op rest))
    (trusted : Trusted world i (.next choice))
    (performed : NodeManager.perform op choice world.shared.node = some (reply, node)) :
    Consenting
      { shared :=
          { node := node
            approved := world.shared.approved ++ flow.approves op reply
            submissions := world.shared.submissions ++ flow.submits world.shared.node op }
        procs := Function.update world.procs i
          (.running (flow.advance op choice) (rest reply)) } := by
  have permitted : flow.Permitted op := by
    have sound := consenting.sound i
    rw [running] at sound
    exact sound.2.2.1
  obtain ⟨others, own⟩ := consenting.under running permitted trusted performed
  have grown (id : String) (member : id ∈ world.shared.approved) :
      id ∈ world.shared.approved ++ flow.approves op reply := List.mem_append_left _ member
  refine ⟨consenting.consent_perform running permitted performed, ?_, ?_, ?_⟩
  · intro j built under
    rcases update_cases (fun process : ConsentProcess => process.built = some built) under with
      ⟨_, mine⟩ | ⟨other, before⟩
    · exact (own built mine).1
    · exact others j built other before
  · intro j k built built' under under'
    rcases update_cases (fun process : ConsentProcess => process.built = some built) under with
      ⟨rfl, mine⟩ | ⟨first, before⟩
    · rcases update_cases (fun process : ConsentProcess => process.built = some built') under' with
        ⟨rfl, _⟩ | ⟨second, before'⟩
      · rfl
      · rw [(own built mine).2 k second] at before'
        cases before'
    · rcases update_cases (fun process : ConsentProcess => process.built = some built') under' with
        ⟨rfl, mine'⟩ | ⟨_, before'⟩
      · rw [(own built' mine').2 j first] at before
        cases before
      · exact consenting.single j k built built' before before'
  · exact forall_update (ConsentProcess.Sound _)
      ((consenting.sound_perform running trusted performed).mono grown)
      fun j => (consenting.sound j).mono grown

theorem start_frame {node after : Node} {call : Call} (starts : node.start call = some after) :
    after.work = node.work ∧ after.responses = node.responses := by
  unfold Node.start at starts
  split at starts
  · split_ifs at starts
    obtain rfl := Option.some.inj starts
    exact ⟨rfl, rfl⟩
  · obtain rfl := Option.some.inj starts
    exact ⟨rfl, rfl⟩

theorem Consenting.start {call : Call} {node : Node} (consenting : Consenting world)
    (idle : world.procs i = .idle) (trusted : Trusted world i (.start call))
    (starts : world.shared.node.start call = some node) :
    Consenting
      { shared := { world.shared with node := node }
        procs := Function.update world.procs i (.running ⟨call, none⟩ (call.handler config)) } := by
  obtain ⟨work, responses⟩ := start_frame starts
  have before (j : I) (built : Update) (under : (Function.update world.procs i
      (.running ⟨call, none⟩ (call.handler config)) j).built = some built) :
      (world.procs j).built = some built := by
    rcases update_cases (fun process : ConsentProcess => process.built = some built) under with
      ⟨_, own⟩ | ⟨_, before⟩
    · cases own
    · exact before
  refine ⟨⟨?_, consenting.consent.submitted⟩, ?_, ?_, ?_⟩
  · intro req response member
    exact consenting.consent.signed req response (responses ▸ member)
  · intro j built under
    rw [work]
    exact consenting.file j built (before j built under)
  · exact fun j k built built' under under' =>
      consenting.single j k built built' (before j built under) (before k built' under')
  · refine forall_update (ConsentProcess.Sound _) ⟨nofun, ?_, handler_tracksFlow config call⟩
      consenting.sound
    rintro req rfl
    unfold Trusted at trusted
    rw [idle] at trusted
    exact trusted

end Step

/-- No call is being served and nothing is recorded but the approvals. -/
structure Unserved (world : World I Recorded ConsentProcess) : Prop where
  idle : ∀ i, world.procs i = .idle
  responses : world.shared.node.responses = []
  submissions : world.shared.submissions = []

theorem Unserved.consenting {world : World I Recorded ConsentProcess} (unserved : Unserved world) :
    Consenting world where
  consent :=
    { signed := by simp [SignedWithConsent, unserved.responses]
      submitted := by simp [SubmittedAsBuilt, unserved.submissions] }
  file i built under := by simp [unserved.idle i, ConsentProcess.built] at under
  single i j built built' under := by simp [unserved.idle i, ConsentProcess.built] at under
  sound i := by simp [unserved.idle i, ConsentProcess.Sound]

def served (i : Fin 5) (call : Call) (choices : List Choice) : List (Fin 5 × ConsentMove) :=
  (i, .start call) :: choices.map fun choice => (i, .next choice)

instance (world : World (Fin 5) Recorded ConsentProcess) (i : Fin 5) (move : ConsentMove) :
    Decidable (Trusted world i move) := by
  unfold Trusted
  split <;> infer_instance

end Kufi.NodeManager

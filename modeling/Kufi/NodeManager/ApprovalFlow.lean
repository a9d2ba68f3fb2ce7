import Kufi.NodeManager.Manager

set_option autoImplicit false

/-!
# What the approval flow asks for

Apart from the save of a failed approval, the flow leaves the store of requests
alone.
-/

namespace Kufi.NodeManager

open Shared

/-- The operation writes nothing to the store and has nothing to do with requests. -/
def Op.Silent : Op → Prop
  | .loadJoinRequest _ | .saveJoinRequest _ | .addPeer _ | .goExecuteApproval _
  | .broadcast (.request _) => False
  | _ => True

/-- A step of the channel update may be told to have failed. -/
def StepFails (config : NodeConfig) (told : (op : Op) → op.Reply → Prop) (req : JoinRequest) : Prop :=
  told (.unpackMSPBundle req.orgMSPBundle) false ∨ told (.addOrgToChannel req.orgDefinition) false ∨
    told (.signConfigUpdate (signingMSP config) .configUpdateEnvelope) false ∨
      told .submitConfigUpdate false

variable {allowed : Op → Prop} {told : (op : Op) → op.Reply → Prop}
  (silent : ∀ op : Op, op.Silent → allowed op)

include silent

theorem requestSignature_asks (mgmtAddr : String) (request : SignRequest) :
    (requestSignature mgmtAddr request).Asks allowed told fun _ => True := by
  refine .ask (silent _ trivial) fun response _ => ?_
  cases response <;> trivial

theorem askPeers_asks (requestID voterMSP : String) (envelopeB64 : Base64) (peers : List PeerInfo) :
    (askPeers requestID voterMSP envelopeB64 peers).Asks allowed told fun _ => True := by
  induction peers with
  | nil => trivial
  | cons p peers ih =>
    unfold askPeers
    split
    · refine .bind (requestSignature_asks silent p.mgmtAddr _) fun response _ => ?_
      cases response with
      | none => exact ih
      | some response => exact .ask (silent _ trivial) fun _ _ => trivial
    · exact ih

theorem collectSignatures_asks (config : NodeConfig) (requestID : String) (peers : List PeerInfo)
    (envelopeB64 : Base64) (votes : List Vote) :
    (collectSignatures config requestID peers envelopeB64 votes).Asks allowed told
      fun _ => True := by
  induction votes generalizing envelopeB64 with
  | nil => trivial
  | cons vote votes ih =>
    unfold collectSignatures
    split
    · exact ih envelopeB64
    · exact .bind (askPeers_asks silent requestID vote.voterMSP envelopeB64 peers) fun value _ =>
        ih value

theorem signEnvelopeBytes_asks (config : NodeConfig) (envelopeB64 : Base64) :
    (signEnvelopeBytes config envelopeB64).Asks allowed told fun _ => True := by
  unfold signEnvelopeBytes
  split
  · refine .ask (silent _ trivial) fun written _ => ?_
    cases written with
    | false => trivial
    | true =>
      refine .ask (silent _ trivial) fun signed _ => ?_
      cases signed with
      | false => trivial
      | true => exact .ask (silent _ trivial) fun _ _ => trivial
  · trivial

theorem handleSignConfigUpdate_asks (config : NodeConfig) (req : SignRequest) :
    (handleSignConfigUpdate config req).Asks allowed told fun _ => True := by
  refine .bind (signEnvelopeBytes_asks silent config req.envelopePB) fun signed _ => ?_
  cases signed <;> exact ⟨silent _ trivial, fun _ _ => trivial⟩

theorem submitUpdate_asks (config : NodeConfig) (req : JoinRequest) :
    (submitUpdate config req).Asks allowed told fun updated =>
      updated = false → StepFails config told req := by
  refine .ask (silent _ trivial) fun built heard => ?_
  cases built with
  | false => exact fun _ => .inr (.inl heard)
  | true =>
    refine .ask (silent _ trivial) fun signed heard => ?_
    cases signed with
    | false => exact fun _ => .inr (.inr (.inl heard))
    | true =>
      refine .ask (silent _ trivial) fun envelopeData _ => ?_
      refine .ask (silent _ trivial) fun peers _ => ?_
      refine .bind (collectSignatures_asks silent config req.id peers _ req.votes) fun _ _ => ?_
      refine ⟨silent _ trivial, fun updated heard failed => ?_⟩
      subst failed
      exact .inr (.inr (.inr heard))

theorem updateChannel_asks (config : NodeConfig) (req : JoinRequest) :
    (updateChannel config req).Asks allowed told fun updated =>
      updated = false → StepFails config told req := by
  unfold updateChannel
  split
  · exact submitUpdate_asks silent config req
  · refine .ask (silent _ trivial) fun unpacked heard => ?_
    cases unpacked with
    | false => exact fun _ => .inl heard
    | true => exact submitUpdate_asks silent config req

theorem registerPeer_asks (registers : ∀ peer, allowed (.addPeer peer)) (req : JoinRequest) :
    (registerPeer req).Asks allowed told fun _ => True := by
  refine .ask (silent _ trivial) fun now _ => ?_
  refine .ask (registers _) fun _ _ => ?_
  exact .ask (silent _ trivial) fun _ _ => ⟨silent _ trivial, fun _ _ => trivial⟩

theorem executeApproval_asks (registers : ∀ peer, allowed (.addPeer peer)) (config : NodeConfig)
    (req : JoinRequest) (failing : StepFails config told req →
      (failApproval req).Asks allowed told fun _ => True) :
    (executeApproval config req).Asks allowed told fun _ => True := by
  refine .bind (updateChannel_asks silent config req) fun updated failed => ?_
  cases updated with
  | false => exact failing (failed rfl)
  | true => exact registerPeer_asks silent registers req

end Kufi.NodeManager

import Kufi.Chaincode.PrivateData
import Kufi.Shared.Serial

set_option autoImplicit false

/-!
# The life of a transfer intent

An intent is created pending, and settled or cancelled by the organisation that
created it. The public state keeps texts: each invocation reads the whole
record and writes it again.
-/

namespace Kufi.Chaincode

namespace TransferIntent

/-- What of an intent is set once. -/
structure Identity where
  txID : String
  commitmentHash : String
  internalRef : String
  policyID : String
  createdAt : Int
  creatorMSP : String
  deriving DecidableEq

def identity (intent : TransferIntent) : Identity :=
  ⟨intent.txID, intent.commitmentHash, intent.internalRef, intent.policyID, intent.createdAt,
    intent.creatorMSP⟩

def settle (intent : TransferIntent) (now : Int) : TransferIntent :=
  { intent with status := "SETTLED", updatedAt := now, settledAt := now }

def cancel (intent : TransferIntent) (now : Int) : TransferIntent :=
  { intent with status := "CANCELLED", updatedAt := now }

@[simp] theorem settle_identity (intent : TransferIntent) (now : Int) :
    (intent.settle now).identity = intent.identity := rfl

@[simp] theorem cancel_identity (intent : TransferIntent) (now : Int) :
    (intent.cancel now).identity = intent.identity := rfl

end TransferIntent

namespace Payment

open Shared Marshal

/-- The public state: what `PutState` wrote, by the key. -/
abbrev PublicState := Dict String (List Char)

variable (environment : Environment)

/-! ## Invocations -/

-- `createTransferIntent` asks only whether there is a value.
def existing (state : PublicState) (key : String) : Option TransferIntent :=
  (state.get key).map fun text => (TransferIntent.decode text).getD .zero

/-- Settling and cancelling, up to their texts and what they change. -/
def closeTransfer (wrongStatus wrongCaller : String)
    (close : TransferIntent → Int → TransferIntent) (event : String × List Char)
    (state : PublicState) (ctx : TransactionContext) (txID : String) : Except String Simulation :=
  match state.get txID with
  | none => .error ("transfer intent not found: " ++ txID)
  | some intentJSON =>
    match TransferIntent.decode intentJSON with
    | none => .error ("failed to unmarshal transfer intent: " ++ environment.intentError intentJSON)
    | some intent =>
      if intent.status ≠ "PENDING" then .error (wrongStatus ++ intent.status)
      else
        match ctx.creatorMSP with
        | .error err => .error ("failed to get creator MSP: " ++ err)
        | .ok creatorMSP =>
          if creatorMSP ≠ intent.creatorMSP then .error wrongCaller
          else .ok ⟨(txID, (close intent ctx.now).encode), none, event⟩

def settleTransfer (state : PublicState) (ctx : TransactionContext) (txID : String) :
    Except String Simulation :=
  closeTransfer environment "transfer cannot be settled, current status: "
    "only creator org can settle transfer" TransferIntent.settle
    ("TransferSettled",
      (Json.struct [("status", always "SETTLED"), ("txId", always txID)]).encode)
    state ctx txID

def cancelTransfer (state : PublicState) (ctx : TransactionContext) (txID reason : String) :
    Except String Simulation :=
  closeTransfer environment "transfer cannot be cancelled, current status: "
    "only creator can cancel transfer" TransferIntent.cancel
    ("TransferCancelled",
      (Json.struct
        [("reason", always reason), ("status", always "CANCELLED"), ("txId", always txID)]).encode)
    state ctx txID

inductive Call where
  | createTransferIntent (arguments : CreateArguments) (transientMap : Dict String Bytes)
      (iteration : Iteration transientMap)
  | settleTransfer (txID : String)
  | cancelTransfer (txID reason : String)

structure Invocation where
  ctx : TransactionContext
  call : Call

/-- The key that the invocation may write. -/
def Invocation.key (invocation : Invocation) : String :=
  match invocation.call with
  | .createTransferIntent _ _ _ => invocation.ctx.txID
  | .settleTransfer txID => txID
  | .cancelTransfer txID _ => txID

def execute (state : PublicState) (invocation : Invocation) : Except String Simulation :=
  match invocation.call with
  | .createTransferIntent arguments _ iteration =>
    createTransferIntent environment invocation.ctx arguments (existing state) iteration
  | .settleTransfer txID => settleTransfer environment state invocation.ctx txID
  | .cancelTransfer txID reason => cancelTransfer environment state invocation.ctx txID reason

-- A failed invocation commits nothing.
def step (state : PublicState) (invocation : Invocation) : PublicState :=
  match execute environment state invocation with
  | .ok simulation => state.set simulation.publicWrite.1 simulation.publicWrite.2
  | .error _ => state

/-- A positive time in milliseconds that is a 64-bit integer. -/
def Timely (_ : PublicState) (invocation : Invocation) : Prop :=
  0 < invocation.ctx.now ∧ invocation.ctx.now < 2 ^ 63

instance (state : PublicState) (invocation : Invocation) : Decidable (Timely state invocation) :=
  inferInstanceAs (Decidable (_ ∧ _))

/-! ## What an invocation writes -/

def intentAt (state : PublicState) (key : String) : Option TransferIntent :=
  (state.get key).bind TransferIntent.decode

/-- The intent that the caller may close. -/
structure Closable (state : PublicState) (ctx : TransactionContext) (txID : String)
    (intent : TransferIntent) : Prop where
  stored : intentAt state txID = some intent
  pending : intent.status = "PENDING"
  caller : ctx.creatorMSP = .ok intent.creatorMSP

inductive Written (state : PublicState) (ctx : TransactionContext) :
    String → TransferIntent → Prop
  | created {arguments : CreateArguments} {intent : TransferIntent}
      (created : Chaincode.createTransferIntent ctx arguments (existing state) = .ok intent) :
      Written state ctx ctx.txID intent
  | settled {txID : String} {intent : TransferIntent} (closable : Closable state ctx txID intent) :
      Written state ctx txID (intent.settle ctx.now)
  | cancelled {txID : String} {intent : TransferIntent}
      (closable : Closable state ctx txID intent) :
      Written state ctx txID (intent.cancel ctx.now)

section

variable {environment} {state : PublicState} {invocation : Invocation}

theorem closeTransfer_eq_ok {wrongStatus wrongCaller : String}
    {close : TransferIntent → Int → TransferIntent} {event : String × List Char}
    {ctx : TransactionContext} {txID : String} {simulation : Simulation}
    (closed : closeTransfer environment wrongStatus wrongCaller close event state ctx txID =
      .ok simulation) :
    ∃ intent, Closable state ctx txID intent ∧
      simulation.publicWrite = (txID, (close intent ctx.now).encode) := by
  unfold closeTransfer at closed
  split at closed
  next => cases closed
  next text found =>
    split at closed
    next => cases closed
    next intent decoded =>
      split at closed
      next => cases closed
      next pending =>
        split at closed
        next => cases closed
        next creatorMSP creator =>
          split at closed
          next => cases closed
          next same =>
            have caller : creatorMSP = intent.creatorMSP := not_not.mp same
            refine ⟨intent, ⟨?_, not_not.mp pending, caller ▸ creator⟩, ?_⟩
            · rw [intentAt, found, Option.bind_some, decoded]
            · rw [← Except.ok.inj closed]

theorem createTransferIntent_written {ctx : TransactionContext} {arguments : CreateArguments}
    {transientMap : Dict String Bytes} {iteration : Iteration transientMap}
    {getState : String → Option TransferIntent} {simulation : Simulation}
    (created : createTransferIntent environment ctx arguments getState iteration =
      .ok simulation) :
    ∃ intent, Chaincode.createTransferIntent ctx arguments getState = .ok intent ∧
      simulation.publicWrite = (ctx.txID, intent.encode) := by
  unfold createTransferIntent at created
  split at created
  next => cases created
  next intent accepted =>
    split at created
    next => cases created
    next => exact ⟨intent, accepted, by rw [← Except.ok.inj created]⟩

/-- An invocation writes one intent under its key, or nothing. -/
theorem step_cases (environment : Environment) (state : PublicState) (invocation : Invocation) :
    step environment state invocation = state ∨
      ∃ intent, Written state invocation.ctx invocation.key intent ∧
        step environment state invocation = state.set invocation.key intent.encode := by
  cases executed : execute environment state invocation with
  | error err => exact .inl (by rw [step, executed])
  | ok simulation =>
    have committed : step environment state invocation =
        state.set simulation.publicWrite.1 simulation.publicWrite.2 := by
      rw [step, executed]
    refine .inr ?_
    rw [committed]
    obtain ⟨ctx, call⟩ := invocation
    cases call with
    | createTransferIntent arguments transientMap iteration =>
      obtain ⟨intent, created, written⟩ := createTransferIntent_written executed
      exact ⟨intent, .created created, by rw [written]; rfl⟩
    | settleTransfer txID =>
      obtain ⟨intent, closable, written⟩ := closeTransfer_eq_ok executed
      exact ⟨_, .settled closable, by rw [written]; rfl⟩
    | cancelTransfer txID reason =>
      obtain ⟨intent, closable, written⟩ := closeTransfer_eq_ok executed
      exact ⟨_, .cancelled closable, by rw [written]; rfl⟩

end

/-! ## Lawful records -/

/-- An intent as it may stand under the key. -/
structure Lawful (key : String) (intent : TransferIntent) : Prop where
  txID : intent.txID = key
  times : intent.TimesHeld
  status : intent.status = "PENDING" ∨ intent.status = "SETTLED" ∨ intent.status = "CANCELLED"
  settledAt : intent.settledAt ≠ 0 ↔ intent.status = "SETTLED"

def Recorded (state : PublicState) : Prop :=
  ∀ key text, state.get key = some text → ∃ intent, Lawful key intent ∧ text = intent.encode

section

variable {environment} {state : PublicState} {invocation : Invocation} {key : String}
  {intent : TransferIntent}

theorem intentAt_encode {text : List Char} (lawful : Lawful key intent)
    (stored : state.get key = some text) (encoded : text = intent.encode) :
    intentAt state key = some intent := by
  rw [intentAt, stored, Option.bind_some, encoded, TransferIntent.decode_encode lawful.times]

theorem Recorded.lawful (recorded : Recorded state) (stored : intentAt state key = some intent) :
    Lawful key intent := by
  obtain ⟨text, found, decoded⟩ := Option.bind_eq_some_iff.mp stored
  obtain ⟨intent', lawful, encoded⟩ := recorded key text found
  have same := intentAt_encode lawful found encoded
  rw [stored] at same
  exact Option.some.inj same ▸ lawful

theorem Written.lawful (recorded : Recorded state) (timely : Timely state invocation)
    (written : Written state invocation.ctx key intent) : Lawful key intent := by
  obtain ⟨positive, held⟩ := timely
  cases written with
  | created created =>
    obtain ⟨_, _, txID, _, _, pending, createdAt, updatedAt, unsettled⟩ :=
      createTransferIntent_created created
    refine ⟨txID, ⟨?_, ?_, ?_⟩, .inl pending, ?_⟩
    · omega
    · omega
    · omega
    · simp [unsettled, pending]
  | settled closable =>
    have old := recorded.lawful closable.stored
    have now : -2 ^ 63 ≤ invocation.ctx.now ∧ invocation.ctx.now < 2 ^ 63 := by omega
    exact ⟨old.txID, ⟨old.times.createdAt, now, now⟩, .inr (.inl rfl), iff_of_true positive.ne' rfl⟩
  | @cancelled _ before closable =>
    have old := recorded.lawful closable.stored
    have now : -2 ^ 63 ≤ invocation.ctx.now ∧ invocation.ctx.now < 2 ^ 63 := by omega
    have unsettled : before.settledAt = 0 := by
      have settled := old.settledAt
      rw [closable.pending] at settled
      simpa using settled
    refine ⟨old.txID, ⟨old.times.createdAt, now, old.times.settledAt⟩, .inr (.inr rfl), ?_⟩
    exact iff_of_false (fun set => set unsettled) (by simp [TransferIntent.cancel])

theorem recorded_set (recorded : Recorded state) (lawful : Lawful key intent) :
    Recorded (state.set key intent.encode) := by
  intro other text found
  rw [Dict.get_set] at found
  split at found
  next same => exact ⟨intent, same ▸ lawful, (Option.some.inj found).symm⟩
  next => exact recorded other text found

theorem recorded_step (recorded : Recorded state) (timely : Timely state invocation) :
    Recorded (step environment state invocation) := by
  rcases step_cases environment state invocation with same | ⟨intent, written, set⟩
  · rw [same]
    exact recorded
  · rw [set]
    exact recorded_set recorded (written.lawful recorded timely)

/-- The intent under a key stays, or is closed by its creator. -/
theorem intentAt_step (environment : Environment) (recorded : Recorded state)
    (timely : Timely state invocation) (stored : intentAt state key = some intent) :
    intentAt (step environment state invocation) key = some intent ∨
      (key = invocation.key ∧ Closable state invocation.ctx key intent ∧
        ∃ closed, intentAt (step environment state invocation) key = some closed ∧
          (closed = intent.settle invocation.ctx.now ∨
            closed = intent.cancel invocation.ctx.now)) := by
  rcases step_cases environment state invocation with same | ⟨closed, written, set⟩
  · exact .inl (by rw [same, stored])
  · by_cases target : key = invocation.key
    · subst target
      have lawful := written.lawful recorded timely
      have now : intentAt (step environment state invocation) invocation.key = some closed :=
        intentAt_encode lawful (by rw [set, Dict.get_set, if_pos rfl]) rfl
      refine .inr ⟨rfl, ?_⟩
      generalize invocation.key = key at written stored now
      cases written with
      | created created =>
        -- nothing was stored under the key
        have free := (createTransferIntent_created created).free
        obtain ⟨text, found, -⟩ := Option.bind_eq_some_iff.mp stored
        simp [existing, found] at free
      | settled closable =>
        obtain rfl := Option.some.inj (closable.stored.symm.trans stored)
        exact ⟨closable, _, now, .inl rfl⟩
      | cancelled closable =>
        obtain rfl := Option.some.inj (closable.stored.symm.trans stored)
        exact ⟨closable, _, now, .inr rfl⟩
    · refine .inl ?_
      rw [intentAt, set, Dict.get_set, if_neg target]
      exact stored

end

/-! ## Whole runs -/

/-- The invocation ends the pending time of the intent under the key. -/
def Leaves (state : PublicState) (invocation : Invocation) (key : String) : Prop :=
  ∃ intent, intentAt state key = some intent ∧ intent.status = "PENDING" ∧
    ∀ next, intentAt (step environment state invocation) key = some next →
      next.status ≠ "PENDING"

/-- What every state that can be reached promises of its intents. -/
structure FollowsLifecycle (state : PublicState) : Prop where
  lawful : ∀ key text, state.get key = some text →
    ∃ intent, intentAt state key = some intent ∧ Lawful key intent
  begins : ∀ invocation, Timely state invocation → ∀ key intent, intentAt state key = none →
    intentAt (step environment state invocation) key = some intent →
      intent.status = "PENDING" ∧ intent.txID = invocation.ctx.txID ∧
        invocation.ctx.creatorMSP = .ok intent.creatorMSP
  kept : ∀ later, Reach (step environment) Timely state later →
    ∀ key intent, intentAt state key = some intent →
      ∃ intent', intentAt later key = some intent' ∧ intent'.identity = intent.identity
  closed : ∀ later, Reach (step environment) Timely state later →
    ∀ key intent, intentAt state key = some intent → intent.status ≠ "PENDING" →
      (intent.status = "SETTLED" ∨ intent.status = "CANCELLED") ∧
        intentAt later key = some intent
  leaves : ∀ invocation, Timely state invocation → ∀ key, Leaves environment state invocation key →
    ∃ intent, intentAt state key = some intent ∧ invocation.ctx.creatorMSP = .ok intent.creatorMSP
  once : ∀ invocation, Timely state invocation → ∀ key, Leaves environment state invocation key →
    ∀ later, Reach (step environment) Timely (step environment state invocation) later →
      ∀ invocation', ¬ Leaves environment later invocation' key
  others : ∀ invocation key, key ≠ invocation.key →
    (step environment state invocation).get key = state.get key

section

variable {environment} {state later : PublicState} {invocation : Invocation} {key : String}
  {intent : TransferIntent}

theorem intentAt_begins (recorded : Recorded state) (timely : Timely state invocation)
    (absent : intentAt state key = none)
    (appears : intentAt (step environment state invocation) key = some intent) :
    intent.status = "PENDING" ∧ intent.txID = invocation.ctx.txID ∧
      invocation.ctx.creatorMSP = .ok intent.creatorMSP := by
  rcases step_cases environment state invocation with same | ⟨written, writes, set⟩
  · rw [same, absent] at appears
    cases appears
  · by_cases target : key = invocation.key
    · subst target
      have now : intentAt (step environment state invocation) invocation.key = some written :=
        intentAt_encode (writes.lawful recorded timely) (by rw [set, Dict.get_set, if_pos rfl]) rfl
      obtain rfl := Option.some.inj (now.symm.trans appears)
      generalize invocation.key = key at writes absent
      cases writes with
      | created created =>
        have new := createTransferIntent_created created
        exact ⟨new.pending, new.txID, new.creator⟩
      | settled closable => cases absent.symm.trans closable.stored
      | cancelled closable => cases absent.symm.trans closable.stored
    · rw [intentAt, set, Dict.get_set, if_neg target] at appears
      cases absent.symm.trans appears

theorem recorded_reach (recorded : Recorded state)
    (reached : Reach (step environment) Timely state later) : Recorded later :=
  reached.invariant Recorded recorded fun _ _ inv timely => recorded_step inv timely

theorem identity_reach (recorded : Recorded state) (stored : intentAt state key = some intent)
    (reached : Reach (step environment) Timely state later) :
    ∃ intent', intentAt later key = some intent' ∧ intent'.identity = intent.identity := by
  refine reached.stable Recorded
    (fun state => ∃ intent', intentAt state key = some intent' ∧
      intent'.identity = intent.identity)
    recorded ⟨intent, stored, rfl⟩ (fun _ _ inv timely => recorded_step inv timely) ?_
  intro state invocation inv timely ⟨current, found, same⟩
  rcases intentAt_step environment inv timely found with stays | closed
  · exact ⟨current, stays, same⟩
  · obtain ⟨-, -, closed, now, rfl | rfl⟩ := closed
    · exact ⟨_, now, same⟩
    · exact ⟨_, now, same⟩

theorem closed_reach (recorded : Recorded state) (stored : intentAt state key = some intent)
    (closed : intent.status ≠ "PENDING") (reached : Reach (step environment) Timely state later) :
    intentAt later key = some intent := by
  refine reached.stable Recorded (fun state => intentAt state key = some intent) recorded stored
    (fun _ _ inv timely => recorded_step inv timely) ?_
  intro state invocation inv timely found
  rcases intentAt_step environment inv timely found with stays | ⟨-, closable, -⟩
  · exact stays
  · exact absurd closable.pending closed

theorem leaves_closed (recorded : Recorded state) (timely : Timely state invocation)
    (leaves : Leaves environment state invocation key) :
    ∃ intent closed, intentAt state key = some intent ∧
      invocation.ctx.creatorMSP = .ok intent.creatorMSP ∧
      intentAt (step environment state invocation) key = some closed ∧
      closed.status ≠ "PENDING" := by
  obtain ⟨intent, stored, pending, left⟩ := leaves
  rcases intentAt_step environment recorded timely stored with
    stays | ⟨-, closable, closed, now, -⟩
  · exact absurd pending (left intent stays)
  · exact ⟨intent, closed, stored, closable.caller, now, left closed now⟩

theorem others_kept (other : key ≠ invocation.key) :
    (step environment state invocation).get key = state.get key := by
  rcases step_cases environment state invocation with same | ⟨intent, -, set⟩
  · rw [same]
  · rw [set, Dict.get_set, if_neg other]

theorem followsLifecycle (reached : Reach (step environment) Timely ∅ state) :
    FollowsLifecycle environment state := by
  have recorded : Recorded state := recorded_reach (fun _ _ found => by simp at found) reached
  constructor
  case lawful =>
    intro key text found
    obtain ⟨intent, lawful, encoded⟩ := recorded key text found
    exact ⟨intent, intentAt_encode lawful found encoded, lawful⟩
  case begins =>
    intro invocation timely key intent absent appears
    exact intentAt_begins recorded timely absent appears
  case kept =>
    intro later onward key intent stored
    exact identity_reach recorded stored onward
  case closed =>
    intro later onward key intent stored closed
    exact ⟨(recorded.lawful stored).status.resolve_left closed,
      closed_reach recorded stored closed onward⟩
  case leaves =>
    intro invocation timely key leaves
    obtain ⟨intent, _, stored, caller, -⟩ := leaves_closed recorded timely leaves
    exact ⟨intent, stored, caller⟩
  case once =>
    intro invocation timely key leaves later onward invocation' again
    obtain ⟨_, closed, -, -, now, left⟩ := leaves_closed recorded timely leaves
    obtain ⟨intent, stored, pending, -⟩ := again
    have same := closed_reach (recorded_step recorded timely) now left onward
    rw [stored] at same
    exact left (Option.some.inj same ▸ pending)
  case others =>
    intro invocation key other
    exact others_kept other

end

/-! ## A run of two banks -/

def createBy (msp txID : String) (seconds : Int) : Invocation :=
  ⟨⟨txID, .ok msp, seconds, 0⟩, .createTransferIntent ⟨"c0ffee", "ref1", "high_risk"⟩ ∅ ⟨[], .nil⟩⟩

def settleBy (msp txID : String) (seconds : Int) : Invocation :=
  ⟨⟨"tx9", .ok msp, seconds, 0⟩, .settleTransfer txID⟩

def cancelBy (msp txID : String) (seconds : Int) : Invocation :=
  ⟨⟨"tx10", .ok msp, seconds, 0⟩, .cancelTransfer txID "late"⟩

def twoBanksRun : List Invocation :=
  [createBy "VPBankMSP" "tx1" 1700000000, cancelBy "ACBMSP" "tx1" 1700000001,
    settleBy "VPBankMSP" "tx1" 1700000002, createBy "ACBMSP" "tx2" 1700000003,
    cancelBy "ACBMSP" "tx2" 1700000004]

theorem followsLifecycle_twoBanksRun :
    FollowsLifecycle lenientPeer (twoBanksRun.foldl (step lenientPeer) ∅) :=
  followsLifecycle <| reach_foldl
    ⟨by decide, by decide, by decide, by decide, by decide, trivial⟩

end Payment

end Kufi.Chaincode

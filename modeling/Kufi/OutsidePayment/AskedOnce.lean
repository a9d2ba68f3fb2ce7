import Kufi.OutsidePayment.StatusTokens
import Kufi.Shared.Interleaving
import Mathlib.Data.Fintype.Basic

set_option autoImplicit false

/-!
# The partner is asked once

Any number of calls interleaved. The check for an existing row, the call of the
partner and the insert are separate steps, and a check saves the row it loaded
before it asked.
-/

namespace Kufi.OutsidePayment

open Shared Shared.Text

/-! ## Calls -/

inductive TransfersResult where
  | initiated (result : Except TransfersError TransferResponse)
  | checked (result : Except TransfersError CheckResponse)

inductive TransfersCall where
  | initiate (data : InitiateTransferRequest)
  | check (data : CheckTransferRequest)

def TransfersCall.handler (env : PartnerEnv) : TransfersCall → TransfersHandler TransfersResult
  | .initiate data => initiateTransfer env data >>= fun result => pure (.initiated result)
  | .check data => checkTransfer env data >>= fun result => pure (.checked result)

/-- A transaction that the partner was asked for, and what its answer was taken for. -/
structure Asking where
  transactionId : Uuid
  submission : Submission

/-- What a call has done so far; records only. -/
structure CallTrace where
  asking : Option Asking
  -- whether it has gone on to the insert
  attempted : Bool
  loaded : Option ExternalTransfer

def CallTrace.fresh : CallTrace where
  asking := none
  attempted := false
  loaded := none

structure TransfersProcess where
  trace : CallTrace
  code : TransfersHandler TransfersResult

def TransfersProcess.finished (proc : TransfersProcess) : Bool :=
  match proc.code with
  | .done _ => true
  | .perform _ _ => false

section

variable (env : PartnerEnv)

def CallTrace.advance (trace : CallTrace) : (op : TransfersOp) → op.Reply → CallTrace
  | .initiate config data, answer =>
    { trace with
      asking := (Uuid.parse data.transactionId).map fun transactionId =>
        { transactionId, submission := initiateViaPartner env config data.transferType answer } }
  | .insertTransfer _, _ => { trace with attempted := true }
  | .findByPartnerRef _, some (some transfer) => { trace with loaded := some transfer }
  | _, _ => trace

def transfersService : Machine TransfersState TransfersProcess TransfersChoice where
  step s
    | ⟨trace, .perform op next⟩, choice =>
      (performTransfers op choice s).map fun result =>
        (result.2, ⟨trace.advance env op result.1, next result.1⟩)
    | _, _ => none

/-- The service with an empty table and one process for each call. -/
def freshTransfers {I : Type} (calls : I → TransfersCall) :
    World I TransfersState TransfersProcess where
  shared := { transfers := .empty, asked := [], outcomes := [] }
  procs i := ⟨.fresh, (calls i).handler env⟩

end

/-! ## The property -/

variable {I : Type}

def AnswersKept (world : World I TransfersState TransfersProcess) : Prop :=
  ∀ i, (world.procs i).finished = true → ∀ asking ∈ (world.procs i).trace.asking,
    ∃ row ∈ world.shared.transfers.table.rows, row.transactionId = asking.transactionId ∧
      row.partnerRef = asking.submission.partnerRef

def OutcomesFinal (s : TransfersState) : Prop :=
  ∀ entry ∈ s.outcomes, ∃ row ∈ s.transfers.table.rows, row.id = entry.1 ∧ row.status = entry.2

structure AskedOnce (world : World I TransfersState TransfersProcess) : Prop where
  once : ∀ transactionId, world.shared.asked.count transactionId ≤ 1
  -- whatever the partner has answered
  recorded : AnswersKept world
  final : OutcomesFinal world.shared

/-- The call has asked the partner and not yet gone on to the insert. -/
def TransfersProcess.Holds (proc : TransfersProcess) (transactionId : Uuid) : Prop :=
  proc.trace.attempted = false ∧
    ∃ asking ∈ proc.trace.asking, asking.transactionId = transactionId

instance (proc : TransfersProcess) (transactionId : Uuid) :
    Decidable (proc.Holds transactionId) :=
  inferInstanceAs (Decidable (_ ∧ ∃ _ ∈ _, _))

/-- The insert goes through. -/
def Inserts (s : TransfersState) (transfer : ExternalTransfer) : TransfersChoice → Prop
  | .createdAt createdAt => (s.transfers.insert? { transfer with createdAt }).isSome
  | _ => False

instance (s : TransfersState) (transfer : ExternalTransfer) (choice : TransfersChoice) :
    Decidable (Inserts s transfer choice) := by
  cases choice <;> unfold Inserts <;> infer_instance

/-- The save gives no row that has its final status another one. -/
def KeepsStatus (s : TransfersState) (transfer : ExternalTransfer) : TransfersChoice → Prop
  | .nothing => ∀ row ∈ s.transfers.table.rows, row.id = transfer.id →
      row.status = .submitted ∨ row.status = transfer.status
  | _ => True

instance (s : TransfersState) (transfer : ExternalTransfer) (choice : TransfersChoice) :
    Decidable (KeepsStatus s transfer choice) := by
  cases choice <;> unfold KeepsStatus <;> infer_instance

/-- What every step of a run must meet. -/
def InTurn (world : World I TransfersState TransfersProcess) (i : I) (choice : TransfersChoice) :
    Prop :=
  match world.procs i with
  -- nobody has recorded the transaction, and nobody else is about to
  | ⟨_, .perform (.initiate _ data) _⟩ =>
    ∀ transactionId ∈ Uuid.parse data.transactionId,
      (∀ row ∈ world.shared.transfers.table.rows, row.transactionId ≠ transactionId) ∧
        ∀ j, j ≠ i → ¬(world.procs j).Holds transactionId
  | ⟨trace, .perform (.insertTransfer transfer) _⟩ =>
    trace.asking.isSome → Inserts world.shared transfer choice
  | ⟨_, .perform (.saveTransfer transfer) _⟩ => KeepsStatus world.shared transfer choice
  | _ => True

/-! ## What a call does -/

/-- Two states of one row. -/
structure SameTransfer (left right : ExternalTransfer) : Prop where
  id : left.id = right.id
  transactionId : left.transactionId = right.transactionId
  partnerRef : left.partnerRef = right.partnerRef

def Permits (trace : CallTrace) : TransfersOp → Prop
  | .initiate _ _ => trace.asking = none ∧ trace.attempted = false
  | .insertTransfer transfer => ∀ asking ∈ trace.asking,
      transfer.transactionId = asking.transactionId ∧
        transfer.partnerRef = asking.submission.partnerRef
  | .saveTransfer transfer =>
    trace.asking = none ∧ ∃ loaded ∈ trace.loaded, SameTransfer transfer loaded
  | _ => trace.asking = none

/-- A call that has asked goes on to the insert. -/
abbrev Follows (env : PartnerEnv) {A : Type} (trace : CallTrace) (code : TransfersHandler A) : Prop :=
  code.Tracks Permits (fun trace op reply after => after = trace.advance env op reply)
    (fun trace _ => trace.asking.isSome = true → trace.attempted = true) trace

section

variable {env : PartnerEnv}

theorem orElse_ne_empty {left right : String} (known : right ≠ "") : orElse left right ≠ "" := by
  unfold orElse
  split
  · exact known
  · assumption

theorem append_ne_empty {left right : String} (known : left ≠ "" ∨ right ≠ "") :
    left ++ right ≠ "" := by
  intro empty
  rw [← String.toList_inj, String.toList_append, String.toList_empty, List.append_eq_nil_iff] at empty
  rcases known with first | second
  · exact first (String.toList_eq_nil_iff.mp empty.1)
  · exact second (String.toList_eq_nil_iff.mp empty.2)

theorem partnerRef_ne_empty (config : PartnerConfig) (transferType : String)
    (answer : PartnerAnswer) : (initiateViaPartner env config transferType answer).partnerRef ≠ "" := by
  have dash (text : String) : text ++ "-" ≠ "" := append_ne_empty (.inr (by decide))
  unfold initiateViaPartner
  cases answer.reply with
  | unreachable message => exact append_ne_empty (.inr (by decide))
  | response httpStatus body =>
    dsimp only
    split
    · split
      · exact orElse_ne_empty (append_ne_empty (.inr (by decide)))
      · exact orElse_ne_empty (append_ne_empty (.inl (dash _)))
    · exact append_ne_empty (.inr (by decide))

theorem recordTransfer_follows (data : InitiateTransferRequest) (partnerCode : String)
    (submission : Submission) {trace : CallTrace}
    (own : ∀ asking ∈ trace.asking, Uuid.parse data.transactionId = some asking.transactionId ∧
      submission.partnerRef = asking.submission.partnerRef) :
    Follows env trace (recordTransfer env data partnerCode submission) := by
  unfold recordTransfer
  cases parsed : Uuid.parse data.transactionId with
  | none =>
    intro asked
    obtain ⟨asking, known⟩ := Option.isSome_iff_exists.mp asked
    have impossible := (own asking known).1
    rw [parsed] at impossible
    cases impossible
  | some transactionId =>
    refine Procedure.Tracks.ask ?_ ?_
    · intro asking known
      obtain ⟨same, ref⟩ := own asking known
      rw [parsed] at same
      exact ⟨Option.some.inj same, ref⟩
    · rintro reply after rfl
      cases reply <;> exact fun _ => rfl

theorem initiateTransfer_follows (data : InitiateTransferRequest) {trace : CallTrace}
    (unasked : trace.asking = none) (waiting : trace.attempted = false) :
    Follows env trace (initiateTransfer env data) := by
  have ends {A : Type} (value : A) : Follows env trace (.done value) := by
    intro asked
    rw [unasked] at asked
    cases asked
  have nobody (P : Asking → Prop) : ∀ asking ∈ trace.asking, P asking := by
    simp [unasked]
  unfold initiateTransfer
  dsimp only
  split
  next => exact ends _
  next =>
    refine Procedure.Tracks.ask unasked ?_
    rintro reply after rfl
    rcases reply with _ | _ | existed
    · exact ends _
    · refine Procedure.Tracks.ask unasked ?_
      rintro digits after rfl
      split
      next config resolved =>
        refine Procedure.Tracks.ask ⟨unasked, waiting⟩ ?_
        rintro answer after rfl
        refine recordTransfer_follows data _ _ fun asking known => ?_
        obtain ⟨transactionId, parsed, rfl⟩ := Option.map_eq_some_iff.mp known
        exact ⟨parsed, if_neg (partnerRef_ne_empty config data.transferType answer)⟩
      next =>
        refine Procedure.Tracks.ask unasked ?_
        rintro digits' after rfl
        exact recordTransfer_follows data _ _ (nobody _)
    · exact ends _

theorem saveChecked_follows {trace : CallTrace} {transfer loaded : ExternalTransfer}
    (unasked : trace.asking = none) (held : trace.loaded = some loaded)
    (same : SameTransfer transfer loaded) : Follows env trace (saveChecked transfer) := by
  have ends {A : Type} (value : A) : Follows env trace (.done value) := by
    intro asked
    rw [unasked] at asked
    cases asked
  refine Procedure.Tracks.ask ⟨unasked, loaded, held, same⟩ ?_
  rintro reply after rfl
  cases reply <;> exact ends _

theorem checkTransfer_follows (data : CheckTransferRequest) {trace : CallTrace}
    (unasked : trace.asking = none) : Follows env trace (checkTransfer env data) := by
  have ends {A : Type} (loaded : Option ExternalTransfer) (value : A) :
      Follows env { trace with loaded } (.done value) := by
    intro asked
    rw [show ({ trace with loaded } : CallTrace).asking = none from unasked] at asked
    cases asked
  refine Procedure.Tracks.ask unasked ?_
  rintro reply after rfl
  rcases reply with _ | _ | transfer
  · exact ends _ _
  · exact ends _ _
  dsimp only
  split
  next => exact ends (some transfer) _
  next =>
  split
  next config resolved =>
    refine Procedure.Tracks.ask unasked ?_
    rintro reply after rfl
    unfold applyRemote
    split
    · exact ends (some transfer) _
    · exact ends (some transfer) _
    · exact saveChecked_follows unasked rfl ⟨rfl, rfl, rfl⟩
  next =>
    refine Procedure.Tracks.ask unasked ?_
    rintro now after rfl
    split
    · exact saveChecked_follows unasked rfl ⟨rfl, rfl, rfl⟩
    · exact saveChecked_follows unasked rfl ⟨rfl, rfl, rfl⟩

theorem handler_follows (call : TransfersCall) : Follows env .fresh (call.handler env) := by
  cases call with
  | initiate data =>
    exact Procedure.Tracks.bind (initiateTransfer_follows data rfl rfl) fun _ _ followed => followed
  | check data =>
    exact Procedure.Tracks.bind (checkTransfer_follows data rfl) fun _ _ followed => followed

end

/-! ## Rows keep what they are about -/

section Rows

variable {before after : ExternalTransfers} {transfer saved : ExternalTransfer}

theorem SameTransfer.refl (transfer : ExternalTransfer) : SameTransfer transfer transfer :=
  ⟨rfl, rfl, rfl⟩

theorem SameTransfer.trans {first second third : ExternalTransfer}
    (left : SameTransfer first second) (right : SameTransfer second third) :
    SameTransfer first third :=
  ⟨left.id.trans right.id, left.transactionId.trans right.transactionId,
    left.partnerRef.trans right.partnerRef⟩

def Grows (before after : ExternalTransfers) : Prop :=
  ∀ row ∈ before, ∃ later ∈ after, SameTransfer later row

theorem Grows.refl (transfers : ExternalTransfers) : Grows transfers transfers :=
  fun row member => ⟨row, member, .refl row⟩

theorem insert_grows (inserted : before.insert? transfer = some (saved, after)) :
    Grows before after := by
  intro row member
  have stored := ExternalTransfers.insert?_spec inserted
  exact ⟨row, (Table.mem_insert? stored).mpr (.inl member), .refl row⟩

theorem save_grows (updated : before.save? transfer = some after)
    {old : ExternalTransfer} (member : old ∈ before) (same : SameTransfer old transfer) :
    Grows before after := by
  intro row held
  have stored := ExternalTransfers.save?_spec updated
  by_cases own : row.id = transfer.id
  · have equal : row = old := Table.eq_of_id held member (own.trans same.id.symm)
    refine ⟨transfer, (Table.mem_update? stored).mpr (.inr ⟨rfl, old, member, same.id⟩), ?_⟩
    rw [equal]
    exact ⟨same.id.symm, same.transactionId.symm, same.partnerRef.symm⟩
  · exact ⟨row, (Table.mem_update? stored).mpr (.inl ⟨held, own⟩), .refl row⟩

end Rows

/-! ## What a run keeps -/

structure Kept (env : PartnerEnv) (world : World I TransfersState TransfersProcess) : Prop where
  once : ∀ transactionId, world.shared.asked.count transactionId ≤ 1
  -- what the partner was asked for is recorded or about to be
  known : ∀ transactionId ∈ world.shared.asked,
    (∃ row ∈ world.shared.transfers, row.transactionId = transactionId) ∨
      ∃ i, (world.procs i).Holds transactionId
  follows : ∀ i, Follows env (world.procs i).trace (world.procs i).code
  recorded : ∀ i, (world.procs i).trace.attempted = true →
    ∀ asking ∈ (world.procs i).trace.asking, ∃ row ∈ world.shared.transfers,
      row.transactionId = asking.transactionId ∧ row.partnerRef = asking.submission.partnerRef
  loaded : ∀ i, ∀ transfer ∈ (world.procs i).trace.loaded,
    ∃ row ∈ world.shared.transfers, SameTransfer row transfer
  final : ∀ entry ∈ world.shared.outcomes, entry.2 ≠ .submitted ∧
    ∃ row ∈ world.shared.transfers, row.id = entry.1 ∧ row.status = entry.2

section Step

variable {env : PartnerEnv} {world : World I TransfersState TransfersProcess} {i : I}

theorem Kept.askedOnce (kept : Kept env world) : AskedOnce world where
  once := kept.once
  recorded i finished asking asked := by
    have ended := kept.follows i
    cases code : (world.procs i).code with
    | done value =>
      rw [code] at ended
      exact kept.recorded i (ended (Option.isSome_iff_exists.mpr ⟨asking, asked⟩)) asking asked
    | perform op next => simp [TransfersProcess.finished, code] at finished
  final entry member := (kept.final entry member).2

theorem Kept.initial (calls : I → TransfersCall) : Kept env (freshTransfers env calls) where
  once _ := Nat.zero_le 1
  known _ member := absurd member List.not_mem_nil
  follows i := handler_follows (calls i)
  recorded i attempted := by simp [freshTransfers, CallTrace.fresh] at attempted
  loaded i transfer member := absurd member (Option.not_mem_none transfer)
  final _ member := absurd member List.not_mem_nil

variable [DecidableEq I] {shared : TransfersState} {proc : TransfersProcess}

/-- A step that does not ask. -/
theorem Kept.moves (kept : Kept env world) (asked : shared.asked = world.shared.asked)
    (grows : Grows world.shared.transfers shared.transfers)
    (holds : ∀ transactionId, (world.procs i).Holds transactionId →
      (∃ row ∈ shared.transfers, row.transactionId = transactionId) ∨ proc.Holds transactionId)
    (follows : Follows env proc.trace proc.code)
    (recorded : proc.trace.attempted = true → ∀ asking ∈ proc.trace.asking,
      ∃ row ∈ shared.transfers, row.transactionId = asking.transactionId ∧
        row.partnerRef = asking.submission.partnerRef)
    (loaded : ∀ transfer ∈ proc.trace.loaded, ∃ row ∈ shared.transfers, SameTransfer row transfer)
    (final : ∀ entry ∈ shared.outcomes, entry.2 ≠ .submitted ∧
      ∃ row ∈ shared.transfers, row.id = entry.1 ∧ row.status = entry.2) :
    Kept env { shared, procs := Function.update world.procs i proc } where
  once transactionId := by
    rw [asked]
    exact kept.once transactionId
  known transactionId member := by
    rw [asked] at member
    rcases kept.known transactionId member with ⟨row, held, own⟩ | ⟨j, held⟩
    · obtain ⟨later, stored, same⟩ := grows row held
      exact .inl ⟨later, stored, same.transactionId.trans own⟩
    · by_cases same : j = i
      · subst same
        exact (holds transactionId held).imp_right fun held => ⟨j, by simpa using held⟩
      · exact .inr ⟨j, by simpa [Function.update_of_ne same] using held⟩
  follows := forall_update (fun proc : TransfersProcess => Follows env proc.trace proc.code)
    follows kept.follows
  recorded := by
    refine forall_update (fun proc : TransfersProcess => proc.trace.attempted = true →
      ∀ asking ∈ proc.trace.asking, ∃ row ∈ shared.transfers,
        row.transactionId = asking.transactionId ∧
          row.partnerRef = asking.submission.partnerRef) recorded fun j attempted asking known => ?_
    obtain ⟨row, held, own, ref⟩ := kept.recorded j attempted asking known
    obtain ⟨later, stored, same⟩ := grows row held
    exact ⟨later, stored, same.transactionId.trans own, same.partnerRef.trans ref⟩
  loaded := by
    refine forall_update (fun proc : TransfersProcess => ∀ transfer ∈ proc.trace.loaded,
      ∃ row ∈ shared.transfers, SameTransfer row transfer) loaded fun j transfer known => ?_
    obtain ⟨row, held, own⟩ := kept.loaded j transfer known
    obtain ⟨later, stored, same⟩ := grows row held
    exact ⟨later, stored, same.trans own⟩
  final := final

/-- A step that neither writes nor asks. -/
theorem Kept.quiet (kept : Kept env world) (follows : Follows env proc.trace proc.code)
    (asking : proc.trace.asking = (world.procs i).trace.asking)
    (attempted : proc.trace.attempted = (world.procs i).trace.attempted ∨
      (world.procs i).trace.asking = none)
    (loaded : ∀ transfer ∈ proc.trace.loaded,
      ∃ row ∈ world.shared.transfers, SameTransfer row transfer) :
    Kept env { shared := world.shared, procs := Function.update world.procs i proc } := by
  refine kept.moves rfl (.refl _) ?_ follows ?_ loaded kept.final
  · rintro transactionId ⟨waiting, known⟩
    rcases attempted with same | unasked
    · exact .inr ⟨same.trans waiting, asking ▸ known⟩
    · simp [unasked] at known
  · rw [asking]
    rcases attempted with same | unasked
    · rw [same]
      exact kept.recorded i
    · simp [unasked]

/-! ## One operation each -/

variable {trace : CallTrace} {s after : TransfersState} {choice : TransfersChoice}

theorem transfersService_step {next : TransfersProcess}
    (stepped : (transfersService env).step s proc choice = some (after, next)) :
    ∃ op rest reply, proc.code = .perform op rest ∧
      performTransfers op choice s = some (reply, after) ∧
      next = ⟨proc.trace.advance env op reply, rest reply⟩ := by
  obtain ⟨trace, code⟩ := proc
  cases code with
  | done value => cases stepped
  | perform op rest =>
    obtain ⟨⟨reply, after'⟩, performed, moved⟩ := Option.map_eq_some_iff.mp stepped
    obtain ⟨rfl, rfl⟩ := Prod.mk.inj moved
    exact ⟨op, rest, reply, rfl, performed, rfl⟩

theorem performed_insert {transfer : ExternalTransfer} {reply : Option ExternalTransfer}
    (performed : performTransfers (.insertTransfer transfer) choice s = some (reply, after)) :
    reply = none ∧ after = s ∧ ¬Inserts s transfer choice ∨
    ∃ createdAt saved transfers,
      s.transfers.insert? { transfer with createdAt } = some (saved, transfers) ∧
      after = { s with transfers, outcomes := s.outcomes ++ outcomeOf saved } := by
  cases choice with
  | createdAt createdAt =>
    simp only [performTransfers] at performed
    split at performed
    next saved transfers inserted =>
      cases performed
      exact .inr ⟨createdAt, saved, transfers, inserted, rfl⟩
    next refused =>
      cases performed
      exact .inl ⟨rfl, rfl, by simp [Inserts, refused]⟩
  | fails =>
    cases performed
    exact .inl ⟨rfl, rfl, not_false⟩
  | _ => cases performed

theorem performed_save {transfer : ExternalTransfer} {reply : Option ExternalTransfer}
    (performed : performTransfers (.saveTransfer transfer) choice s = some (reply, after)) :
    after = s ∨ choice = .nothing ∧ ∃ transfers, s.transfers.save? transfer = some transfers ∧
      after = { s with transfers, outcomes := s.outcomes ++ outcomeOf transfer } := by
  cases choice with
  | nothing =>
    simp only [performTransfers] at performed
    split at performed
    next transfers saved =>
      cases performed
      exact .inr ⟨rfl, transfers, saved, rfl⟩
    next =>
      cases performed
      exact .inl rfl
  | fails =>
    cases performed
    exact .inl rfl
  | _ => cases performed

theorem performed_initiate {config : PartnerConfig} {data : InitiateTransferRequest}
    {reply : PartnerAnswer}
    (performed : performTransfers (.initiate config data) choice s = some (reply, after)) :
    after = { s with asked := s.asked ++ (Uuid.parse data.transactionId).toList } := by
  cases choice with
  | answer answer =>
    cases performed
    rfl
  | _ => cases performed

/-- The other operations only read. -/
def TransfersOp.Reads : TransfersOp → Prop
  | .initiate _ _ | .insertTransfer _ | .saveTransfer _ => False
  | _ => True

variable (env trace) in
theorem performed_read {op : TransfersOp} {reply : op.Reply}
    (performed : performTransfers op choice s = some (reply, after)) (reads : op.Reads) :
    after = s ∧ (trace.advance env op reply).asking = trace.asking ∧
      (trace.advance env op reply).attempted = trace.attempted ∧
      ∀ transfer ∈ (trace.advance env op reply).loaded,
        transfer ∈ trace.loaded ∨ transfer ∈ s.transfers := by
  cases op with
  | initiate | insertTransfer | saveTransfer => exact reads.elim
  | findByPartnerRef partnerRef =>
    cases choice with
    | nothing =>
      simp only [performTransfers, Option.some.injEq, Prod.mk.injEq] at performed
      obtain ⟨rfl, rfl⟩ := performed
      cases found : s.transfers.table.find? (·.partnerRef == partnerRef) with
      | none => exact ⟨rfl, rfl, rfl, fun _ => .inl⟩
      | some transfer =>
        refine ⟨rfl, rfl, rfl, fun loaded known => .inr ?_⟩
        obtain rfl := Option.some.inj known
        exact Table.mem_of_find? found
    | fails =>
      cases performed
      exact ⟨rfl, rfl, rfl, fun _ => .inl⟩
    | _ => cases performed
  | _ =>
    cases choice <;> cases performed <;> exact ⟨rfl, rfl, rfl, fun _ => .inl⟩

/-- The rows that have a final status and the new one, if it has one. -/
theorem final_append {before after : ExternalTransfers} {transfer : ExternalTransfer}
    {outcomes : List (Nat × ExternalTransferStatus)}
    (final : ∀ entry ∈ outcomes, entry.2 ≠ .submitted ∧
      ∃ row ∈ before, row.id = entry.1 ∧ row.status = entry.2)
    (stays : ∀ row ∈ before, row.status ≠ .submitted →
      ∃ later ∈ after, later.id = row.id ∧ later.status = row.status)
    (stored : transfer ∈ after) : ∀ entry ∈ outcomes ++ outcomeOf transfer,
      entry.2 ≠ .submitted ∧ ∃ row ∈ after, row.id = entry.1 ∧ row.status = entry.2 := by
  intro entry member
  rcases List.mem_append.mp member with earlier | own
  · obtain ⟨settled, row, held, sameId, sameStatus⟩ := final entry earlier
    obtain ⟨later, there, sameId', sameStatus'⟩ := stays row held (sameStatus ▸ settled)
    exact ⟨settled, later, there, sameId'.trans sameId, sameStatus'.trans sameStatus⟩
  · unfold outcomeOf at own
    split at own
    · exact absurd own List.not_mem_nil
    next settled =>
      obtain rfl := List.mem_singleton.mp own
      exact ⟨settled, transfer, stored, rfl, rfl⟩

theorem Kept.inserts {transfer saved : ExternalTransfer} {createdAt : Transactions.Instant}
    {transfers : ExternalTransfers} {code : TransfersHandler TransfersResult}
    (kept : Kept env world) (permitted : Permits (world.procs i).trace (.insertTransfer transfer))
    (inserted : world.shared.transfers.insert? { transfer with createdAt } = some (saved, transfers))
    (follows : Follows env { (world.procs i).trace with attempted := true } code) :
    Kept env
      { shared :=
          { world.shared with transfers, outcomes := world.shared.outcomes ++ outcomeOf saved }
        procs := Function.update world.procs i
          ⟨{ (world.procs i).trace with attempted := true }, code⟩ } := by
  have stored := ExternalTransfers.insert?_spec inserted
  have grows : Grows world.shared.transfers transfers := insert_grows inserted
  have there : saved ∈ transfers := (Table.mem_insert? stored).mpr (.inr rfl)
  have spec := (Table.insert?_spec stored).1
  have recorded : ∀ asking ∈ (world.procs i).trace.asking, ∃ row ∈ transfers,
      row.transactionId = asking.transactionId ∧ row.partnerRef = asking.submission.partnerRef := by
    intro asking known
    obtain ⟨own, ref⟩ := permitted asking known
    refine ⟨saved, there, ?_, ?_⟩
    · rw [spec]
      exact own
    · rw [spec]
      exact ref
  refine kept.moves rfl grows ?_ follows (fun _ => recorded) ?_ ?_
  · rintro transactionId ⟨-, asking, known, rfl⟩
    obtain ⟨row, held, own, -⟩ := recorded asking known
    exact .inl ⟨row, held, own⟩
  · intro loaded known
    obtain ⟨row, held, own⟩ := kept.loaded i loaded known
    obtain ⟨later, stored, same⟩ := grows row held
    exact ⟨later, stored, same.trans own⟩
  · exact final_append kept.final
      (fun row held _ => ⟨row, (Table.mem_insert? stored).mpr (.inl held), rfl, rfl⟩) there

theorem Kept.saves {transfer : ExternalTransfer} {transfers : ExternalTransfers}
    {code : TransfersHandler TransfersResult} (kept : Kept env world)
    (permitted : Permits (world.procs i).trace (.saveTransfer transfer))
    (saved : world.shared.transfers.save? transfer = some transfers)
    (keeps : KeepsStatus world.shared transfer .nothing)
    (follows : Follows env (world.procs i).trace code) :
    Kept env
      { shared :=
          { world.shared with transfers, outcomes := world.shared.outcomes ++ outcomeOf transfer }
        procs := Function.update world.procs i ⟨(world.procs i).trace, code⟩ } := by
  obtain ⟨unasked, loaded, known, same⟩ := permitted
  obtain ⟨row, held, own⟩ := kept.loaded i loaded known
  have stored := ExternalTransfers.save?_spec saved
  have matching : SameTransfer row transfer :=
    ⟨own.id.trans same.id.symm, own.transactionId.trans same.transactionId.symm,
      own.partnerRef.trans same.partnerRef.symm⟩
  have grows : Grows world.shared.transfers transfers := save_grows saved held matching
  have there : transfer ∈ transfers :=
    (Table.mem_update? stored).mpr (.inr ⟨rfl, row, held, matching.id⟩)
  refine kept.moves rfl grows ?_ follows ?_ ?_ ?_
  · rintro transactionId ⟨-, asking, asked, -⟩
    simp [unasked] at asked
  · intro _ asking asked
    simp [unasked] at asked
  · intro loaded known
    obtain ⟨row, held, own⟩ := kept.loaded i loaded known
    obtain ⟨later, stored, same⟩ := grows row held
    exact ⟨later, stored, same.trans own⟩
  · refine final_append kept.final (fun other member settled => ?_) there
    by_cases sameId : other.id = transfer.id
    · refine ⟨transfer, there, sameId.symm, ?_⟩
      exact ((keeps other member sameId).resolve_left settled).symm
    · exact ⟨other, (Table.mem_update? stored).mpr (.inl ⟨member, sameId⟩), rfl, rfl⟩

theorem Kept.asks {asking : Option Asking} {code : TransfersHandler TransfersResult}
    {asked : List Uuid} (kept : Kept env world)
    (own : asked = (asking.map Asking.transactionId).toList)
    (unasked : (world.procs i).trace.asking = none)
    (attempted : (world.procs i).trace.attempted = false)
    (fresh : ∀ own ∈ asking, (∀ row ∈ world.shared.transfers.table.rows,
        row.transactionId ≠ own.transactionId) ∧
      ∀ j, j ≠ i → ¬(world.procs j).Holds own.transactionId)
    (follows : Follows env { (world.procs i).trace with asking } code) :
    Kept env
      { shared := { world.shared with asked := world.shared.asked ++ asked }
        procs := Function.update world.procs i
          ⟨{ (world.procs i).trace with asking }, code⟩ } where
  once transactionId := by
    subst own
    rw [List.count_append]
    cases asking with
    | none => exact kept.once transactionId
    | some own =>
      by_cases same : own.transactionId = transactionId
      · subst same
        have never : own.transactionId ∉ world.shared.asked := by
          intro member
          obtain ⟨unrecorded, alone⟩ := fresh own rfl
          rcases kept.known _ member with ⟨row, held, equal⟩ | ⟨j, held⟩
          · exact unrecorded row held equal
          · by_cases self : j = i
            · subst self
              obtain ⟨-, other, known, -⟩ := held
              simp [unasked] at known
            · exact alone j self held
        simp [List.count_eq_zero_of_not_mem never]
      · simpa [List.count_singleton, same] using kept.once transactionId
  known transactionId member := by
    subst own
    rcases List.mem_append.mp member with earlier | own
    · rcases kept.known transactionId earlier with recorded | ⟨j, held⟩
      · exact .inl recorded
      · by_cases self : j = i
        · subst self
          obtain ⟨-, other, known, -⟩ := held
          simp [unasked] at known
        · exact .inr ⟨j, by simpa [Function.update_of_ne self] using held⟩
    · obtain ⟨own, rfl, rfl⟩ : ∃ own, asking = some own ∧ own.transactionId = transactionId := by
        simpa using own
      exact .inr ⟨i, by simp [TransfersProcess.Holds, attempted]⟩
  follows := forall_update (fun proc : TransfersProcess => Follows env proc.trace proc.code)
    follows kept.follows
  recorded := by
    refine forall_update (fun proc : TransfersProcess => proc.trace.attempted = true →
      ∀ asking ∈ proc.trace.asking, ∃ row ∈ world.shared.transfers,
        row.transactionId = asking.transactionId ∧
          row.partnerRef = asking.submission.partnerRef) ?_ kept.recorded
    simp [attempted]
  loaded := forall_update (fun proc : TransfersProcess => ∀ transfer ∈ proc.trace.loaded,
    ∃ row ∈ world.shared.transfers, SameTransfer row transfer) (kept.loaded i) kept.loaded
  final := kept.final

theorem Kept.step {after : World I TransfersState TransfersProcess} (kept : Kept env world)
    (allowed : InTurn world i choice)
    (fired : (transfersService env).fire world i choice = some after) : Kept env after := by
  obtain ⟨shared, proc, stepped, rfl⟩ := Machine.fire_eq_some.mp fired
  obtain ⟨op, next, reply, code, performed, rfl⟩ := transfersService_step stepped
  have followed := kept.follows i
  have loads := kept.loaded i
  rw [code] at followed
  obtain ⟨permitted, later⟩ := followed
  have follows := later reply _ rfl
  rw [InTurn, show world.procs i = ⟨(world.procs i).trace, .perform op next⟩ by rw [← code]]
    at allowed
  cases op with
  | initiate config data =>
    obtain rfl := performed_initiate performed
    refine kept.asks ?_ permitted.1 permitted.2 ?_ follows
    · cases Uuid.parse data.transactionId <;> rfl
    · intro own known
      obtain ⟨transactionId, parsed, rfl⟩ := Option.map_eq_some_iff.mp known
      exact allowed transactionId parsed
  | insertTransfer transfer =>
    rcases performed_insert performed with
      ⟨rfl, rfl, refused⟩ | ⟨createdAt, saved, transfers, inserted, rfl⟩
    · refine kept.quiet follows rfl (.inr ?_) loads
      by_contra asked
      exact refused (allowed (Option.isSome_iff_ne_none.mpr asked))
    · exact kept.inserts permitted inserted follows
  | saveTransfer transfer =>
    rcases performed_save performed with rfl | ⟨rfl, transfers, saved, rfl⟩
    · exact kept.quiet follows rfl (.inl rfl) loads
    · exact kept.saves permitted saved allowed follows
  | _ =>
    obtain ⟨rfl, asking, attempted, loaded⟩ :=
      performed_read env (world.procs i).trace performed trivial
    refine kept.quiet follows asking (.inl attempted) fun transfer known => ?_
    exact (loaded transfer known).elim (loads transfer) fun there => ⟨transfer, there, .refl _⟩

end Step

variable [DecidableEq I]

-- The partner is asked in turn, every insert after an answer goes through and no save overtakes
-- another one.
theorem partner_asked_once (env : PartnerEnv) (calls : I → TransfersCall)
    (world : World I TransfersState TransfersProcess)
    (reached : (transfersService env).Reaches InTurn (freshTransfers env calls) world) :
    AskedOnce world :=
  (reached.invariant (Kept env) (.initial calls) fun _ _ _ _ kept allowed fired =>
    kept.step allowed fired).askedOnce

/-! ## Two calls at MoMo -/

instance (world : World I TransfersState TransfersProcess) [Fintype I] (i : I)
    (choice : TransfersChoice) : Decidable (InTurn world i choice) := by
  unfold InTurn
  split <;> infer_instance

instance (s : TransfersState) : Decidable (OutcomesFinal s) :=
  inferInstanceAs (Decidable (∀ _ ∈ s.outcomes, _))

def sampleInitiate : TransfersCall :=
  .initiate
    { transactionId := Transactions.alice
      partnerCode := "MOMO"
      accountNo := "0912345678"
      amount := 100
      currency := "VND"
      note := ""
      transferType := "topup" }

def samplePair (first second : TransfersCall) : Bool → TransfersCall
  | false => first
  | true => second

def oneAfter (i : Bool) (choices : List TransfersChoice) : List (Bool × TransfersChoice) :=
  choices.map (i, ·)

/-- No row is found and MoMo accepts. -/
def sampleAccepted (uuid : String) : List TransfersChoice :=
  [.nothing, .digits "1", .answer { reply := .response 200 (resultCode "9000"), now := 1, uuid }]

def checkOf (uuid : String) : TransfersCall :=
  .check { partnerCode := "MOMO", partnerRef := "MOMO-1-" ++ uuid }

/-- The row is found and MoMo says the code. -/
def sampleChecked (code : String) : List TransfersChoice :=
  [.nothing, .reply (.response 200 (resultCode code))]

theorem partner_asked_once_settled :
    ∃ world, (transfersService samplePartners).run
        (freshTransfers samplePartners (samplePair sampleInitiate (checkOf "a")))
        (oneAfter false (sampleAccepted "a" ++ [.createdAt 1]) ++
          oneAfter true (sampleChecked "0" ++ [.nothing])) = some world ∧
      world.shared.outcomes = [(0, .settled)] ∧ AskedOnce world := by
  have reached : ((transfersService samplePartners).checkedRun InTurn
      (freshTransfers samplePartners (samplePair sampleInitiate (checkOf "a")))
      (oneAfter false (sampleAccepted "a" ++ [.createdAt 1]) ++
        oneAfter true (sampleChecked "0" ++ [.nothing]))).map
          (fun world => world.shared.outcomes) = some [(0, .settled)] := by
    decide +kernel
  obtain ⟨world, ran, outcomes⟩ := Option.map_eq_some_iff.mp reached
  have runs := Machine.Runs.checked .nil ran
  exact ⟨world, runs.run, outcomes, partner_asked_once samplePartners _ world runs.reaches⟩

theorem partner_asked_twice :
    (¬∀ world, (transfersService samplePartners).Reaches (fun _ _ _ => True)
        (freshTransfers samplePartners (samplePair sampleInitiate sampleInitiate)) world →
      world.shared.asked.count Transactions.aliceId ≤ 1) ∧
    (¬∀ world, (transfersService samplePartners).Reaches (fun _ _ _ => True)
        (freshTransfers samplePartners (samplePair sampleInitiate sampleInitiate)) world →
      ∀ i, (world.procs i).finished = true → ∀ asking ∈ (world.procs i).trace.asking,
        asking.submission.status = .submitted → ∃ row ∈ world.shared.transfers.table.rows,
          row.transactionId = asking.transactionId) ∧
    ¬∀ world, (transfersService samplePartners).Reaches (fun _ _ _ => True)
        { shared := sampleTransfers
          procs := (freshTransfers samplePartners
            (samplePair (.check sampleCheck) (.check sampleCheck))).procs } world →
      OutcomesFinal world.shared := by
  refine ⟨?_, ?_, ?_⟩
  · -- both find no row before either inserts one
    exact Machine.not_always
      (oneAfter false (sampleAccepted "a") ++ oneAfter true (sampleAccepted "b")) (by decide +kernel)
  · -- the insert fails after MoMo has accepted
    exact Machine.not_always (oneAfter false (sampleAccepted "a" ++ [.fails])) (by decide +kernel)
  · -- the second check has loaded the row before the first one settles it
    exact Machine.not_always
      (oneAfter false (sampleChecked "0") ++ oneAfter true (sampleChecked "400") ++
        oneAfter false [.nothing] ++ oneAfter true [.nothing]) (by decide +kernel)

end Kufi.OutsidePayment

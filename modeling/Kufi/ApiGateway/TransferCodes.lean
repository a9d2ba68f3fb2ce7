import Kufi.ApiGateway.StepUpRuns
import Kufi.Shared.Matching
import Kufi.Transactions.CreationSteps

set_option autoImplicit false

/-!
# One-time codes of transfers

Calls at the gateway and the auth service and the transfers they lead to run
here interleaved, from the code that is issued to the row that is committed. The
log has the codes issued and the transfers committed, in this order.
-/

namespace Kufi.ApiGateway

open Shared Kufi.Auth Kufi.Wire Kufi.Transactions

inductive CodeEvent where
  | issued (userId otpCode : String) (expiresAt : Time)
  | committed (transactionId : Nat) (fromUserId otpCode : String) (committedAt : Time)
  deriving DecidableEq

structure TransferState where
  auth : AuthTables
  tables : Tables
  log : List CodeEvent

inductive TransferProcess where
  -- a call, with the code that it has drawn last
  | calling (otpCode : String) (code : GatewayHandler WalletResult)
  | serving (request : CreateTransferRequest) (creation : Creation)
  | finished

inductive TransferChoice where
  | gateway (choice : GatewayChoice)
  | service (answers : Answers)

def drawn (otpCode : String) : (op : GatewayOp) → op.Reply → String
  | .auth .randomCode, otpCode => otpCode
  | _, _ => otpCode

def issuedBy (otpCode : String) : (op : GatewayOp) → op.Reply → List CodeEvent
  | .auth (.insertOtp row), true =>
    if row.purpose = .transfer then [.issued row.userId otpCode row.expiresAt] else []
  | _, _ => []

/-- The row that a step commits. -/
def committedBy (env : Env) (request : CreateTransferRequest) (creation : Creation)
    (answers : Answers) (s : Tables) : List CodeEvent :=
  match creation with
  | .insert (.transfer req) =>
    match insertTransfer env answers.persistedAt req s with
    | .ok (persisted, _) =>
      [.committed persisted.transaction.id req.fromUserId request.otpCode answers.persistedAt]
    | .error _ => []
  | _ => []

/-- A transfer goes on in the transaction service; other movements are not followed there. -/
def served (env : Env) : Movement → TransferProcess
  | .transfer request =>
    match validateCreateTransfer env request with
    | .ok req => .serving request (.source (.transfer req))
    | .error _ => .finished
  | _ => .finished

def transfers (env : Env) : Machine TransferState TransferProcess TransferChoice where
  step s
    | .calling _ (.perform (.submit movement) _), _ => some (s, served env movement)
    | .calling otpCode (.perform op next), .gateway choice =>
      (performGateway op choice s.auth).map fun result =>
        ({ s with auth := result.2, log := s.log ++ issuedBy otpCode op result.1 },
          .calling (drawn otpCode op result.1) (next result.1))
    | .serving request creation, .service answers =>
      (creation.step env s.tables answers).map fun after =>
        ({ s with
            tables := after.1
            log := s.log ++ committedBy env request creation answers s.tables },
          .serving request after.2)
    | _, _ => none

/-! ## Codes and transfers -/

def CodeEvent.IsTransfer : CodeEvent → Prop
  | .issued _ _ _ => False
  | .committed _ _ _ _ => True

/-- The code was issued to the payer, is the one presented and has not expired. -/
def CodeEvent.Pays : CodeEvent → CodeEvent → Prop
  | .issued userId otpCode expiresAt, .committed _ fromUserId presented committedAt =>
    userId = fromUserId ∧ otpCode = presented ∧ committedAt < expiresAt
  | _, _ => False

instance : DecidablePred CodeEvent.IsTransfer
  | .issued _ _ _ => .isFalse id
  | .committed _ _ _ _ => .isTrue trivial

instance : DecidableRel CodeEvent.Pays
  | .issued _ _ _, .committed _ _ _ _ => inferInstanceAs (Decidable (_ ∧ _))
  | .issued _ _ _, .issued _ _ _ => .isFalse id
  | .committed _ _ _ _, _ => .isFalse id

/-- The log has the transfer that this row is of. -/
def TransferState.Logged (s : TransferState) (transactionId : Nat) (fromUserId : Uuid) : Prop :=
  ∃ payer otpCode committedAt, .committed transactionId payer otpCode committedAt ∈ s.log ∧
    Uuid.parse payer = some fromUserId

/-- Every transfer committed since the start has consumed a code of its own. -/
structure CodesConsumed (start : Tables) (s : TransferState) : Prop where
  logged : ∀ tx ∈ s.tables.transactions, start.transactions.next ≤ tx.id →
    s.Logged tx.id tx.fromUserId
  matched : Matched CodeEvent.IsTransfer CodeEvent.Pays s.log

variable {I : Type}

/-- A transfer that is committed presents a code of the payer that has not expired and that no
transfer has presented since it was issued. -/
def FreshCode (env : Env) (world : World I TransferState TransferProcess) (i : I)
    (choice : TransferChoice) : Prop :=
  match world.procs i, choice with
  | .serving request creation, .service answers =>
    ∀ transfer ∈ committedBy env request creation answers world.shared.tables,
      Unspent CodeEvent.IsTransfer CodeEvent.Pays world.shared.log transfer
  | _, _ => True

instance (env : Env) (world : World I TransferState TransferProcess) (i : I)
    (choice : TransferChoice) : Decidable (FreshCode env world i choice) := by
  unfold FreshCode
  split <;> infer_instance

/-! ## Steps -/

section Steps

variable {env : Env} {start : Tables} {s : TransferState}

/-- A process that serves works on a transfer and holds rows that are stored. -/
structure Serves (s : Tables) (creation : Creation) : Prop where
  transfer : ∀ work, creation.request? = some work → ∃ req, work = .transfer req
  stored : ∀ tx, creation.entity? = some tx → s.HasTerms tx.terms

def TransferProcess.Serves (s : Tables) : TransferProcess → Prop
  | .serving _ creation => ApiGateway.Serves s creation
  | _ => True

theorem served_serves (movement : Movement) : (served env movement).Serves s.tables := by
  cases movement with
  | transfer request =>
    unfold served
    dsimp only
    generalize validateCreateTransfer env request = valid
    cases valid with
    | error error => trivial
    | ok req =>
      have fresh : ApiGateway.Serves s.tables (.source (.transfer req)) := by
        constructor
        · intro work own
          exact ⟨req, (Option.some.inj own).symm⟩
        · intro tx own
          cases own
      exact fresh
  | topup request => trivial
  | withdrawal request => trivial

/-- A code that is issued leaves the transfers as they are. -/
theorem CodesConsumed.issue (consumed : CodesConsumed start s) {auth : AuthTables}
    {events : List CodeEvent} (codes : ∀ event ∈ events, ¬event.IsTransfer) :
    CodesConsumed start { s with auth := auth, log := s.log ++ events } where
  logged tx held new := by
    obtain ⟨payer, otpCode, committedAt, member, parsed⟩ := consumed.logged tx held new
    exact ⟨payer, otpCode, committedAt, List.mem_append_left _ member, parsed⟩
  matched := by
    induction events using List.reverseRecOn with
    | nil => simpa using consumed.matched
    | append_singleton events event ih =>
      rw [← List.append_assoc]
      exact (ih fun other member => codes other (by simp [member])).free (codes event (by simp))

theorem issuedBy_codes (otpCode : String) (op : GatewayOp) (reply : op.Reply) :
    ∀ event ∈ issuedBy otpCode op reply, ¬event.IsTransfer := by
  unfold issuedBy
  split
  · split
    · intro event member
      rw [List.mem_singleton.mp member]
      exact id
    · exact nofun
  · exact nofun

/-- A step either commits the transfer, which is then in the log, or adds no row. -/
theorem committed_cases {request : CreateTransferRequest} {creation next : Creation}
    {answers : Answers} {tables after : Tables} (serves : Serves tables creation)
    (stepped : creation.step env tables answers = some (after, next)) :
    (committedBy env request creation answers tables = [] ∧
      ∀ row ∈ after.transactions, tables.HasTerms row.terms) ∨
    ∃ (req : TransferRequest) (tx : TransactionEntity),
      committedBy env request creation answers tables =
        [.committed tx.id req.fromUserId request.otpCode answers.persistedAt] ∧
      Uuid.parse req.fromUserId = some tx.fromUserId ∧
      ∀ row ∈ after.transactions, tables.HasTerms row.terms ∨ row.terms = tx.terms := by
  by_cases inserts : ∃ work, creation = .insert work
  · obtain ⟨work, rfl⟩ := inserts
    obtain ⟨req, same⟩ := serves.transfer _ rfl
    cases work with
    | topup _ _ => cases same
    | withdrawal _ _ => cases same
    | transfer req =>
      dsimp only [Creation.step, Prepared.insert] at stepped
      cases done : insertTransfer env answers.persistedAt req tables with
      | error error =>
        rw [done] at stepped
        obtain ⟨rfl, _⟩ := Prod.mk.inj (Option.some.inj stepped)
        exact .inl ⟨by simp only [committedBy, done], fun row member => ⟨row, member, rfl⟩⟩
      | ok result =>
        rw [done] at stepped
        obtain ⟨rfl, _⟩ := Prod.mk.inj (Option.some.inj stepped)
        refine .inr ⟨req, result.1.transaction, by simp only [committedBy, done],
          insertTransfer_payer done, fun row member => ?_⟩
        obtain ⟨entity, added⟩ := (insertTransfer_inserted done).row
        rcases (Table.mem_insert? added).mp member with old | rfl
        · exact .inl ⟨row, old, rfl⟩
        · exact .inr rfl
  · refine .inl ⟨?_, fun row member => ?_⟩
    · unfold committedBy
      split
      next req => exact absurd ⟨_, rfl⟩ inserts
      next => rfl
    · rcases (Creation.step_moves stepped).origin serves.stored member with old | ⟨work, own, _⟩
      · exact old
      · exact absurd ⟨work, own⟩ inserts

theorem Serves.next {creation next : Creation} {answers : Answers} {tables after : Tables}
    (serves : Serves tables creation)
    (stepped : creation.step env tables answers = some (after, next)) : Serves after next := by
  have moves := Creation.step_moves stepped
  exact ⟨fun work own => serves.transfer work (moves.request own),
    fun tx own => moves.entity serves.stored own⟩

theorem CodesConsumed.commit (consumed : CodesConsumed start s) {request : CreateTransferRequest}
    {creation next : Creation} {answers : Answers} {after : Tables}
    (serves : Serves s.tables creation)
    (stepped : creation.step env s.tables answers = some (after, next))
    (fresh : ∀ transfer ∈ committedBy env request creation answers s.tables,
      Unspent CodeEvent.IsTransfer CodeEvent.Pays s.log transfer) :
    CodesConsumed start
      { s with
        tables := after
        log := s.log ++ committedBy env request creation answers s.tables } := by
  have kept {row : TransactionEntity} (old : s.tables.HasTerms row.terms)
      (new : start.transactions.next ≤ row.id) (events : List CodeEvent) :
      ∃ payer otpCode committedAt,
        CodeEvent.committed row.id payer otpCode committedAt ∈ s.log ++ events ∧
          Uuid.parse payer = some row.fromUserId := by
    obtain ⟨earlier, held, same⟩ := old
    have sameId : earlier.id = row.id := congrArg Terms.id same
    have sameUser : earlier.fromUserId = row.fromUserId := congrArg Terms.fromUserId same
    obtain ⟨payer, otpCode, committedAt, member, parsed⟩ :=
      consumed.logged earlier held (sameId ▸ new)
    rw [sameId] at member
    exact ⟨payer, otpCode, committedAt, List.mem_append_left _ member, sameUser ▸ parsed⟩
  rcases committed_cases serves stepped with ⟨none, rows⟩ | ⟨req, tx, one, payer, rows⟩
  · refine ⟨fun row member new => kept (rows row member) new _, ?_⟩
    rw [none, List.append_nil]
    exact consumed.matched
  · constructor
    · intro row member new
      rcases rows row member with old | same
      · exact kept old new _
      · have sameId : row.id = tx.id := congrArg Terms.id same
        have sameUser : row.fromUserId = tx.fromUserId := congrArg Terms.fromUserId same
        refine ⟨req.fromUserId, request.otpCode, answers.persistedAt, ?_, ?_⟩
        · rw [one, sameId]
          exact List.mem_append_right _ (List.mem_singleton.mpr rfl)
        · rw [sameUser, payer]
    · rw [one]
      exact consumed.matched.snoc (fresh _ (by rw [one]; exact List.mem_singleton.mpr rfl))

end Steps

/-! ## Runs -/

section Runs

variable {env : Env} {start world : World I TransferState TransferProcess} {i : I}
  {choice : TransferChoice} {shared : TransferState} {process : TransferProcess}

theorem TransferProcess.Serves.keep {s after : Tables} {creation next : Creation}
    {answers : Answers} {own : TransferProcess} (serves : own.Serves s) (acts : ApiGateway.Serves s creation)
    (stepped : creation.step env s answers = some (after, next)) : own.Serves after := by
  cases own with
  | serving request other =>
    exact ⟨serves.transfer, fun tx held =>
      (Creation.step_moves stepped).hasTerms acts.stored (serves.stored tx held)⟩
  | calling otpCode code => trivial
  | finished => trivial

theorem CodesConsumed.step {tables : Tables} (consumed : CodesConsumed tables world.shared)
    (serves : ∀ i, (world.procs i).Serves world.shared.tables) (fresh : FreshCode env world i choice)
    (stepped : (transfers env).step world.shared (world.procs i) choice = some (shared, process)) :
    CodesConsumed tables shared ∧ process.Serves shared.tables ∧
      ∀ j, j ≠ i → (world.procs j).Serves shared.tables := by
  have ownServes := serves i
  unfold FreshCode at fresh
  generalize world.procs i = own at stepped ownServes fresh
  cases own with
  | finished => cases stepped
  | calling otpCode code =>
    cases code with
    | done result => cases stepped
    | perform op next =>
      cases op with
      | submit movement =>
        cases choice <;> cases stepped <;>
          exact ⟨consumed, served_serves movement, fun j _ => serves j⟩
      | _ =>
        cases choice with
        | service answers => cases stepped
        | gateway choice =>
          obtain ⟨⟨reply, auth⟩, performed, same⟩ := Option.map_eq_some_iff.mp stepped
          obtain ⟨rfl, rfl⟩ := Prod.mk.inj same
          exact ⟨consumed.issue (issuedBy_codes otpCode _ reply), trivial, fun j _ => serves j⟩
  | serving request creation =>
    cases choice with
    | gateway choice => cases stepped
    | service answers =>
      obtain ⟨⟨after, later⟩, moved, same⟩ := Option.map_eq_some_iff.mp stepped
      obtain ⟨rfl, rfl⟩ := Prod.mk.inj same
      exact ⟨consumed.commit ownServes moved fresh, ownServes.next moved,
        fun j _ => (serves j).keep ownServes moved⟩

end Runs

/-! ## Sample runs -/

def alicePays (otpCode : String) : WalletCall :=
  .createTransfer ⟨alice, none, none, none⟩
    { toUserId := some "bbbbbbbb-0000-4000-8000-000000000002"
      recipient := none
      amount := 40
      currency := "VND"
      memo := none
      otpCode := otpCode
      idempotencyKey := some "transfer"
      isExternal := none
      externalPartner := none
      externalAccountNo := none }

end Kufi.ApiGateway

import Kufi.ApiGateway.StepUpRuns

set_option autoImplicit false

/-!
# What a step-up is worth

What one operation does to the tables and the record, and from it what holds
after every run.
-/

namespace Kufi.ApiGateway

open Shared Shared.Text Kufi.Auth Kufi.Wire Kufi.Transactions

/-- Rows may be gone, and a new code may be stored. -/
structure Calm (before after : AuthTables) : Prop where
  tokens : ∀ row ∈ after.tokens, row ∈ before.tokens
  otps : ∀ row ∈ after.otps, row ∈ before.otps ∨
    row.id = before.nextOtp ∧ before.nextOtp < after.nextOtp
  next : before.nextOtp ≤ after.nextOtp

theorem Calm.refl (tables : AuthTables) : Calm tables tables :=
  ⟨fun _ => id, fun _ => .inl, le_rfl⟩

theorem Calm.filter (tables : AuthTables) (kept : AuthOtp → Bool) :
    Calm tables { tables with otps := tables.otps.filter kept } :=
  ⟨fun _ => id, fun _ member => .inl (List.mem_filter.mp member).1, le_rfl⟩

theorem Calm.keepRows (tables : AuthTables) (kept : AuthStepUpToken → Bool) :
    Calm tables { tables with tokens := tables.tokens.keepRows kept } :=
  ⟨fun _ member => (Table.mem_keepRows.mp member).1, fun _ => .inl, le_rfl⟩

theorem Calm.append (tables : AuthTables) {row : AuthOtp} (fresh : row.id = tables.nextOtp) :
    Calm tables { tables with otps := tables.otps ++ [row], nextOtp := tables.nextOtp + 1 } where
  tokens _ := id
  otps other member := by
    rcases List.mem_append.mp member with old | new
    · exact .inl old
    · rw [List.mem_singleton.mp new]
      exact .inr ⟨fresh, Nat.lt_succ_self _⟩
  next := Nat.le_succ _

/-- What an operation does to the state and to the trail of its call. -/
inductive Moved (s : StepUpState) (trail : Trail) : GatewayOp → StepUpState → Trail → Prop
  | issued {row saved : AuthStepUpToken} {tokens : Table AuthStepUpToken}
      (inserted : s.tables.tokens.insert? row = some (saved, tokens)) :
      Moved s trail (.auth (.insertToken row))
        { s with
          tables := { s.tables with tokens := tokens }
          issued := s.issued ++ [⟨saved, trail.factor⟩] }
        { trail with factor := none }
  | saved {row : AuthOtp} :
      Moved s trail (.auth (.saveOtp row))
        { s with tables := { s.tables with otps := AuthOtp.save s.tables.otps row } }
        (if row.usedAt = none then trail else { trail with factor := some row })
  | found {token : String} :
      Moved s trail (.auth (.findToken token)) s { trail with row := s.tables.tokens.byKey token }
  | submitted {movement : Movement} (answer : Option MovementAnswer) :
      Moved s trail (.submit movement) (s.record trail (.submit movement) answer) trail
  | calm {op : GatewayOp} {tables : AuthTables} {after : Trail} (calm : Calm s.tables tables)
      (row : after.row = trail.row) (factor : ∀ code ∈ after.factor, code ∈ trail.factor) :
      Moved s trail op { s with tables := tables } after

theorem moved_auth {s : StepUpState} {trail : Trail} {op : AuthOp} {choice : AuthChoice}
    {reply : op.Reply} {after : AuthTables}
    (performed : performAuth op choice s.tables = some (reply, after)) :
    Moved s trail (.auth op) { s.record trail (.auth op) reply with tables := after }
      (trail.advance (.auth op) reply) := by
  cases op with
  | insertToken row =>
    cases choice with
    | nothing =>
      dsimp only [performAuth] at performed
      split at performed
      next saved tokens inserted =>
        obtain ⟨rfl, _⟩ := Table.insert?_spec inserted
        cases performed
        exact .issued inserted
      next =>
        cases performed
        exact .calm (.refl _) rfl nofun
    | fails =>
      cases performed
      exact .calm (.refl _) rfl nofun
    | _ => cases performed
  | saveOtp row =>
    cases choice with
    | nothing =>
      cases performed
      exact .saved
    | fails =>
      cases performed
      exact .calm (.refl _) rfl fun _ => id
    | _ => cases performed
  | findToken token =>
    cases choice with
    | nothing =>
      cases performed
      exact .found
    | _ => cases performed
  | insertOtp row =>
    cases choice with
    | time now =>
      cases performed
      exact .calm (Calm.append s.tables rfl) rfl fun _ => id
    | fails =>
      cases performed
      exact .calm (.refl _) rfl fun _ => id
    | _ => cases performed
  | deleteToken tokenId =>
    cases choice with
    | nothing =>
      cases performed
      exact .calm (.keepRows _ _) rfl fun _ => id
    | fails =>
      cases performed
      exact .calm (.refl _) rfl fun _ => id
    | _ => cases performed
  | deleteExpiredTokens now =>
    cases choice with
    | nothing =>
      cases performed
      exact .calm (.keepRows _ _) rfl fun _ => id
    | fails =>
      cases performed
      exact .calm (.refl _) rfl fun _ => id
    | _ => cases performed
  | _ =>
    cases choice <;> cases performed <;>
      first
        | exact .calm (.refl _) rfl fun _ => id
        | exact .calm (.filter _ _) rfl fun _ => id

theorem moved {s : StepUpState} {trail : Trail} {op : GatewayOp} {choice : GatewayChoice}
    {reply : op.Reply} {after : AuthTables}
    (performed : performGateway op choice s.tables = some (reply, after)) :
    Moved s trail op { s.record trail op reply with tables := after } (trail.advance op reply) := by
  cases op with
  | auth op =>
    cases choice with
    | auth choice => exact moved_auth performed
    | _ => cases performed
  | submit movement =>
    cases choice with
    | answer answer =>
      cases performed
      exact .submitted reply
    | _ => cases performed
  | _ =>
    cases choice <;> cases performed
    exact .calm (.refl _) rfl fun _ => id

theorem heard {s after : AuthTables} {op : GatewayOp} {choice : GatewayChoice} {reply : op.Reply}
    (performed : performGateway op choice s = some (reply, after)) : Heard op reply := by
  cases op with
  | auth op =>
    cases choice with
    | auth choice =>
      cases op with
      | findOtp userId purpose deviceId now =>
        cases choice with
        | nothing =>
          cases performed
          exact fun row found => findOtp_usable found
        | _ => cases performed
      | findToken token =>
        cases choice with
        | nothing =>
          cases performed
          exact fun row found => Option.some.inj (Table.byKey_eq_some.mp found).2
        | _ => cases performed
      | _ => trivial
    | _ => cases performed
  | _ => trivial

/-! ## Movements and tokens -/

section Vouched

variable {env : GatewayEnv} {s after : StepUpState} {trail next : Trail} {op : GatewayOp}

def StepUpState.Issued (s : StepUpState) (row : AuthStepUpToken) : Prop :=
  ∃ token ∈ s.issued, token.row = row

structure Vouched (env : GatewayEnv) (s : StepUpState) : Prop where
  tokens : ∀ row ∈ s.tables.tokens, s.Issued row
  earned : ∀ token ∈ s.issued, token.Earned env
  done : ∀ a ∈ s.attempts, a.StepUp → a.faceVerified = some "true" ∨
    ∃ token ∈ s.issued, a.Presents token.row

theorem Vouched.stepUpDone (vouched : Vouched env s) : StepUpDone env s := by
  intro a member required
  rcases vouched.done a member required with face | ⟨token, issued, presents⟩
  · exact .inl face
  · exact .inr ⟨token, issued, presents, vouched.earned token issued⟩

theorem Moved.issued_mono (moved : Moved s trail op after next) :
    ∀ token ∈ s.issued, token ∈ after.issued := by
  cases moved with
  | issued inserted => exact fun token member => List.mem_append_left _ member
  | submitted => exact fun _ => id
  | saved | found | calm => exact fun _ => id

theorem Moved.row (moved : Moved s trail op after next) (vouched : Vouched env s)
    (known : ∀ row ∈ trail.row, s.Issued row) : ∀ row ∈ next.row, after.Issued row := by
  have mono := moved.issued_mono
  have kept (row : AuthStepUpToken) (member : row ∈ trail.row) : after.Issued row := by
    obtain ⟨token, issued, same⟩ := known row member
    exact ⟨token, mono token issued, same⟩
  cases moved with
  | issued inserted => exact kept
  | saved =>
    split
    · exact kept
    · exact kept
  | found => exact fun row held => vouched.tokens row (Table.byKey_eq_some.mp held).1
  | submitted => exact kept
  | calm calm row factor =>
    rw [row]
    exact kept

theorem Vouched.step (vouched : Vouched env s) (moved : Moved s trail op after next)
    (permitted : Permitted env trail op) (known : ∀ row ∈ trail.row, s.Issued row) :
    Vouched env after := by
  have mono := moved.issued_mono
  have still (a : Attempt) (member : a ∈ s.attempts) (required : a.StepUp) :
      a.faceVerified = some "true" ∨ ∃ token ∈ after.issued, a.Presents token.row :=
    (vouched.done a member required).imp id fun ⟨token, issued, presents⟩ =>
      ⟨token, mono token issued, presents⟩
  cases moved with
  | @issued row saved tokens inserted =>
    obtain ⟨rfl, _⟩ := Table.insert?_spec inserted
    constructor
    · intro other held
      rcases (Table.mem_insert? inserted).mp held with old | rfl
      · obtain ⟨token, issued, same⟩ := vouched.tokens other old
        exact ⟨token, mono token issued, same⟩
      · exact ⟨_, List.mem_append_right _ (List.mem_singleton.mpr rfl), rfl⟩
    · intro token held
      rcases List.mem_append.mp held with old | new
      · exact vouched.earned token old
      · rw [List.mem_singleton.mp new]
        exact permitted
    · exact still
  | saved => exact ⟨vouched.tokens, vouched.earned, still⟩
  | found => exact vouched
  | submitted =>
    refine ⟨vouched.tokens, vouched.earned, fun a member required => ?_⟩
    rcases List.mem_append.mp member with old | new
    · exact still a old required
    · obtain rfl := List.mem_singleton.mp new
      rcases permitted required with face | ⟨row, found, user, presented, unexpired⟩
      · exact .inl face
      · obtain ⟨token, issued, rfl⟩ := known row found
        exact .inr ⟨token, issued, found, user, presented, unexpired⟩
  | calm calm row factor =>
    exact ⟨fun row held => vouched.tokens row (calm.tokens row held), vouched.earned, still⟩

end Vouched

/-! ## Codes -/

section Codes

variable {I : Type} {s after : StepUpState} {trail next : Trail} {op : GatewayOp}

/-- No stored code of this id can be used again. -/
def Spent (tables : AuthTables) (id : Nat) : Prop :=
  id < tables.nextOtp ∧ ∀ row ∈ tables.otps, row.id = id → row.usedAt ≠ none

structure Spending (world : World I StepUpState WalletProcess) : Prop where
  rows : ∀ row ∈ world.shared.tables.otps, row.id < world.shared.tables.nextOtp
  once : CodesUsedOnce world.shared
  issued : ∀ token ∈ world.shared.issued, ∀ code ∈ token.factor, Spent world.shared.tables code.id
  held : ∀ i, ∀ code ∈ (world.procs i).trail.factor, Spent world.shared.tables code.id
  unissued : ∀ i, ∀ code ∈ (world.procs i).trail.factor, ∀ token ∈ world.shared.issued,
    ∀ other ∈ token.factor, other.id ≠ code.id
  single : ∀ i j, ∀ code ∈ (world.procs i).trail.factor, ∀ other ∈ (world.procs j).trail.factor,
    code.id = other.id → i = j

theorem Calm.spent {tables tables' : AuthTables} (calm : Calm tables tables') {id : Nat}
    (spent : Spent tables id) : Spent tables' id := by
  refine ⟨Nat.lt_of_lt_of_le spent.1 calm.next, fun row held same => ?_⟩
  rcases calm.otps row held with old | ⟨fresh, _⟩
  · exact spent.2 row old same
  · have bound := spent.1
    omega

theorem Calm.rows {tables tables' : AuthTables} (calm : Calm tables tables')
    (rows : ∀ row ∈ tables.otps, row.id < tables.nextOtp) :
    ∀ row ∈ tables'.otps, row.id < tables'.nextOtp := by
  intro row held
  rcases calm.otps row held with old | ⟨fresh, more⟩
  · exact Nat.lt_of_lt_of_le (rows row old) calm.next
  · omega

/-- A code that is spent is not the one that is saved. -/
theorem Spent.save {tables : AuthTables} {row : AuthOtp} {id : Nat} (spent : Spent tables id)
    (other : id ≠ row.id) : Spent { tables with otps := AuthOtp.save tables.otps row } id := by
  refine ⟨spent.1, fun stored held same => ?_⟩
  rcases AuthOtp.mem_save held with rfl | ⟨old, _⟩
  · exact absurd same.symm other
  · exact spent.2 stored old same

theorem Spent.ofSave {tables : AuthTables} {row stored : AuthOtp} (held : stored ∈ tables.otps)
    (rows : ∀ row ∈ tables.otps, row.id < tables.nextOtp) (same : stored.id = row.id)
    (used : row.usedAt ≠ none) :
    Spent { tables with otps := AuthOtp.save tables.otps row } row.id := by
  refine ⟨same ▸ rows stored held, fun other member own => ?_⟩
  rcases AuthOtp.mem_save member with rfl | ⟨_, different⟩
  · exact used
  · exact absurd own different

variable [DecidableEq I] {world : World I StepUpState WalletProcess} {i : I}
  {process : WalletProcess}

theorem factor_update {j : I} {code : AuthOtp}
    (member : code ∈ (Function.update world.procs i process j).trail.factor) :
    j = i ∧ code ∈ process.trail.factor ∨ j ≠ i ∧ code ∈ (world.procs j).trail.factor :=
  update_cases (fun process : WalletProcess => code ∈ process.trail.factor) member

/-- A step that consumes no code and issues no token. -/
theorem Spending.quiet (spending : Spending world) {tables : AuthTables} {attempts : List Attempt}
    (factor : ∀ code ∈ process.trail.factor, code ∈ (world.procs i).trail.factor)
    (rows : ∀ row ∈ tables.otps, row.id < tables.nextOtp)
    (spent : ∀ id, Spent world.shared.tables id → Spent tables id) :
    Spending
      { shared := { tables := tables, issued := world.shared.issued, attempts := attempts }
        procs := Function.update world.procs i process } := by
  have before (j : I) (code : AuthOtp)
      (member : code ∈ (Function.update world.procs i process j).trail.factor) :
      code ∈ (world.procs j).trail.factor := by
    rcases factor_update member with ⟨rfl, own⟩ | ⟨_, old⟩
    · exact factor code own
    · exact old
  exact
    { rows := rows
      once := spending.once
      issued := fun token member code own => spent _ (spending.issued token member code own)
      held := fun j code member => spent _ (spending.held j code (before j code member))
      unissued := fun j code member => spending.unissued j code (before j code member)
      single := fun j k code member other member' =>
        spending.single j k code (before j code member) other (before k other member') }

/-- The held code is exchanged for a token. -/
theorem Spending.issue (spending : Spending world) {tokens : Table AuthStepUpToken}
    {saved : AuthStepUpToken} (empty : process.trail.factor = none) :
    Spending
      { shared :=
          { world.shared with
            tables := { world.shared.tables with tokens := tokens }
            issued := world.shared.issued ++ [⟨saved, (world.procs i).trail.factor⟩] }
        procs := Function.update world.procs i process } := by
  have others (j : I) (code : AuthOtp)
      (member : code ∈ (Function.update world.procs i process j).trail.factor) :
      j ≠ i ∧ code ∈ (world.procs j).trail.factor := by
    rcases factor_update member with ⟨_, own⟩ | old
    · rw [empty] at own
      cases own
    · exact old
  refine
    { rows := spending.rows
      once := ?_
      issued := ?_
      held := fun j code member => spending.held j code (others j code member).2
      unissued := ?_
      single := fun j k code member other member' =>
        spending.single j k code (others j code member).2 other (others k other member').2 }
  · unfold CodesUsedOnce
    rw [List.filterMap_append]
    refine List.nodup_append.mpr ⟨spending.once, ?_, ?_⟩
    · cases (world.procs i).trail.factor <;> simp
    · intro id old id' new same
      subst same
      obtain ⟨token, member, own⟩ := List.mem_filterMap.mp old
      obtain ⟨other, factor, rfl⟩ := Option.map_eq_some_iff.mp own
      cases held : (world.procs i).trail.factor with
      | none => simp [held] at new
      | some code =>
        simp only [held, List.filterMap_cons, Option.map_some, List.filterMap_nil,
          List.mem_singleton] at new
        exact spending.unissued i code held token member other factor new
  · intro token member code own
    rcases List.mem_append.mp member with old | new
    · exact spending.issued token old code own
    · rw [List.mem_singleton.mp new] at own
      exact spending.held i code own
  · intro j code member token member' other own
    obtain ⟨different, held⟩ := others j code member
    rcases List.mem_append.mp member' with old | new
    · exact spending.unissued j code held token old other own
    · rw [List.mem_singleton.mp new] at own
      intro same
      exact different (spending.single j i code held other own same.symm)

/-- A code whose row is stored and unused is consumed. -/
theorem Spending.consume (spending : Spending world) {row stored : AuthOtp}
    (held : stored ∈ world.shared.tables.otps) (same : stored.id = row.id)
    (unused : stored.usedAt = none) (used : row.usedAt ≠ none)
    (factor : process.trail.factor = some row) :
    Spending
      { shared :=
          { world.shared with
            tables := { world.shared.tables with otps := AuthOtp.save world.shared.tables.otps row } }
        procs := Function.update world.procs i process } := by
  have different {id : Nat} (spent : Spent world.shared.tables id) : id ≠ row.id := by
    rintro rfl
    exact spent.2 stored held same unused
  have owner (j : I) (code : AuthOtp)
      (member : code ∈ (Function.update world.procs i process j).trail.factor) :
      j = i ∧ code = row ∨ j ≠ i ∧ code ∈ (world.procs j).trail.factor := by
    refine (factor_update member).imp_left fun ⟨own, mine⟩ => ⟨own, ?_⟩
    rw [factor] at mine
    exact (Option.some.inj mine).symm
  refine
    { rows := ?_
      once := spending.once
      issued := fun token member code own =>
        have spent := spending.issued token member code own
        spent.save (different spent)
      held := ?_
      unissued := ?_
      single := ?_ }
  · intro other member
    rcases AuthOtp.mem_save member with rfl | ⟨old, _⟩
    · exact same ▸ spending.rows stored held
    · exact spending.rows other old
  · intro j code member
    rcases owner j code member with ⟨_, rfl⟩ | ⟨_, old⟩
    · exact .ofSave held spending.rows same used
    · have spent := spending.held j code old
      exact spent.save (different spent)
  · intro j code member token issued other own
    rcases owner j code member with ⟨_, rfl⟩ | ⟨_, old⟩
    · exact different (spending.issued token issued other own)
    · exact spending.unissued j code old token issued other own
  · intro j k code member other member' equal
    rcases owner j code member with ⟨rfl, rfl⟩ | ⟨_, old⟩
    · rcases owner k other member' with ⟨rfl, _⟩ | ⟨_, old'⟩
      · rfl
      · exact absurd equal.symm (different (spending.held k other old'))
    · rcases owner k other member' with ⟨rfl, rfl⟩ | ⟨_, old'⟩
      · exact absurd equal (different (spending.held j code old))
      · exact spending.single j k code old other old' equal

theorem Spending.step (spending : Spending world) {choice : GatewayChoice} {op : GatewayOp}
    {rest : op.Reply → GatewayHandler WalletResult} (own : world.procs i = ⟨trail, .perform op rest⟩)
    (moved : Moved world.shared trail op after next) (ends : process.trail = next)
    (unused : SavesUnused world i choice) :
    Spending { shared := after, procs := Function.update world.procs i process } := by
  have trails : (world.procs i).trail = trail := by rw [own]
  cases moved with
  | issued inserted =>
    rw [← trails]
    exact spending.issue (by rw [ends])
  | @saved row =>
    unfold SavesUnused at unused
    rw [own] at unused
    obtain ⟨stored, held, same, free⟩ := unused
    split at ends
    · refine spending.quiet (by rw [ends, trails]; exact fun _ => id) ?_ fun id spent => spent.save ?_
      · intro other member
        rcases AuthOtp.mem_save member with rfl | ⟨old, _⟩
        · exact same ▸ spending.rows stored held
        · exact spending.rows other old
      · rintro rfl
        exact spent.2 stored held same free
    next used => exact spending.consume held same free used (by rw [ends])
  | found =>
    exact spending.quiet (by rw [ends, trails]; exact fun _ => id) spending.rows fun _ => id
  | submitted answer =>
    exact spending.quiet (by rw [ends, trails]; exact fun _ => id) spending.rows fun _ => id
  | calm calm row factor =>
    exact spending.quiet (by rw [ends, trails]; exact factor) (calm.rows spending.rows)
      fun _ spent => calm.spent spent

end Codes

/-! ## Runs -/

section Runs

variable {I : Type} {number : String → Wire.Num} {env : GatewayEnv}
  {world : World I StepUpState WalletProcess} {i : I} {choice : GatewayChoice}
  {shared : StepUpState} {process : WalletProcess}

theorem wallets_step
    (stepped : (wallets).step world.shared (world.procs i) choice = some (shared, process)) :
    ∃ trail op rest reply, world.procs i = ⟨trail, .perform op rest⟩ ∧ Heard op reply ∧
      Moved world.shared trail op shared (trail.advance op reply) ∧
      process = ⟨trail.advance op reply, rest reply⟩ := by
  generalize world.procs i = own at stepped
  obtain ⟨trail, code⟩ := own
  cases code with
  | done _ => cases stepped
  | perform op rest =>
    obtain ⟨⟨reply, tables⟩, performed, same⟩ := Option.map_eq_some_iff.mp stepped
    obtain ⟨rfl, rfl⟩ := Prod.mk.inj same
    exact ⟨trail, op, rest, reply, rfl, heard performed, moved performed, rfl⟩

/-- A process in a run: what it has found was issued, and its code goes on as its trail permits. -/
structure Follows (env : GatewayEnv) (s : StepUpState) (process : WalletProcess) : Prop where
  known : ∀ row ∈ process.trail.row, s.Issued row
  tracks : TracksTrail env process.trail (fun _ _ => True) process.code

theorem Vouched.fire (vouched : Vouched env world.shared)
    (follows : ∀ i, Follows env world.shared (world.procs i))
    (stepped : (wallets).step world.shared (world.procs i) choice = some (shared, process)) :
    Vouched env shared ∧ Follows env shared process ∧
      ∀ j, j ≠ i → Follows env shared (world.procs j) := by
  obtain ⟨trail, op, rest, reply, own, heard, moved, rfl⟩ := wallets_step stepped
  have ownFollows := follows i
  rw [own] at ownFollows
  obtain ⟨known, permitted, later⟩ := ownFollows
  refine ⟨vouched.step moved permitted known, ⟨moved.row vouched known, later reply _ ⟨rfl, heard⟩⟩,
    fun j _ => ⟨fun row member => ?_, (follows j).tracks⟩⟩
  obtain ⟨token, issued, same⟩ := (follows j).known row member
  exact ⟨token, moved.issued_mono token issued, same⟩

structure Unused (s : StepUpState) : Prop where
  otps : s.tables.otps = []
  tokens : s.tables.tokens.rows = []
  issued : s.issued = []
  attempts : s.attempts = []

theorem movements_stepped_up [DecidableEq I] (calls : I → WalletCall)
    {start : World I StepUpState WalletProcess} (unused : Unused start.shared)
    (called : ∀ i, start.procs i = (calls i).process number env)
    (reached : (wallets).Reaches (fun _ _ _ => True) start world) :
    StepUpDone env world.shared ∧
      ((wallets).Reaches SavesUnused start world → CodesUsedOnce world.shared) := by
  constructor
  · have initial : Vouched env start.shared :=
      { tokens := by simp [Table.mem_def, unused.tokens]
        earned := by simp [unused.issued]
        done := by simp [unused.attempts] }
    have follows (i : I) : Follows env start.shared (start.procs i) := by
      rw [called i]
      exact ⟨nofun, WalletCall.tracks (calls i)⟩
    obtain ⟨vouched, _⟩ := reached.assertions (Vouched env)
      (fun s _ process => Follows env s process) ⟨initial, follows⟩
      fun world i choice shared process vouched follows _ stepped => vouched.fire follows stepped
    exact vouched.stepUpDone
  · intro guarded
    have none (i : I) : (start.procs i).trail.factor = none := by rw [called i]; rfl
    have initial : Spending start :=
      { rows := by simp [unused.otps]
        once := by simp [CodesUsedOnce, unused.issued]
        issued := by simp [unused.issued]
        held := by simp [none]
        unissued := by simp [none]
        single := by simp [none] }
    have spending : Spending world :=
      guarded.invariant Spending initial fun world i choice after spending allowed fired => by
        obtain ⟨shared, process, stepped, rfl⟩ := Machine.fire_eq_some.mp fired
        obtain ⟨trail, op, rest, reply, own, _, moved, rfl⟩ := wallets_step stepped
        exact spending.step own moved rfl allowed
    exact spending.once

end Runs

/-! ## Sample runs -/

section Decidable

instance (a : Attempt) : Decidable a.StepUp :=
  inferInstanceAs (Decidable (∃ risk ∈ a.risk, risk.requiresStepUp = true))

instance (a : Attempt) (row : AuthStepUpToken) : Decidable (a.Presents row) :=
  decidable_of_iff (a.row = some row ∧ row.userId = a.movement.userId ∧
      row.token = trim (a.stepUpToken.getD "") ∧ a.verifiedAt < row.expiresAt)
    ⟨fun ⟨found, user, presented, unexpired⟩ => ⟨found, user, presented, unexpired⟩,
      fun ⟨found, user, presented, unexpired⟩ => ⟨found, user, presented, unexpired⟩⟩

instance (s : StepUpState) : Decidable (TokenPresented s) :=
  inferInstanceAs (Decidable (∀ a ∈ s.attempts, _))

instance (s : StepUpState) : Decidable (FactorPassed s) :=
  inferInstanceAs (Decidable (∀ a ∈ s.attempts, a.StepUp → ∀ token ∈ s.issued, _))

instance (s : StepUpState) : Decidable (TokensUsedOnce s) := by
  unfold TokensUsedOnce
  infer_instance

instance (s : StepUpState) : Decidable (CodesUsedOnce s) := by
  unfold CodesUsedOnce
  infer_instance

instance {I : Type} (world : World I StepUpState WalletProcess) (i : I) (choice : GatewayChoice) :
    Decidable (SavesUnused world i choice) := by
  unfold SavesUnused
  split <;> infer_instance

end Decidable

def noTokens (calls : List WalletCall) : World (Fin calls.length) StepUpState WalletProcess where
  shared := { tables := ⟨[], 0, .empty⟩, issued := [], attempts := [] }
  procs i := calls[i].process (fun _ => .nan) sampleGateway

def highRisk : RiskResponse where
  requiresStepUp := true
  reasons := ["amount_over_hard_threshold"]
  verdict := "STEP_UP"
  probability := .finite 1
  threshold := .finite 0
  modelVersion := "1"

def pay (key : String) (faceVerified stepUpToken : Option String) : WalletCall :=
  .createTransfer ⟨"an", none, faceVerified, stepUpToken⟩
    { toUserId := some "binh"
      recipient := none
      amount := 60000000
      currency := "VND"
      memo := none
      otpCode := "123456"
      idempotencyKey := some key
      isExternal := none
      externalPartner := none
      externalAccountNo := none }

def asksForToken (method otpCode : Option String) : WalletCall :=
  .issueStepUpToken ⟨"an", none, method, otpCode⟩

def anFound : GatewayChoice := .auth (.user (some (some "an@kufi.vn")))

/-- A token is drawn and saved. -/
def saveToken (token : String) : List GatewayChoice :=
  [.auth (.text token), .auth (.time 1), .auth .nothing]

/-- A code is drawn, stored and mailed. -/
def mailCode : List GatewayChoice :=
  [anFound, .auth (.code 0), .auth .nothing, .auth (.time 0), .auth (.time 0), .auth .nothing]

def findCode : List GatewayChoice := [anFound, .auth (.time 1), .auth .nothing]

def useCode : List GatewayChoice := [.auth (.time 1), .auth .nothing]

/-- The step-up token is verified and the transfer passed on. -/
def payWithToken : List GatewayChoice :=
  [.risk (some highRisk), .reached true, .auth .nothing, .auth (.time 2), .reached true, .answer none]

def steps {I : Type} (i : I) (choices : List GatewayChoice) : List (I × GatewayChoice) :=
  choices.map (i, ·)

/-- A code is mailed and exchanged for the token with which the transfer is made. -/
theorem movements_stepped_up_mailed :
    ∃ world, (wallets).run
        (noTokens [asksForToken (some "otp_email") none, asksForToken (some "otp_email") (some "100000"),
          pay "t1" none (some "token")])
        (steps 0 mailCode ++ steps 1 (findCode ++ useCode ++ saveToken "token") ++
          steps 2 payWithToken) = some world ∧
      world.shared.attempts.length = 1 ∧ StepUpDone sampleGateway world.shared ∧
      CodesUsedOnce world.shared := by
  have reached : ((wallets).checkedRun SavesUnused
      (noTokens [asksForToken (some "otp_email") none, asksForToken (some "otp_email") (some "100000"),
        pay "t1" none (some "token")])
      (steps 0 mailCode ++ steps 1 (findCode ++ useCode ++ saveToken "token") ++
        steps 2 payWithToken)).map (fun world => world.shared.attempts.length) = some 1 := by
    decide +kernel
  obtain ⟨world, ran, attempts⟩ := Option.map_eq_some_iff.mp reached
  have runs := Machine.Runs.checked .nil ran
  obtain ⟨done, once⟩ := movements_stepped_up _ ⟨rfl, rfl, rfl, rfl⟩ (fun _ => rfl)
    (runs.reaches.mono fun _ _ _ _ => trivial)
  exact ⟨world, runs.run, attempts, done, once runs.reaches⟩

theorem step_up_bypassed :
    (¬∀ world, (wallets).Reaches (fun _ _ _ => True) (noTokens [pay "t1" (some "true") none]) world →
      TokenPresented world.shared) ∧
    (¬∀ world, (wallets).Reaches (fun _ _ _ => True)
        (noTokens [asksForToken none none, pay "t1" none (some "token")]) world →
      FactorPassed world.shared) ∧
    (¬∀ world, (wallets).Reaches (fun _ _ _ => True)
        (noTokens [asksForToken none none, pay "t1" none (some "token"),
          pay "t2" none (some "token")]) world →
      TokensUsedOnce world.shared) ∧
    ¬∀ world, (wallets).Reaches (fun _ _ _ => True)
        (noTokens [asksForToken (some "otp_email") none, asksForToken (some "otp_email") (some "100000"),
          asksForToken (some "otp_email") (some "100000")]) world →
      CodesUsedOnce world.shared := by
  refine ⟨?_, ?_, ?_, ?_⟩
  · -- the header stands for the token
    exact Machine.not_always (steps 0 [.risk (some highRisk), .answer none])
      (by decide +kernel)
  · -- a token of the method `face` is issued to anyone who asks
    exact Machine.not_always
      (steps 0 (anFound :: saveToken "token") ++ steps 1 payWithToken) (by decide +kernel)
  · -- nothing marks a token as used
    exact Machine.not_always
      (steps 0 (anFound :: saveToken "token") ++ steps 1 payWithToken ++ steps 2 payWithToken)
      (by decide +kernel)
  · -- both find the code before either saves it
    exact Machine.not_always
      (steps 0 mailCode ++ steps 1 findCode ++ steps 2 findCode ++
        steps 1 (useCode ++ saveToken "first") ++ steps 2 (useCode ++ saveToken "second"))
      (by decide +kernel)

end Kufi.ApiGateway

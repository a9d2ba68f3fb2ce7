import Kufi.Auth.Sessions

set_option autoImplicit false

/-!
# Sessions that replace each other

Refreshes and revocations run here interleaved. The run is recorded with the
session each new one was exchanged for and with the sessions that a revocation
should have ended.
-/

namespace Kufi.Auth

open Shared

/-- The sessions with the exchanges made, the number of revocations committed, and the sessions
from before each revocation with those that descend from them. -/
structure Lineage where
  sessions : Table Session
  exchanges : List (Nat × Nat)
  revocations : Nat
  before : List (Nat × Nat)

/-- How many revocations were committed when the call began, the session it found, and the one it
has revoked and not yet exchanged. -/
structure Exchange where
  began : Nat
  found : Option Session
  held : Option Session

inductive SessionProcess where
  | idle
  | running (exchange : Exchange) (code : SessionHandler SessionResult)

inductive SessionMove where
  | start (call : SessionCall)
  | next (choice : SessionChoice)

def Exchange.advance (exchange : Exchange) : (op : SessionOp) → op.Reply → Exchange
  | .findSession _, found => { exchange with found := found }
  | .saveSession session, true => { exchange with held := some session }
  | .insertSession _, _ => { exchange with held := none }
  | _, _ => exchange

namespace Lineage

/-- A new session comes from the held one, and from before the revocations that this one is from
before. -/
def exchange (s : Lineage) (held : Option Session) (child : Nat) : Lineage :=
  match held with
  | some parent =>
    { s with
      exchanges := s.exchanges ++ [(parent.id, child)]
      before := s.before ++ (s.before.filter fun x => x.2 = parent.id).map fun x => (x.1, child) }
  | none => s

/-- Every session of the user is from before the revocation. -/
def revoke (s : Lineage) (userId : Nat) : Lineage :=
  { s with
    revocations := s.revocations + 1
    before := s.before ++ (s.sessions.rows.filter fun row => row.userId = userId).map fun row =>
      (s.revocations, row.id) }

def record (s : Lineage) (held : Option Session) : (op : SessionOp) → op.Reply → Lineage
  | .insertSession _, true => s.exchange held s.sessions.next
  | .revokeSessions userId _ _, true => s.revoke userId
  | _, _ => s

end Lineage

def sessionRotation (config : AuthConfig) : Machine Lineage SessionProcess SessionMove where
  step s
    | .idle, .start call =>
      some (s, .running ⟨s.revocations, none, none⟩ (call.handler config))
    | .running exchange (.perform op next), .next choice =>
      (performSession op choice s.sessions).map fun result =>
        ({ s.record exchange.held op result.1 with sessions := result.2 },
          .running (exchange.advance op result.1) (next result.1))
    | _, _ => none

def SessionProcess.Finished : SessionProcess → Prop
  | .idle | .running _ (.done _) => True
  | _ => False

def SessionProcess.Began (process : SessionProcess) (revocation : Nat) : Prop :=
  match process with
  | .idle => False
  | .running exchange _ => exchange.began ≤ revocation

/-- The session whose exchange is still to come. -/
def SessionProcess.held : SessionProcess → Option Session
  | .running exchange (.perform _ _) => exchange.held
  | _ => none

variable {I : Type}

/-- At most one session comes from each. -/
def ExchangedOnce (s : Lineage) : Prop := (s.exchanges.map Prod.fst).Nodup

/-- A revocation ends all sessions from before it once the calls that began before it have
finished. -/
def RevokedForGood (world : World I Lineage SessionProcess) : Prop :=
  ∀ revocation < world.shared.revocations,
    (∀ i, (world.procs i).Began revocation → (world.procs i).Finished) →
    ∀ session ∈ world.shared.sessions, (revocation, session.id) ∈ world.shared.before →
      session.revokedAt ≠ none

structure RotatesOnce (world : World I Lineage SessionProcess) : Prop where
  once : ExchangedOnce world.shared
  complete : RevokedForGood world

/-- A refresh saves over a session that is still unrevoked, and no session of a user is revoked
and not yet exchanged when all of the user's are revoked. -/
def Undisturbed (world : World I Lineage SessionProcess) (i : I) (_ : SessionMove) : Prop :=
  match world.procs i with
  | .running _ (.perform (.saveSession session) _) =>
    ∀ row ∈ world.shared.sessions.rows, row.id = session.id → row.revokedAt = none
  | .running _ (.perform (.revokeSessions userId _ _) _) =>
    ∀ j, ∀ held ∈ (world.procs j).held, held.userId ≠ userId
  | _ => True

/-! ## What a handler does with sessions -/

/-- The same session with other times. -/
structure Session.Same (first second : Session) : Prop where
  id : second.id = first.id
  userId : second.userId = first.userId
  key : second.refreshTokenHash = first.refreshTokenHash

def Exchange.Permitted (exchange : Exchange) : SessionOp → Prop
  | .saveSession session =>
    exchange.held = none ∧ session.revokedAt ≠ none ∧
      ∃ found, exchange.found = some found ∧ found.Same session
  | .insertSession session => ∃ held, exchange.held = some held ∧ session.userId = held.userId
  | _ => True

def Exchange.Becomes (exchange : Exchange) (op : SessionOp) (reply : op.Reply)
    (after : Exchange) : Prop :=
  after = exchange.advance op reply ∧
    match op, reply with
    | .findUser userId, some user => user.id = userId
    | _, _ => True

abbrev TracksExchange {A : Type} (exchange : Exchange) (procedure : SessionHandler A) : Prop :=
  procedure.Tracks Exchange.Permitted Exchange.Becomes (fun _ _ => True) exchange

section Handlers

variable (config : AuthConfig) {exchange : Exchange} {context : SessionContext}

theorem issueTokens_tracks {user : User} {held : Session} (holds : exchange.held = some held)
    (owner : user.id = held.userId) :
    TracksExchange exchange (issueTokens config user context) := by
  refine .ask trivial fun tokens after moved => ?_
  obtain rfl : after = _ := moved.1
  cases tokens with
  | none => trivial
  | some tokens =>
    refine .ask trivial fun now after moved => ?_
    obtain rfl : after = _ := moved.1
    refine .ask ⟨held, holds, owner⟩ fun saved after _ => ?_
    cases saved <;> trivial

theorem reissue_tracks {held : Session} (holds : exchange.held = some held) :
    TracksExchange exchange (reissue config held context) := by
  refine .ask trivial fun user after moved => ?_
  cases user with
  | none => trivial
  | some user =>
    obtain ⟨rfl, owner⟩ := moved
    dsimp only
    split
    · trivial
    · refine .ask trivial fun disabled after moved => ?_
      obtain rfl : after = _ := moved.1
      split
      · exact issueTokens_tracks config holds owner
      · trivial

theorem refreshAccessToken_tracks (refreshToken : String) (fresh : exchange.held = none) :
    TracksExchange exchange (refreshAccessToken config refreshToken context) := by
  refine .ask trivial fun session after moved => ?_
  cases session with
  | none => trivial
  | some session =>
    obtain ⟨rfl, _⟩ := moved
    dsimp only
    split
    · trivial
    · refine .ask trivial fun now after moved => ?_
      obtain rfl : after = _ := moved.1
      split
      · trivial
      · refine .ask trivial fun revokedAt after moved => ?_
        obtain rfl : after = _ := moved.1
        refine .ask trivial fun lastUsedAt after moved => ?_
        obtain rfl : after = _ := moved.1
        refine .ask ⟨fresh, nofun, session, rfl, rfl, rfl, rfl⟩ fun saved after moved => ?_
        obtain rfl : after = _ := moved.1
        cases saved with
        | false => trivial
        | true => exact reissue_tracks config rfl

theorem revokeAll_tracks (accessToken : String) :
    TracksExchange exchange (revokeAllSessionsByAccessToken accessToken) := by
  refine .ask trivial fun sub after _ => ?_
  cases sub with
  | none => trivial
  | some userId =>
    refine .ask trivial fun _ _ _ => .ask trivial fun _ _ _ => .ask trivial fun updated _ _ => ?_
    cases updated <;> trivial

theorem sessionCall_tracks (call : SessionCall) (began : Nat) :
    TracksExchange ⟨began, none, none⟩ (call.handler config) := by
  cases call with
  | refreshAccessToken refreshToken context =>
    refine .bind (refreshAccessToken_tracks config refreshToken rfl) fun result _ _ => ?_
    cases result <;> trivial
  | revokeAllSessionsByAccessToken accessToken =>
    refine .bind (revokeAll_tracks accessToken) fun result _ _ => ?_
    cases result <;> trivial

end Handlers

/-! ## The invariant of a run -/

def SessionProcess.Tracks : SessionProcess → Prop
  | .idle => True
  | .running exchange code => TracksExchange exchange code

def SessionProcess.found : SessionProcess → Option Session
  | .idle => none
  | .running exchange _ => exchange.found

/-- The stored session of this id is revoked. -/
def Lineage.Ended (s : Lineage) (id : Nat) : Prop :=
  ∃ row ∈ s.sessions, row.id = id ∧ row.revokedAt ≠ none

structure Rotating (world : World I Lineage SessionProcess) : Prop where
  once : (world.shared.exchanges.map Prod.fst).Nodup
  spent : ∀ x ∈ world.shared.exchanges, world.shared.Ended x.1
  ended : ∀ x ∈ world.shared.before, world.shared.Ended x.2
  heldEnded : ∀ i, ∀ held ∈ (world.procs i).held, world.shared.Ended held.id
  heldUnspent : ∀ i, ∀ held ∈ (world.procs i).held, ∀ x ∈ world.shared.exchanges, x.1 ≠ held.id
  heldLate : ∀ i, ∀ held ∈ (world.procs i).held, ∀ x ∈ world.shared.before, x.2 ≠ held.id
  single : ∀ i j, ∀ held ∈ (world.procs i).held, ∀ held' ∈ (world.procs j).held,
    held.id = held'.id → i = j
  foundStored : ∀ i, ∀ found ∈ (world.procs i).found,
    ∃ row ∈ world.shared.sessions, row.Same found
  heldStored : ∀ i, ∀ held ∈ (world.procs i).held,
    ∃ row ∈ world.shared.sessions, row.Same held
  tracks : ∀ i, (world.procs i).Tracks

theorem Rotating.rotatesOnce {world : World I Lineage SessionProcess} (rotating : Rotating world) :
    RotatesOnce world where
  once := rotating.once
  complete _ _ _ session stored before := by
    obtain ⟨row, held, same, revoked⟩ := rotating.ended _ before
    obtain rfl := Table.eq_of_id held stored same
    exact revoked

theorem Session.Same.refl (session : Session) : session.Same session := ⟨rfl, rfl, rfl⟩

theorem Session.Same.trans {a b c : Session} (first : a.Same b) (second : b.Same c) : a.Same c :=
  ⟨second.id.trans first.id, second.userId.trans first.userId, second.key.trans first.key⟩

theorem Session.Same.symm {a b : Session} (same : a.Same b) : b.Same a :=
  ⟨same.id.symm, same.userId.symm, same.key.symm⟩

/-- Every stored session stays, and a revoked one stays revoked. -/
def Keeps (before after : Table Session) : Prop :=
  ∀ row ∈ before, ∃ later ∈ after, row.Same later ∧
    (row.revokedAt ≠ none → later.revokedAt ≠ none)

section Tables

variable {sessions after : Table Session}

theorem Keeps.refl (sessions : Table Session) : Keeps sessions sessions :=
  fun row stored => ⟨row, stored, .refl row, id⟩

theorem keeps_update {session row : Session} (stored : row ∈ sessions) (same : row.Same session)
    (revoked : session.revokedAt ≠ none) (updated : sessions.update? session = some after) :
    Keeps sessions after := by
  intro other held
  by_cases own : other.id = session.id
  · obtain rfl := Table.eq_of_id held stored (own.trans same.id)
    exact ⟨session, (Table.mem_update? updated).mpr (.inr ⟨rfl, other, held, own⟩), same,
      fun _ => revoked⟩
  · exact ⟨other, (Table.mem_update? updated).mpr (.inl ⟨held, own⟩), .refl other, id⟩

theorem keeps_insert {session saved : Session} (inserted : sessions.insert? session = some (saved, after)) :
    Keeps sessions after :=
  fun row stored => ⟨row, (Table.mem_insert? inserted).mpr (.inl stored), .refl row, id⟩

theorem revokedWith_same (userId : Nat) (revokedAt lastUsedAt : Time) (session : Session) :
    session.Same (session.revokedWith userId revokedAt lastUsedAt) ∧
      (session.revokedAt ≠ none → (session.revokedWith userId revokedAt lastUsedAt).revokedAt ≠ none) ∧
      (session.userId = userId →
        (session.revokedWith userId revokedAt lastUsedAt).revokedAt ≠ none) := by
  unfold Session.revokedWith
  split_ifs with due
  · exact ⟨⟨rfl, rfl, rfl⟩, nofun, nofun⟩
  · exact ⟨.refl session, id, fun owner none => due ⟨owner, none⟩⟩

theorem mem_revokeSessions {userId : Nat} {revokedAt lastUsedAt : Time} {session : Session} :
    session ∈ revokeSessions sessions userId revokedAt lastUsedAt ↔
      ∃ row ∈ sessions, row.revokedWith userId revokedAt lastUsedAt = session :=
  Table.mem_mapRows

theorem keeps_revoke (userId : Nat) (revokedAt lastUsedAt : Time) :
    Keeps sessions (revokeSessions sessions userId revokedAt lastUsedAt) := by
  intro row stored
  obtain ⟨same, revoked, _⟩ := revokedWith_same userId revokedAt lastUsedAt row
  exact ⟨_, mem_revokeSessions.mpr ⟨row, stored, rfl⟩, same, revoked⟩

theorem Keeps.stored (keeps : Keeps sessions after) {session : Session}
    (stored : ∃ row ∈ sessions, row.Same session) : ∃ row ∈ after, row.Same session := by
  obtain ⟨row, held, same⟩ := stored
  obtain ⟨later, there, kept, _⟩ := keeps row held
  exact ⟨later, there, kept.symm.trans same⟩

theorem Lineage.Ended.keep {s s' : Lineage} {id : Nat} (ended : s.Ended id)
    (keeps : Keeps s.sessions s'.sessions) : s'.Ended id := by
  obtain ⟨row, held, rfl, revoked⟩ := ended
  obtain ⟨later, there, same, still⟩ := keeps row held
  exact ⟨later, there, same.id, still revoked⟩

end Tables

section Step

variable [DecidableEq I] {world : World I Lineage SessionProcess} {i : I} {next : SessionProcess}

theorem held_update {j : I} {held : Session}
    (member : held ∈ (Function.update world.procs i next j).held) :
    j = i ∧ held ∈ next.held ∨ j ≠ i ∧ held ∈ (world.procs j).held :=
  update_cases (fun process : SessionProcess => held ∈ process.held) member

/-- A step that exchanges nothing and revokes no user's sessions. -/
theorem Rotating.quiet (rotating : Rotating world) {sessions : Table Session}
    (keeps : Keeps world.shared.sessions sessions)
    (held : ∀ held ∈ next.held, held ∈ (world.procs i).held)
    (found : ∀ found ∈ next.found, ∃ row ∈ sessions, row.Same found) (tracks : next.Tracks) :
    Rotating
      { shared := { world.shared with sessions := sessions }
        procs := Function.update world.procs i next } := by
  have before (j : I) (session : Session)
      (member : session ∈ (Function.update world.procs i next j).held) :
      session ∈ (world.procs j).held := by
    rcases held_update member with ⟨rfl, own⟩ | ⟨_, old⟩
    · exact held session own
    · exact old
  exact
    { once := rotating.once
      spent := fun x member => (rotating.spent x member).keep keeps
      ended := fun x member => (rotating.ended x member).keep keeps
      heldEnded := fun j session member =>
        (rotating.heldEnded j session (before j session member)).keep keeps
      heldUnspent := fun j session member => rotating.heldUnspent j session (before j session member)
      heldLate := fun j session member => rotating.heldLate j session (before j session member)
      single := fun j k session member session' member' =>
        rotating.single j k session (before j session member) session' (before k session' member')
      foundStored :=
        forall_update
          (fun process : SessionProcess => ∀ found ∈ process.found, ∃ row ∈ sessions, row.Same found)
          found fun j session member => keeps.stored (rotating.foundStored j session member)
      heldStored := fun j session member =>
        keeps.stored (rotating.heldStored j session (before j session member))
      tracks := forall_update SessionProcess.Tracks tracks rotating.tracks }

/-- The session found is saved as revoked: it was neither spent nor from before a revocation. -/
theorem Rotating.save (rotating : Rotating world) {session : Session} {sessions : Table Session}
    (revoked : session.revokedAt ≠ none) (stored : ∃ row ∈ world.shared.sessions, row.Same session)
    (fresh : ∀ row ∈ world.shared.sessions.rows, row.id = session.id → row.revokedAt = none)
    (updated : world.shared.sessions.update? session = some sessions)
    (held : ∀ held ∈ next.held, held = session)
    (found : ∀ found ∈ next.found, found ∈ (world.procs i).found) (tracks : next.Tracks) :
    Rotating
      { shared := { world.shared with sessions := sessions }
        procs := Function.update world.procs i next } := by
  obtain ⟨row, there, same⟩ := stored
  have keeps := keeps_update there same revoked updated
  have unended {id : Nat} (ended : world.shared.Ended id) : id ≠ session.id := by
    rintro rfl
    obtain ⟨other, held, own, revoked⟩ := ended
    exact revoked (fresh other held own)
  have saved : session ∈ sessions :=
    (Table.mem_update? updated).mpr (.inr ⟨rfl, row, there, same.id.symm⟩)
  refine
    { once := rotating.once
      spent := fun x member => (rotating.spent x member).keep keeps
      ended := fun x member => (rotating.ended x member).keep keeps
      heldEnded := ?_
      heldUnspent := ?_
      heldLate := ?_
      single := ?_
      foundStored := forall_update
        (fun process : SessionProcess => ∀ found ∈ process.found, ∃ row ∈ sessions, row.Same found)
        (fun other member => keeps.stored (rotating.foundStored i other (found other member)))
        fun j other member => keeps.stored (rotating.foundStored j other member)
      heldStored := ?_
      tracks := forall_update SessionProcess.Tracks tracks rotating.tracks }
  · intro j other member
    rcases held_update member with ⟨rfl, own⟩ | ⟨_, old⟩
    · obtain rfl := held other own
      exact ⟨other, saved, rfl, revoked⟩
    · exact (rotating.heldEnded j other old).keep keeps
  · intro j other member x exchanged
    rcases held_update member with ⟨rfl, own⟩ | ⟨_, old⟩
    · obtain rfl := held other own
      exact unended (rotating.spent x exchanged)
    · exact rotating.heldUnspent j other old x exchanged
  · intro j other member x before
    rcases held_update member with ⟨rfl, own⟩ | ⟨_, old⟩
    · obtain rfl := held other own
      exact unended (rotating.ended x before)
    · exact rotating.heldLate j other old x before
  · intro j k first member second member' equal
    rcases held_update member with ⟨rfl, own⟩ | ⟨_, old⟩
    · obtain rfl := held first own
      rcases held_update member' with ⟨rfl, _⟩ | ⟨_, old'⟩
      · rfl
      · exact absurd equal.symm (unended (rotating.heldEnded k second old'))
    · rcases held_update member' with ⟨rfl, own'⟩ | ⟨_, old'⟩
      · obtain rfl := held second own'
        exact absurd equal (unended (rotating.heldEnded j first old))
      · exact rotating.single j k first old second old' equal
  · intro j other member
    rcases held_update member with ⟨rfl, own⟩ | ⟨_, old⟩
    · obtain rfl := held other own
      exact ⟨other, saved, .refl other⟩
    · exact keeps.stored (rotating.heldStored j other old)

/-- A held session is exchanged: the new one is from before no revocation. -/
theorem Rotating.exchange (rotating : Rotating world) {parent session saved : Session}
    {sessions : Table Session} (holds : parent ∈ (world.procs i).held)
    (inserted : world.shared.sessions.insert? session = some (saved, sessions))
    (held : next.held = none) (found : ∀ found ∈ next.found, found ∈ (world.procs i).found)
    (tracks : next.Tracks) :
    Rotating
      { shared :=
          { world.shared.exchange (some parent) world.shared.sessions.next with sessions := sessions }
        procs := Function.update world.procs i next } := by
  have keeps := keeps_insert inserted
  have before : (world.shared.exchange (some parent) world.shared.sessions.next).before =
      world.shared.before := by
    have none : (world.shared.before.filter fun x => x.2 = parent.id) = [] := by
      simpa using rotating.heldLate i parent holds
    simp [Lineage.exchange, none]
  have others (j : I) (other : Session)
      (member : other ∈ (Function.update world.procs i next j).held) :
      j ≠ i ∧ other ∈ (world.procs j).held := by
    rcases held_update member with ⟨_, own⟩ | old
    · rw [held] at own
      cases own
    · exact old
  refine
    { once := ?_
      spent := ?_
      ended := ?_
      heldEnded := fun j other member =>
        (rotating.heldEnded j other (others j other member).2).keep keeps
      heldUnspent := ?_
      heldLate := ?_
      single := fun j k first member second member' =>
        rotating.single j k first (others j first member).2 second (others k second member').2
      foundStored := forall_update
        (fun process : SessionProcess => ∀ found ∈ process.found, ∃ row ∈ sessions, row.Same found)
        (fun other member => keeps.stored (rotating.foundStored i other (found other member)))
        fun j other member => keeps.stored (rotating.foundStored j other member)
      heldStored := fun j other member =>
        keeps.stored (rotating.heldStored j other (others j other member).2)
      tracks := forall_update SessionProcess.Tracks tracks rotating.tracks }
  · simp only [Lineage.exchange, List.map_append, List.map_cons, List.map_nil]
    rw [List.nodup_append]
    refine ⟨rotating.once, List.nodup_singleton _, ?_⟩
    intro id spent other single equal
    obtain ⟨x, exchanged, rfl⟩ := List.mem_map.mp spent
    rw [List.mem_singleton.mp single] at equal
    exact rotating.heldUnspent i parent holds x exchanged equal
  · intro x member
    rcases List.mem_append.mp member with old | new
    · exact (rotating.spent x old).keep keeps
    · rw [List.mem_singleton.mp new]
      exact (rotating.heldEnded i parent holds).keep keeps
  · intro x member
    exact (rotating.ended x (before ▸ member)).keep keeps
  · intro j other member x exchanged equal
    obtain ⟨apart, old⟩ := others j other member
    rcases List.mem_append.mp exchanged with spent | new
    · exact rotating.heldUnspent j other old x spent equal
    · rw [List.mem_singleton.mp new] at equal
      exact apart (rotating.single j i other old parent holds equal.symm)
  · intro j other member x member'
    exact rotating.heldLate j other (others j other member).2 x (before ▸ member')

/-- All sessions of a user are revoked while none of them is held. -/
theorem Rotating.revoke (rotating : Rotating world) {userId : Nat} {revokedAt lastUsedAt : Time}
    (free : ∀ j, ∀ held ∈ (world.procs j).held, held.userId ≠ userId)
    (held : ∀ held ∈ next.held, held ∈ (world.procs i).held)
    (found : ∀ found ∈ next.found, found ∈ (world.procs i).found) (tracks : next.Tracks) :
    Rotating
      { shared :=
          { world.shared.revoke userId with
            sessions := revokeSessions world.shared.sessions userId revokedAt lastUsedAt }
        procs := Function.update world.procs i next } := by
  have keeps : Keeps world.shared.sessions _ := keeps_revoke userId revokedAt lastUsedAt
  have quiet : Rotating
      { shared :=
          { world.shared with
            sessions := revokeSessions world.shared.sessions userId revokedAt lastUsedAt }
        procs := Function.update world.procs i next } :=
    rotating.quiet keeps held
      (fun other member => keeps.stored (rotating.foundStored i other (found other member))) tracks
  have new {x : Nat × Nat} (member : x ∈ (world.shared.revoke userId).before) :
      x ∈ world.shared.before ∨
        ∃ row ∈ world.shared.sessions, row.userId = userId ∧ x.2 = row.id := by
    rcases List.mem_append.mp member with old | new
    · exact .inl old
    · obtain ⟨row, stored, rfl⟩ := List.mem_map.mp new
      obtain ⟨stored, owner⟩ := List.mem_filter.mp stored
      exact .inr ⟨row, stored, of_decide_eq_true owner, rfl⟩
  refine { quiet with ended := ?_, heldLate := ?_ }
  · intro x member
    rcases new member with old | ⟨row, stored, owner, same⟩
    · exact (rotating.ended x old).keep keeps
    · obtain ⟨kept, _, revoked⟩ := revokedWith_same userId revokedAt lastUsedAt row
      exact ⟨_, mem_revokeSessions.mpr ⟨row, stored, rfl⟩, kept.id.trans same.symm, revoked owner⟩
  · intro j other member x member' equal
    rcases new member' with old | ⟨row, stored, owner, same⟩
    · exact quiet.heldLate j other member x old equal
    · have before : other ∈ (world.procs j).held := by
        rcases held_update member with ⟨rfl, own⟩ | ⟨_, old⟩
        · exact held other own
        · exact old
      obtain ⟨row', stored', own⟩ := rotating.heldStored j other before
      have : row = row' := Table.eq_of_id stored stored' (same.symm.trans (equal.trans own.id))
      subst this
      exact free j other before (own.userId.trans owner)

theorem held_running {exchange : Exchange} {code : SessionHandler SessionResult} {held : Session}
    (member : held ∈ (SessionProcess.running exchange code).held) : exchange.held = some held := by
  cases code with
  | done => cases member
  | perform => exact member

theorem Rotating.perform (rotating : Rotating world) {exchange : Exchange} {op : SessionOp}
    {rest : op.Reply → SessionHandler SessionResult} {choice : SessionChoice} {reply : op.Reply}
    {sessions : Table Session} (running : world.procs i = .running exchange (.perform op rest))
    (undisturbed : Undisturbed world i (.next choice))
    (performed : performSession op choice world.shared.sessions = some (reply, sessions)) :
    Rotating
      { shared := { world.shared.record exchange.held op reply with sessions := sessions }
        procs := Function.update world.procs i
          (.running (exchange.advance op reply) (rest reply)) } := by
  have tracks := rotating.tracks i
  rw [running] at tracks
  obtain ⟨permitted, later⟩ := tracks
  simp only [Undisturbed, running] at undisturbed
  have held (session : Session) (member : exchange.held = some session) :
      session ∈ (world.procs i).held := running ▸ member
  have found (session : Session) (member : exchange.found = some session) :
      session ∈ (world.procs i).found := running ▸ member
  have stored (session : Session) (member : exchange.found = some session) :
      ∃ row ∈ world.shared.sessions, row.Same session :=
    rotating.foundStored i session (found session member)
  have unchanged (after : Exchange) (keepsHeld : ∀ session, after.held = some session →
      exchange.held = some session) (foundStored : ∀ session, after.found = some session →
      ∃ row ∈ world.shared.sessions, row.Same session) (tracks : TracksExchange after (rest reply)) :
      Rotating
        { shared := { world.shared with sessions := world.shared.sessions }
          procs := Function.update world.procs i (.running after (rest reply)) } :=
    rotating.quiet (.refl _)
      (fun session member => held session (keepsHeld session (held_running member))) foundStored
      tracks
  cases op with
  | now | getFirebaseUser | generateTokens | verifyAccessToken =>
    cases choice <;> cases performed
    exact unchanged exchange (fun _ member => member) stored (later _ _ ⟨rfl, trivial⟩)
  | findUser userId =>
    cases choice with
    | user found =>
      simp only [performSession] at performed
      split_ifs at performed with owned
      cases performed
      refine unchanged exchange (fun _ member => member) stored (later _ _ ⟨rfl, ?_⟩)
      cases reply with
      | none => trivial
      | some user => exact owned user rfl
    | _ => cases performed
  | findSession hash =>
    cases choice <;> cases performed
    refine unchanged { exchange with found := world.shared.sessions.byKey hash }
      (fun _ member => member) ?_ (later _ _ ⟨rfl, trivial⟩)
    exact fun session member => ⟨session, (Table.byKey_eq_some.mp member).1, .refl session⟩
  | saveSession session =>
    obtain ⟨_, revoked, row, isFound, same⟩ := permitted
    cases choice with
    | nothing =>
      simp only [performSession] at performed
      split at performed
      next after updated =>
        cases performed
        obtain ⟨kept, there, before⟩ := stored row isFound
        exact rotating.save revoked ⟨kept, there, before.trans same⟩ undisturbed updated
          (fun other member => (Option.some.inj (held_running member)).symm) found
          (later true _ ⟨rfl, trivial⟩)
      next =>
        cases performed
        exact unchanged exchange (fun _ member => member) stored (later false _ ⟨rfl, trivial⟩)
    | fails =>
      cases performed
      exact unchanged exchange (fun _ member => member) stored (later false _ ⟨rfl, trivial⟩)
    | _ => cases performed
  | insertSession session =>
    obtain ⟨parent, holds, _⟩ := permitted
    cases choice with
    | nothing =>
      simp only [performSession] at performed
      split at performed
      next saved after inserted =>
        cases performed
        have none : (SessionProcess.running { exchange with held := none } (rest true)).held =
            none := by
          cases rest true <;> rfl
        have exchanged := rotating.exchange (held parent holds) inserted none found
          (later true _ ⟨rfl, trivial⟩)
        rwa [← holds] at exchanged
      next =>
        cases performed
        exact unchanged { exchange with held := none } nofun stored (later false _ ⟨rfl, trivial⟩)
    | fails =>
      cases performed
      exact unchanged { exchange with held := none } nofun stored (later false _ ⟨rfl, trivial⟩)
    | _ => cases performed
  | revokeSessions userId revokedAt lastUsedAt =>
    cases choice with
    | nothing =>
      cases performed
      exact rotating.revoke undisturbed
        (fun session member => held session (held_running member)) found
        (later true _ ⟨rfl, trivial⟩)
    | fails =>
      cases performed
      exact unchanged exchange (fun _ member => member) stored (later false _ ⟨rfl, trivial⟩)
    | _ => cases performed

theorem sessionRotation_step_cases {config : AuthConfig} {s after : Lineage}
    {proc next : SessionProcess} {move : SessionMove}
    (stepped : (sessionRotation config).step s proc move = some (after, next)) :
    (∃ call, proc = .idle ∧ move = .start call ∧ after = s ∧
        next = .running ⟨s.revocations, none, none⟩ (call.handler config)) ∨
      ∃ exchange op rest choice reply sessions, proc = .running exchange (.perform op rest) ∧
        move = .next choice ∧ performSession op choice s.sessions = some (reply, sessions) ∧
        after = { s.record exchange.held op reply with sessions := sessions } ∧
        next = .running (exchange.advance op reply) (rest reply) := by
  cases proc with
  | idle =>
    cases move with
    | start call =>
      cases stepped
      exact .inl ⟨call, rfl, rfl, rfl, rfl⟩
    | next choice => cases stepped
  | running exchange code =>
    cases code with
    | done value => cases stepped
    | perform op rest =>
      cases move with
      | start call => cases stepped
      | next choice =>
        obtain ⟨⟨reply, sessions⟩, performed, same⟩ := Option.map_eq_some_iff.mp stepped
        cases same
        exact .inr ⟨exchange, op, rest, choice, reply, sessions, rfl, rfl, performed, rfl, rfl⟩

theorem Rotating.step {config : AuthConfig} {move : SessionMove}
    {after : World I Lineage SessionProcess} (rotating : Rotating world)
    (undisturbed : Undisturbed world i move)
    (fired : (sessionRotation config).fire world i move = some after) : Rotating after := by
  obtain ⟨shared, next, stepped, rfl⟩ := Machine.fire_eq_some.mp fired
  rcases sessionRotation_step_cases stepped with
    ⟨call, idle, rfl, rfl, rfl⟩ |
    ⟨exchange, op, rest, choice, reply, sessions, running, rfl, performed, rfl, rfl⟩
  · refine rotating.quiet (.refl _) ?_ nofun (sessionCall_tracks config call _)
    intro session member
    cases held_running member
  · exact rotating.perform running undisturbed performed

end Step

/-- No call is being served and nothing is recorded. -/
structure Unrotated (world : World I Lineage SessionProcess) : Prop where
  idle : ∀ i, world.procs i = .idle
  exchanges : world.shared.exchanges = []
  before : world.shared.before = []

theorem Unrotated.rotating {world : World I Lineage SessionProcess} (start : Unrotated world) :
    Rotating world where
  once := by simp [start.exchanges]
  spent := by simp [start.exchanges]
  ended := by simp [start.before]
  heldEnded i := by simp [start.idle i, SessionProcess.held]
  heldUnspent i := by simp [start.idle i, SessionProcess.held]
  heldLate i := by simp [start.idle i, SessionProcess.held]
  single i j := by simp [start.idle i, SessionProcess.held]
  foundStored i := by simp [start.idle i, SessionProcess.found]
  heldStored i := by simp [start.idle i, SessionProcess.held]
  tracks i := by simp [start.idle i, SessionProcess.Tracks]

theorem refresh_tokens_rotate_once [DecidableEq I] {config : AuthConfig}
    {start world : World I Lineage SessionProcess} (unrotated : Unrotated start)
    (reached : (sessionRotation config).Reaches Undisturbed start world) : RotatesOnce world := by
  have rotating : Rotating world :=
    reached.invariant Rotating unrotated.rotating fun _ _ _ _ rotating undisturbed fired =>
      rotating.step undisturbed fired
  exact rotating.rotatesOnce

/-! ## Sample runs -/

def plainTokens : AuthConfig where
  accessTtlSeconds := 900
  refreshTtlSeconds := 2592000
  hashToken := fun token => token

def sampleUser : User where
  id := 7
  firebaseUid := "uid"
  accountStatus := .active
  email := none
  phone := none
  displayName := none
  kycStatus := "pending"
  hashedPin := none
  createdAt := 0

def loggedIn : World (Fin 2) Lineage SessionProcess where
  shared :=
    { sessions :=
        ((Table.empty.insert? (newSession plainTokens sampleUser "token" 0 ⟨none, none⟩)).map
          Prod.snd).getD .empty
      exchanges := []
      revocations := 0
      before := [] }
  procs _ := .idle

def startRefresh (i : Fin 2) : List (Fin 2 × SessionMove) :=
  [(i, .start (.refreshAccessToken "token" ⟨none, none⟩)), (i, .next .nothing), (i, .next (.time 1))]

def saveRevoked (i : Fin 2) : List (Fin 2 × SessionMove) :=
  [(i, .next (.time 1)), (i, .next (.time 1)), (i, .next .nothing)]

def exchangeFor (i : Fin 2) (refreshToken : String) : List (Fin 2 × SessionMove) :=
  [(i, .next (.user (some sampleUser))), (i, .next (.firebase (some false))),
    (i, .next (.tokens (some ("access", refreshToken)))), (i, .next (.time 2)), (i, .next .nothing)]

def revokeAll (i : Fin 2) : List (Fin 2 × SessionMove) :=
  [(i, .start (.revokeAllSessionsByAccessToken "access")), (i, .next (.subject (some 7))),
    (i, .next (.time 3)), (i, .next (.time 3)), (i, .next .nothing)]

instance (process : SessionProcess) : Decidable process.Finished := by
  unfold SessionProcess.Finished
  split <;> infer_instance

theorem refresh_tokens_rotate_twice :
    (¬ ∀ world, (sessionRotation plainTokens).Reaches (fun _ _ _ => True) loggedIn world →
      ExchangedOnce world.shared) ∧
    ¬ ∀ world, (sessionRotation plainTokens).Reaches (fun _ _ _ => True) loggedIn world →
      RevokedForGood world := by
  constructor
  · intro once
    -- both find the session before either saves it
    have ends : ((sessionRotation plainTokens).run loggedIn (startRefresh 0 ++ startRefresh 1 ++
        saveRevoked 0 ++ saveRevoked 1 ++ exchangeFor 0 "first" ++ exchangeFor 1 "second")).map
        (fun world => world.shared.exchanges) = some [(0, 1), (0, 2)] := by decide +kernel
    obtain ⟨world, ran, exchanges⟩ := Option.map_eq_some_iff.mp ends
    have nodup := once world (.run .refl ran)
    rw [ExchangedOnce, exchanges] at nodup
    revert nodup
    decide
  · intro complete
    -- the revocation comes between the save and the exchange
    have ends : ((sessionRotation plainTokens).run loggedIn (startRefresh 0 ++ saveRevoked 0 ++
        revokeAll 1 ++ exchangeFor 0 "first")).map (fun world =>
          (decide (∀ i, (world.procs i).Finished), world.shared.revocations,
            world.shared.before, world.shared.sessions.rows.map fun row =>
              (row.id, row.revokedAt.isNone))) =
        some (true, 1, [(0, 0), (0, 1)], [(0, false), (1, true)]) := by decide +kernel
    obtain ⟨world, ran, result⟩ := Option.map_eq_some_iff.mp ends
    simp only [Prod.mk.injEq, decide_eq_true_eq] at result
    obtain ⟨finished, revocations, before, rows⟩ := result
    have member : (1, true) ∈ world.shared.sessions.rows.map fun row =>
        (row.id, row.revokedAt.isNone) := by
      rw [rows]
      decide
    obtain ⟨row, stored, same⟩ := List.mem_map.mp member
    obtain ⟨id, unrevoked⟩ := Prod.mk.inj same
    refine complete world (.run .refl ran) 0 (by omega) (fun i _ => finished i) row stored ?_
      (Option.isNone_iff_eq_none.mp unrevoked)
    rw [id, before]
    decide

instance (world : World (Fin 2) Lineage SessionProcess) (i : Fin 2) (move : SessionMove) :
    Decidable (Undisturbed world i move) := by
  unfold Undisturbed
  split <;> infer_instance

-- One refresh, then the revocation.
theorem refresh_tokens_rotate_once_inTurn :
    ∃ world, (sessionRotation plainTokens).run loggedIn (startRefresh 0 ++ saveRevoked 0 ++
        exchangeFor 0 "first" ++ revokeAll 1) = some world ∧
      world.shared.exchanges = [(0, 1)] ∧ world.shared.revocations = 1 ∧ RotatesOnce world := by
  have reached : ((sessionRotation plainTokens).checkedRun Undisturbed loggedIn
      (startRefresh 0 ++ saveRevoked 0 ++ exchangeFor 0 "first" ++ revokeAll 1)).map
      (fun world => (world.shared.exchanges, world.shared.revocations)) =
      some ([(0, 1)], 1) := by decide +kernel
  obtain ⟨world, ran, result⟩ := Option.map_eq_some_iff.mp reached
  obtain ⟨exchanges, revocations⟩ := Prod.mk.inj result
  have runs := Machine.Runs.checked .nil ran
  exact ⟨world, runs.run, exchanges, revocations,
    refresh_tokens_rotate_once ⟨fun _ => rfl, rfl, rfl⟩ runs.reaches⟩

end Kufi.Auth

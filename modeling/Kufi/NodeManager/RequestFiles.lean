import Kufi.NodeManager.VoteSafety

set_option autoImplicit false

/-!
# Request ids and the files of a node

An id that comes with a message becomes the name of a file. The run of a node
is recorded here with the ids it has received and with what its handlers have
saved and loaded under them.
-/

namespace Kufi.NodeManager

open Shared

/-! ## What happens to the files -/

inductive FileAccess where
  | saved (submitted : Bool) (req : JoinRequest) (outcome : WriteOutcome) (before after : Store)
  | loaded (id : String) (found : Option JoinRequest)

namespace FileAccess

/-- The id whose request has a file from here on. -/
def named : FileAccess → Option String
  | .saved _ req outcome _ _ => if outcome = .failed then none else some req.id
  | .loaded _ _ => none

def written : FileAccess → Option JoinRequest
  | .saved _ req .written _ _ => some req
  | _ => none

/-- A save changes no file but that of its id. -/
def SparesFiles (earlier : List FileAccess) : FileAccess → Prop
  | .saved _ req _ before after =>
    after.files.get before.nodeConfigPath = before.files.get before.nodeConfigPath ∧
      after.files.get before.peersPath = before.files.get before.peersPath ∧
      ∀ id ∈ earlier.filterMap named, id ≠ req.id →
        after.files.get (before.requestPath id) = before.files.get (before.requestPath id)
  | .loaded _ _ => True

/-- A submission does not replace a request. -/
def KeepsExisting (_earlier : List FileAccess) : FileAccess → Prop
  | .saved true req _ before after =>
    ∀ existing ∈ before.loadJoinRequest req.id, after.loadJoinRequest req.id = some existing
  | _ => True

/-- A load returns what was saved under its id. -/
def LoadsOwn (earlier : List FileAccess) : FileAccess → Prop
  | .loaded id found => ∀ r ∈ found, r.id = id ∧ r ∈ earlier.filterMap written
  | .saved .. => True

structure Isolated (earlier : List FileAccess) (access : FileAccess) : Prop where
  spares : access.SparesFiles earlier
  keeps : access.KeepsExisting earlier
  loads : access.LoadsOwn earlier

end FileAccess

/-- Each access is as the ones before it demand; the last one comes first. -/
def Throughout (P : List FileAccess → FileAccess → Prop) : List FileAccess → Prop
  | [] => True
  | access :: earlier => P earlier access ∧ Throughout P earlier

/-! ## Runs -/

/-- A node with the ids it was sent and the accesses to its requests, the last one first. -/
structure Watched where
  node : Node
  received : List String
  accesses : List FileAccess

inductive WatchedProcess where
  | idle
  | running (call : Call) (code : Handler Result)

inductive WatchedMove where
  | start (call : Call)
  | next (choice : Choice)

namespace Call

/-- The id under which a message asks for a request. -/
def requestID : Call → Option String
  | .submitJoinRequest generatedID _ req => some (if req.id = "" then generatedID else req.id)
  | .receiveGossipedRequest req => some req.id
  | .castVote requestID _ | .receiveGossipedVote requestID _ => some requestID
  | .handlePeerJoined _ | .handleSignConfigUpdate _ | .executeApproval _ => none

def submits : Call → Bool
  | .submitJoinRequest .. => true
  | _ => false

def accesses (call : Call) (before after : Node) :
    (op : Op) → Choice → op.Reply → List FileAccess
  | .saveJoinRequest req, .write outcome, _ =>
    [.saved call.submits req outcome before.store after.store]
  | .loadJoinRequest id, _, found => [.loaded id found]
  | _, _, _ => []

end Call

def watching (config : NodeConfig) : Machine Watched WatchedProcess WatchedMove where
  step s
    | .idle, .start call =>
      (s.node.start call).map fun node =>
        ({ s with node := node, received := call.requestID.toList ++ s.received },
          .running call (call.handler config))
    | .running call (.perform op next), .next choice =>
      (perform op choice s.node).map fun result =>
        ({ s with
            node := result.2
            accesses := call.accesses s.node result.2 op choice result.1 ++ s.accesses },
          .running call (next result.1))
    | _, _ => none

/-- The id has a file of its own beside the others. -/
structure Store.OwnFile (s : Store) (others : List String) (id : String) : Prop where
  config : s.requestPath id ≠ s.nodeConfigPath
  peers : s.requestPath id ≠ s.peersPath
  others : ∀ other ∈ others, s.requestPath other = s.requestPath id → other = id

variable {I : Type}

/-- An id that comes with a message has a file of its own, and a request is submitted under an id
that has none yet. -/
def OwnIds (world : World I Watched WatchedProcess) (i : I) (move : WatchedMove) : Prop :=
  match world.procs i, move with
  | _, .start call => ∀ id ∈ call.requestID, world.shared.node.store.OwnFile world.shared.received id
  | .running call (.perform (.saveJoinRequest req) _), _ =>
    call.submits = true → world.shared.node.request req.id = none
  | _, _ => True

/-- The node has been set up and has heard of no request. -/
structure SetUp (world : World I Watched WatchedProcess) : Prop where
  idle : ∀ i, world.procs i = .idle
  received : world.shared.received = []
  accesses : world.shared.accesses = []
  flows : world.shared.node.flows = []
  files : ∀ path content, world.shared.node.store.files.get path = some content →
    (path = world.shared.node.store.nodeConfigPath ∧ ∃ config, content = .config config) ∨
      path = world.shared.node.store.peersPath ∧ ∃ peers, content = .peers peers

/-! ## File names -/

namespace Store

variable {s : Store}

theorem requestPath_of_noSlash {id : String} (plain : '/' ∉ id.toList) :
    s.requestPath id = s.baseDir ++ ["requests", id ++ ".json"] := by
  have long : 5 ≤ (id ++ ".json").toList.length := by simp
  have apart (name : String) (short : name.toList.length < 5) : id ++ ".json" ≠ name := by
    rintro rfl
    omega
  rw [requestPath, Path.join_of_component, List.append_assoc]
  · rfl
  · simp [plain]
  · exact ⟨apart "" (by decide), apart "." (by decide), apart ".." (by decide)⟩

/-- Without a separator an id is no path into another directory. -/
theorem ownFile_of_noSlash {id : String} {others : List String} (plain : '/' ∉ id.toList)
    (allPlain : ∀ other ∈ others, '/' ∉ other.toList) : s.OwnFile others id := by
  have named := requestPath_of_noSlash (s := s) plain
  refine ⟨?_, ?_, fun other listed same => ?_⟩
  · rw [named]
    simp [nodeConfigPath]
  · rw [named]
    simp [peersPath]
  · rw [named, requestPath_of_noSlash (allPlain other listed), List.append_right_inj] at same
    simpa using same

theorem get_saveJoinRequest (req : JoinRequest) (outcome : WriteOutcome) {path : Path}
    (other : path ≠ s.requestPath req.id) :
    (s.saveJoinRequest req outcome).2.files.get path = s.files.get path := by
  rcases s.files_writeJSON (s.requestPath req.id) (.request req) outcome with same | ⟨_, _, same⟩
  all_goals
    unfold saveJoinRequest
    rw [same]
  exact (Dict.get_set _ _ _ _).trans (if_neg other)

theorem baseDir_saveJoinRequest (req : JoinRequest) (outcome : WriteOutcome) :
    (s.saveJoinRequest req outcome).2.baseDir = s.baseDir := by
  cases outcome <;> rfl

end Store

/-! ## The ids that a handler uses -/

/-- The operation has to do with requests of these ids only. -/
def Op.About (ids : String → Prop) : Op → Prop
  | .loadJoinRequest id => ids id
  | .saveJoinRequest req | .goExecuteApproval req => ids req.id
  | _ => True

/-- A request is loaded under its own id. -/
def Op.LoadsOwn : (op : Op) → op.Reply → Prop
  | .loadJoinRequest id, found => ∀ r ∈ found, r.id = id
  | _, _ => True

/-- The procedure has to do with requests of these ids only, if what it loads has the id it asks
for. -/
abbrev Uses {A : Type} (ids : String → Prop) (procedure : Handler A) : Prop :=
  procedure.Asks (Op.About ids) Op.LoadsOwn fun _ => True

section Handlers

variable {ids : String → Prop} (config : NodeConfig)

theorem Op.Silent.about {op : Op} (silent : op.Silent) : op.About ids := by
  cases op <;> first
    | exact silent.elim
    | trivial

theorem Uses.mono {A : Type} {wider : String → Prop} {procedure : Handler A}
    (uses : Uses ids procedure) (grown : ∀ id, ids id → wider id) : Uses wider procedure := by
  induction procedure with
  | done value => trivial
  | perform op next ih =>
    refine ⟨?_, fun reply own => ih reply (uses.2 reply own)⟩
    cases op with
    | loadJoinRequest id => exact grown id uses.1
    | saveJoinRequest req | goExecuteApproval req => exact grown req.id uses.1
    | _ => trivial

theorem checkMajority_uses {r : JoinRequest} (used : ids r.id) : Uses ids (checkMajority config r) := by
  unfold checkMajority
  split
  · trivial
  · split
    · trivial
    · refine .ask trivial fun now _ => .ask used fun _ _ => .ask trivial fun _ _ => ?_
      split
      · exact ⟨used, fun _ _ => trivial⟩
      · trivial

theorem submitJoinRequest_uses (generatedID : String) (now : Time) (req : JoinRequest)
    (used : ids (if req.id = "" then generatedID else req.id)) :
    Uses ids (submitJoinRequest generatedID now req) := by
  refine .ask trivial fun peers _ => .ask used fun saved _ => ?_
  cases saved with
  | false => trivial
  | true => exact .ask trivial fun _ _ => trivial

theorem receiveGossipedRequest_uses {req : JoinRequest} (used : ids req.id) :
    Uses ids (receiveGossipedRequest config req) := by
  refine .ask used fun existing own => ?_
  cases existing with
  | none =>
    refine .ask used fun saved _ => ?_
    cases saved <;> trivial
  | some existing =>
    have merged : ids (mergeVotes existing req.votes).1.id := by
      rwa [id_mergeVotes, own existing rfl]
    dsimp only
    split
    · exact .ask merged fun _ _ => .bind (checkMajority_uses config merged) fun _ _ => trivial
    · trivial

theorem castVote_uses {requestID : String} (used : ids requestID) (approve : Bool) :
    Uses ids (castVote config requestID approve) := by
  refine .ask used fun found own => ?_
  cases found with
  | none => trivial
  | some req =>
    obtain rfl := own req rfl
    dsimp only
    split
    · trivial
    · split
      · trivial
      · refine .ask trivial fun now _ => .ask used fun saved _ => ?_
        cases saved with
        | false => trivial
        | true =>
          exact .ask trivial fun _ _ => .bind (checkMajority_uses config used) fun _ _ => trivial

theorem receiveGossipedVote_uses {requestID : String} (used : ids requestID) (vote : Vote) :
    Uses ids (receiveGossipedVote config requestID vote) := by
  refine .ask used fun found own => ?_
  cases found with
  | none => trivial
  | some req =>
    obtain rfl := own req rfl
    dsimp only
    split
    · trivial
    · exact .ask used fun _ _ => .bind (checkMajority_uses config used) fun _ _ => trivial

theorem failApproval_uses {req : JoinRequest} (used : ids req.id) : Uses ids (failApproval req) :=
  .ask trivial fun _ _ => .ask used fun _ _ => ⟨trivial, fun _ _ => trivial⟩

theorem handler_uses {call : Call} (received : ∀ id ∈ call.requestID, ids id)
    (started : ∀ req, call = .executeApproval req → ids req.id) :
    Uses ids (call.handler config) := by
  cases call with
  | submitJoinRequest generatedID now req =>
    refine .bind (submitJoinRequest_uses generatedID now req (received _ rfl)) fun result _ => ?_
    cases result <;> trivial
  | receiveGossipedRequest req =>
    exact .bind (receiveGossipedRequest_uses config (received _ rfl)) fun _ _ => trivial
  | castVote requestID approve =>
    exact .bind (castVote_uses config (received _ rfl) approve) fun _ _ => trivial
  | receiveGossipedVote requestID vote =>
    exact .bind (receiveGossipedVote_uses config (received _ rfl) vote) fun _ _ => trivial
  | handlePeerJoined peer => exact ⟨trivial, fun _ _ => trivial⟩
  | handleSignConfigUpdate req =>
    exact .bind (handleSignConfigUpdate_asks (fun _ => Op.Silent.about) config req)
      fun _ _ => trivial
  | executeApproval req =>
    exact .bind (executeApproval_asks (fun _ => Op.Silent.about) (fun _ => trivial) config req
      fun _ => failApproval_uses (started req rfl)) fun _ _ => trivial

end Handlers

/-! ## Requests in their files -/

/-- A request is in the file of its id, where it was saved. -/
def Watched.Stores (s : Watched) (path : Path) : FileContent → Prop
  | .request r => path = s.node.store.requestPath r.id ∧ r.id ∈ s.received ∧
      r ∈ s.accesses.filterMap FileAccess.written
  | .config _ => path = s.node.store.nodeConfigPath
  | .peers _ | .torn => True

/-- Every received id has a file of its own. -/
structure Filed (s : Watched) : Prop where
  isolation : Throughout FileAccess.Isolated s.accesses
  config : ∀ id ∈ s.received, s.node.store.requestPath id ≠ s.node.store.nodeConfigPath
  peers : ∀ id ∈ s.received, s.node.store.requestPath id ≠ s.node.store.peersPath
  apart : ∀ id ∈ s.received, ∀ other ∈ s.received,
    s.node.store.requestPath other = s.node.store.requestPath id → other = id
  named : ∀ id ∈ s.accesses.filterMap FileAccess.named, id ∈ s.received
  stores : ∀ path content, s.node.store.files.get path = some content → s.Stores path content
  flows : ∀ req ∈ s.node.flows, req.id ∈ s.received

namespace Filed

variable {s : Watched}

theorem receive (filed : Filed s) {id : String} (own : s.node.store.OwnFile s.received id) :
    Filed { s with received := id :: s.received } where
  isolation := filed.isolation
  config := List.forall_mem_cons.mpr ⟨own.config, filed.config⟩
  peers := List.forall_mem_cons.mpr ⟨own.peers, filed.peers⟩
  apart := by
    rintro _ (_ | ⟨_, listed⟩) _ (_ | ⟨_, member⟩) same
    · rfl
    · exact own.others _ member same
    · exact (own.others _ listed same.symm).symm
    · exact filed.apart _ listed _ member same
  named id member := List.mem_cons_of_mem _ (filed.named id member)
  stores path content stored := by
    have before := filed.stores path content stored
    cases content with
    | request r => exact ⟨before.1, List.mem_cons_of_mem _ before.2.1, before.2.2⟩
    | config | peers | torn => exact before
  flows req member := List.mem_cons_of_mem _ (filed.flows req member)

theorem frame (filed : Filed s) {node : Node} (store : node.store = s.node.store)
    (flows : ∀ req ∈ node.flows, req.id ∈ s.received) : Filed { s with node := node } where
  isolation := filed.isolation
  config := store ▸ filed.config
  peers := store ▸ filed.peers
  apart := store ▸ filed.apart
  named := filed.named
  stores path content stored := by
    have before := filed.stores path content (store ▸ stored)
    cases content with
    | request r | config stored => simpa only [Watched.Stores, store] using before
    | peers | torn => trivial
  flows := flows

theorem loadsOwn (filed : Filed s) {id : String} (received : id ∈ s.received) :
    FileAccess.LoadsOwn s.accesses (.loaded id (s.node.request id)) := by
  intro r found
  obtain ⟨content, stored, read⟩ := Option.bind_eq_some_iff.mp found
  have held := filed.stores _ content stored
  cases content with
  | request saved =>
    obtain rfl := Option.some.inj read
    obtain ⟨named, listed, written⟩ := held
    exact ⟨(filed.apart _ listed _ received named).symm, written⟩
  | config => exact absurd held (filed.config id received)
  | peers | torn => cases read

/-- The save of a request whose id was received. -/
theorem isolated (filed : Filed s) {req : JoinRequest} (received : req.id ∈ s.received)
    {submitted : Bool} (new : submitted = true → s.node.request req.id = none)
    (outcome : WriteOutcome) :
    FileAccess.Isolated s.accesses (.saved submitted req outcome s.node.store
      (s.node.store.saveJoinRequest req outcome).2) where
  spares := by
    refine ⟨?_, ?_, fun id member other => ?_⟩
    · exact Store.get_saveJoinRequest req outcome (filed.config _ received).symm
    · exact Store.get_saveJoinRequest req outcome (filed.peers _ received).symm
    · refine Store.get_saveJoinRequest req outcome fun same => other ?_
      exact filed.apart _ received _ (filed.named id member) same
  keeps := by
    cases submitted with
    | false => trivial
    | true =>
      intro existing found
      rw [show s.node.store.loadJoinRequest req.id = none from new rfl] at found
      cases found
  loads := trivial

theorem record (filed : Filed s) {access : FileAccess} (isolated : access.Isolated s.accesses)
    (named : ∀ id ∈ access.named, id ∈ s.received) :
    Filed { s with accesses := access :: s.accesses } where
  isolation := ⟨isolated, filed.isolation⟩
  config := filed.config
  peers := filed.peers
  apart := filed.apart
  named id member := by
    obtain ⟨other, listed, same⟩ := List.mem_filterMap.mp member
    rcases List.mem_cons.mp listed with rfl | old
    · exact named id same
    · exact filed.named id (List.mem_filterMap.mpr ⟨other, old, same⟩)
  stores path content stored := by
    have before := filed.stores path content stored
    cases content with
    | request r =>
      obtain ⟨named, listed, saved⟩ := before
      obtain ⟨other, member, same⟩ := List.mem_filterMap.mp saved
      exact ⟨named, listed, List.mem_filterMap.mpr ⟨other, List.mem_cons_of_mem _ member, same⟩⟩
    | config | peers | torn => exact before
  flows := filed.flows

theorem write (filed : Filed s) (path : Path) (content : FileContent)
    (stores : s.Stores path content) :
    Filed { s with node.store.files := s.node.store.files.set path content } :=
  { filed with stores := Dict.forall_set s.Stores stores filed.stores }

theorem addPeer (filed : Filed s) (peer : PeerInfo) (outcome : WriteOutcome) :
    Filed { s with node.store := s.node.store.addPeer peer outcome } := by
  unfold Store.addPeer
  rcases s.node.store.files_writeJSON s.node.store.peersPath
      (.peers (s.node.store.peersWith peer)) outcome with same | ⟨content, written, same⟩
  · rw [same]
    exact filed
  · rw [same]
    refine filed.write s.node.store.peersPath content ?_
    rcases written with rfl | rfl <;> trivial

theorem save (filed : Filed s) {req : JoinRequest} (received : req.id ∈ s.received)
    {submitted : Bool} (new : submitted = true → s.node.request req.id = none)
    (outcome : WriteOutcome) :
    Filed { s with
      node := (s.node.save req outcome).2
      accesses := .saved submitted req outcome s.node.store (s.node.save req outcome).2.store ::
        s.accesses } := by
  have recorded := filed.record (filed.isolated received new outcome) (by
    intro id named
    obtain ⟨_, rfl⟩ : outcome ≠ .failed ∧ req.id = id := by simpa [FileAccess.named] using named
    exact received)
  have stores (content : FileContent) (holds : Watched.Stores _ _ content) :=
    recorded.write (s.node.store.requestPath req.id) content holds
  cases outcome with
  | written => exact stores (.request req) ⟨rfl, received, List.mem_cons_self⟩
  | failed => exact recorded
  | torn => exact stores .torn trivial

end Filed

theorem SetUp.filed {world : World I Watched WatchedProcess} (setUp : SetUp world) :
    Filed world.shared where
  isolation := by simp [setUp.accesses, Throughout]
  config := by simp [setUp.received]
  peers := by simp [setUp.received]
  apart := by simp [setUp.received]
  named := by simp [setUp.accesses]
  stores path content stored := by
    rcases setUp.files path content stored with ⟨rfl, config, rfl⟩ | ⟨rfl, peers, rfl⟩
    · rfl
    · trivial
  flows := by simp [setUp.flows]

def WatchedProcess.Sound (received : List String) : WatchedProcess → Prop
  | .idle => True
  | .running _ code => Uses (· ∈ received) code

theorem WatchedProcess.Sound.mono {received more : List String} {proc : WatchedProcess}
    (sound : proc.Sound received) : proc.Sound (more ++ received) := by
  cases proc with
  | idle => trivial
  | running call code => exact Uses.mono sound fun _ => List.mem_append_right more

section Step

variable {config : NodeConfig}

theorem watching_step_cases {s after : Watched} {proc next : WatchedProcess} {move : WatchedMove}
    (stepped : (watching config).step s proc move = some (after, next)) :
    (∃ call node, proc = .idle ∧ move = .start call ∧ s.node.start call = some node ∧
        after = { s with node := node, received := call.requestID.toList ++ s.received } ∧
        next = .running call (call.handler config)) ∨
      ∃ call op rest choice reply node, proc = .running call (.perform op rest) ∧
        move = .next choice ∧ perform op choice s.node = some (reply, node) ∧
        after = { s with
          node := node, accesses := call.accesses s.node node op choice reply ++ s.accesses } ∧
        next = .running call (rest reply) := by
  cases proc with
  | idle =>
    cases move with
    | start call =>
      obtain ⟨node, starts, same⟩ := Option.map_eq_some_iff.mp stepped
      cases same
      exact .inl ⟨call, node, rfl, rfl, starts, rfl, rfl⟩
    | next choice => cases stepped
  | running call code =>
    cases code with
    | done value => cases stepped
    | perform op rest =>
      cases move with
      | start call => cases stepped
      | next choice =>
        obtain ⟨⟨reply, node⟩, performed, same⟩ := Option.map_eq_some_iff.mp stepped
        cases same
        exact .inr ⟨call, op, rest, choice, reply, node, rfl, rfl, performed, rfl, rfl⟩

theorem Filed.start {s : Watched} (filed : Filed s) {call : Call} {node : Node}
    (own : ∀ id ∈ call.requestID, s.node.store.OwnFile s.received id)
    (starts : s.node.start call = some node) :
    Filed { s with node := node, received := call.requestID.toList ++ s.received } ∧
      Uses (· ∈ call.requestID.toList ++ s.received) (call.handler config) := by
  have asked (id : String) (member : id ∈ call.requestID) :
      id ∈ call.requestID.toList ++ s.received :=
    List.mem_append_left _ (Option.mem_toList.mpr member)
  have received : Filed { s with received := call.requestID.toList ++ s.received } := by
    cases requested : call.requestID with
    | none => exact filed
    | some id => exact filed.receive (own id requested)
  cases call with
  | executeApproval req =>
    simp only [Node.start] at starts
    split_ifs at starts with flow
    obtain rfl := Option.some.inj starts
    refine ⟨received.frame rfl fun other member => ?_, handler_uses config asked ?_⟩
    · exact filed.flows other (List.mem_of_mem_erase member)
    · rintro _ ⟨⟩
      exact filed.flows req flow
  | _ =>
    obtain rfl := Option.some.inj starts
    exact ⟨received, handler_uses config asked (by rintro _ ⟨⟩)⟩

theorem Filed.perform {s : Watched} (filed : Filed s) {call : Call} {op : Op} {choice : Choice}
    {reply : op.Reply} {node : Node} (about : op.About (· ∈ s.received))
    (new : ∀ req, op = .saveJoinRequest req → call.submits = true → s.node.request req.id = none)
    (performed : NodeManager.perform op choice s.node = some (reply, node)) :
    Filed { s with
        node := node, accesses := call.accesses s.node node op choice reply ++ s.accesses } ∧
      op.LoadsOwn reply := by
  cases op with
  | saveJoinRequest req =>
    cases choice with
    | write outcome =>
      obtain rfl : node = (s.node.save req outcome).2 :=
        congrArg Prod.snd (Option.some.inj performed).symm
      exact ⟨filed.save about (new req rfl) outcome, trivial⟩
    | _ => cases performed
  | addPeer peer =>
    cases choice with
    | write outcome =>
      cases performed
      exact ⟨filed.addPeer peer outcome, trivial⟩
    | _ => cases performed
  | loadJoinRequest id =>
    obtain ⟨rfl, rfl⟩ := perform_load performed
    have own := filed.loadsOwn about
    exact ⟨filed.record ⟨trivial, trivial, own⟩ nofun, fun r found => (own r found).1⟩
  | _ =>
    obtain ⟨store, flows⟩ := perform_frame performed nofun nofun
    refine ⟨filed.frame store ?_, trivial⟩
    rcases flows with same | ⟨req, started, added⟩
    · exact same ▸ filed.flows
    · cases started <;>
        exact added ▸ List.forall_mem_append.mpr ⟨filed.flows, List.forall_mem_singleton.mpr about⟩

end Step

variable [DecidableEq I]

theorem requests_isolated {config : NodeConfig} {start world : World I Watched WatchedProcess}
    (setUp : SetUp start) (reached : (watching config).Reaches OwnIds start world) :
    Throughout FileAccess.Isolated world.shared.accesses := by
  have filed := (reached.assertions Filed (fun s _ proc => proc.Sound s.received) ?_ ?_).1
  · exact filed.isolation
  · exact ⟨setUp.filed, fun i => setUp.idle i ▸ trivial⟩
  · intro world i move shared next filed sound own stepped
    rcases watching_step_cases stepped with
      ⟨call, node, idle, rfl, starts, rfl, rfl⟩ |
      ⟨call, op, rest, choice, reply, node, running, rfl, performed, rfl, rfl⟩
    · simp only [OwnIds] at own
      obtain ⟨kept, uses⟩ := filed.start own starts
      exact ⟨kept, uses, fun j _ => (sound j).mono⟩
    · have uses := sound i
      rw [running] at uses
      have new (req : JoinRequest) (save : op = .saveJoinRequest req)
          (submits : call.submits = true) : world.shared.node.request req.id = none := by
        subst save
        simp only [OwnIds, running] at own
        exact own submits
      obtain ⟨kept, loads⟩ := filed.perform uses.1 new performed
      exact ⟨kept, uses.2 reply loads, fun j _ => sound j⟩

/-! ## Sample runs -/

instance (earlier : List FileAccess) (access : FileAccess) :
    Decidable (access.SparesFiles earlier) := by
  unfold FileAccess.SparesFiles
  split <;> infer_instance

instance (earlier : List FileAccess) (access : FileAccess) :
    Decidable (access.KeepsExisting earlier) := by
  unfold FileAccess.KeepsExisting
  split <;> infer_instance

instance (earlier : List FileAccess) (access : FileAccess) :
    Decidable (access.LoadsOwn earlier) := by
  unfold FileAccess.LoadsOwn
  split <;> infer_instance

instance decidableThroughout (P : List FileAccess → FileAccess → Prop)
    [∀ earlier access, Decidable (P earlier access)] :
    (accesses : List FileAccess) → Decidable (Throughout P accesses)
  | [] => .isTrue trivial
  | access :: earlier =>
    have := decidableThroughout P earlier
    inferInstanceAs (Decidable (P earlier access ∧ Throughout P earlier))

instance (s : Store) (others : List String) (id : String) : Decidable (s.OwnFile others id) :=
  decidable_of_iff (s.requestPath id ≠ s.nodeConfigPath ∧ s.requestPath id ≠ s.peersPath ∧
      ∀ other ∈ others, s.requestPath other = s.requestPath id → other = id)
    ⟨fun ⟨config, peers, others⟩ => ⟨config, peers, others⟩,
      fun own => ⟨own.config, own.peers, own.others⟩⟩

instance (world : World (Fin 5) Watched WatchedProcess) (i : Fin 5) (move : WatchedMove) :
    Decidable (OwnIds world i move) := by
  unfold OwnIds
  split <;> infer_instance

def watchedStart : World (Fin 5) Watched WatchedProcess where
  shared := { node := .idle peerOne threePeers, received := [], accesses := [] }
  procs _ := .idle

def watchedCall (i : Fin 5) (call : Call) (choices : List Choice) : List (Fin 5 × WatchedMove) :=
  (i, .start call) :: choices.map fun choice => (i, .next choice)

def watchedSubmission (i : Fin 5) (req : JoinRequest) : List (Fin 5 × WatchedMove) :=
  watchedCall i (.submitJoinRequest "" 1 req) [.nothing, .write .written, .nothing]

-- An id out of the directory of requests, an id sent again after a vote, a vote on another file.
theorem requests_not_isolated :
    (¬∀ world, (watching peerOne).Reaches (fun _ _ _ => True) watchedStart world →
      Throughout FileAccess.SparesFiles world.shared.accesses) ∧
    (¬∀ world, (watching peerOne).Reaches (fun _ _ _ => True) watchedStart world →
      Throughout FileAccess.KeepsExisting world.shared.accesses) ∧
    ¬∀ world, (watching peerOne).Reaches (fun _ _ _ => True) watchedStart world →
      Throughout FileAccess.LoadsOwn world.shared.accesses := by
  refine ⟨Machine.not_always (watchedSubmission 0 { joiner with id := "../node" }) ?_,
    Machine.not_always (watchedSubmission 0 joiner ++
      watchedCall 1 (.castVote "r1" true) [.nothing, .time 2, .write .written, .nothing] ++
      watchedSubmission 2 joiner) ?_,
    Machine.not_always (watchedCall 0 (.castVote "../node" true) [.nothing]) ?_⟩
  all_goals decide +kernel

theorem watchedStart_setUp : SetUp watchedStart where
  idle _ := rfl
  received := rfl
  accesses := rfl
  flows := rfl
  files := Dict.forall_set _ (.inr ⟨rfl, threePeers, rfl⟩)
    (Dict.forall_set _ (.inl ⟨rfl, peerOne, rfl⟩) nofun)

-- The request comes back with a vote, and the node's own makes the majority.
theorem requests_isolated_approved :
    ∃ world, (watching peerOne).Reaches OwnIds watchedStart world ∧
      world.shared.accesses.length = 6 ∧ Throughout FileAccess.Isolated world.shared.accesses := by
  have ends : ((watching peerOne).checkedRun OwnIds watchedStart (watchedSubmission 0 joiner ++
      watchedCall 1 (.receiveGossipedRequest { joiner with votes := [sampleVote "PeerTwoMSP" true] })
        [.nothing, .write .written] ++
      watchedCall 2 (.castVote "r1" true)
        [.nothing, .time 2, .write .written, .nothing, .time 3, .write .written, .nothing])).map
      (fun world => world.shared.accesses.length) = some 6 := by decide +kernel
  obtain ⟨world, ran, length⟩ := Option.map_eq_some_iff.mp ends
  have reached := (Machine.Runs.checked .nil ran).reaches
  exact ⟨world, reached, length, requests_isolated watchedStart_setUp reached⟩

end Kufi.NodeManager

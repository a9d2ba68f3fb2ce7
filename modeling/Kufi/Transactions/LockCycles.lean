import Kufi.Transactions.Service
import Kufi.Transactions.TransferLocks
import Mathlib.Data.String.Basic

set_option autoImplicit false

/-!
# No circle of waiting transfers

Every transfer asks for the locks of its users in the order of their ids and
for the key of its transaction last, whether or not the wallets exist.
-/

namespace Kufi.Transactions

open Shared

/-- `localeCompare` on canonical ids: a consistent comparison that tells them apart. -/
structure Env.OrdersIds (env : Env) : Prop where
  total : ∀ first second, Uuid.Canonical first → Uuid.Canonical second →
    env.localeCompare first second ≤ 0 ∨ env.localeCompare second first ≤ 0
  trans : ∀ first second third, Uuid.Canonical first → Uuid.Canonical second →
    Uuid.Canonical third → env.localeCompare first second ≤ 0 →
      env.localeCompare second third ≤ 0 → env.localeCompare first third ≤ 0
  antisymm : ∀ first second, Uuid.Canonical first → Uuid.Canonical second →
    env.localeCompare first second ≤ 0 → env.localeCompare second first ≤ 0 → first = second

/-- The first id comes before the second. -/
structure Env.Precedes (env : Env) (first second : String) : Prop where
  canonical : Uuid.Canonical first
  canonical' : Uuid.Canonical second
  le : env.localeCompare first second ≤ 0
  ne : first ≠ second

theorem Env.OrdersIds.precedes_trans {env : Env} (orders : env.OrdersIds)
    {first second third : String} (lower : env.Precedes first second)
    (upper : env.Precedes second third) : env.Precedes first third where
  canonical := lower.canonical
  canonical' := upper.canonical'
  le := orders.trans first second third lower.canonical lower.canonical' upper.canonical'
    lower.le upper.le
  ne := by
    rintro rfl
    exact lower.ne
      (orders.antisymm first second lower.canonical lower.canonical' lower.le upper.le)

/-! ## The order of the locks -/

/-- The user whose wallet the lock is on. -/
def TransferLock.userId? : TransferLock → Option Uuid
  | .wallet userId _ | .walletKey userId _ => some userId
  | .idempotencyKey _ => none

/-- Wallets by the ids of their users, transactions after all wallets. -/
def TransferLock.Before (env : Env) (lower upper : TransferLock) : Prop :=
  ∃ first, lower.userId? = some first ∧
    ∀ second, upper.userId? = some second → env.Precedes first.format second.format

theorem TransferLock.before_trans {env : Env} (orders : env.OrdersIds)
    (lower middle upper : TransferLock) (below : lower.Before env middle)
    (above : middle.Before env upper) : lower.Before env upper := by
  obtain ⟨first, user, order⟩ := below
  obtain ⟨second, user', order'⟩ := above
  exact ⟨first, user, fun third user'' =>
    orders.precedes_trans (order second user') (order' third user'')⟩

theorem TransferLock.before_irrefl {env : Env} (key : TransferLock) : ¬ key.Before env key := by
  rintro ⟨first, user, order⟩
  exact (order first user).ne rfl

theorem LockedWallet.userId?_key (wallet : LockedWallet) (currency : String) :
    (wallet.key currency).userId? = some wallet.id := by
  unfold LockedWallet.key
  split <;> rfl

/-! ## The users of a transfer -/

/-- A transfer between users that are spelled as the database spells them. -/
structure TransferRequest.CanonicalUsers (req : TransferRequest) : Prop where
  sender : Uuid.Canonical req.fromUserId
  receiver : Uuid.Canonical req.toUserId

section

variable {env : Env} {req : TransferRequest}

theorem canonical_of_mem (canonical : req.CanonicalUsers) {userId : String}
    (listed : userId ∈ usersToLock env req) : Uuid.Canonical userId := by
  cases external : req.isExternal with
  | true =>
    rw [usersToLock_external external] at listed
    exact List.mem_singleton.mp listed ▸ canonical.sender
  | false =>
    rcases usersToLock_internal env external with order | order <;>
      simp only [order, List.mem_cons, List.not_mem_nil, or_false] at listed <;>
      rcases listed with rfl | rfl
    · exact canonical.sender
    · exact canonical.receiver
    · exact canonical.receiver
    · exact canonical.sender

theorem usersToLock_pairwise (orders : env.OrdersIds) (canonical : req.CanonicalUsers) :
    (usersToLock env req).Pairwise env.Precedes := by
  cases external : req.isExternal with
  | true =>
    rw [usersToLock_external external]
    exact List.pairwise_singleton _ _
  | false =>
    have different : req.toUserId ≠ req.fromUserId := (req.distinct external).symm
    by_cases ordered : env.localeCompare req.fromUserId req.toUserId ≤ 0
    · have sorted : usersToLock env req = [req.fromUserId, req.toUserId] := by
        simp [usersToLock, external, different, ordered]
      rw [sorted, List.pairwise_pair]
      exact ⟨canonical.sender, canonical.receiver, ordered, different.symm⟩
    · have sorted : usersToLock env req = [req.toUserId, req.fromUserId] := by
        simp [usersToLock, external, different, ordered]
      have swapped := (orders.total _ _ canonical.sender canonical.receiver).resolve_left ordered
      rw [sorted, List.pairwise_pair]
      exact ⟨canonical.receiver, canonical.sender, swapped, different⟩

end

/-! ## What a transfer holds -/

/-- The locks held are those of the first users in the order, `rest` are still to come. -/
structure TransferWork.Sound (env : Env) (work : TransferWork) (rest : List String) : Prop where
  canonical : work.req.CanonicalUsers
  users : usersToLock env work.req = work.lockedWallets.map LockedWallet.userId ++ rest
  ids : ∀ wallet ∈ work.lockedWallets, Uuid.parse wallet.userId = some wallet.id

def Transfer.Sound (env : Env) : Transfer → Prop
  | .start _ req => req.CanonicalUsers
  | .lockWallet work userId rest => work.Sound env (userId :: rest)
  | .createWallet work userId id rest =>
    work.Sound env (userId :: rest) ∧ Uuid.parse userId = some id
  | .insert work | .commit work => work.Sound env []
  | .ended _ => True

section

variable {env : Env} {work : TransferWork} {userId : String} {id : Uuid} {rest : List String}
  {db after : TransferDatabase} {transfer next : Transfer}

theorem sound_loop (sound : work.Sound env rest) : (Transfer.loop work rest).Sound env := by
  cases rest <;> exact sound

theorem TransferWork.Sound.lock {row : Option Wallet} (sound : work.Sound env (userId :: rest))
    (parsed : Uuid.parse userId = some id) : (work.lock ⟨userId, id, row⟩).Sound env rest where
  canonical := sound.canonical
  users := by simp [TransferWork.lock, sound.users]
  ids wallet listed := by
    rcases List.mem_append.mp listed with before | own
    · exact sound.ids wallet before
    · rw [List.mem_singleton.mp own]
      exact parsed

theorem format_of_canonical (canonical : Uuid.Canonical userId)
    (parsed : Uuid.parse userId = some id) : id.format = userId := by
  obtain ⟨other, parsed', spelled⟩ := canonical
  rw [parsed] at parsed'
  rwa [Option.some.inj parsed']

/-- All that is held comes before the next user. -/
theorem TransferWork.Sound.precedes (orders : env.OrdersIds)
    (sound : work.Sound env (userId :: rest)) (parsed : Uuid.parse userId = some id)
    {key wanted : TransferLock} (held : key ∈ work.keys) (user : wanted.userId? = some id) :
    key.Before env wanted := by
  obtain ⟨wallet, listed, rfl⟩ := List.mem_map.mp held
  refine ⟨wallet.id, wallet.userId?_key _, fun second user' => ?_⟩
  obtain rfl : id = second := Option.some.inj (user.symm.trans user')
  have sorted := usersToLock_pairwise orders sound.canonical
  rw [sound.users] at sorted
  have order := (List.pairwise_append.mp sorted).2.2 wallet.userId (List.mem_map_of_mem listed)
    userId List.mem_cons_self
  rwa [format_of_canonical order.canonical (sound.ids wallet listed),
    format_of_canonical order.canonical' parsed]

/-- The lock that a transfer asks for comes after all it holds. -/
theorem Transfer.Sound.inOrder (orders : env.OrdersIds) (sound : transfer.Sound env)
    {wanted : TransferLock} (wants : transfer.wants db = some wanted) {key : TransferLock}
    (held : key ∈ transfer.held) : key.Before env wanted := by
  cases transfer with
  | start => cases held
  | lockWallet work userId rest =>
    simp only [Transfer.wants, Option.bind_eq_some_iff, Option.map_eq_some_iff] at wants
    obtain ⟨id, parsed, _, _, rfl⟩ := wants
    exact TransferWork.Sound.precedes orders sound parsed held rfl
  | createWallet work userId id rest =>
    obtain rfl := Option.some.inj wants
    exact sound.1.precedes orders sound.2 held rfl
  | insert work =>
    simp only [Transfer.wants] at wants
    split at wants
    next =>
      obtain rfl := Option.some.inj wants
      obtain ⟨wallet, _, rfl⟩ := List.mem_map.mp held
      exact ⟨wallet.id, wallet.userId?_key _, fun _ user => by cases user⟩
    next => cases wants
  | commit => cases wants
  | ended => cases wants

theorem Transfer.Moves.sound (moves : Transfer.Moves env db transfer after next)
    (sound : transfer.Sound env) : next.Sound env := by
  cases moves with
  | stopped => trivial
  | started => exact sound_loop ⟨sound, rfl, fun _ listed => absurd listed List.not_mem_nil⟩
  | locked parsed => exact sound_loop (TransferWork.Sound.lock sound parsed)
  | missing parsed => exact ⟨sound, parsed⟩
  | created => exact sound_loop (sound.1.lock sound.2)
  | inserted => exact sound

/-- A step takes one free lock, or keeps or gives up all that is held. -/
structure Transfer.Locks (db : TransferDatabase) (transfer : Transfer) (after : TransferDatabase)
    (next : Transfer) : Prop where
  taken : ∀ key ∈ next.held, key ∈ transfer.held ∨ key ∉ db.locked
  kept : ∀ key ∈ next.held, (key ∈ transfer.held → key ∈ db.locked) → key ∈ after.locked
  others : ∀ key ∈ db.locked, key ∉ transfer.held → key ∈ after.locked
  accounted : ∀ key ∈ after.locked, key ∈ next.held ∨ key ∈ db.locked ∧ key ∉ transfer.held

theorem Transfer.Locks.take {key : TransferLock}
    (holds : ∀ other, other ∈ next.held ↔ other = key ∨ other ∈ transfer.held)
    (free : key ∉ db.locked) :
    Transfer.Locks db transfer { db with locked := key :: db.locked } next where
  taken other held := by
    rcases (holds other).mp held with rfl | before
    · exact .inr free
    · exact .inl before
  kept other held own := by
    rcases (holds other).mp held with rfl | before
    · exact List.mem_cons_self
    · exact List.mem_cons_of_mem _ (own before)
  others other locked _ := List.mem_cons_of_mem _ locked
  accounted other locked := by
    rcases List.mem_cons.mp locked with rfl | locked
    · exact .inl ((holds other).mpr (.inl rfl))
    · by_cases before : other ∈ transfer.held
      · exact .inl ((holds other).mpr (.inr before))
      · exact .inr ⟨locked, before⟩

theorem Transfer.Locks.keep (same : next.held = transfer.held) :
    Transfer.Locks db transfer db next where
  taken other held := .inl (same ▸ held)
  kept _ held own := own (same ▸ held)
  others _ locked _ := locked
  accounted other locked := by
    rw [same]
    by_cases before : other ∈ transfer.held
    · exact .inl before
    · exact .inr ⟨locked, before⟩

theorem Transfer.Moves.locks (moves : Transfer.Moves env db transfer after next) :
    Transfer.Locks db transfer after next := by
  have grown (work : TransferWork) (wallet : LockedWallet) (rest : List String)
      (other : TransferLock) : other ∈ (Transfer.loop (work.lock wallet) rest).held ↔
        other = wallet.key work.req.currency ∨ other ∈ work.keys := by
    rw [held_loop, keys_lock, List.mem_append, List.mem_singleton, or_comm]
  cases moves with
  | stopped =>
    exact
      { taken := fun _ held => absurd held List.not_mem_nil
        kept := fun _ held => absurd held List.not_mem_nil
        others := fun key locked other => List.mem_filter.mpr ⟨locked, by simpa using other⟩
        accounted := fun key locked => .inr (by simpa using List.mem_filter.mp locked) }
  | started => exact .keep (held_loop _ _)
  | locked _ free => exact .take (grown _ _ _) free
  | missing => exact .keep rfl
  | created free => exact .take (grown _ _ _) free
  | inserted free => exact .take (fun other => List.mem_cons) free

end

/-! ## Runs -/

section

variable {I : Type} [DecidableEq I] {env : Env} {start world : World I TransferDatabase Transfer}

/-- Transfers between canonical ids that have not begun, over a database without locks. -/
structure Unbegun (world : World I TransferDatabase Transfer) : Prop where
  unlocked : world.shared.locked = []
  fresh : ∀ i, ∃ now req, world.procs i = .start now req ∧ req.CanonicalUsers

theorem transfers_sound (unbegun : Unbegun start)
    (reached : (lockingTransfers env).Reaches (fun _ _ _ => True) start world) (i : I) :
    (world.procs i).Sound env := by
  refine (reached.assertions (fun _ => True) (fun _ _ transfer => transfer.Sound env)
    ⟨trivial, fun i => ?_⟩ fun world i action _ next _ sound _ stepped =>
      ⟨trivial, (Transfer.step_moves stepped).sound (sound i), fun j _ => sound j⟩).2 i
  obtain ⟨now, req, begun, canonical⟩ := unbegun.fresh i
  rw [begun]
  exact canonical

/-- However transfers are interleaved, none of them waits for itself. -/
theorem no_lock_cycle (orders : env.OrdersIds) (unbegun : Unbegun start)
    (reached : (lockingTransfers env).Reaches (fun _ _ _ => True) start world) (i : I) :
    ¬ Relation.TransGen (transferLocks.WaitsFor world) i i := by
  have ordered : transferLocks.InOrder (TransferLock.Before env) world := fun i wanted wants key =>
    (transfers_sound unbegun reached i).inOrder orders wants
  exact ordered.acyclic (TransferLock.before_trans orders) TransferLock.before_irrefl i

/-- No two transfers hold one lock, and no lock is left behind. -/
theorem transfers_locked (unbegun : Unbegun start)
    (reached : (lockingTransfers env).Reaches (fun _ _ _ => True) start world) :
    Locked TransferDatabase.locked Transfer.held world ∧ transferLocks.Owned world := by
  have none (i : I) : (start.procs i).held = [] := by
    obtain ⟨now, req, begun, _⟩ := unbegun.fresh i
    rw [begun]
    rfl
  refine reached.invariant (fun world => Locked TransferDatabase.locked Transfer.held world ∧
    transferLocks.Owned world) ⟨.of_none none, fun key locked => ?_⟩ ?_
  · have empty : key ∈ start.shared.locked := locked
    rw [unbegun.unlocked] at empty
    cases empty
  · intro world i action after ⟨locked, owned⟩ _ fired
    obtain ⟨shared, next, stepped, rfl⟩ := Machine.fire_eq_some.mp fired
    have locks := (Transfer.step_moves stepped).locks
    have kept := fun key held => locks.kept key held (locked.listed i key)
    exact ⟨locked.step locks.taken kept locks.others, owned.step locks.accounted⟩

/-- As long as a transfer is open, one of them can take its statement. -/
theorem transfers_progress [Finite I] (orders : env.OrdersIds) (unbegun : Unbegun start)
    (reached : (lockingTransfers env).Reaches (fun _ _ _ => True) start world)
    {i : I} (open' : ∀ result, world.procs i ≠ .ended result) :
    ∃ i after, (lockingTransfers env).fire world i .statement = some after := by
  obtain ⟨least, unended, unblocked⟩ := LockUse.exists_unblocked
    (no_lock_cycle orders unbegun reached) (fun i => ∀ result, world.procs i ≠ .ended result) open'
  cases stepped : (world.procs least).statement env world.shared with
  | some after => exact ⟨least, _, Machine.fire_eq_some.mpr ⟨_, _, stepped, rfl⟩⟩
  | none =>
    rcases Transfer.statement_eq_none stepped with ⟨result, done⟩ | ⟨key, wants, taken⟩
    · exact absurd done (unended result)
    · obtain ⟨j, held⟩ := (transfers_locked unbegun reached).2 key taken
      have other : least ≠ j := by
        rintro rfl
        exact TransferLock.before_irrefl key
          ((transfers_sound unbegun reached least).inOrder orders wants held)
      refine absurd ⟨other, key, wants, held⟩ (unblocked j fun result done => ?_)
      have nothing : key ∈ (world.procs j).held := held
      rw [done] at nothing
      cases nothing

end

/-! ## Two transfers between one pair of users -/

-- Hexadecimal digits and hyphens stand in the order of their codes.
def idCompare (left right : String) : Int :=
  if left = right then 0 else if left < right then -1 else 1

def idEnv : Env := { sampleEnv with localeCompare := idCompare }

theorem idCompare_le {left right : String} : idCompare left right ≤ 0 ↔ left ≤ right := by
  unfold idCompare
  split_ifs with same below
  · simp [same]
  · simp [below.le]
  · simp [not_le.mpr (lt_of_le_of_ne (not_lt.mp below) (Ne.symm same))]

theorem idEnv_ordersIds : idEnv.OrdersIds where
  total first second _ _ := by
    change idCompare first second ≤ 0 ∨ idCompare second first ≤ 0
    rw [idCompare_le, idCompare_le]
    exact le_total first second
  trans first second third _ _ _ lower upper :=
    idCompare_le.mpr ((idCompare_le.mp lower).trans (idCompare_le.mp upper))
  antisymm first second _ _ lower upper :=
    le_antisymm (idCompare_le.mp lower) (idCompare_le.mp upper)

def carol : String := "cccccccc-0000-4000-8000-000000000003"

def crossing (idempotencyKey sender receiver : String) (filled : receiver ≠ "")
    (different : sender ≠ receiver) : TransferRequest where
  idempotencyKey := idempotencyKey
  requestingUserId := sender
  fromUserId := sender
  toUserId := receiver
  amount := 10
  currency := "VND"
  memo := ""
  isExternal := false
  externalPartner := none
  externalAccountNo := none
  requester := rfl
  receiverGiven := filled
  distinct _ := different
  positive := ten_positive

/-- Alice pays Carol, who has no wallet yet, and Carol pays Alice. -/
def crossed : World Bool TransferDatabase Transfer where
  shared := ⟨fundedTables, []⟩
  procs back := if back then .start 2 (crossing "back" carol alice (by decide) (by decide))
    else .start 1 (crossing "there" alice carol (by decide) (by decide))

theorem no_lock_cycle_crossed :
    ∃ world, (lockingTransfers idEnv).run crossed
        [(false, .statement), (false, .statement), (true, .statement), (false, .statement),
          (false, .statement)] = some world ∧
      ¬ Relation.TransGen (transferLocks.WaitsFor world) true true := by
  have canonical : Uuid.Canonical alice ∧ Uuid.Canonical carol :=
    ⟨⟨aliceId, by decide, by decide⟩, ⟨(Uuid.parse carol).getD ⟨[]⟩, by decide, by decide⟩⟩
  have unbegun : Unbegun crossed := by
    refine ⟨rfl, fun back => ?_⟩
    cases back
    · exact ⟨_, _, rfl, canonical.1, canonical.2⟩
    · exact ⟨_, _, rfl, canonical.2, canonical.1⟩
  obtain ⟨world, ran⟩ := Option.isSome_iff_exists.mp (show ((lockingTransfers idEnv).run crossed
    [(false, .statement), (false, .statement), (true, .statement), (false, .statement),
      (false, .statement)]).isSome = true by decide +kernel)
  exact ⟨world, ran, no_lock_cycle idEnv_ordersIds unbegun (.run .refl ran) true⟩

end Kufi.Transactions

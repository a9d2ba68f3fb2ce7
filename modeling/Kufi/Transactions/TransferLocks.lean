import Kufi.Shared.LockOrder
import Kufi.Shared.Locks
import Kufi.Transactions.TransferEffects

set_option autoImplicit false

/-!
# The locks of a transfer

The statements of `persistTransfer` one by one, each with the lock it takes. A
transfer holds its locks until it commits or is rolled back.
-/

namespace Kufi.Transactions

open Shared

/-- What a transfer locks: the row of a wallet, the unique key of a wallet it has inserted and
that of the transaction it has inserted. -/
inductive TransferLock where
  | wallet (userId : Uuid) (currency : String)
  | walletKey (userId : Uuid) (currency : String)
  | idempotencyKey (key : String)
  deriving DecidableEq

structure TransferDatabase where
  -- what has been committed
  tables : Tables
  locked : List TransferLock

-- The end of a database transaction that holds `keys`.
def TransferDatabase.finish (db : TransferDatabase) (keys : List TransferLock) (tables : Tables) :
    TransferDatabase where
  tables := tables
  locked := db.locked.filter (· ∉ keys)

/-- An entry of `lockedWallets`: the row that was read, `none` for one that was inserted. -/
structure LockedWallet where
  userId : String
  id : Uuid
  row : Option Wallet

def LockedWallet.key (wallet : LockedWallet) (currency : String) : TransferLock :=
  match wallet.row with
  | some _ => .wallet wallet.id currency
  | none => .walletKey wallet.id currency

structure TransferWork where
  now : Instant
  req : TransferRequest
  lockedWallets : List LockedWallet

namespace TransferWork

def keys (work : TransferWork) : List TransferLock :=
  work.lockedWallets.map fun wallet => wallet.key work.req.currency

def lock (work : TransferWork) (wallet : LockedWallet) : TransferWork :=
  { work with lockedWallets := work.lockedWallets ++ [wallet] }

end TransferWork

-- The rows of the loop with the ids they are inserted under.
def insertLocked (now : Instant) (currency : String) :
    List LockedWallet → Tables → Except ServiceError (List (String × Wallet) × Tables)
  | [], s => .ok ([], s)
  | wallet :: rest, s => do
    let (row, s) ← match wallet.row with
      | some row => .ok (row, s)
      | none => s.insertWallet (emptyWallet now wallet.id currency)
    let (locked, s) ← insertLocked now currency rest s
    .ok ((wallet.userId, row) :: locked, s)

-- What `persistTransfer` does once the loop has ended.
def recordTransfer (now : Instant) (req : TransferRequest) (locked : List (String × Wallet))
    (s : Tables) : Except ServiceError (PersistedTransfer × Tables) :=
  match locked.lookup req.fromUserId with
  | none => .error .queryFailed
  | some fromWallet =>
    if fromWallet.status ≠ .active then .error (.badRequest "Sender wallet is not active")
    else if fromWallet.balance < req.amount then .error (.badRequest "Insufficient balance")
    else do
      let fromAfter := debited req.amount fromWallet
      let s ← s.saveWallet fromAfter
      let (receiver, s) ← creditReceiver now req locked s
      let fromUserId ← parseUuid req.fromUserId
      let toUserId ← parseUuid req.toUserId
      let (savedTx, s) ← s.insertTransaction (transferEntity now req fromUserId toUserId)
      let s ← s.insertLedger (ledgerEntry savedTx.id .debit req.amount fromWallet fromAfter
        ("Transfer debit (" ++ req.currency ++ ")"))
      match receiver with
      | none =>
        .ok ({ transaction := savedTx
               senderBalance := fromAfter.balance
               receiverBalance := 0 }, s)
      | some (before, after) =>
        let s ← s.insertLedger (ledgerEntry savedTx.id .credit req.amount before after
          ("Transfer credit (" ++ req.currency ++ ")"))
        .ok ({ transaction := savedTx
               senderBalance := fromAfter.balance
               receiverBalance := after.balance }, s)

theorem insertTransfer_eq (env : Env) (now : Instant) (req : TransferRequest) (s : Tables) :
    insertTransfer env now req s =
      (lockWallets now req (usersToLock env req) s).bind fun locked =>
        recordTransfer now req locked.1 locked.2 := rfl

def TransferWork.write (work : TransferWork) (s : Tables) :
    Except ServiceError (PersistedTransfer × Tables) :=
  (insertLocked work.now work.req.currency work.lockedWallets s).bind fun locked =>
    recordTransfer work.now work.req locked.1 locked.2

/-- Where a transfer stands: the statement it takes next. -/
inductive Transfer where
  | start (now : Instant) (req : TransferRequest)
  | lockWallet (work : TransferWork) (userId : String) (rest : List String)
  | createWallet (work : TransferWork) (userId : String) (id : Uuid) (rest : List String)
  | insert (work : TransferWork)
  | commit (work : TransferWork)
  | ended (result : Except ServiceError PersistedTransfer)

inductive TransferAction where
  | statement
  -- the connection is lost, or a statement fails
  | abort

namespace Transfer

def held : Transfer → List TransferLock
  | .lockWallet work _ _ | .createWallet work _ _ _ | .insert work => work.keys
  | .commit work => .idempotencyKey work.req.idempotencyKey :: work.keys
  | .start _ _ | .ended _ => []

/-- The loop over the users that are still to be locked. -/
def loop (work : TransferWork) : List String → Transfer
  | [] => .insert work
  | userId :: rest => .lockWallet work userId rest

def rollback (db : TransferDatabase) (transfer : Transfer) (error : ServiceError) :
    TransferDatabase × Transfer :=
  (db.finish transfer.held db.tables, .ended (.error error))

/-- The lock that the next statement asks for. -/
def wants (db : TransferDatabase) : Transfer → Option TransferLock
  | .lockWallet work userId _ =>
    (Uuid.parse userId).bind fun id =>
      (db.tables.findWallet id work.req.currency).map fun _ => .wallet id work.req.currency
  | .createWallet work _ id _ => some (.walletKey id work.req.currency)
  | .insert work =>
    match work.write db.tables with
    | .ok _ => some (.idempotencyKey work.req.idempotencyKey)
    | .error _ => none
  | .start _ _ | .commit _ | .ended _ => none

-- A statement that waits for a lock cannot be taken.
def statement (env : Env) (db : TransferDatabase) (transfer : Transfer) :
    Option (TransferDatabase × Transfer) :=
  match transfer with
  | .start now req =>
    match db.tables.findByIdempotencyKey req.idempotencyKey with
    | some _ => some (db, .ended ((persistTransfer env now req db.tables).map Prod.fst))
    | none => some (db, loop ⟨now, req, []⟩ (usersToLock env req))
  | .lockWallet work userId rest =>
    match Uuid.parse userId with
    | none => some (transfer.rollback db .queryFailed)
    | some id =>
      match db.tables.findWallet id work.req.currency with
      | some wallet =>
        if .wallet id work.req.currency ∈ db.locked then none
        else some ({ db with locked := .wallet id work.req.currency :: db.locked },
          loop (work.lock ⟨userId, id, some wallet⟩) rest)
      | none =>
        if userId = work.req.fromUserId then
          some (transfer.rollback db (.badRequest "Sender wallet not found"))
        else some (db, .createWallet work userId id rest)
  | .createWallet work userId id rest =>
    if .walletKey id work.req.currency ∈ db.locked then none
    else
      match db.tables.insertWallet (emptyWallet work.now id work.req.currency) with
      | .error error => some (transfer.rollback db error)
      | .ok _ =>
        some ({ db with locked := .walletKey id work.req.currency :: db.locked },
          loop (work.lock ⟨userId, id, none⟩) rest)
  | .insert work =>
    match work.write db.tables with
    | .error error => some (transfer.rollback db error)
    | .ok _ =>
      if .idempotencyKey work.req.idempotencyKey ∈ db.locked then none
      else some ({ db with locked := .idempotencyKey work.req.idempotencyKey :: db.locked },
        .commit work)
  | .commit work =>
    match work.write db.tables with
    | .error error => some (transfer.rollback db error)
    | .ok (persisted, after) =>
      some (db.finish transfer.held after, .ended (.ok persisted))
  | .ended _ => none

def step (env : Env) (db : TransferDatabase) (transfer : Transfer) :
    TransferAction → Option (TransferDatabase × Transfer)
  | .statement => transfer.statement env db
  | .abort =>
    match transfer with
    | .ended _ => none
    | _ => some (transfer.rollback db .queryFailed)

end Transfer

def lockingTransfers (env : Env) : Machine TransferDatabase Transfer TransferAction where
  step := Transfer.step env

def transferLocks : LockUse TransferDatabase Transfer TransferLock where
  locks := TransferDatabase.locked
  held := Transfer.held
  wants := Transfer.wants

/-! ## What a step can do -/

variable {env : Env} {db after : TransferDatabase} {transfer next : Transfer}

@[simp] theorem held_loop (work : TransferWork) (users : List String) :
    (Transfer.loop work users).held = work.keys := by
  cases users <;> rfl

theorem keys_lock (work : TransferWork) (wallet : LockedWallet) :
    (work.lock wallet).keys = work.keys ++ [wallet.key work.req.currency] := by
  simp [TransferWork.keys, TransferWork.lock]

inductive Transfer.Moves (env : Env) (db : TransferDatabase) :
    Transfer → TransferDatabase → Transfer → Prop
  | stopped {transfer : Transfer} {tables : Tables}
      {result : Except ServiceError PersistedTransfer} :
      Moves env db transfer (db.finish transfer.held tables) (.ended result)
  | started {now : Instant} {req : TransferRequest} :
      Moves env db (.start now req) db (.loop ⟨now, req, []⟩ (usersToLock env req))
  | locked {work : TransferWork} {userId : String} {rest : List String} {id : Uuid}
      {wallet : Wallet} (parsed : Uuid.parse userId = some id)
      (free : .wallet id work.req.currency ∉ db.locked) :
      Moves env db (.lockWallet work userId rest)
        { db with locked := .wallet id work.req.currency :: db.locked }
        (.loop (work.lock ⟨userId, id, some wallet⟩) rest)
  | missing {work : TransferWork} {userId : String} {rest : List String} {id : Uuid}
      (parsed : Uuid.parse userId = some id) :
      Moves env db (.lockWallet work userId rest) db (.createWallet work userId id rest)
  | created {work : TransferWork} {userId : String} {rest : List String} {id : Uuid}
      (free : .walletKey id work.req.currency ∉ db.locked) :
      Moves env db (.createWallet work userId id rest)
        { db with locked := .walletKey id work.req.currency :: db.locked }
        (.loop (work.lock ⟨userId, id, none⟩) rest)
  | inserted {work : TransferWork} (free : .idempotencyKey work.req.idempotencyKey ∉ db.locked) :
      Moves env db (.insert work)
        { db with locked := .idempotencyKey work.req.idempotencyKey :: db.locked } (.commit work)

theorem TransferDatabase.finish_nil (db : TransferDatabase) : db.finish [] db.tables = db := by
  simp [TransferDatabase.finish]

theorem Transfer.statement_moves
    (stepped : transfer.statement env db = some (after, next)) :
    Transfer.Moves env db transfer after next := by
  cases transfer with
  | start now req =>
    simp only [Transfer.statement] at stepped
    split at stepped
    next =>
      obtain ⟨rfl, rfl⟩ := Prod.mk.inj (Option.some.inj stepped)
      have same : Transfer.Moves env db (.start now req)
          (db.finish (Transfer.start now req).held db.tables)
          (.ended ((persistTransfer env now req db.tables).map Prod.fst)) := .stopped
      rwa [Transfer.held, TransferDatabase.finish_nil] at same
    next =>
      obtain ⟨rfl, rfl⟩ := Prod.mk.inj (Option.some.inj stepped)
      exact .started
  | lockWallet work userId rest =>
    simp only [Transfer.statement] at stepped
    split at stepped
    next =>
      obtain ⟨rfl, rfl⟩ := Prod.mk.inj (Option.some.inj stepped)
      exact .stopped
    next id parsed =>
      split at stepped
      next wallet found =>
        split_ifs at stepped with free
        obtain ⟨rfl, rfl⟩ := Prod.mk.inj (Option.some.inj stepped)
        exact .locked parsed free
      next =>
        split_ifs at stepped with sender
        · obtain ⟨rfl, rfl⟩ := Prod.mk.inj (Option.some.inj stepped)
          exact .stopped
        · obtain ⟨rfl, rfl⟩ := Prod.mk.inj (Option.some.inj stepped)
          exact .missing parsed
  | createWallet work userId id rest =>
    simp only [Transfer.statement] at stepped
    split_ifs at stepped with free
    split at stepped
    next =>
      obtain ⟨rfl, rfl⟩ := Prod.mk.inj (Option.some.inj stepped)
      exact .stopped
    next =>
      obtain ⟨rfl, rfl⟩ := Prod.mk.inj (Option.some.inj stepped)
      exact .created free
  | insert work =>
    simp only [Transfer.statement] at stepped
    split at stepped
    next =>
      obtain ⟨rfl, rfl⟩ := Prod.mk.inj (Option.some.inj stepped)
      exact .stopped
    next =>
      split_ifs at stepped with free
      obtain ⟨rfl, rfl⟩ := Prod.mk.inj (Option.some.inj stepped)
      exact .inserted free
  | commit work =>
    simp only [Transfer.statement] at stepped
    split at stepped
    next =>
      obtain ⟨rfl, rfl⟩ := Prod.mk.inj (Option.some.inj stepped)
      exact .stopped
    next =>
      obtain ⟨rfl, rfl⟩ := Prod.mk.inj (Option.some.inj stepped)
      exact .stopped
  | ended => cases stepped

theorem Transfer.step_moves {action : TransferAction}
    (stepped : transfer.step env db action = some (after, next)) :
    Transfer.Moves env db transfer after next := by
  cases action with
  | statement => exact Transfer.statement_moves stepped
  | abort =>
    cases transfer with
    | ended => cases stepped
    | _ =>
      obtain ⟨rfl, rfl⟩ := Prod.mk.inj (Option.some.inj stepped)
      exact .stopped

/-- A transfer that cannot take its statement has ended or waits for a lock. -/
theorem Transfer.statement_eq_none (blocked : transfer.statement env db = none) :
    (∃ result, transfer = .ended result) ∨
      ∃ key, transfer.wants db = some key ∧ key ∈ db.locked := by
  cases transfer with
  | start now req =>
    simp only [Transfer.statement] at blocked
    split at blocked <;> cases blocked
  | lockWallet work userId rest =>
    simp only [Transfer.statement] at blocked
    split at blocked
    next => cases blocked
    next id parsed =>
      split at blocked
      next wallet found =>
        split_ifs at blocked with taken
        exact .inr ⟨_, by simp [Transfer.wants, parsed, found], taken⟩
      next => split_ifs at blocked
  | createWallet work userId id rest =>
    simp only [Transfer.statement] at blocked
    split_ifs at blocked with taken
    · exact .inr ⟨_, rfl, taken⟩
    · split at blocked <;> cases blocked
  | insert work =>
    simp only [Transfer.statement] at blocked
    split at blocked
    next => cases blocked
    next written =>
      split_ifs at blocked with taken
      exact .inr ⟨_, by simp [Transfer.wants, written], taken⟩
  | commit work =>
    simp only [Transfer.statement] at blocked
    split at blocked <;> cases blocked
  | ended result => exact .inl ⟨result, rfl⟩

end Kufi.Transactions

import Kufi.Shared.Locks
import Kufi.Transactions.CreationSteps
import Kufi.Transactions.Reversals

set_option autoImplicit false

/-!
# Reversals beside each other

The lock on the wallet lets one reversal write at a time. What a reversal has
looked up before it gets the lock may be out of date by then.
-/

namespace Kufi.Transactions

open Shared

/-- The balances since `start` are those of `start` and the credits on the ledger since then. -/
def CreditsRecorded (start after : Books) : Prop :=
  ∃ new, after.ledger.rows = start.ledger.rows ++ new ∧
    (∀ entry ∈ new, entry.direction = .credit) ∧
    ∀ wallet ∈ start.wallets, ∃ wallet' ∈ after.wallets, wallet'.id = wallet.id ∧
      wallet'.balance = ((new.filter fun entry => entry.walletId == some wallet.id).map
        LedgerEntry.amount).foldl Number.add wallet.balance

def Books.credits (books : Books) (transactionId : Nat) : List Posting :=
  (books.postings transactionId).filter fun posting => posting.direction = .credit

/-- Every transaction has one credit at most, and the wallets have been credited no more. -/
structure ReversedOnce (start after : Books) : Prop where
  once : ∀ id, (after.credits id).length ≤ 1
  recorded : CreditsRecorded start after

variable {I : Type} [DecidableEq I]

/-- A reversal that gets the lock on the wallet has not been overtaken since it looked. -/
def NotOvertaken (world : World I Database Reversal) (i : I) (_ : ReversalAction) : Prop :=
  match world.procs i with
  | .lockWallet work => world.shared.tables.findCredit work.tx.id = none
  | _ => True

instance (world : World Bool Database Reversal) (i : Bool) (action : ReversalAction) :
    Decidable (NotOvertaken world i action) := by
  unfold NotOvertaken
  split <;> infer_instance

/-! ## A step of a reversal -/

inductive Reversal.Moves (db : Database) : Reversal → Database → Reversal → Prop
  -- without a commit, or with one that changes nothing
  | stopped {reversal : Reversal} {after : Database} {result : Except ServiceError Unit}
      (same : after.tables = db.tables)
      (others : ∀ key ∈ db.locked, key ∉ reversal.held → key ∈ after.locked) :
      Moves db reversal after (.ended result)
  | begun {tx : TransactionEntity} {reasonCode : String} :
      Moves db (.rollback tx reasonCode) db (.check ⟨tx, reasonCode, none⟩)
  | marked {transactionId : Nat} {note : String} {tx : TransactionEntity}
      (found : db.tables.transactions.get? transactionId = some tx)
      (free : .transaction tx.id ∉ db.locked) :
      Moves db (.marking transactionId note)
        { db with locked := .transaction tx.id :: db.locked }
        (if tx.type = .withdrawal then .check ⟨tx, "SETTLEMENT_FAILED", some note⟩
          else .write ⟨tx, "SETTLEMENT_FAILED", some note⟩ none)
  | reversed {work : Reversing} : Moves db (.check work) db (.write work none)
  | unreversed {work : Reversing} : Moves db (.check work) db (.lockWallet work)
  | locked {work : Reversing} {wallet : Wallet}
      (found : db.tables.findWallet work.tx.fromUserId work.tx.currency = some wallet)
      (free : .wallet wallet.id ∉ db.locked) :
      Moves db (.lockWallet work) { db with locked := .wallet wallet.id :: db.locked }
        (.write work (some wallet))
  | committed {work : Reversing} {wallet : Option Wallet} {now : Instant} {after : Tables}
      (written : work.write now wallet db.tables = .ok after) :
      Moves db (.write work wallet) (db.finish (Reversal.write work wallet).held after)
        (.ended (.ok ()))

theorem Database.finish_others {db : Database} {keys : List RowKey} {tables : Tables} {key : RowKey}
    (member : key ∈ db.locked) (other : key ∉ keys) : key ∈ (db.finish keys tables).locked :=
  List.mem_filter.mpr ⟨member, by simpa using other⟩

theorem Reversal.step_moves {db after : Database} {reversal next : Reversal}
    {action : ReversalAction} (stepped : reversal.step db action = some (after, next)) :
    Reversal.Moves db reversal after next := by
  cases action with
  | abort =>
    cases reversal with
    | ended => cases stepped
    | _ =>
      obtain ⟨rfl, rfl⟩ := Prod.mk.inj (Option.some.inj stepped)
      exact .stopped rfl fun _ => Database.finish_others
  | statement now =>
    change reversal.statement now db = some (after, next) at stepped
    cases reversal with
    | rollback tx reasonCode =>
      simp only [Reversal.statement] at stepped
      split_ifs at stepped
      · obtain ⟨rfl, rfl⟩ := Prod.mk.inj (Option.some.inj stepped)
        exact .stopped rfl fun _ member _ => member
      · obtain ⟨rfl, rfl⟩ := Prod.mk.inj (Option.some.inj stepped)
        exact .begun
    | marking transactionId note =>
      simp only [Reversal.statement] at stepped
      split at stepped
      next =>
        obtain ⟨rfl, rfl⟩ := Prod.mk.inj (Option.some.inj stepped)
        exact .stopped rfl fun _ member _ => member
      next tx found =>
        split at stepped
        · cases stepped
        next free =>
          obtain ⟨rfl, rfl⟩ := Prod.mk.inj (Option.some.inj stepped)
          exact .marked found free
    | check work =>
      simp only [Reversal.statement] at stepped
      split at stepped
      next =>
        obtain ⟨rfl, rfl⟩ := Prod.mk.inj (Option.some.inj stepped)
        exact .reversed
      next =>
        obtain ⟨rfl, rfl⟩ := Prod.mk.inj (Option.some.inj stepped)
        exact .unreversed
    | lockWallet work =>
      simp only [Reversal.statement] at stepped
      split at stepped
      next =>
        obtain ⟨rfl, rfl⟩ := Prod.mk.inj (Option.some.inj stepped)
        exact .stopped rfl fun _ => Database.finish_others
      next wallet found =>
        split_ifs at stepped with free
        obtain ⟨rfl, rfl⟩ := Prod.mk.inj (Option.some.inj stepped)
        exact .locked found free
    | write work wallet =>
      simp only [Reversal.statement] at stepped
      split at stepped
      next tables written =>
        obtain ⟨rfl, rfl⟩ := Prod.mk.inj (Option.some.inj stepped)
        exact .committed written
      next =>
        obtain ⟨rfl, rfl⟩ := Prod.mk.inj (Option.some.inj stepped)
        exact .stopped rfl fun _ => Database.finish_others
    | ended => cases stepped

/-! ## What a commit changes -/

section

variable {s after : Tables}

theorem credits_of_uncredited {id : Nat} (none : s.findCredit id = none) :
    s.books.credits id = [] := by
  refine List.filter_eq_nil_iff.mpr fun posting member => ?_
  simpa using findCredit_eq_none.mp none posting member

theorem HasTerms.same {terms terms' : Terms} (has : s.HasTerms terms) (has' : s.HasTerms terms')
    (same : terms.id = terms'.id) : terms = terms' := by
  obtain ⟨row, member, rfl⟩ := has
  obtain ⟨row', member', rfl⟩ := has'
  rw [Table.eq_of_id member member' same]

theorem complete_effect {work : Reversing} {now : Instant} (held : s.HasTerms work.tx.terms)
    (done : work.complete now s = .ok after) :
    after.books = s.books ∧ ∀ terms, s.HasTerms terms → after.HasTerms terms := by
  unfold Reversing.complete at done
  split at done
  next note _ =>
    obtain ⟨middle, saved, enqueued⟩ := bind_eq_ok.mp done
    obtain ⟨outbox, event⟩ := enqueueTransactionEvent_isOk now (markedFailed now note work.tx) middle
    rw [event] at enqueued
    obtain rfl := Except.ok.inj enqueued
    have terms : (markedFailed now note work.tx).terms = work.tx.terms :=
      marked_terms now .failed note work.tx
    refine ⟨?_, fun other has => ?_⟩
    · obtain ⟨_, _, _, rfl⟩ := Tables.saveTransaction_eq_ok.mp saved
      rfl
    · have kept : middle.HasTerms other := terms_fixed.save has held terms saved
      exact kept
  next =>
    obtain rfl := Except.ok.inj done
    exact ⟨rfl, fun _ has => has⟩

theorem write_effect {work : Reversing} {now : Instant} {wallet : Option Wallet}
    (held : s.HasTerms work.tx.terms) (listed : ∀ wallet' ∈ wallet, wallet' ∈ s.wallets)
    (written : work.write now wallet s = .ok after) :
    (∀ terms, s.HasTerms terms → after.HasTerms terms) ∧
      (wallet = none ∧ after.books = s.books ∨ ∃ wallet', wallet = some wallet' ∧
        Posted work.tx.id .credit work.tx.amount wallet' s.books after.books) := by
  unfold Reversing.write at written
  obtain ⟨middle, credit, completed⟩ := bind_eq_ok.mp written
  cases wallet with
  | none =>
    obtain rfl := Except.ok.inj credit
    obtain ⟨books, terms⟩ := complete_effect held completed
    exact ⟨terms, .inl ⟨rfl, books⟩⟩
  | some wallet =>
    obtain ⟨wallets, ledger, rfl, posted⟩ := creditWallet_effect (listed wallet rfl) credit
    have kept : ({ s with wallets, ledger } : Tables).HasTerms work.tx.terms := held
    obtain ⟨books, terms⟩ := complete_effect kept completed
    exact ⟨terms, .inr ⟨wallet, rfl, books ▸ posted⟩⟩

end

section

variable {start before after : Books} {tx : TransactionEntity} {wallet : Wallet}

theorem CreditsRecorded.credit (recorded : CreditsRecorded start before)
    (posted : Posted tx.id .credit tx.amount wallet before after) : CreditsRecorded start after := by
  obtain ⟨new, rows, credits, balances⟩ := recorded
  obtain ⟨entry, appended, records⟩ := posted.entry
  refine ⟨new ++ [entry], ?_, fun other member => ?_, fun first member => ?_⟩
  · rw [appended, rows, List.append_assoc]
  · rcases List.mem_append.mp member with old | own
    · exact credits other old
    · rw [List.mem_singleton.mp own, records.ofDirection]
  · obtain ⟨kept, listed, same, balance⟩ := balances first member
    rw [List.filter_append, List.map_append, List.foldl_append, ← balance]
    by_cases own : wallet.id = kept.id
    · obtain rfl : wallet = kept := Table.eq_of_id posted.found listed own
      refine ⟨credited tx.amount wallet, posted.mem.mpr (.inr rfl), same, ?_⟩
      simp [records.ofWallet, records.ofAmount, same, credited]
    · refine ⟨kept, posted.mem.mpr (.inl ⟨listed, Ne.symm own⟩), same, ?_⟩
      simp [records.ofWallet, own, ← same]

theorem ReversedOnce.credit (holds : ReversedOnce start before)
    (none : before.credits tx.id = [])
    (posted : Posted tx.id .credit tx.amount wallet before after) : ReversedOnce start after where
  recorded := holds.recorded.credit posted
  once id := by
    rw [Books.credits, posted.postings, List.filter_append]
    split_ifs with own
    · subst own
      change (before.credits tx.id ++ _).length ≤ 1
      rw [none]
      exact List.length_filter_le _ _
    · simpa [Books.credits] using holds.once id

end

/-! ## Reversals in turn -/

def Reversal.tx? : Reversal → Option TransactionEntity
  | .rollback tx _ => some tx
  | .check work | .lockWallet work | .write work _ => some work.tx
  | .marking _ _ | .ended _ => none

/-- Every reversal that is about to credit a wallet is the first of its withdrawal. -/
structure InTurn (start : Tables) (world : World I Database Reversal) : Prop where
  locks : Locked Database.locked Reversal.held world
  terms : ∀ i, ∀ tx ∈ (world.procs i).tx?, world.shared.tables.HasTerms tx.terms
  first : ∀ i work wallet, world.procs i = .write work (some wallet) →
    world.shared.tables.findWallet work.tx.fromUserId work.tx.currency = some wallet ∧
      world.shared.tables.findCredit work.tx.id = none
  holds : ReversedOnce start.books world.shared.tables.books

section

variable {start : Tables} {world : World I Database Reversal} {i : I} {after : Database}
  {next : Reversal}

/-- A step that commits nothing. -/
theorem InTurn.quiet (inTurn : InTurn start world) (same : after.tables = world.shared.tables)
    (locks : Locked Database.locked Reversal.held
      { shared := after, procs := Function.update world.procs i next })
    (terms : ∀ tx ∈ next.tx?, world.shared.tables.HasTerms tx.terms)
    (first : ∀ work wallet, next = .write work (some wallet) →
      world.shared.tables.findWallet work.tx.fromUserId work.tx.currency = some wallet ∧
        world.shared.tables.findCredit work.tx.id = none) :
    InTurn start { shared := after, procs := Function.update world.procs i next } := by
  refine ⟨locks, fun j tx => ?_, fun j work wallet stage => ?_, same ▸ inTurn.holds⟩
  all_goals
    simp only [same]
    by_cases own : j = i
  · subst own
    simpa using terms tx
  · simpa [Function.update_of_ne own] using inTurn.terms j tx
  · subst own
    exact first work wallet (by simpa using stage)
  · exact inTurn.first j work wallet (by simpa [Function.update_of_ne own] using stage)

omit [DecidableEq I] in
/-- Another reversal that is about to credit has another wallet and another withdrawal. -/
theorem InTurn.apart (inTurn : InTurn start world) {j : I} {work work' : Reversing}
    {wallet wallet' : Wallet} (stage : world.procs i = .write work (some wallet))
    (stage' : world.procs j = .write work' (some wallet')) (other : j ≠ i) :
    (work'.tx.fromUserId, work'.tx.currency) ≠ (work.tx.fromUserId, work.tx.currency) ∧
      work'.tx.id ≠ work.tx.id := by
  have keys : (work'.tx.fromUserId, work'.tx.currency) ≠
      (work.tx.fromUserId, work.tx.currency) := by
    intro same
    have found := (inTurn.first i work wallet stage).1
    have found' := (inTurn.first j work' wallet' stage').1
    rw [Tables.findWallet] at found found'
    rw [same] at found'
    obtain rfl := Option.some.inj (found.symm.trans found')
    refine other (inTurn.locks.exclusive j i (.wallet wallet.id) ?_ ?_)
    · rw [stage']
      exact List.mem_append_left _ (List.mem_singleton.mpr rfl)
    · rw [stage]
      exact List.mem_append_left _ (List.mem_singleton.mpr rfl)
  refine ⟨keys, fun same => keys ?_⟩
  have terms := inTurn.terms i work.tx (by rw [stage]; rfl)
  have terms' := inTurn.terms j work'.tx (by rw [stage']; rfl)
  have equal := HasTerms.same terms' terms same
  exact Prod.ext (congrArg Terms.fromUserId equal) (congrArg Terms.currency equal)

/-- A commit of the writes of a reversal. -/
theorem InTurn.commit (inTurn : InTurn start world) {work : Reversing} {wallet : Option Wallet}
    {now : Instant} {tables : Tables} (stage : world.procs i = .write work wallet)
    (locks : Locked Database.locked Reversal.held
      { shared := after, procs := Function.update world.procs i (.ended (.ok ())) })
    (written : work.write now wallet world.shared.tables = .ok tables)
    (committed : after.tables = tables) :
    InTurn start { shared := after, procs := Function.update world.procs i (.ended (.ok ())) } := by
  have held := inTurn.terms i work.tx (by rw [stage]; rfl)
  have listed : ∀ wallet' ∈ wallet, wallet' ∈ world.shared.tables.wallets := by
    rintro wallet' rfl
    exact (mem_of_findWallet (inTurn.first i work wallet' stage).1).1
  obtain ⟨kept, effect⟩ := write_effect held listed written
  have stages {j : I} {reversal : Reversal} (other : j ≠ i)
      (stage' : Function.update world.procs i (.ended (.ok ())) j = reversal) :
      world.procs j = reversal := by
    rwa [Function.update_of_ne other] at stage'
  subst committed
  refine ⟨locks, fun j tx => ?_, fun j work' wallet' stage' => ?_, ?_⟩
  · by_cases own : j = i
    · subst own
      simp [Reversal.tx?]
    · simp only [Function.update_of_ne own]
      exact fun holds => kept _ (inTurn.terms j tx holds)
  · have other : j ≠ i := by
      rintro rfl
      simp only [Function.update_self] at stage'
      cases stage'
    have before := stages other stage'
    obtain ⟨found, unreversed⟩ := inTurn.first j work' wallet' before
    rcases effect with ⟨_, same⟩ | ⟨mine, rfl, posted⟩
    · have wallets : after.tables.wallets = world.shared.tables.wallets := congrArg Books.wallets same
      refine ⟨?_, (findCredit_congr (by rw [same])).mpr unreversed⟩
      rwa [Tables.findWallet, wallets]
    · obtain ⟨keys, ids⟩ := inTurn.apart stage before other
      have myKey := (Table.byKey_eq_some.mp (inTurn.first i work mine stage).1).2
      refine ⟨?_, (findCredit_congr ?_).mpr unreversed⟩
      · refine (posted.byKey _).trans ?_
        rw [if_neg fun same => keys (Option.some.inj (same.symm.trans myKey))]
        exact found
      · rw [posted.postings, if_neg (Ne.symm ids), List.append_nil]
  · rcases effect with ⟨_, same⟩ | ⟨mine, rfl, posted⟩
    · exact same ▸ inTurn.holds
    · exact inTurn.holds.credit (credits_of_uncredited (inTurn.first i work mine stage).2) posted

theorem InTurn.step (inTurn : InTurn start world) {action : ReversalAction}
    (notOvertaken : NotOvertaken world i action)
    (moves : Reversal.Moves world.shared (world.procs i) after next) :
    InTurn start { shared := after, procs := Function.update world.procs i next } := by
  have terms := inTurn.terms i
  have listed := inTurn.locks.listed i
  have keep (taken : ∀ key ∈ next.held, key ∈ (world.procs i).held ∨ key ∉ world.shared.locked)
      (own : ∀ key ∈ next.held, key ∈ world.shared.locked) :
      Locked Database.locked Reversal.held
        { shared := world.shared, procs := Function.update world.procs i next } :=
    inTurn.locks.step taken own fun _ member _ => member
  generalize stage : world.procs i = reversal at moves terms listed keep
  cases moves with
  | stopped same others =>
    refine inTurn.quiet same (inTurn.locks.step ?_ ?_ ?_) ?_ ?_
    · simp [Reversal.held]
    · simp [Reversal.held]
    · exact fun key member free => others key member (stage ▸ free)
    · simp [Reversal.tx?]
    · intro _ _ stage'
      cases stage'
  | @begun tx reasonCode =>
    refine inTurn.quiet rfl (keep ?_ ?_) terms ?_
    · simp [Reversal.held, Reversing.keys]
    · simp [Reversal.held, Reversing.keys]
    · intro _ _ stage'
      cases stage'
  | @marked transactionId note tx found free =>
    have member := (Table.get?_eq_some.mp found).1
    have holds {reversal : Reversal}
        (either : reversal = .check ⟨tx, "SETTLEMENT_FAILED", some note⟩ ∨
          reversal = .write ⟨tx, "SETTLEMENT_FAILED", some note⟩ none) :
        InTurn start
          { shared := { world.shared with locked := .transaction tx.id :: world.shared.locked }
            procs := Function.update world.procs i reversal } := by
      have keys : reversal.held = [.transaction tx.id] := by
        rcases either with rfl | rfl <;> rfl
      refine inTurn.quiet rfl (inTurn.locks.step ?_ ?_ ?_) ?_ ?_
      · intro key taken
        rw [keys, List.mem_singleton] at taken
        exact .inr (taken ▸ free)
      · intro key taken
        rw [keys, List.mem_singleton] at taken
        exact taken ▸ List.mem_cons_self
      · exact fun key member _ => List.mem_cons_of_mem _ member
      · rcases either with rfl | rfl <;> rintro _ ⟨⟩ <;> exact ⟨tx, member, rfl⟩
      · intro _ _ stage'
        rcases either with rfl | rfl <;> cases stage'
    split_ifs
    · exact holds (.inl rfl)
    · exact holds (.inr rfl)
  | reversed | unreversed =>
    refine inTurn.quiet rfl (keep (fun _ taken => .inl taken) listed) terms ?_
    intro _ _ stage'
    cases stage'
  | @locked work wallet found free =>
    simp only [NotOvertaken, stage] at notOvertaken
    refine inTurn.quiet rfl (inTurn.locks.step ?_ ?_ ?_) terms ?_
    · rintro key (_ | ⟨_, own⟩)
      · exact .inr free
      · exact .inl (stage ▸ own)
    · rintro key (_ | ⟨_, own⟩)
      · exact List.mem_cons_self
      · exact List.mem_cons_of_mem _ (listed key own)
    · exact fun key member _ => List.mem_cons_of_mem _ member
    · rintro _ _ ⟨⟩
      exact ⟨found, notOvertaken⟩
  | @committed work wallet now after written =>
    refine inTurn.commit stage (inTurn.locks.step ?_ ?_ ?_) written rfl
    · simp [Reversal.held]
    · simp [Reversal.held]
    · exact fun key member free => Database.finish_others member (stage ▸ free)

end

/-! ## Runs -/

/-- Calls that have not begun, for transactions of the table that have one credit at most. -/
structure Calls (start : World I Database Reversal) : Prop where
  once : ∀ id, (start.shared.tables.books.credits id).length ≤ 1
  procs : ∀ i, (∃ transactionId note, start.procs i = .marking transactionId note) ∨
    ∃ tx reasonCode, start.procs i = .rollback tx reasonCode ∧
      start.shared.tables.HasTerms tx.terms

omit [DecidableEq I] in
theorem Calls.inTurn {start : World I Database Reversal} (calls : Calls start) :
    InTurn start.shared.tables start := by
  refine ⟨.of_none fun i => ?_, fun i tx holds => ?_, fun i work wallet stage => ?_,
    ⟨calls.once, [], (List.append_nil _).symm, nofun, fun wallet member => ⟨wallet, member, rfl, rfl⟩⟩⟩
  all_goals rcases calls.procs i with ⟨transactionId, note, own⟩ | ⟨tx', reasonCode, own, has⟩
  · rw [own]
    rfl
  · rw [own]
    rfl
  · rw [own] at holds
    cases holds
  · rw [own] at holds
    cases holds
    exact has
  · cases own.symm.trans stage
  · cases own.symm.trans stage

theorem reversed_once {start world : World I Database Reversal} (calls : Calls start)
    (reached : reversals.Reaches NotOvertaken start world) :
    ReversedOnce start.shared.tables.books world.shared.tables.books := by
  have inTurn := reached.invariant (InTurn start.shared.tables) calls.inTurn
    fun _ _ _ _ before notOvertaken fired => by
      obtain ⟨_, _, stepped, rfl⟩ := Machine.fire_eq_some.mp fired
      exact before.step notOvertaken (Reversal.step_moves stepped)
  exact inTurn.holds

/-! ## A mark beside a rollback -/

-- The partner has refused Alice's withdrawal; her request is about to return the debit.
def refusedTables : Tables :=
  (((creations sampleEnv).alone fundedTables (.source aliceWithdrawalRequest)
    (List.replicate 5 refused)).map Prod.fst).getD fundedTables

-- A settlement cycle that listed the withdrawal before has found no reference.
def rollbackBesideMark : World Bool Database Reversal where
  shared := ⟨refusedTables, []⟩
  procs isMark :=
    if isMark then .marking 1 "Missing external references"
    else
      match refusedTables.transactions.get? 1 with
      | some tx => .rollback tx "OUTSIDE_PAYMENT_REJECTED"
      | none => .ended (.ok ())

def statements (procs : List Bool) : List (Bool × ReversalAction) :=
  procs.map fun i => (i, .statement 1)

theorem rollbackBesideMark_calls : Calls rollbackBesideMark := by
  have topup : (refusedTables.ledger.rows.filter fun entry =>
      decide (entry.posting.direction = .credit)).length ≤ 1 := by decide
  have persisted : (refusedTables.transactions.get? 1).isSome = true := by decide
  obtain ⟨tx, found⟩ := Option.isSome_iff_exists.mp persisted
  refine ⟨fun id => ?_, fun i => ?_⟩
  · rw [Books.credits, Books.postings, List.filter_map, List.length_map]
    exact (List.filter_sublist.filter _).length_le.trans topup
  · cases i with
    | false =>
      refine .inr ⟨tx, "OUTSIDE_PAYMENT_REJECTED", ?_, tx, (Table.get?_eq_some.mp found).1, rfl⟩
      simp only [rollbackBesideMark, found, Bool.false_eq_true, if_false]
    | true => exact .inl ⟨1, "Missing external references", rfl⟩

-- Both look for a reversal before either locks the wallet.
theorem reversed_twice :
    ¬ ∀ world, reversals.Reaches (fun _ _ _ => True) rollbackBesideMark world →
      ReversedOnce refusedTables.books world.shared.tables.books := by
  intro holds
  have both : (reversals.run rollbackBesideMark
      (statements [false, false, true, true, false, false, true, true])).map
      (fun world => ((world.shared.tables.books.credits 1).length,
        world.shared.tables.balanceOf aliceId "VND")) = some (2, 130) := by decide
  obtain ⟨world, ran, facts⟩ := Option.map_eq_some_iff.mp both
  have twice : (world.shared.tables.books.credits 1).length = 2 := congrArg Prod.fst facts
  have once := (holds world (.run .refl ran)).once 1
  omega

-- The mark looks only after the rollback has committed.
theorem reversed_once_rollbackFirst :
    ∃ world, reversals.run rollbackBesideMark
        (statements [false, false, true, false, false, true, true]) = some world ∧
      world.shared.tables.balanceOf aliceId "VND" = 100 ∧
      ReversedOnce refusedTables.books world.shared.tables.books := by
  have reached : (reversals.checkedRun NotOvertaken rollbackBesideMark
      (statements [false, false, true, false, false, true, true])).map
      (fun world => world.shared.tables.balanceOf aliceId "VND") = some 100 := by decide
  obtain ⟨world, ran, balance⟩ := Option.map_eq_some_iff.mp reached
  have runs := Machine.Runs.checked .nil ran
  exact ⟨world, runs.run, balance, reversed_once rollbackBesideMark_calls runs.reaches⟩

end Kufi.Transactions

import Kufi.Settlement.LostOutcomes
import Kufi.Transactions.Advances

set_option autoImplicit false

/-!
# The money in the wallets

Whatever creations and settlement cycles do side by side, the balances of a
currency add up to the deposits that were credited less the amounts that left
and were not given back.
-/

namespace Kufi.Settlement

open Shared Transactions

/-- What a transaction has added to the balances of its currency. -/
def contribution (s : Tables) (terms : Terms) : Int :=
  match terms.type with
  | .deposit => if s.findCredit terms.id = none then 0 else terms.amount
  | .withdrawal => if s.findCredit terms.id = none then -terms.amount else 0
  | .transfer => if terms.isExternal then -terms.amount else 0

def share (s : Tables) (currency : String) (terms : Terms) : Int :=
  if terms.currency = currency then contribution s terms else 0

def supplyOf (s : Tables) (currency : String) : Int :=
  ((s.transactions.rows.map TransactionEntity.terms).map (share s currency)).sum

structure Supplied (s : Tables) : Prop where
  known : s.Known
  positive : ∀ tx ∈ s.transactions, 0 < tx.terms.amount
  nonneg : s.books.Nonneg
  supply : ∀ currency, s.books.total currency = supplyOf s currency

/-! ## Shares -/

section Shares

variable {s after : Tables} {currency : String}

theorem share_congr {terms : Terms}
    (same : after.books.postings terms.id = s.books.postings terms.id) :
    share after currency terms = share s currency terms := by
  simp only [share, contribution, findCredit_congr same]

theorem share_ledger (same : after.ledger = s.ledger) (terms : Terms) :
    share after currency terms = share s currency terms :=
  share_congr (by simp only [Books.postings, Tables.books, same])

/-- A credit adds the amount, whether it is a deposit's or gives a withdrawal back. -/
theorem share_credited {terms : Terms} (kind : terms.type ≠ .transfer)
    (missing : s.findCredit terms.id = none) (credited : after.findCredit terms.id ≠ none) :
    share after currency terms - share s currency terms =
      if terms.currency = currency then terms.amount else 0 := by
  by_cases own : terms.currency = currency
  · cases type : terms.type with
    | transfer => exact absurd type kind
    | _ => simp [share, contribution, own, type, missing, credited]
  · simp [share, own]

/-- One transaction's share changes and no other one's. -/
theorem sum_shares {rows : List TransactionEntity}
    (ids : rows.Pairwise fun left right => left.id < right.id) {tx : TransactionEntity}
    (member : tx ∈ rows) (apart : ∀ other ∈ rows, other.id ≠ tx.id →
      share after currency other.terms = share s currency other.terms) :
    ((rows.map TransactionEntity.terms).map (share after currency)).sum =
      ((rows.map TransactionEntity.terms).map (share s currency)).sum +
        (share after currency tx.terms - share s currency tx.terms) := by
  induction rows with
  | nil => cases member
  | cons first rows ih =>
    obtain ⟨least, later⟩ := List.pairwise_cons.mp ids
    simp only [List.map_cons, List.sum_cons]
    rcases List.mem_cons.mp member with rfl | held
    · have rest : (rows.map TransactionEntity.terms).map (share after currency) =
          (rows.map TransactionEntity.terms).map (share s currency) := by
        simp only [List.map_map]
        refine List.map_congr_left fun other held => ?_
        exact apart other (by simp [held]) (Nat.ne_of_gt (least other held))
      rw [rest]
      omega
    · have same := apart first (by simp) (Nat.ne_of_lt (least tx held))
      have sum := ih later held fun other listed => apart other (by simp [listed])
      rw [same, sum]
      omega

end Shares

/-! ## What leaves the money alone -/

section Steps

variable {s after : Tables}

theorem Supplied.same (supplied : Supplied s)
    (terms : after.transactions.rows.map TransactionEntity.terms =
      s.transactions.rows.map TransactionEntity.terms)
    (next : after.transactions.next = s.transactions.next) (books : after.books = s.books) :
    Supplied after where
  known id fresh := by
    rw [books]
    exact supplied.known id (next ▸ fresh)
  positive tx held := by
    have listed : tx.terms ∈ s.transactions.rows.map TransactionEntity.terms := by
      rw [← terms]
      exact List.mem_map_of_mem held
    obtain ⟨old, member, same⟩ := List.mem_map.mp listed
    exact same ▸ supplied.positive old member
  nonneg := books ▸ supplied.nonneg
  supply currency := by
    have ledger : after.ledger = s.ledger := congrArg Books.ledger books
    rw [books, supplied.supply, supplyOf, supplyOf, terms]
    exact congrArg _ (List.map_congr_left fun terms _ => (share_ledger ledger terms).symm)

/-- A row is saved under the terms it has. -/
theorem update_terms {tx : TransactionEntity} {transactions : Table TransactionEntity}
    (held : s.HasTerms tx.terms) (updated : s.transactions.update? tx = some transactions) :
    transactions.rows.map TransactionEntity.terms =
      s.transactions.rows.map TransactionEntity.terms := by
  obtain ⟨old, member, same⟩ := held
  rw [(Table.update?_spec updated).1, Table.replace, List.map_map]
  refine List.map_congr_left fun other listed => ?_
  by_cases own : other.id = tx.id
  · obtain rfl : other = old :=
      Table.eq_of_id listed member (own.trans (congrArg Terms.id same).symm)
    simp [Row.id, own, same]
  · simp [Row.id, own]

theorem Supplied.save {tx : TransactionEntity} (supplied : Supplied s)
    (held : s.HasTerms tx.terms) (saved : s.saveTransaction tx = .ok after) : Supplied after := by
  obtain ⟨_, transactions, updated, rfl⟩ := Tables.saveTransaction_eq_ok.mp saved
  exact supplied.same (update_terms held updated) (Table.update?_spec updated).2.1 rfl

/-! ## Credits -/

/-- The credit of a deposit, or the one that gives a withdrawal back. -/
theorem Supplied.credit {tx : TransactionEntity} {userId : Uuid} {wallet : Wallet} {opened : Books}
    (supplied : Supplied s) (held : s.HasTerms tx.terms) (kind : tx.type ≠ .transfer)
    (missing : s.findCredit tx.id = none) (small : after.books.Small)
    (loaded : Loaded userId tx.currency wallet s.books opened)
    (posted : Posted tx.id .credit tx.amount wallet opened after.books)
    (rows : after.transactions = s.transactions) : Supplied after := by
  obtain ⟨old, member, terms⟩ := held
  have own : old.id = tx.id := congrArg Terms.id terms
  have positive : 0 < tx.amount := by
    have positive := supplied.positive old member
    rwa [terms] at positive
  have nonneg := loaded.nonneg supplied.nonneg
  have exact : Number.Exact (wallet.balance + signed .credit tx.amount) :=
    exact_of_credit positive (nonneg wallet posted.found) (small _ (posted.mem.mpr (.inr rfl)))
  have currency : wallet.currency = tx.currency :=
    congrArg Prod.snd (Option.some.inj loaded.key)
  have apart : ∀ id, id ≠ tx.id → after.books.postings id = s.books.postings id := by
    intro id other
    rw [posted.postings, if_neg (Ne.symm other), List.append_nil, loaded.postings]
  have credited : after.findCredit tx.id ≠ none := by
    rw [Ne, findCredit_eq_none, posted.postings, if_pos rfl]
    simp
  exact
    { known := fun id fresh => by
        have member := s.transactions.fresh old member
        rw [apart id (by rw [← own]; exact Nat.ne_of_gt (member.trans_le (rows ▸ fresh)))]
        exact supplied.known id (rows ▸ fresh)
      positive := rows ▸ supplied.positive
      nonneg := posted.nonneg positive nonneg
      supply := fun other => by
        have sum := @sum_shares s after other _ s.transactions.ids old member fun row _ different =>
          share_congr (apart row.id (own ▸ different))
        rw [posted.total exact, loaded.total, supplied.supply, supplyOf, supplyOf, rows, sum]
        have gained : share after other old.terms - share s other old.terms =
            if tx.currency = other then tx.amount else 0 := by
          rw [terms]
          exact share_credited kind missing credited
        rw [gained, currency]
        rfl }

theorem Supplied.credited {tx : TransactionEntity} {outcome : SettlementOutcome}
    (supplied : Supplied s) (held : s.HasTerms tx.terms) (small : after.books.Small)
    (once : CreditedOnce outcome tx s after) : Supplied after := by
  rcases once with ⟨rfl, _⟩ | ⟨credits, missing, wallets, ledger, wallet, opened, rfl, loaded, posted⟩
  · exact supplied
  · have kind : tx.type ≠ .transfer := by
      rcases credits with ⟨_, type⟩ | ⟨_, type⟩ <;> simp [type]
    exact supplied.credit held kind missing small loaded posted rfl

theorem Supplied.rollback {tx : TransactionEntity} {reasonCode : String} (supplied : Supplied s)
    (held : s.HasTerms tx.terms) (small : after.books.Small)
    (reversed : rollbackWithdrawalDebit tx reasonCode s = .ok after) : Supplied after := by
  unfold rollbackWithdrawalDebit at reversed
  split at reversed
  next =>
    obtain rfl := Except.ok.inj reversed
    exact supplied
  next withdrawal =>
    rcases rollbackWithdrawalDebitUsingManager_effect reversed with
      ⟨rfl, _⟩ | ⟨missing, wallets, ledger, wallet, rfl, found, posted⟩
    · exact supplied
    · have kind : tx.type ≠ .transfer := by simp [not_not.mp withdrawal]
      exact supplied.credit held kind missing small (.inl ⟨found, rfl⟩) posted rfl

theorem Marked.terms {tx : TransactionEntity} {outcome : SettlementOutcome} {now : Instant}
    {note : String} (marking : Marked outcome tx now note s after) :
    after.transactions.rows.map TransactionEntity.terms =
      s.transactions.rows.map TransactionEntity.terms := by
  obtain ⟨middle, transactions, outbox, _, updated, rfl⟩ := marking.effect
  refine update_terms ?_ updated
  rw [marked_terms]
  exact ⟨tx, Table.mem_of_get? marking.held, rfl⟩

theorem Marked.hasTerms {tx : TransactionEntity} {outcome : SettlementOutcome} {now : Instant}
    {note : String} {terms : Terms} (marking : Marked outcome tx now note s after)
    (has : s.HasTerms terms) : after.HasTerms terms := by
  obtain ⟨old, member, own⟩ := has
  have listed : old.terms ∈ after.transactions.rows.map TransactionEntity.terms := by
    rw [Marked.terms marking]
    exact List.mem_map_of_mem member
  obtain ⟨row, held, same⟩ := List.mem_map.mp listed
  exact ⟨row, held, same.trans own⟩

theorem Supplied.marked {tx : TransactionEntity} {outcome : SettlementOutcome} {now : Instant}
    {note : String} (supplied : Supplied s) (small : after.books.Small)
    (marking : Marked outcome tx now note s after) : Supplied after := by
  have terms := Marked.terms marking
  obtain ⟨middle, transactions, outbox, once, updated, rfl⟩ := marking.effect
  have supplied : Supplied middle :=
    supplied.credited ⟨tx, Table.mem_of_get? marking.held, rfl⟩ small once
  rw [← once.transactions] at terms updated
  exact supplied.same terms (Table.update?_spec updated).2.1 rfl

/-! ## Insertions -/

/-- An internal transfer goes to another user. -/
def Prepared.Apart : Prepared → Prop
  | .transfer req => req.isExternal = false → Uuid.parse req.fromUserId ≠ Uuid.parse req.toUserId
  | _ => True

/-- The money a new transaction moves at once. -/
structure Moved (s : Tables) (tx : TransactionEntity) (after : Tables) : Prop where
  positive : 0 < tx.amount
  nonneg : after.books.Nonneg
  total : ∀ currency, after.books.total currency =
    s.books.total currency + share after currency tx.terms

section Insertions

variable {env : Env} {now : Instant}

theorem total_debit {tx : TransactionEntity} {wallet : Wallet} (supplied : Supplied s)
    (small : s.books.Small) (positive : 0 < tx.amount) (own : wallet.currency = tx.currency)
    (posted : Posted tx.id .debit tx.amount wallet s.books after.books) (currency : String) :
    after.books.total currency =
      s.books.total currency + if tx.currency = currency then -tx.amount else 0 := by
  have exact := exact_of_debit positive (supplied.nonneg wallet posted.found) (posted.covered rfl)
    (small wallet posted.found)
  rw [posted.total exact, own]
  rfl

theorem insertTransfer_moved {req : TransferRequest} {persisted : PersistedTransfer}
    (apart : Prepared.Apart (.transfer req)) (supplied : Supplied s) (small : s.books.Small)
    (later : after.books.Small) (done : insertTransfer env now req s = .ok (persisted, after)) :
    Moved s persisted.transaction after := by
  have new := insertTransfer_new done
  have persist : persistTransfer env now req s = .ok (persisted, after) := by
    simp only [persistTransfer, new]
    exact done
  cases external : req.isExternal with
  | true =>
    rcases persistTransfer_external external persist with ⟨_, used⟩ | ⟨_, rest⟩
    · simp [new] at used
    obtain ⟨fromUserId, toUserId, sender, wallets, transactions, ledger, rfl, found, inserted,
      debit⟩ := rest
    obtain ⟨shape, _⟩ := Table.insert?_spec inserted
    have own : sender.currency = persisted.transaction.currency := by
      rw [shape]
      exact (mem_of_findWallet found).2.2
    have positive : 0 < persisted.transaction.amount := by
      rw [shape]
      exact req.positive
    have amount : req.amount = persisted.transaction.amount := by
      rw [shape]
      rfl
    rw [amount] at debit
    refine ⟨positive, debit.nonneg positive supplied.nonneg, fun currency => ?_⟩
    rw [total_debit supplied small positive own debit]
    simp [share, contribution, TransactionEntity.terms, shape, Row.withId, transferEntity, external]
  | false =>
    rcases persistTransfer_postings external (apart external) persist with ⟨_, used⟩ | ⟨_, rest⟩
    · simp [new] at used
    obtain ⟨fromUserId, toUserId, sender, receiver, opened, middle, wallets, transactions, ledger,
      rfl, _, _, found, loaded, inserted, debit, credit⟩ := rest
    obtain ⟨shape, _⟩ := Table.insert?_spec inserted
    have opened := loaded.nonneg supplied.nonneg
    have middle := debit.nonneg req.positive opened
    have spent := exact_of_debit req.positive (opened sender debit.found) (debit.covered rfl)
      (loaded.small small sender debit.found)
    have received := exact_of_credit req.positive (middle receiver credit.found)
      (later _ (credit.mem.mpr (.inr rfl)))
    have sent : sender.currency = req.currency := (mem_of_findWallet found).2.2
    have same : receiver.currency = req.currency := congrArg Prod.snd (Option.some.inj loaded.key)
    refine ⟨by rw [shape]; exact req.positive, credit.nonneg req.positive middle, fun currency => ?_⟩
    rw [credit.total received, debit.total spent, loaded.total, sent, same]
    have none (later : Tables) : share later currency persisted.transaction.terms = 0 := by
      simp [share, contribution, TransactionEntity.terms, shape, Row.withId, transferEntity, external]
    rw [none]
    split_ifs <;> simp [signed]

theorem insertTopupIntent_moved {req : FundingRequest} {fundingSource : FundingSource}
    {persisted : PersistedFunding} (supplied : Supplied s)
    (done : insertTopupIntent env now req fundingSource s = .ok (persisted, after)) :
    Moved s persisted.transaction after := by
  have new := insertTopupIntent_new done
  have persist : persistTopupIntent env now req fundingSource s = .ok (persisted, after) := by
    simp only [persistTopupIntent, new]
    exact done
  rcases persistTopupIntent_effect persist with ⟨_, used⟩ | ⟨_, rest⟩
  · simp [new] at used
  obtain ⟨userId, source, wallet, wallets, transactions, rfl, loaded, inserted⟩ := rest
  obtain ⟨shape, _⟩ := Table.insert?_spec inserted
  have fresh : persisted.transaction.id = s.transactions.next := by
    rw [shape]
    rfl
  have uncredited : ({ s with wallets, transactions } : Tables).findCredit
      persisted.transaction.id = none := by
    rw [findCredit_eq_none, loaded.postings, supplied.known _ fresh.ge]
    exact fun _ member => absurd member List.not_mem_nil
  have deposit : persisted.transaction.terms.type = .deposit := by
    rw [shape]
    rfl
  refine ⟨by rw [shape]; exact req.positive, loaded.nonneg supplied.nonneg, fun currency => ?_⟩
  have none : share { s with wallets, transactions } currency persisted.transaction.terms = 0 := by
    rw [share, contribution, deposit]
    simp [TransactionEntity.terms, uncredited]
  rw [none, loaded.total, Int.add_zero]

theorem insertWithdrawalRequest_moved {req : WithdrawalRequest} {fundingSource : FundingSource}
    {persisted : PersistedFunding} (supplied : Supplied s) (small : s.books.Small)
    (done : insertWithdrawalRequest env now req fundingSource s = .ok (persisted, after)) :
    Moved s persisted.transaction after := by
  have new := insertWithdrawalRequest_new done
  have persist : persistWithdrawalRequest env now req fundingSource s = .ok (persisted, after) := by
    simp only [persistWithdrawalRequest, new]
    exact done
  rcases persistWithdrawalRequest_effect persist with ⟨_, used⟩ | ⟨_, rest⟩
  · simp [new] at used
  obtain ⟨userId, sink, wallet, wallets, transactions, ledger, rfl, _, found, inserted, _, _,
    debit⟩ := rest
  obtain ⟨shape, _⟩ := Table.insert?_spec inserted
  have uncredited := (insertWithdrawalRequest_inserted done).uncredited supplied.known rfl
  have own : wallet.currency = persisted.transaction.currency := by
    rw [shape]
    exact (mem_of_findWallet found).2.2
  have positive : 0 < persisted.transaction.amount := by
    rw [shape]
    exact req.positive
  have amount : req.amount = persisted.transaction.amount := by
    rw [shape]
    rfl
  have withdrawal : persisted.transaction.terms.type = .withdrawal := by
    rw [shape]
    rfl
  rw [amount] at debit
  refine ⟨positive, debit.nonneg positive supplied.nonneg, fun currency => ?_⟩
  rw [total_debit supplied small positive own debit, share, contribution, withdrawal]
  simp [TransactionEntity.terms, uncredited]

theorem insert_moved {work : Prepared} {held : Held}
    (apart : Prepared.Apart work) (supplied : Supplied s) (small : s.books.Small)
    (later : after.books.Small) (done : work.insert env now s = .ok (held, after)) :
    Moved s held.transaction after := by
  cases work with
  | transfer req => exact insertTransfer_moved apart supplied small later done
  | topup req fundingSource =>
    obtain ⟨⟨persisted, _⟩, inserted, same⟩ := map_eq_ok.mp done
    cases same
    exact insertTopupIntent_moved supplied inserted
  | withdrawal req fundingSource =>
    obtain ⟨⟨persisted, _⟩, inserted, same⟩ := map_eq_ok.mp done
    cases same
    exact insertWithdrawalRequest_moved supplied small inserted

end Insertions

theorem Supplied.insert {env : Env} {now : Instant} {work : Prepared} {held : Held}
    (apart : Prepared.Apart work) (supplied : Supplied s) (small : s.books.Small)
    (later : after.books.Small) (done : work.insert env now s = .ok (held, after)) :
    Supplied after := by
  have inserted := Prepared.insert_inserted done
  have moved := insert_moved apart supplied small later done
  obtain ⟨entity, added⟩ := inserted.row
  have rows := (Table.insert?_spec added).2.1
  obtain ⟨own, next⟩ := inserted.id
  exact
    { known := inserted.ledgerStep.known supplied.known (by omega) (by omega)
      positive := fun tx member => by
        rcases (Table.mem_insert? added).mp member with old | rfl
        · exact supplied.positive tx old
        · exact moved.positive
      nonneg := moved.nonneg
      supply := fun currency => by
        have others : (s.transactions.rows.map TransactionEntity.terms).map (share after currency) =
            (s.transactions.rows.map TransactionEntity.terms).map (share s currency) := by
          simp only [List.map_map]
          refine List.map_congr_left fun tx member => share_congr ?_
          exact inserted.ledgerStep.apart tx.id (Nat.ne_of_lt (inserted.id_lt member))
        rw [moved.total, supplied.supply, supplyOf, supplyOf, rows]
        simp [others] }

end Steps

/-! ## Runs -/

/-- The row a process works on. -/
def working? : Process → Option TransactionEntity
  | .inl creation => creation.entity?
  | .inr _ => none

/-- What a process is about to insert. -/
def inserting? : Process → Option Prepared
  | .inl (.insert work) => some work
  | _ => none

instance (books : Books) : Decidable books.Small :=
  inferInstanceAs (Decidable (∀ wallet ∈ books.wallets.rows, wallet.balance < 2 ^ 53))

instance : DecidablePred Prepared.Apart := fun work => by
  unfold Prepared.Apart
  split <;> infer_instance

variable {I : Type} [DecidableEq I]

/-- Balances stay exact, and nobody transfers to himself. -/
def Exactly (env : Env) (world : World I Tables Process) (i : I) (action : Answers ⊕ CycleAction) :
    Prop :=
  world.shared.books.Small ∧
    (∀ after ∈ (processes env).fire world i action, after.shared.books.Small) ∧
      ∀ work ∈ inserting? (world.procs i), Prepared.Apart work

instance (env : Env) (world : World I Tables Process) (i : I) (action : Answers ⊕ CycleAction) :
    Decidable (Exactly env world i action) := by
  unfold Exactly
  infer_instance

theorem Moves.supplied {env : Env} {answers : Answers} {s after : Tables} {creation next : Creation}
    (moves : Creation.Moves env answers s creation after next) (supplied : Supplied s)
    (held : ∀ tx, creation.entity? = some tx → s.HasTerms tx.terms) (later : after.books.Small)
    (inserts : ∀ work, creation = .insert work → Supplied after) : Supplied after := by
  cases moves with
  | insert => exact inserts _ rfl
  | submit saved => exact supplied.save (by simpa using held _ rfl) saved
  | rollback reversed => exact supplied.rollback (held _ rfl) later reversed
  | saveSimulated saved => exact supplied.save (by simpa using held _ rfl) saved
  | anchor saved => exact supplied.save (by simpa using held _ rfl) saved
  | release saved => exact supplied.save (by simpa using held _ rfl) saved
  | enqueue => exact supplied.same rfl rfl rfl
  | _ => exact supplied

theorem creation_supplied {env : Env} {answers : Answers} {s after : Tables}
    {creation next : Creation} (supplied : Supplied s)
    (held : ∀ tx, creation.entity? = some tx → s.HasTerms tx.terms) (small : s.books.Small)
    (later : after.books.Small) (apart : ∀ work, creation = .insert work → Prepared.Apart work)
    (stepped : creation.step env s answers = some (after, next)) : Supplied after := by
  apply Moves.supplied (Creation.step_moves stepped) supplied held later
  rintro work rfl
  rcases Creation.proceed_cases stepped with ⟨rfl, _⟩ | ⟨⟨_, _⟩, done, same⟩
  · exact supplied
  · cases same
    exact supplied.insert (apart work rfl) small later done

/-- The balances of each currency are what its transactions have added. -/
theorem money_supply (env : Env) {start world : World I Tables Process}
    (supplied : Supplied start.shared) (fresh : ∀ i, working? (start.procs i) = none)
    (reached : (processes env).Reaches (Exactly env) start world) (currency : String) :
    world.shared.books.total currency = supplyOf world.shared currency := by
  have holds := reached.assertions Supplied
    (fun s _ process => ∀ tx, working? process = some tx → s.HasTerms tx.terms)
    ⟨supplied, fun i tx working => by simp [fresh i] at working⟩ ?_
  · exact holds.1.supply currency
  · intro world i action shared process supplied held ⟨small, exact, apart⟩ stepped
    have later : shared.books.Small := exact _ (Machine.fire_eq_some.mpr ⟨_, _, stepped, rfl⟩)
    clear exact
    cases stage : world.procs i with
    | inl creation =>
      rw [stage] at stepped apart
      obtain ⟨answers, next, rfl, rfl, moved⟩ := Machine.either_step_inl.mp stepped
      have own : ∀ tx, creation.entity? = some tx → world.shared.HasTerms tx.terms :=
        fun tx working => held i tx (by rw [stage]; exact working)
      have moves := Creation.step_moves moved
      have apart : ∀ work, creation = .insert work → Prepared.Apart work := by
        rintro work rfl
        exact apart work rfl
      exact ⟨creation_supplied supplied own small later apart moved,
        fun tx working => moves.entity own working,
        fun j _ tx working => moves.hasTerms own (held j tx working)⟩
    | inr cycle =>
      rw [stage] at stepped
      obtain ⟨action, next, rfl, rfl, moved⟩ := Machine.either_step_inr.mp stepped
      have kept {terms : Terms} (has : world.shared.HasTerms terms) : shared.HasTerms terms := by
        rcases SettlementCycle.step_effect moved with
          same | ⟨_, _, _, _, _, _, _, _, _, marking⟩
        · exact same ▸ has
        · exact Marked.hasTerms marking has
      refine ⟨?_, fun _ working => (Option.some_ne_none _ working.symm).elim,
        fun j _ tx working => kept (held j tx working)⟩
      rcases SettlementCycle.step_effect moved with same | ⟨_, _, _, _, _, _, _, _, _, marking⟩
      · exact same ▸ supplied
      · exact supplied.marked later marking

theorem initial_supplied (sources : List FundingSource) : Supplied (Tables.initial sources) where
  known := known_of_rows fun entry member => by cases member
  positive tx member := by cases member
  nonneg wallet member := by cases member
  supply currency := rfl

/-! ## A top-up that is settled and a withdrawal on its way out -/

def bankTopup : FundingRequest where
  idempotencyKey := "topup"
  userId := alice
  fundingSourceId := bankAccount
  amount := 250
  currency := "VND"
  memo := ""
  positive := by decide

def topupAndWithdrawal : World (Fin 3) Tables Process where
  shared := Tables.initial [aliceSource]
  procs i :=
    if i = 0 then .inl (.source (.topup bankTopup))
    else if i = 1 then .inl (.source aliceWithdrawalRequest)
    else .inr .start

def settledThenWithdrawn : List (Fin 3 × (Answers ⊕ CycleAction)) :=
  List.replicate 6 (0, .inl accepted) ++
    [(2, .inr (.list 10)), (2, .inr (.process 0 ⟨.ok ⟨"SETTLED", ""⟩, 1⟩)),
      (2, .inr (.process 0 ⟨.error "", 1⟩))] ++
    List.replicate 5 (1, .inl accepted)

theorem money_supply_topupAndWithdrawal :
    ∃ world, (processes sampleEnv).run topupAndWithdrawal settledThenWithdrawn = some world ∧
      world.shared.books.total "VND" = 220 ∧ supplyOf world.shared "VND" = 220 := by
  have ends : ((processes sampleEnv).checkedRun (Exactly sampleEnv) topupAndWithdrawal
      settledThenWithdrawn).map (fun world => world.shared.books.total "VND") = some 220 := by
    decide +kernel
  obtain ⟨world, ran, total⟩ := Option.map_eq_some_iff.mp ends
  have runs := Machine.Runs.checked .nil ran
  have fresh : ∀ i, working? (topupAndWithdrawal.procs i) = none := by decide
  refine ⟨world, runs.run, total, ?_⟩
  rw [← money_supply sampleEnv (initial_supplied [aliceSource]) fresh runs.reaches, total]

end Kufi.Settlement

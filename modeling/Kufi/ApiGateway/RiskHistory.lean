import Kufi.ApiGateway.RiskCalls
import Kufi.ApiGateway.StepUpRuns

set_option autoImplicit false

/-!
# Scores of movements over a funding source

The gateway asks for the figures of the source's id, the transactions over the
source are stored under the mask of its account. What is found is somebody's
external transfers to an account with the id as its number.
-/

namespace Kufi.ApiGateway

open Shared Shared.Text Kufi.Transactions Kufi.Transactions.AtoRisk Kufi.Workers Kufi.Settlement

variable {risk : RiskEnv}

/-! ## What is found and what should be -/

/-- The earlier transactions in the currency that requests over the source have created. -/
def history (state : RiskState risk) (sourceId : Uuid) (currency : String) :
    List TransactionEntity :=
  state.tables.transactions.rows.filter fun tx =>
    tx.isExternal && tx.currency == currency && tx.status != .failed &&
      state.created.contains (tx.id, sourceId)

/-- The external transfers in the currency to an account with the id as its number. -/
def addressedTransfers (s : Tables) (sourceId : Uuid) (currency : String) :
    List TransactionEntity :=
  s.transactions.rows.filter fun tx =>
    tx.type == .transfer && tx.isExternal && tx.externalAccountNo == some sourceId.format &&
      tx.currency == currency && tx.status != .failed

def sourceCacheKey (source : FundingSource) (currency : String) : String :=
  "external:" ++ currency ++ ":" ++ trim source.provider ++ ":" ++ source.id.format

/-- The rows of the figures in the cache, if these are fresh. -/
def addressedOrCached (state : RiskState risk) (now : Instant) (source : FundingSource)
    (currency : String) : List TransactionEntity :=
  match state.statsCache.fresh? (sourceCacheKey source currency) now with
  | some figures => figures.rows
  | none => addressedTransfers state.tables source.id currency

/-- Different transactions with the same figures. -/
structure Alike (average : Int → Nat → ℚ) (left right : List TransactionEntity) : Prop where
  count : left.length = right.length
  amounts : average (left.map (·.amount)).sum left.length =
    average (right.map (·.amount)).sum right.length
  senders : (left.map (·.fromUserId)).dedup.length = (right.map (·.fromUserId)).dedup.length

theorem destinationStats_eq_iff {average : Int → Nat → ℚ} {left right : List TransactionEntity} :
    destinationStats average left = destinationStats average right ↔
      left = [] ∧ right = [] ∨ left ≠ [] ∧ right ≠ [] ∧ Alike average left right := by
  simp only [destinationStats, DestinationStats.mk.injEq]
  constructor
  · rintro ⟨count, amounts, senders⟩
    by_cases empty : left = []
    · subst empty
      exact .inl ⟨rfl, List.length_eq_zero_iff.mp count.symm⟩
    · have some : right ≠ [] := by
        rintro rfl
        exact empty (List.length_eq_zero_iff.mp count)
      rw [if_neg empty, if_neg some] at amounts
      exact .inr ⟨empty, some, count, amounts, senders⟩
  · rintro (⟨rfl, rfl⟩ | ⟨first, second, alike⟩)
    · exact ⟨rfl, rfl, rfl⟩
    · rw [if_neg first, if_neg second]
      exact ⟨alike.count, alike.amounts, alike.senders⟩

/-! ## Accounts of payments -/

/-- Only a transfer has an account that is no mask. -/
def MaskedAccount (payment : Payment) : Prop :=
  payment.type ≠ .transfer →
    ∃ provider text, payment.account = some (provider, some text) ∧ Masked text

def MaskedWork (work : Prepared) : Prop :=
  ∀ source ∈ fundingSource? work, Masked source.accountRefMasked

theorem requested_masked {env : Env} {work : Prepared} {payment : Payment}
    (masked : MaskedWork work) (requested : requestedPayment env work = some payment) :
    MaskedAccount payment := by
  cases work with
  | transfer req =>
    simp only [requestedPayment, bind, Option.bind_eq_some_iff] at requested
    obtain ⟨payer, _, receiver, _, same⟩ := requested
    obtain rfl := Option.some.inj same
    exact fun other => absurd rfl other
  | topup req source =>
    simp only [requestedPayment, bind, Option.bind_eq_some_iff] at requested
    obtain ⟨payer, _, receiver, _, same⟩ := requested
    obtain rfl := Option.some.inj same
    exact fun _ => ⟨_, _, rfl, masked source rfl⟩
  | withdrawal req source =>
    simp only [requestedPayment, bind, Option.bind_eq_some_iff] at requested
    obtain ⟨payer, _, receiver, _, same⟩ := requested
    obtain rfl := Option.some.inj same
    exact fun _ => ⟨_, _, rfl, masked source rfl⟩

theorem requested_type {env : Env} {work : Prepared} {payment : Payment} {source : FundingSource}
    (funded : fundingSource? work = some source)
    (requested : requestedPayment env work = some payment) : payment.type ≠ .transfer := by
  cases work with
  | transfer req => cases funded
  | topup req source =>
    simp only [requestedPayment, bind, Option.bind_eq_some_iff] at requested
    obtain ⟨payer, _, receiver, _, same⟩ := requested
    obtain rfl := Option.some.inj same
    exact TransactionType.noConfusion
  | withdrawal req source =>
    simp only [requestedPayment, bind, Option.bind_eq_some_iff] at requested
    obtain ⟨payer, _, receiver, _, same⟩ := requested
    obtain rfl := Option.some.inj same
    exact TransactionType.noConfusion

/-- A row under the id of a source, or under a key that ends with it, is of a transfer. -/
theorem transfer_of_account {row : TransactionEntity} {id : Uuid} {accountNo : String}
    (masked : MaskedAccount (payment row)) (own : row.externalAccountNo = some accountNo)
    (named : (':' :: id.format.toList) <:+ (':' :: accountNo.toList)) : row.type = .transfer := by
  by_contra other
  obtain ⟨provider, text, account, mask⟩ := masked other
  simp only [payment] at account
  split_ifs at account
  simp only [Option.some.injEq, Prod.mk.injEq] at account
  obtain rfl := Option.some.inj (own.symm.trans account.2)
  exact mask.not_id id named

/-! ## The invariant -/

/-- Figures in the cache are of rows that were selected for a request with their key. -/
def CachedFor (entry : CacheEntry String (Figures risk.average)) : Prop :=
  ∃ req : NormalizedRiskRequest, entry.key = destinationCacheKey req ∧
    ∀ row ∈ entry.value.rows, MaskedAccount (payment row) ∧
      (req.isExternal = true → row.externalAccountNo = some req.externalAccountNo)

structure RiskSound (state : RiskState risk) : Prop where
  sources : ∀ source ∈ state.tables.fundingSources, Masked source.accountRefMasked
  rows : ∀ row ∈ state.tables.transactions, MaskedAccount (payment row)
  created : ∀ entry ∈ state.created, ∃ payment,
    state.tables.Has identified (entry.1, payment) ∧ payment.type ≠ .transfer
  cached : ∀ entry ∈ state.statsCache, CachedFor entry

def StageMasked (state : RiskState risk) : RiskProcess → Prop
  | .inl stage => HoldsStored state.tables stage ∧ ∀ work ∈ stage.work?, MaskedWork work
  | .inr _ => True

/-- What a step of any process does. -/
structure RiskStep (state after : RiskState risk) (next : RiskProcess) : Prop where
  sound : RiskSound after
  own : StageMasked after next
  kept : ∀ value, state.tables.Has identified value → after.tables.Has identified value
  sources : ∀ source ∈ state.tables.fundingSources, source ∈ after.tables.fundingSources

theorem StageMasked.mono {state after : RiskState risk} {proc : RiskProcess}
    (masked : StageMasked state proc)
    (kept : ∀ value, state.tables.Has identified value → after.tables.Has identified value) :
    StageMasked after proc := by
  cases proc with
  | inl stage => exact ⟨masked.1.mono kept, masked.2⟩
  | inr other => trivial

theorem prepared_masked {request : CreationRequest} {s : Tables} {work : Prepared}
    (sources : ∀ source ∈ s.fundingSources, Masked source.accountRefMasked)
    (prepared : Prepared.ofRequest request s = .ok work) : MaskedWork work := by
  cases request with
  | transfer req =>
    obtain rfl := Except.ok.inj prepared
    exact fun _ none => nomatch none
  | topup req =>
    obtain ⟨source, active, rfl⟩ := map_eq_ok.mp prepared
    intro own same
    obtain rfl := Option.some.inj same
    exact sources source (getActiveFundingSource_mem active)
  | withdrawal req =>
    obtain ⟨source, active, rfl⟩ := map_eq_ok.mp prepared
    intro own same
    obtain rfl := Option.some.inj same
    exact sources source (getActiveFundingSource_mem active)

section

variable {sha256 : String → String} {wire : ℚ → Wire.Raw} {state after : RiskState risk}

theorem createdBy_has {s after : Tables} {stage next : Stage} {entry : Nat × Uuid}
    {action : Answers ⊕ (Instant ⊕ ChainJobAction)}
    (stepped : (operations risk.env).step s stage action = some (after, next))
    (held : HoldsStored after next) (member : entry ∈ createdBy stage next) :
    ∃ payment, after.Has identified (entry.1, payment) ∧ payment.type ≠ .transfer := by
  unfold createdBy at member
  split at member
  next work =>
    split at member
    next source tx funded entity =>
      obtain rfl := List.mem_singleton.mp member
      have requested := inserted_payment stepped entity
      exact ⟨payment tx, held tx entity, requested_type funded requested⟩
    next => cases member
  next => cases member

theorem operation_step {stage next : Stage} {action : Answers ⊕ (Instant ⊕ ChainJobAction)}
    (sound : RiskSound state) (masked : StageMasked state (.inl stage))
    (stepped : (recordedOperations risk).step state stage action = some (after, next)) :
    RiskStep state after (.inl next) := by
  simp only [recordedOperations, Option.map_eq_some_iff, Prod.exists, Prod.mk.injEq] at stepped
  obtain ⟨tables, _, moved, rfl, rfl⟩ := stepped
  have payments := stage_payments masked.1 moved
  have sources : tables.fundingSources = state.tables.fundingSources := payments.sources
  refine ⟨⟨?_, ?_, ?_, sound.cached⟩, ⟨payments.held, ?_⟩, payments.kept, ?_⟩
  · rw [sources]
    exact sound.sources
  · intro row member
    rcases payments.origin row member with ⟨old, stored, same⟩ | ⟨work, rfl, requested⟩
    · have own : payment old = payment row := congrArg Prod.snd same
      exact own ▸ sound.rows old stored
    · exact requested_masked (masked.2 work rfl) requested
  · intro entry member
    rcases List.mem_append.mp member with old | new
    · obtain ⟨payment, has, type⟩ := sound.created entry old
      exact ⟨payment, payments.kept _ has, type⟩
    · exact createdBy_has moved payments.held new
  · intro work works
    rcases stage_work moved works with ⟨request, prepared⟩ | before
    · exact prepared_masked sound.sources prepared
    · exact masked.2 work before
  · rw [sources]
    exact fun _ member => member

theorem registration_step {registration next : Registration} {id : Uuid} (sound : RiskSound state)
    (stepped : (registrations risk sha256).step state registration id = some (after, next)) :
    RiskStep state after (.inr (.inl next)) := by
  have same : RiskStep state state (.inr (.inl next)) :=
    ⟨sound, trivial, fun _ has => has, fun _ member => member⟩
  cases registration with
  | registered result => cases stepped
  | request request =>
    simp only [registrations] at stepped
    split at stepped
    next source tables accountRefHashes done =>
      obtain ⟨rfl, rfl⟩ := Prod.mk.inj (Option.some.inj stepped)
      rcases createFundingSource_effect done with rfl | ⟨masked, rfl⟩
      · exact ⟨⟨sound.sources, sound.rows, sound.created, sound.cached⟩, trivial, same.kept,
          same.sources⟩
      · refine ⟨⟨?_, sound.rows, sound.created, sound.cached⟩, trivial, same.kept,
          fun _ member => List.mem_append_left _ member⟩
        intro other member
        rcases List.mem_append.mp member with old | new
        · exact sound.sources other old
        · exact List.mem_singleton.mp new ▸ masked
    next =>
      obtain ⟨rfl, rfl⟩ := Prod.mk.inj (Option.some.inj stepped)
      exact same

/-- An assessment adds nothing to the cache but figures of rows that the database selects. -/
theorem assess_cached {answers : RiskAnswers} {request : RiskRequest}
    {assessed : AtoRiskAssessment} {statsCache : StatsCache risk.average} (sound : RiskSound state)
    (done : state.assess wire answers request = .ok (assessed, statsCache)) :
    ∀ entry ∈ statsCache, CachedFor entry := by
  obtain ⟨req, figures, _, found, _⟩ := assessTransferRisk_stats done
  rcases getDestinationStats_cases found with ⟨_, rfl⟩ | ⟨_, _, rfl⟩ | ⟨_, selected, rfl⟩
  · exact sound.cached
  · exact sound.cached
  · intro entry member
    rcases ExpiringCache.mem_put member with rfl | old
    · refine ⟨req, rfl, fun row among => ?_⟩
      obtain ⟨stored, account⟩ := mem_selectDestination selected among
      exact ⟨sound.rows row stored, account⟩
    · exact sound.cached entry old

theorem call_step {op : GatewayOp} {answers : CallAnswers} {reply : op.Reply}
    {next : RiskProcess} (sound : RiskSound state) (own : StageMasked after next)
    (performed : performCall wire op answers state = some (reply, after)) :
    RiskStep state after next ∧ ListsOnly state.tables.fundingSources op reply := by
  have same (told : ListsOnly state.tables.fundingSources op reply) (unchanged : after = state) :
      RiskStep state after next ∧ ListsOnly state.tables.fundingSources op reply := by
    subst unchanged
    exact ⟨⟨sound, own, fun _ has => has, fun _ member => member⟩, told⟩
  unfold performCall at performed
  split at performed
  next userId =>
    obtain ⟨rfl, rfl⟩ := Prod.mk.inj (Option.some.inj performed)
    refine same ?_ rfl
    unfold listedItems
    split_ifs
    · split
      next sources listed =>
        intro item member
        obtain ⟨source, among, rfl⟩ := List.mem_map.mp member
        exact ⟨source, listFundingSources_mem listed among, rfl⟩
      next => trivial
    · trivial
  next request =>
    cases reached : answers.reached with
    | true =>
      simp only [reached, if_true] at performed
      split at performed
      next assessed statsCache done =>
        obtain ⟨rfl, rfl⟩ := Prod.mk.inj (Option.some.inj performed)
        exact ⟨⟨⟨sound.sources, sound.rows, sound.created, assess_cached sound done⟩, own,
          fun _ has => has, fun _ member => member⟩, trivial⟩
      next =>
        obtain ⟨rfl, rfl⟩ := Prod.mk.inj (Option.some.inj performed)
        exact same trivial rfl
    | false =>
      simp only [reached, Bool.false_eq_true, if_false] at performed
      obtain ⟨rfl, rfl⟩ := Prod.mk.inj (Option.some.inj performed)
      exact same trivial rfl
  next lists assesses =>
    obtain ⟨_, _, replied⟩ := Option.map_eq_some_iff.mp performed
    obtain ⟨rfl, rfl⟩ := Prod.mk.inj replied
    refine same ?_ rfl
    unfold ListsOnly
    split
    next userId items _ => exact absurd rfl (lists userId)
    next => trivial

/-! ## What an assessment is made with -/

theorem selected_eq_addressed {req : NormalizedRiskRequest} {rows : List TransactionEntity}
    {source : FundingSource} (sound : RiskSound state) (external : req.isExternal = true)
    (account : req.externalAccountNo = source.id.format)
    (selected : selectDestination req state.tables = .ok rows) :
    rows = addressedTransfers state.tables source.id req.currency := by
  simp only [selectDestination, external, if_true, account] at selected
  obtain rfl := Except.ok.inj selected
  rw [addressedTransfers, List.filter_filter]
  refine List.filter_congr fun row stored => ?_
  by_cases named : row.externalAccountNo = some source.id.format
  · have transfer : row.type = .transfer :=
      transfer_of_account (sound.rows row stored) named (List.suffix_refl _)
    simp [named, transfer, Bool.and_assoc]
  · have other : (row.externalAccountNo == some source.id.format) = false :=
      beq_false_of_ne named
    simp [other]

theorem cached_transfers {req : NormalizedRiskRequest} {figures : Figures risk.average}
    {source : FundingSource} {now : Instant} (sound : RiskSound state)
    (external : req.isExternal = true) (account : req.externalAccountNo = source.id.format)
    (served : state.statsCache.fresh? (destinationCacheKey req) now = some figures) :
    ∀ tx ∈ figures.rows, tx.type = .transfer := by
  obtain ⟨entry, stored, own, rfl⟩ := ExpiringCache.mem_of_fresh? served
  obtain ⟨other, key, rows⟩ := sound.cached entry stored
  have plain : ':' ∉ req.externalAccountNo.toList := by
    rw [account]
    intro colon
    rcases mem_format colon with hyphen | hex
    · exact absurd hyphen (by decide)
    · exact absurd hex (by decide)
  obtain ⟨otherExternal, ends⟩ := suffix_of_sameKey external plain (key.symm.trans own)
  intro tx among
  obtain ⟨masked, accountNo⟩ := rows tx among
  exact transfer_of_account masked (accountNo otherExternal) (account ▸ ends)

theorem assessed_rows {dto : CreateTopupDto} {source : FundingSource} {answers : RiskAnswers}
    {request : RiskRequest} {assessed : AtoRiskAssessment} {statsCache : StatsCache risk.average}
    (sound : RiskSound state) (asks : AsksAbout dto source request)
    (scored : state.assess wire answers request = .ok (assessed, statsCache)) :
    ∃ currency, normalizeCurrency risk.env (trim dto.currency) = .ok currency ∧
      assessed.stats = destinationStats risk.average
        (addressedOrCached state answers.now source currency) ∧
      ∀ tx ∈ addressedOrCached state answers.now source currency, tx.type = .transfer := by
  obtain ⟨req, figures, valid, found, stats⟩ := assessTransferRisk_stats scored
  obtain ⟨currency, external, partner, account⟩ := validate_eq_ok valid
  replace external : req.isExternal = true := external.trans asks.isExternal
  replace partner : req.externalPartner = trim source.provider := by
    rw [partner, RiskRequest.received, asks.externalPartner, trim_trim]
  replace account : req.externalAccountNo = source.id.format := by
    rw [account, RiskRequest.received, asks.externalAccountNo, trim_format]
  have key : destinationCacheKey req = sourceCacheKey source req.currency := by
    rw [destinationCacheKey, if_pos external, partner, account, sourceCacheKey]
  have rows : figures.rows = addressedOrCached state answers.now source req.currency := by
    unfold addressedOrCached
    rw [← key]
    rcases getDestinationStats_cases found with
      ⟨served, _⟩ | ⟨missing, selected, _⟩ | ⟨missing, selected, _⟩
    · rw [served]
    · rw [missing]
      exact selected_eq_addressed sound external account selected
    · rw [missing]
      exact selected_eq_addressed sound external account selected
  refine ⟨req.currency, ?_, rows ▸ stats, ?_⟩
  · rw [← asks.currency]
    exact currency
  · unfold addressedOrCached
    split
    next figures served => exact cached_transfers sound external account (key ▸ served)
    next =>
      intro tx among
      simp only [addressedTransfers, List.mem_filter, Bool.and_eq_true, beq_iff_eq] at among
      exact among.2.1.1.1.1

theorem history_type {sourceId : Uuid} {currency : String} {tx : TransactionEntity}
    (sound : RiskSound state) (member : tx ∈ history state sourceId currency) :
    tx.type ≠ .transfer := by
  simp only [history, List.mem_filter, Bool.and_eq_true, List.contains_iff_mem] at member
  obtain ⟨stored, _, recorded⟩ := member
  obtain ⟨asked, ⟨row, among, same⟩, type⟩ := sound.created _ recorded
  obtain ⟨sameId, rfl⟩ := Prod.mk.inj same
  obtain rfl := Table.eq_of_id among stored sameId
  exact type

end

/-! ## Runs -/

section

variable {I : Type} [DecidableEq I] {sha256 : String → String} {wire : ℚ → Wire.Raw}

/-- No transactions so far, and no source with another account than a mask. -/
structure RiskStart (start : World I (RiskState risk) RiskProcess) : Prop where
  fresh : start.shared.tables.transactions = .empty
  sources : ∀ source ∈ start.shared.tables.fundingSources, Masked source.accountRefMasked
  uncached : start.shared.statsCache = []
  uncreated : start.shared.created = []
  starts : ∀ i stage, start.procs i = .inl stage → stage.Starts

/-- The invariant of the run, with the handler of one process asking about its own source. -/
structure RiskRun (dto : CreateTopupDto) (i : I) (world : World I (RiskState risk) RiskProcess) :
    Prop where
  sound : RiskSound world.shared
  stages : ∀ j, StageMasked world.shared (world.procs j)
  asks : ∀ handler, world.procs i = .inr (.inr handler) → ∀ sources,
    (∀ source ∈ world.shared.tables.fundingSources, source ∈ sources) →
      AboutSources dto sources handler fun _ => True

omit [DecidableEq I] in
theorem RiskStart.run {start : World I (RiskState risk) RiskProcess} {dto : CreateTopupDto} {i : I}
    (starts : RiskStart start) {number : String → Wire.Num} {env : GatewayEnv} {headers : Headers}
    {handler : GatewayHandler (Except GatewayError MovementResponse)}
    (call : MovementCall number env headers dto handler)
    (begins : start.procs i = .inr (.inr handler)) : RiskRun dto i start where
  sound :=
    { sources := starts.sources
      rows := by
        rw [starts.fresh]
        exact fun row member => absurd member (Table.not_mem_empty row)
      created := by
        rw [starts.uncreated]
        exact fun _ member => nomatch member
      cached := by
        rw [starts.uncached]
        exact fun _ member => nomatch member }
  stages := by
    intro j
    cases stage : start.procs j with
    | inl stage' =>
      have first := starts.starts j stage' stage
      refine ⟨.of_none first.entity?, fun work works => ?_⟩
      rcases stage' with creation | others
      · cases creation with
        | source request => cases works
        | _ => exact first.elim
      · cases works
    | inr other => trivial
  asks := by
    intro own same sources _
    obtain rfl := Sum.inr.inj (Sum.inr.inj (begins.symm.trans same))
    exact call.asks

theorem process_step {state after : RiskState risk} {proc next : RiskProcess}
    {action : (Answers ⊕ (Instant ⊕ ChainJobAction)) ⊕ (Uuid ⊕ CallAnswers)} (sound : RiskSound state)
    (masked : StageMasked state proc)
    (stepped : (riskProcesses risk sha256 wire).step state proc action = some (after, next)) :
    RiskStep state after next ∧ ∀ (dto : CreateTopupDto) (sources : List FundingSource),
      (∀ source ∈ state.tables.fundingSources, source ∈ sources) →
      ∀ later, next = .inr (.inr later) → ∃ handler, proc = .inr (.inr handler) ∧
        (AboutSources dto sources handler (fun _ => True) →
          AboutSources dto sources later fun _ => True) := by
  rcases proc with stage | registration | handler
  · obtain ⟨own, next, rfl, rfl, moved⟩ := Machine.either_step_inl.mp stepped
    exact ⟨operation_step sound masked moved, fun _ _ _ _ same => nomatch same⟩
  · obtain ⟨other, next, rfl, rfl, moved⟩ := Machine.either_step_inr.mp stepped
    obtain ⟨id, next, rfl, rfl, registers⟩ := Machine.either_step_inl.mp moved
    exact ⟨registration_step sound registers, fun _ _ _ _ same => nomatch same⟩
  · obtain ⟨other, next, rfl, rfl, moved⟩ := Machine.either_step_inr.mp stepped
    obtain ⟨answers, next, rfl, rfl, calls⟩ := Machine.either_step_inr.mp moved
    obtain ⟨op, rest, reply, rfl, performed, rfl⟩ := Procedure.step_eq_some.mp calls
    obtain ⟨step, listed⟩ : RiskStep state after (.inr (.inr (rest reply))) ∧
        ListsOnly state.tables.fundingSources op reply := call_step sound trivial performed
    refine ⟨step, fun dto sources all later same => ⟨_, rfl, fun asks => ?_⟩⟩
    obtain rfl := Sum.inr.inj (Sum.inr.inj same)
    refine asks.2 reply ?_
    unfold ListsOnly at listed ⊢
    split
    next items _ =>
      intro item member
      obtain ⟨source, among, own⟩ := listed item member
      exact ⟨source, all source among, own⟩
    next => trivial

theorem RiskRun.fire {dto : CreateTopupDto} {i j : I}
    {world after : World I (RiskState risk) RiskProcess}
    {action : (Answers ⊕ (Instant ⊕ ChainJobAction)) ⊕ (Uuid ⊕ CallAnswers)}
    (run : RiskRun dto i world)
    (fired : (riskProcesses risk sha256 wire).fire world j action = some after) :
    RiskRun dto i after := by
  obtain ⟨shared, proc, stepped, rfl⟩ := Machine.fire_eq_some.mp fired
  obtain ⟨step, handlers⟩ := process_step run.sound (run.stages j) stepped
  refine ⟨step.sound, forall_update (StageMasked shared) step.own
    (fun k => (run.stages k).mono step.kept), fun handler here sources all => ?_⟩
  have before : ∀ source ∈ world.shared.tables.fundingSources, source ∈ sources :=
    fun source member => all source (step.sources source member)
  rcases update_cases (· = (.inr (.inr handler) : RiskProcess)) here with ⟨rfl, own⟩ | ⟨_, other⟩
  · obtain ⟨earlier, stage, asks⟩ := handlers dto sources before handler own
    exact asks (run.asks earlier stage sources before)
  · exact run.asks handler other sources before

theorem RiskRun.reached {dto : CreateTopupDto} {i : I}
    {start world : World I (RiskState risk) RiskProcess} (run : RiskRun dto i start)
    (reached : (riskProcesses risk sha256 wire).Reaches (fun _ _ _ => True) start world) :
    RiskRun dto i world :=
  reached.invariant (RiskRun dto i) run fun _ _ _ _ run _ fired => run.fire fired

/-- The figures that a movement is scored with are those of the history of its funding source
exactly when neither this nor the external transfers to the id of the source have any rows, or
both have and the figures happen to be the same. -/
theorem movements_scored_iff (risk : RiskEnv) (sha256 : String → String) (wire : ℚ → Wire.Raw)
    (number : String → Wire.Num) (env : GatewayEnv) (headers : Headers) (dto : CreateTopupDto)
    (handler : GatewayHandler (Except GatewayError MovementResponse))
    (call : MovementCall number env headers dto handler)
    (start world : World I (RiskState risk) RiskProcess) (starts : RiskStart start)
    (reached : (riskProcesses risk sha256 wire).Reaches (fun _ _ _ => True) start world) (i : I)
    (begins : start.procs i = .inr (.inr handler)) (request : RiskRequest)
    (next : Option RiskResponse → GatewayHandler (Except GatewayError MovementResponse))
    (asks : world.procs i = .inr (.inr (.perform (.assessTransferRisk request) next)))
    (answers : RiskAnswers) (assessed : AtoRiskAssessment) (statsCache : StatsCache risk.average)
    (scored : world.shared.assess wire answers request = .ok (assessed, statsCache)) :
    ∃ source ∈ world.shared.tables.fundingSources, ∃ currency,
      source.id.format = trim dto.fundingSourceId ∧
      normalizeCurrency risk.env (trim dto.currency) = .ok currency ∧
      (∀ tx ∈ history world.shared source.id currency, tx.type ≠ .transfer) ∧
      (∀ tx ∈ addressedOrCached world.shared answers.now source currency, tx.type = .transfer) ∧
      (assessed.stats =
          destinationStats risk.average (history world.shared source.id currency) ↔
        addressedOrCached world.shared answers.now source currency = [] ∧
            history world.shared source.id currency = [] ∨
          addressedOrCached world.shared answers.now source currency ≠ [] ∧
            history world.shared source.id currency ≠ [] ∧
            Alike risk.average (addressedOrCached world.shared answers.now source currency)
              (history world.shared source.id currency)) := by
  have run := (starts.run call begins).reached reached
  obtain ⟨⟨source, registered, about⟩, _⟩ := run.asks _ asks _ fun _ member => member
  obtain ⟨currency, normalized, stats, transfers⟩ := assessed_rows run.sound about scored
  refine ⟨source, registered, currency, about.named, normalized,
    fun _ member => history_type run.sound member, transfers, ?_⟩
  rw [stats]
  exact destinationStats_eq_iff

end

/-! ## A second top-up -/

def sampleRisk : RiskEnv where
  env := sampleEnv
  number _ := .nan
  average sum count := sum / count
  statsCacheTtlMs := 5000
  statsCacheMaxEntries := 10000
  fallbackHardAmount := 50000000
  failOpen := false

-- A positive `int64` that fits its low half.
def smallLong (amount : ℚ) : Wire.Raw :=
  .long { low := BitVec.ofInt 32 ⌊amount⌋, high := 0, unsigned := false, toNumber := none }

def aliceHeaders : Headers where
  userId := alice
  deviceId := none
  faceVerified := none
  stepUpToken := none

def aliceTopupDto : CreateTopupDto where
  fundingSourceId := bankAccount
  amount := 40
  currency := "VND"
  memo := none
  idempotencyKey := none

def aliceTopupCall : GatewayHandler (Except GatewayError MovementResponse) :=
  createTopupIntent (fun _ => .nan) sampleGateway aliceHeaders aliceTopupDto

/-- One top-up of Alice at the transaction service, and the next one at the gateway. -/
def toppingUp : World Bool (RiskState sampleRisk) RiskProcess where
  shared :=
    { tables := Tables.initial [aliceSource]
      accountRefHashes := []
      statsCache := []
      created := [] }
  procs
    | false => .inl (.inl (.source (.topup aliceFunding)))
    | true => .inr (.inr aliceTopupCall)

theorem toppingUp_starts : RiskStart toppingUp where
  fresh := rfl
  sources := by
    intro source member
    obtain rfl := List.mem_singleton.mp member
    exact ⟨"0011 2233 1234", by decide +kernel⟩
  uncached := rfl
  uncreated := rfl
  starts := by
    rintro (_ | _) stage same
    · obtain rfl := Sum.inl.inj same
      trivial
    · cases same

def readily : RiskAnswers where
  now := 0
  storedAt := 0
  model := .error "ATO_SERVICE_URL is not configured"

def delivered : CallAnswers where
  reached := true
  replied := true
  risk := readily
  other _ := none

-- The first top-up is submitted, then the gateway has the sources listed for the second one.
def secondTopup : List (Bool × ((Answers ⊕ (Instant ⊕ ChainJobAction)) ⊕ (Uuid ⊕ CallAnswers))) :=
  List.replicate 5 (false, .inl (.inl accepted)) ++ [(true, .inr (.inr delivered))]

-- The figures that an assessment uses and those of the movements before it.
def scores (state : RiskState sampleRisk) : RiskProcess → Option (DestinationStats × DestinationStats)
  | .inr (.inr (.perform (.assessTransferRisk request) _)) =>
    (state.assess smallLong readily request).toOption.map fun assessed =>
      (assessed.1.stats,
        destinationStats sampleRisk.average (history state aliceSource.id "VND"))
  | _ => none

theorem secondTopup_scored : ∃ world request next assessed statsCache,
    (riskProcesses sampleRisk id smallLong).run toppingUp secondTopup = some world ∧
      world.procs true = .inr (.inr (.perform (.assessTransferRisk request) next)) ∧
      world.shared.assess smallLong readily request = .ok (assessed, statsCache) ∧
      assessed.stats = { txCount := 0, avgAmount := 0, uniqueSenders := 0 } ∧
      destinationStats sampleRisk.average (history world.shared aliceSource.id "VND") =
        { txCount := 1, avgAmount := 100, uniqueSenders := 1 } := by
  have ends : ((riskProcesses sampleRisk id smallLong).run toppingUp secondTopup).bind
      (fun world => scores world.shared (world.procs true)) =
      some ({ txCount := 0, avgAmount := 0, uniqueSenders := 0 },
        { txCount := 1, avgAmount := 100, uniqueSenders := 1 }) := by
    decide +kernel
  obtain ⟨world, ran, scored⟩ := Option.bind_eq_some_iff.mp ends
  unfold scores at scored
  split at scored
  next request next asks =>
    cases done : world.shared.assess smallLong readily request with
    | error err =>
      rw [done] at scored
      cases scored
    | ok result =>
      rw [done] at scored
      obtain ⟨stats, own⟩ := Prod.mk.inj (Option.some.inj scored)
      exact ⟨world, request, next, result.1, result.2, ran, asks, done, stats, own⟩
  next => cases scored

theorem second_topup_sees_nothing :
    ¬∀ world, (riskProcesses sampleRisk id smallLong).Reaches (fun _ _ _ => True) toppingUp world →
      ∀ request next, world.procs true = .inr (.inr (.perform (.assessTransferRisk request) next)) →
        ∀ assessed statsCache,
          world.shared.assess smallLong readily request = .ok (assessed, statsCache) →
          assessed.stats =
            destinationStats sampleRisk.average (history world.shared aliceSource.id "VND") := by
  intro always
  obtain ⟨world, request, next, assessed, statsCache, ran, asks, scored, stats, own⟩ :=
    secondTopup_scored
  have same := always world (.run .refl ran) request next asks assessed statsCache scored
  rw [stats, own] at same
  exact absurd same (by decide)

theorem movements_scored_iff_secondTopup : ∃ world, ∃ assessed : AtoRiskAssessment,
    (riskProcesses sampleRisk id smallLong).run toppingUp secondTopup = some world ∧
      ∃ source ∈ world.shared.tables.fundingSources, ∃ currency,
        source.id.format = trim aliceTopupDto.fundingSourceId ∧
        normalizeCurrency sampleEnv (trim aliceTopupDto.currency) = .ok currency ∧
        (∀ tx ∈ history world.shared source.id currency, tx.type ≠ .transfer) ∧
        (∀ tx ∈ addressedOrCached world.shared 0 source currency, tx.type = .transfer) ∧
        (assessed.stats =
            destinationStats sampleRisk.average (history world.shared source.id currency) ↔
          addressedOrCached world.shared 0 source currency = [] ∧
              history world.shared source.id currency = [] ∨
            addressedOrCached world.shared 0 source currency ≠ [] ∧
              history world.shared source.id currency ≠ [] ∧
              Alike sampleRisk.average (addressedOrCached world.shared 0 source currency)
                (history world.shared source.id currency)) := by
  obtain ⟨world, request, next, assessed, statsCache, ran, asks, scored, _⟩ := secondTopup_scored
  exact ⟨world, assessed, ran, movements_scored_iff sampleRisk id smallLong (fun _ => .nan)
    sampleGateway aliceHeaders aliceTopupDto aliceTopupCall (.topup aliceTopupDto) toppingUp world
    toppingUp_starts (.run .refl ran) true rfl request next asks readily assessed statsCache
    scored⟩

end Kufi.ApiGateway

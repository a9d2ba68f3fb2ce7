import Kufi.Aml.ScanRuns

set_option autoImplicit false

/-!
# Faults of the history file

A failed read counts as no history, and the save that follows writes the file
from what it has read.
-/

namespace Kufi.Aml

open Shared Transactions

/-- The last scan has read everything that was saved before it. -/
def HistoryUsed {F : Type} (env : AmlEnv F) : LastScan → Prop
  | none => True
  | some (before, call) =>
    (scanOnce env call before).combined.isSome →
      ∀ id ∈ before.saved, id ∈ ids ((scanOnce env call before).history.getD [])

instance {F : Type} (env : AmlEnv F) (last : LastScan) : Decidable (HistoryUsed env last) := by
  rcases last with _ | ⟨before, call⟩ <;> unfold HistoryUsed <;> infer_instance

/-- No read fails and no write is cut short once a transaction has been saved. -/
def HistorySafe {F : Type} (env : AmlEnv F) (s : AmlState) : AmlStep → Prop
  | .scan call => s.saved = [] ∨ fetchWalletTransactions env call s = [] ∨
      ((call.Passes .combineWithHistory → call.combineReads = true) ∧
        (call.Passes .save → call.SavesWhole))
  | .transactionsChange _ => True

instance {F : Type} (env : AmlEnv F) (s : AmlState) (step : AmlStep) :
    Decidable (HistorySafe env s step) :=
  match step with
  | .scan _ => inferInstanceAs (Decidable (_ ∨ _ ∨ _))
  | .transactionsChange _ => .isTrue trivial

theorem scanOnce_uses {F : Type} {env : AmlEnv F} {call : ScanCall} {s : AmlState}
    (held : s.SavedHeld) (safe : HistorySafe env s (.scan call)) :
    HistoryUsed env (some (s, call)) := by
  intro combined id saved
  obtain ⟨frame, member⟩ := Option.isSome_iff_exists.mp combined
  have joined := (scanOnce_effect env call s).combined frame member
  rcases safe with none | nothing | ⟨reads, -⟩
  · rw [none] at saved
    cases saved
  · exact absurd (joined.batch.trans nothing) joined.nonempty
  · rw [joined.history, reads joined.passed, loadHistory_held]
    exact held id saved

theorem history_survives {F : Type} (env : AmlEnv F) (transactions : Table TransactionEntity)
    {world : World Unit AmlState LastScan}
    (reached : (amlService env).Reaches (fun world _ step => HistorySafe env world.shared step)
      (freshService transactions) world) : HistoryUsed env (world.procs ()) := by
  have kept := reached.assertions AmlState.SavedHeld (fun _ _ last => HistoryUsed env last)
    ⟨(AmlState.initial_recorded transactions).held, fun _ =>
      show HistoryUsed env none from trivial⟩ (by
      intro world _ step shared last held asserted safe stepped
      cases step with
      | scan call =>
        obtain ⟨rfl, rfl⟩ := Prod.mk.inj (Option.some.inj stepped)
        refine ⟨scanOnce_held held ?_, scanOnce_uses held safe,
          fun other different => absurd rfl different⟩
        exact safe.imp_right fun rest => rest.imp_right And.right
      | transactionsChange changed =>
        obtain ⟨rfl, rfl⟩ := Prod.mk.inj (Option.some.inj stepped)
        exact ⟨held, asserted _, fun other _ => asserted other⟩)
  exact kept.2 ()

-- A write that is refused leaves the file as it was, and a first write may be cut short.
theorem history_survives_refused :
    ∃ world, (amlService sampleAml).run (freshService oneTransfer)
        (steps [.scan { sampleScan with
            write := .interrupted .unreadable, raises := some .persistPredictions },
          .scan sampleScan, .transactionsChange twoTransfers,
          .scan { sampleScan with write := .refused, raises := some .persistPredictions },
          .scan sampleScan]) = some world ∧
      HistoryUsed sampleAml (world.procs ()) := by
  have reached : ((amlService sampleAml).checkedRun
      (fun world _ step => HistorySafe sampleAml world.shared step) (freshService oneTransfer)
      (steps [.scan { sampleScan with
          write := .interrupted .unreadable, raises := some .persistPredictions },
        .scan sampleScan, .transactionsChange twoTransfers,
        .scan { sampleScan with write := .refused, raises := some .persistPredictions },
        .scan sampleScan])).isSome := by
    decide +kernel
  obtain ⟨world, ran⟩ := Option.isSome_iff_exists.mp reached
  have runs := Machine.Runs.checked .nil ran
  exact ⟨world, runs.run, history_survives sampleAml oneTransfer runs.reaches⟩

-- The second save fails to read the file and writes its own batch over it.
theorem history_not_survives :
    ¬∀ world, (amlService sampleAml).Reaches (fun _ _ _ => True) (freshService oneTransfer) world →
      HistoryUsed sampleAml (world.procs ()) :=
  Machine.not_always (steps [.scan sampleScan, .transactionsChange twoTransfers,
    .scan { sampleScan with saveReads := false },
    .transactionsChange threeTransfers, .scan sampleScan]) (by decide +kernel)

end Kufi.Aml

import Juicity.Gui.CoreManager.Supervision

/-!
Owns what `traffic` returns: the newest figure of the core that runs, and none
of an earlier one. The figure of a Juicity core is the last reading of its
connection, the figure of a Shadowsocks core the last report to its own reader.
-/

namespace Juicity.Gui.CoreManager

open Juicity.Machine

/-- The newest figure of the running core after one more step. -/
def observe (known : UInt64 × UInt64) (entry : State × Action) : UInt64 × UInt64 :=
  match entry.2, entry.1.running with
  | .start _ _, _ => (0, 0)
  | .traffic reading, some core => if core.client then reading.getD known else known
  | .report reader totals, some core => if core.flowStat = some reader then totals else known
  | .traffic _, none | .report _ _, none | .stop, _ | .poll, _ | .ends _ _, _ => known

/-- The newest figure of the running core. -/
def newest (history : List (State × Action)) : UInt64 × UInt64 := history.foldl observe (0, 0)

theorem newest_snoc (history : List (State × Action)) (state : State) (action : Action) :
    newest (history ++ [(state, action)]) = observe (newest history) (state, action) := by
  rw [newest, List.foldl_append]
  rfl

/-- Where the figure of a core is kept. -/
def Keeps (state : State) (figure : UInt64 × UInt64) (core : RunningCore) : Prop :=
  (core.client = true ∧ core.flowStat = none ∧ core.lastTraffic = figure) ∨
    (core.client = false ∧ ∃ reader counters, core.flowStat = some reader ∧
      state.readers[reader]? = some counters ∧ counters.totals = figure)

section Traffic

variable {state after final : State} {history : List (State × Action)}
  {figure : UInt64 × UInt64} {core : RunningCore}

/-- A core starts without a figure. -/
theorem keeps_startProfile {protocol : ProxyProtocol} {start : Start}
    (runs : (state.startProfile protocol start).1.running = some core) :
    Keeps (state.startProfile protocol start).1 (0, 0) core := by
  have idle := running_stopAndWait state
  revert runs
  unfold State.startProfile
  generalize state.stopAndWait = stopped at idle
  cases start.runtime with
  | error chain =>
      intro runs
      cases idle.symm.trans runs
  | ok _ =>
      cases protocol with
      | juicity =>
          unfold State.startJuicity
          cases start.config with
          | error chain =>
              intro runs
              cases idle.symm.trans runs
          | ok _ =>
              cases start.front with
              | error chain =>
                  intro runs
                  cases idle.symm.trans runs
              | ok _ =>
                  cases bindCore start ("failed to listen on " ++ start.listen) with
                  | error chain =>
                      intro runs
                      cases idle.symm.trans runs
                  | ok _ =>
                      intro runs
                      rw [← Option.some.inj runs]
                      exact .inl ⟨rfl, rfl, rfl⟩
      | shadowsocks =>
          unfold State.startShadowsocks
          cases start.config with
          | error chain =>
              intro runs
              cases idle.symm.trans runs
          | ok _ =>
              cases start.front with
              | error chain =>
                  intro runs
                  cases idle.symm.trans runs
              | ok _ =>
                  dsimp only
                  cases bindCore start "failed to start the shadowsocks local server" with
                  | error chain =>
                      intro runs
                      cases idle.symm.trans runs
                  | ok _ =>
                      intro runs
                      rw [← Option.some.inj runs]
                      exact .inr ⟨rfl, stopped.readers.length, ⟨(0, 0), false⟩, rfl, by simp, rfl⟩

/-- The reading of a core. -/
theorem reading_getD (keeps : Keeps state figure core) (client : Option (UInt64 × UInt64)) :
    (state.reading core client).getD core.lastTraffic =
      if core.client then client.getD figure else figure := by
  unfold State.reading
  rcases keeps with ⟨isClient, -, last⟩ | ⟨noClient, reader, counters, stat, found, totals⟩
  · rw [isClient, if_pos rfl, if_pos rfl, last]
  · rw [noClient, stat]
    simp [found, totals]

theorem keeps_afterTraffic (keeps : Keeps state figure core)
    (client : Option (UInt64 × UInt64)) :
    Keeps (state.afterTraffic client) (if core.client then client.getD figure else figure)
      { core with lastTraffic := (state.reading core client).getD core.lastTraffic } := by
  rw [reading_getD keeps client]
  rcases keeps with ⟨isClient, none, -⟩ | ⟨noClient, reader, counters, stat, found, totals⟩
  · exact .inl ⟨isClient, none, rfl⟩
  · refine .inr ⟨noClient, reader, counters, stat, found, ?_⟩
    rw [noClient]
    exact totals

theorem keeps_report (keeps : Keeps state figure core) (reader : Nat) (totals : UInt64 × UInt64) :
    Keeps { state with
        readers := setReader state.readers reader fun counters => { counters with totals } }
      (if core.flowStat = some reader then totals else figure) core := by
  rcases keeps with ⟨isClient, none, last⟩ | ⟨noClient, own, counters, stat, found, same⟩
  · refine .inl ⟨isClient, none, ?_⟩
    rw [none, if_neg (by simp), last]
  · by_cases mine : own = reader
    · subst mine
      refine .inr ⟨noClient, own, { counters with totals }, stat, ?_, ?_⟩
      · show (setReader state.readers own _)[own]? = _
        rw [setReader, List.getElem?_modify_eq, found]
        rfl
      · rw [if_pos stat]
    · refine .inr ⟨noClient, own, counters, stat, ?_, ?_⟩
      · show (setReader state.readers reader _)[own]? = _
        rw [setReader, List.getElem?_modify_ne _ _ (Ne.symm mine), found]
      · rw [if_neg (by rw [stat, Option.some_inj]; exact mine), same]

theorem keeps_of_run (run : Run step initial history final) :
    ∀ core, final.running = some core → Keeps final (newest history) core := by
  induction run with
  | start =>
      intro core runs
      cases runs
  | @next history state after action before taken inductionHypothesis =>
      intro core runs
      rw [newest_snoc]
      cases action with
      | start protocol start =>
          obtain rfl := Option.some.inj taken
          exact keeps_startProfile runs
      | stop =>
          obtain rfl := Option.some.inj taken
          cases (running_stopAndWait state).symm.trans runs
      | poll =>
          obtain rfl := Option.some.inj taken
          unfold State.afterPoll at runs ⊢
          split at runs
          · cases runs
          · rename_i alive
            rw [if_neg alive]
            exact inductionHypothesis core runs
      | traffic reading =>
          obtain rfl := Option.some.inj taken
          obtain ⟨old, held, rfl⟩ := Option.map_eq_some_iff.mp runs
          simp only [observe, held]
          exact keeps_afterTraffic (inductionHypothesis old held) reading
      | ends task how =>
          simp only [step] at taken
          split at taken
          · obtain rfl := Option.some.inj taken
            exact inductionHypothesis core runs
          · cases taken
      | report reader totals =>
          simp only [step] at taken
          split at taken
          · obtain rfl := Option.some.inj taken
            have held : state.running = some core := runs
            simp only [observe, held]
            exact keeps_report (inductionHypothesis core held) reader totals
          · cases taken

/-- In every run, whatever readers of earlier cores are still told, `traffic` returns the newest
figure of the core that runs: a reading that is missing now is made up for by the last one. -/
theorem traffic_of_run (run : Run step initial history final)
    (runs : final.running = some core) (client : Option (UInt64 × UInt64)) :
    final.trafficResult client =
      some (if core.client then client.getD (newest history) else newest history) := by
  rw [State.trafficResult, runs, Option.map_some, reading_getD (keeps_of_run run core runs) client]

/-- A late report to the reader of an earlier core is not the figure of the next. -/
theorem traffic_of_run_late :
    ∃ history final, Run step initial history final ∧ final.trafficResult none = some (0, 0) := by
  have executed : exec step initial [.start .shadowsocks plainStart, .report 0 (7, 9),
      .start .shadowsocks plainStart, .report 0 (8, 10)] = some ⟨some ⟨.shadowsocks, 1, false, some 1, (0, 0)⟩,
        [.ended .cancelled, .live], [⟨(8, 10), true⟩, ⟨(0, 0), false⟩]⟩ := rfl
  have run := run_trace executed
  exact ⟨_, _, run, traffic_of_run run rfl none⟩

end Traffic

end Juicity.Gui.CoreManager

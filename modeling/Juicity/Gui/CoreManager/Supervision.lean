import Juicity.Gui.CoreManager.Model

/-!
Owns the supervision of the cores. At most one task is alive, the one the
manager holds. A reader of flow statistics is told to stop with its core, except
when the core ended on its own: `poll` lets go of it without a word.
-/

namespace Juicity.Gui.CoreManager

open Juicity.Machine

/-! ## Starts -/

/-- The first attempt that does not meet a held address decides. -/
theorem retryFrom_ok_iff {op : Nat → Except BindError Unit} {remaining attempt : Nat}
    {lastErr : Option BindError} :
    retryFrom op remaining attempt lastErr = some (.ok ()) ↔
      ∃ index < remaining, op (attempt + index) = .ok () ∧
        ∀ earlier < index, op (attempt + earlier) = .error .addrInUse := by
  induction remaining generalizing attempt lastErr with
  | zero => cases lastErr <;> simp [retryFrom]
  | succ remaining inductionHypothesis =>
      cases first : op attempt with
      | ok value =>
          refine iff_of_true (by simp only [retryFrom, first]) ⟨0, Nat.succ_pos _, first, ?_⟩
          intro earlier before
          cases before
      | error error =>
          cases error with
          | other reason =>
              refine iff_of_false (by simp [retryFrom, first]) ?_
              rintro ⟨index, -, bound, held⟩
              cases index with
              | zero => cases first.symm.trans bound
              | succ index => cases first.symm.trans (held 0 (Nat.succ_pos _))
          | addrInUse =>
              have rest : retryFrom op (remaining + 1) attempt lastErr =
                  retryFrom op remaining (attempt + 1) (some .addrInUse) := by
                simp only [retryFrom, first]
              rw [rest, inductionHypothesis]
              constructor
              · rintro ⟨index, within, bound, held⟩
                refine ⟨index + 1, Nat.succ_lt_succ within, ?_, fun earlier before => ?_⟩
                · rw [← bound, Nat.add_right_comm, Nat.add_assoc]
                · cases earlier with
                  | zero => exact first
                  | succ earlier =>
                      rw [← held earlier (Nat.lt_of_succ_lt_succ before), Nat.add_right_comm,
                        Nat.add_assoc]
              · rintro ⟨index, within, bound, held⟩
                cases index with
                | zero => cases first.symm.trans bound
                | succ index =>
                    refine ⟨index, Nat.lt_of_succ_lt_succ within, ?_, fun earlier before => ?_⟩
                    · rw [← bound, Nat.add_right_comm, Nat.add_assoc]
                    · rw [← held (earlier + 1) (Nat.succ_lt_succ before), Nat.add_right_comm,
                        Nat.add_assoc]

/-- The binds succeed within the attempts, held addresses apart. -/
def Binds (start : Start) : Prop :=
  ∃ index < bindRetryAttempts, start.binds index = .ok () ∧
    ∀ earlier < index, start.binds earlier = .error .addrInUse

theorem bindCore_ok_iff {start : Start} {context : String} :
    bindCore start context = .ok () ↔ Binds start := by
  have retried : retryOnAddrInUse bindRetryAttempts start.binds = some (.ok ()) ↔ Binds start := by
    unfold retryOnAddrInUse Binds
    rw [retryFrom_ok_iff]
    simp only [Nat.zero_add]
  rw [← retried]
  unfold bindCore
  split
  · rename_i bound
    exact ⟨fun _ => bound, fun _ => rfl⟩
  · rename_i failed
    rw [failed]
    simp
  · rename_i failed
    rw [failed]
    simp

theorem startJuicity_ok_iff {state : State} {start : Start} :
    (∃ core, (state.startJuicity start).2 = .ok core) ↔
      start.config = .ok () ∧ start.front = .ok () ∧ Binds start := by
  unfold State.startJuicity
  cases start.config with
  | error chain => simp
  | ok _ =>
      cases start.front with
      | error chain => simp
      | ok _ =>
          rw [← bindCore_ok_iff]
          cases bindCore start ("failed to listen on " ++ start.listen) with
          | error chain => simp
          | ok _ => simp

theorem startShadowsocks_ok_iff {state : State} {start : Start} :
    (∃ core, (state.startShadowsocks start).2 = .ok core) ↔
      start.config = .ok () ∧ start.front = .ok () ∧ Binds start := by
  unfold State.startShadowsocks
  cases start.config with
  | error chain => simp
  | ok _ =>
      cases start.front with
      | error chain => simp
      | ok _ =>
          rw [← bindCore_ok_iff]
          dsimp only
          cases bindCore start "failed to start the shadowsocks local server" with
          | error chain => simp
          | ok _ => simp

/-- A start succeeds exactly when all its parts do. -/
theorem startProfile_ok_iff {state : State} {protocol : ProxyProtocol} {start : Start} :
    (state.startProfile protocol start).2 = .ok () ↔
      start.runtime = .ok () ∧ start.config = .ok () ∧ start.front = .ok () ∧ Binds start := by
  unfold State.startProfile
  cases start.runtime with
  | error chain => simp
  | ok _ =>
      cases protocol with
      | juicity =>
          rw [eq_self, true_and, ← startJuicity_ok_iff]
          dsimp only
          cases (state.stopAndWait.startJuicity start).2 with
          | error chain => simp
          | ok core => simp
      | shadowsocks =>
          rw [eq_self, true_and, ← startShadowsocks_ok_iff]
          dsimp only
          cases (state.stopAndWait.startShadowsocks start).2 with
          | error chain => simp
          | ok core => simp

/-! ## Readers -/

/-- The running core has the reader. -/
def Holds (state : State) (reader : Nat) : Prop :=
  ∃ core, state.running = some core ∧ core.flowStat = some reader

/-- Whether a reader was told to stop. -/
def flag (state : State) (reader : Nat) : Option Bool := (state.readers[reader]?).map (·.stop)

/-- The tasks and readers of a manager, given which readers were let go. -/
structure Kept (letGo : Nat → Prop) (state : State) : Prop where
  live : ∀ task, state.tasks[task]? = some .live →
    ∃ core, state.running = some core ∧ core.task = task
  task : ∀ core, state.running = some core → core.task < state.tasks.length
  goes : ∀ reader, flag state reader = some false ↔ Holds state reader ∨ letGo reader
  apart : ∀ reader, letGo reader → ¬ Holds state reader

section Kept

variable {letGo : Nat → Prop} {state : State}

theorem kept_initial : Kept (fun _ => False) initial where
  live := by
    intro task alive
    cases alive
  task := by
    intro core runs
    cases runs
  goes := by
    intro reader
    refine iff_of_false (by intro told; cases told) ?_
    rintro (⟨core, runs, -⟩ | none)
    · cases runs
    · exact none
  apart := fun _ none => none.elim

theorem not_holds_of_idle (idle : state.running = none) (reader : Nat) : ¬ Holds state reader := by
  rintro ⟨core, runs, -⟩
  cases idle.symm.trans runs

theorem running_stopAndWait (state : State) : state.stopAndWait.running = none := by
  unfold State.stopAndWait
  cases runs : state.running with
  | none => exact runs
  | some core => rfl

/-- Only the reader of the running core is told. -/
theorem flag_stopAndWait_of_not_holds {reader : Nat} (other : ¬ Holds state reader) :
    flag state.stopAndWait reader = flag state reader := by
  unfold State.stopAndWait
  cases runs : state.running with
  | none => rfl
  | some core =>
      cases stat : core.flowStat with
      | none => simp only [flag, stat]
      | some held =>
          have different : held ≠ reader := by
            rintro rfl
            exact other ⟨core, runs, stat⟩
          simp only [flag, stat, setReader, List.getElem?_modify_ne _ _ different]

theorem flag_stopAndWait_of_holds {reader : Nat} (holds : Holds state reader) :
    flag state.stopAndWait reader ≠ some false := by
  obtain ⟨core, runs, stat⟩ := holds
  unfold State.stopAndWait
  simp only [flag, runs, stat, setReader, List.getElem?_modify_eq]
  cases state.readers[reader]? with
  | none => intro told; cases told
  | some counters => intro told; cases told

theorem Kept.stopAndWait (kept : Kept letGo state) : Kept letGo state.stopAndWait where
  live := by
    intro task alive
    unfold State.stopAndWait at alive
    cases runs : state.running with
    | none =>
        simp only [runs] at alive
        obtain ⟨core, some, -⟩ := kept.live task alive
        cases runs.symm.trans some
    | some core =>
        simp only [runs] at alive
        by_cases same : core.task = task
        · subst same
          rw [List.getElem?_modify_eq] at alive
          obtain ⟨old, -, ended⟩ := Option.map_eq_some_iff.mp alive
          cases old with
          | live => cases ended
          | ended how => cases ended
        · rw [List.getElem?_modify_ne _ _ same] at alive
          obtain ⟨other, runsToo, rfl⟩ := kept.live task alive
          obtain rfl := Option.some.inj (runs.symm.trans runsToo)
          exact absurd rfl same
  task := by
    intro core runs
    rw [running_stopAndWait] at runs
    cases runs
  goes := by
    intro reader
    have idle := not_holds_of_idle (running_stopAndWait state) reader
    rw [or_iff_right idle]
    by_cases holds : Holds state reader
    · refine iff_of_false (flag_stopAndWait_of_holds holds) fun gone => ?_
      exact kept.apart reader gone holds
    · rw [flag_stopAndWait_of_not_holds holds, kept.goes reader, or_iff_right holds]
  apart := fun reader _ => not_holds_of_idle (running_stopAndWait state) reader

/-- A core that has ended is let go of with its reader. -/
theorem Kept.afterEnd (kept : Kept letGo state)
    (ended : ∀ core, state.running = some core → state.tasks[core.task]? ≠ some .live) :
    Kept (fun reader => letGo reader ∨ Holds state reader) { state with running := none } where
  live := by
    intro task alive
    obtain ⟨core, runs, rfl⟩ := kept.live task alive
    exact absurd alive (ended core runs)
  task := by
    intro core runs
    cases runs
  goes := by
    intro reader
    rw [or_iff_right (not_holds_of_idle rfl reader), or_comm]
    exact kept.goes reader
  apart := fun reader _ => not_holds_of_idle rfl reader

/-- A change that keeps the core, its task and all flags. -/
theorem Kept.of_same {after : State} (kept : Kept letGo state)
    (tasks : after.tasks.length = state.tasks.length)
    (lives : ∀ task : Nat, after.tasks[task]? = some Task.live → state.tasks[task]? = some .live)
    (flags : ∀ reader, flag after reader = flag state reader)
    (running : after.running.map (fun core => (core.task, core.flowStat)) =
      state.running.map fun core => (core.task, core.flowStat)) : Kept letGo after := by
  have held : ∀ task stat, (∃ core, after.running = some core ∧ core.task = task ∧
      core.flowStat = stat) ↔ ∃ core, state.running = some core ∧ core.task = task ∧
        core.flowStat = stat := by
    intro task stat
    have view : ∀ running : Option RunningCore, (∃ core, running = some core ∧ core.task = task ∧
        core.flowStat = stat) ↔
          running.map (fun core => (core.task, core.flowStat)) = some (task, stat) := by
      intro running
      simp only [Option.map_eq_some_iff, Prod.mk.injEq]
    rw [view, view, running]
  have holds : ∀ reader, Holds after reader ↔ Holds state reader := by
    intro reader
    constructor
    · rintro ⟨core, runs, stat⟩
      obtain ⟨other, runsToo, -, statToo⟩ := (held core.task _).mp ⟨core, runs, rfl, stat⟩
      exact ⟨other, runsToo, statToo⟩
    · rintro ⟨core, runs, stat⟩
      obtain ⟨other, runsToo, -, statToo⟩ := (held core.task _).mpr ⟨core, runs, rfl, stat⟩
      exact ⟨other, runsToo, statToo⟩
  refine ⟨?_, ?_, ?_, ?_⟩
  · intro task alive
    obtain ⟨core, runs, same⟩ := kept.live task (lives task alive)
    obtain ⟨other, runsToo, sameToo, -⟩ := (held task core.flowStat).mpr ⟨core, runs, same, rfl⟩
    exact ⟨other, runsToo, sameToo⟩
  · intro core runs
    obtain ⟨other, runsToo, same, -⟩ := (held core.task core.flowStat).mp ⟨core, runs, rfl, rfl⟩
    rw [tasks, ← same]
    exact kept.task other runsToo
  · intro reader
    rw [flags, holds]
    exact kept.goes reader
  · intro reader gone
    rw [holds]
    exact kept.apart reader gone

/-- A core that starts has a new task, and a new reader if it has one. -/
theorem Kept.started (kept : Kept letGo state) (idle : state.running = none) {core : RunningCore}
    (task : core.task = state.tasks.length) (readers : List FlowCounters)
    (stat : (core.flowStat = none ∧ readers = []) ∨
      core.flowStat = some state.readers.length ∧ readers = [⟨(0, 0), false⟩])
    (letGoOld : ∀ reader, letGo reader → reader < state.readers.length) :
    Kept letGo
      ⟨some core, state.tasks ++ [.live], state.readers ++ readers⟩ := by
  have holds : ∀ reader, Holds ⟨some core, state.tasks ++ [.live], state.readers ++ readers⟩ reader ↔
      core.flowStat = some reader := by
    intro reader
    constructor
    · rintro ⟨other, runs, stat⟩
      rw [Option.some.inj runs]
      exact stat
    · exact fun stat => ⟨core, rfl, stat⟩
  refine ⟨?_, ?_, ?_, ?_⟩
  · intro index alive
    refine ⟨core, rfl, ?_⟩
    rw [task]
    by_contra old
    change (state.tasks ++ [Task.live])[index]? = _ at alive
    rcases Nat.lt_or_gt_of_ne old with beyond | before
    · rw [List.getElem?_eq_none (by simp; omega)] at alive
      cases alive
    · rw [List.getElem?_append_left before] at alive
      obtain ⟨other, runs, -⟩ := kept.live index alive
      cases idle.symm.trans runs
  · intro other runs
    rw [← Option.some.inj runs, task]
    simp
  · intro reader
    rw [holds]
    have old : reader < state.readers.length →
        (flag ⟨some core, state.tasks ++ [.live], state.readers ++ readers⟩ reader = some false ↔
          letGo reader) := by
      intro before
      have same : flag ⟨some core, state.tasks ++ [.live], state.readers ++ readers⟩ reader =
          flag state reader := by
        simp only [flag, List.getElem?_append_left before]
      rw [same, kept.goes, or_iff_right (not_holds_of_idle idle reader)]
    rcases stat with ⟨none, rfl⟩ | ⟨new, rfl⟩
    · rw [none, or_iff_right (by simp)]
      by_cases before : reader < state.readers.length
      · exact old before
      · refine iff_of_false ?_ fun gone => before (letGoOld reader gone)
        simp only [flag, List.append_nil, List.getElem?_eq_none (Nat.not_lt.mp before)]
        simp
    · rw [new, Option.some_inj]
      by_cases before : reader < state.readers.length
      · rw [old before, or_iff_right (by omega)]
      · by_cases here : state.readers.length = reader
        · subst here
          refine iff_of_true ?_ (.inl rfl)
          simp [flag]
        · refine iff_of_false ?_ ?_
          · simp only [flag]
            rw [List.getElem?_eq_none (by simp; omega)]
            simp
          · rintro (same | gone)
            · exact here same
            · exact before (letGoOld reader gone)
  · intro reader gone
    rw [holds]
    have before := letGoOld reader gone
    rcases stat with ⟨none, -⟩ | ⟨new, -⟩
    · rw [none]
      simp
    · rw [new, Option.some_inj]
      omega

/-- A reader that was started for nothing is stopped. -/
theorem Kept.wasted (kept : Kept letGo state) :
    Kept letGo { state with readers := state.readers ++ [⟨(0, 0), true⟩] } := by
  have flags : ∀ reader,
      flag { state with readers := state.readers ++ [⟨(0, 0), true⟩] } reader = some false ↔
        flag state reader = some false := by
    intro reader
    simp only [flag]
    rcases Nat.lt_trichotomy reader state.readers.length with before | here | beyond
    · rw [List.getElem?_append_left before]
    · subst here
      simp
    · rw [List.getElem?_eq_none (by simp; omega), List.getElem?_eq_none (by omega)]
  exact ⟨kept.live, kept.task, fun reader => (flags reader).trans (kept.goes reader), kept.apart⟩

theorem Kept.lt_of_letGo (kept : Kept letGo state) (reader : Nat) (gone : letGo reader) :
    reader < state.readers.length := by
  have told := (kept.goes reader).mpr (.inr gone)
  by_contra beyond
  rw [flag, List.getElem?_eq_none (Nat.not_lt.mp beyond)] at told
  cases told

theorem Kept.congr {other : Nat → Prop} (kept : Kept letGo state)
    (same : ∀ reader, letGo reader ↔ other reader) : Kept other state := by
  obtain rfl : letGo = other := funext fun reader => propext (same reader)
  exact kept

theorem Kept.startJuicity (kept : Kept letGo state) (idle : state.running = none) (start : Start) :
    match state.startJuicity start with
    | (after, .ok core) => Kept letGo { after with running := some core }
    | (after, .error _) => Kept letGo after ∧ after.running = none := by
  unfold State.startJuicity
  cases start.config with
  | error chain => exact ⟨kept, idle⟩
  | ok _ =>
      cases start.front with
      | error chain => exact ⟨kept, idle⟩
      | ok _ =>
          cases bindCore start ("failed to listen on " ++ start.listen) with
          | error chain => exact ⟨kept, idle⟩
          | ok _ =>
              have started : Kept letGo ⟨some ⟨.juicity, state.tasks.length, true, none, (0, 0)⟩,
                  state.tasks ++ [.live], state.readers ++ []⟩ :=
                kept.started idle rfl [] (.inl ⟨rfl, rfl⟩) kept.lt_of_letGo
              rw [List.append_nil] at started
              exact started

theorem Kept.startShadowsocks (kept : Kept letGo state) (idle : state.running = none)
    (start : Start) :
    match state.startShadowsocks start with
    | (after, .ok core) => Kept letGo { after with running := some core }
    | (after, .error _) => Kept letGo after ∧ after.running = none := by
  unfold State.startShadowsocks
  cases start.config with
  | error chain => exact ⟨kept, idle⟩
  | ok _ =>
      cases start.front with
      | error chain => exact ⟨kept, idle⟩
      | ok _ =>
          dsimp only
          cases bindCore start "failed to start the shadowsocks local server" with
          | error chain => exact ⟨kept.wasted, idle⟩
          | ok _ =>
              exact kept.started idle rfl [⟨(0, 0), false⟩] (.inr ⟨rfl, rfl⟩) kept.lt_of_letGo

/-- A start leaves one core or none. -/
theorem Kept.startProfile (kept : Kept letGo state) (protocol : ProxyProtocol) (start : Start) :
    Kept letGo (state.startProfile protocol start).1 ∧
      ((state.startProfile protocol start).2 ≠ .ok () →
        (state.startProfile protocol start).1.running = none) := by
  have stopped := kept.stopAndWait
  have idle := running_stopAndWait state
  unfold State.startProfile
  cases start.runtime with
  | error chain => exact ⟨stopped, fun _ => idle⟩
  | ok _ =>
      cases protocol with
      | juicity =>
          have started := stopped.startJuicity idle start
          dsimp only
          generalize state.stopAndWait.startJuicity start = outcome at started ⊢
          obtain ⟨after, result⟩ := outcome
          cases result with
          | ok core => exact ⟨started, fun failed => absurd rfl failed⟩
          | error chain => exact ⟨started.1, fun _ => started.2⟩
      | shadowsocks =>
          have started := stopped.startShadowsocks idle start
          dsimp only
          generalize state.stopAndWait.startShadowsocks start = outcome at started ⊢
          obtain ⟨after, result⟩ := outcome
          cases result with
          | ok core => exact ⟨started, fun failed => absurd rfl failed⟩
          | error chain => exact ⟨started.1, fun _ => started.2⟩

/-- `poll` reports a core exactly when its task has ended. -/
theorem Kept.pollResult_iff (kept : Kept letGo state) {core : RunningCore}
    (runs : state.running = some core) :
    state.pollResult = none ↔ state.tasks[core.task]? = some .live := by
  obtain ⟨task, spawned⟩ : ∃ task, state.tasks[core.task]? = some task :=
    ⟨_, List.getElem?_eq_getElem (kept.task core runs)⟩
  simp only [State.pollResult, runs, spawned, Option.some_inj]
  cases task with
  | live => simp
  | ended how => cases how <;> simp

theorem Kept.afterPoll (kept : Kept letGo state) :
    Kept (fun reader => letGo reader ∨ (state.pollResult ≠ none ∧ Holds state reader))
      state.afterPoll := by
  unfold State.afterPoll
  cases reported : state.pollResult with
  | none => exact kept.congr fun reader => by simp
  | some reason =>
      have ended : ∀ core, state.running = some core → state.tasks[core.task]? ≠ some .live := by
        intro core runs alive
        rw [(kept.pollResult_iff runs).mpr alive] at reported
        cases reported
      exact (kept.afterEnd ended).congr fun reader => by simp

end Kept

/-! ## Runs -/

/-- The reader of a core that `poll` found ended. -/
def LetGo (history : List (State × Action)) (reader : Nat) : Prop :=
  ∃ entry ∈ history, entry.2 = .poll ∧ entry.1.pollResult ≠ none ∧ Holds entry.1 reader

theorem letGo_snoc {history : List (State × Action)} {state : State} {action : Action}
    {reader : Nat} :
    LetGo (history ++ [(state, action)]) reader ↔
      LetGo history reader ∨ (action = .poll ∧ state.pollResult ≠ none ∧ Holds state reader) := by
  constructor
  · rintro ⟨entry, member, polls, reported, holds⟩
    rcases List.mem_append.mp member with old | new
    · exact .inl ⟨entry, old, polls, reported, holds⟩
    · rw [List.mem_singleton.mp new] at polls reported holds
      exact .inr ⟨polls, reported, holds⟩
  · rintro (⟨entry, member, facts⟩ | facts)
    · exact ⟨entry, List.mem_append_left _ member, facts⟩
    · exact ⟨(state, action), by simp, facts⟩

theorem letGo_snoc_of_ne {history : List (State × Action)} {state : State} {action : Action}
    (other : action ≠ .poll) (reader : Nat) :
    LetGo history reader ↔ LetGo (history ++ [(state, action)]) reader := by
  rw [letGo_snoc, or_iff_left]
  exact fun polls => other polls.1

section Runs

variable {history : List (State × Action)} {state after final : State}

theorem flag_report (readers : List FlowCounters) (index : Nat) (totals : UInt64 × UInt64)
    (reader : Nat) :
    ((setReader readers index fun counters => { counters with totals })[reader]?).map
        (fun counters => counters.stop) = (readers[reader]?).map fun counters => counters.stop := by
  unfold setReader
  by_cases same : index = reader
  · subst same
    rw [List.getElem?_modify_eq]
    cases readers[index]? with
    | none => rfl
    | some counters => rfl
  · rw [List.getElem?_modify_ne _ _ same]

theorem kept_of_run (run : Run step initial history final) : Kept (LetGo history) final := by
  induction run with
  | start => exact kept_initial.congr fun reader => by simp [LetGo]
  | @next history state after action before taken inductionHypothesis =>
      have kept := inductionHypothesis
      cases action with
      | start protocol start =>
          obtain rfl := Option.some.inj taken
          exact (kept.startProfile protocol start).1.congr (letGo_snoc_of_ne Action.noConfusion)
      | stop =>
          obtain rfl := Option.some.inj taken
          exact kept.stopAndWait.congr (letGo_snoc_of_ne Action.noConfusion)
      | poll =>
          obtain rfl := Option.some.inj taken
          refine kept.afterPoll.congr fun reader => ?_
          rw [letGo_snoc]
          simp
      | traffic reading =>
          obtain rfl := Option.some.inj taken
          have same : Kept (LetGo history) (state.afterTraffic reading) :=
            kept.of_same rfl (fun _ alive => alive) (fun _ => rfl) (by
              unfold State.afterTraffic
              cases state.running with
              | none => rfl
              | some core => rfl)
          exact same.congr (letGo_snoc_of_ne Action.noConfusion)
      | ends task how =>
          simp only [step] at taken
          split at taken
          · obtain rfl := Option.some.inj taken
            have same : Kept (LetGo history)
                { state with tasks := state.tasks.set task (.ended how) } := by
              refine kept.of_same (by simp) (fun index alive => ?_) (fun _ => rfl) rfl
              by_cases here : task = index
              · subst here
                rw [List.getElem?_set_self'] at alive
                obtain ⟨old, -, ended⟩ := Option.map_eq_some_iff.mp alive
                cases ended
              · rwa [List.getElem?_set_ne here] at alive
            exact same.congr (letGo_snoc_of_ne Action.noConfusion)
          · cases taken
      | report reader totals =>
          simp only [step] at taken
          split at taken
          · obtain rfl := Option.some.inj taken
            have same : Kept (LetGo history) { state with
                readers := setReader state.readers reader fun counters =>
                  { counters with totals } } :=
              kept.of_same rfl (fun _ alive => alive) (flag_report state.readers reader totals) rfl
            exact same.congr (letGo_snoc_of_ne Action.noConfusion)
          · cases taken

/-- In every run at most one task is alive, the one the manager holds, and `poll` reports a core
exactly when its task has ended; a start that fails leaves none alive. A reader is told to stop
unless its core runs or `poll` found that core ended: then nobody ever tells it. -/
theorem supervised_of_run (run : Run step initial history final) :
    (∀ task : Nat, final.tasks[task]? = some Task.live →
      ∃ core, final.running = some core ∧ core.task = task) ∧
    (∀ core, final.running = some core →
      (final.pollResult = none ↔ final.tasks[core.task]? = some Task.live)) ∧
    (∀ protocol start,
      ((final.startProfile protocol start).2 = .ok () ↔
        start.runtime = .ok () ∧ start.config = .ok () ∧ start.front = .ok () ∧ Binds start) ∧
      ((final.startProfile protocol start).2 ≠ .ok () →
        ∀ task : Nat, (final.startProfile protocol start).1.tasks[task]? ≠ some Task.live)) ∧
    ∀ reader counters, final.readers[reader]? = some counters →
      (counters.stop = false ↔ Holds final reader ∨ LetGo history reader) := by
  have kept := kept_of_run run
  refine ⟨kept.live, fun core runs => kept.pollResult_iff runs, fun protocol start => ?_, ?_⟩
  · obtain ⟨started, idle⟩ := kept.startProfile protocol start
    refine ⟨startProfile_ok_iff, fun failed task alive => ?_⟩
    obtain ⟨core, runs, -⟩ := started.live task alive
    cases (idle failed).symm.trans runs
  · intro reader counters found
    rw [← kept.goes reader, flag, found]
    simp

/-- A start with nothing in its way. -/
def plainStart : Start := ⟨.ok (), .ok (), .ok (), fun _ => .ok (), "127.0.0.1:1080"⟩

/-- The reader of a Shadowsocks core that exited on its own runs on beside the next core. -/
theorem supervised_of_run_exited :
    ∃ history final, Run step initial history final ∧ LetGo history 0 ∧
      final.readers[0]? = some ⟨(0, 0), false⟩ ∧ ¬ Holds final 0 := by
  have executed : exec step initial [.start .shadowsocks plainStart, .ends 0 .completed, .poll,
      .start .juicity plainStart] = some ⟨some ⟨.juicity, 1, true, none, (0, 0)⟩,
        [.ended .completed, .live], [⟨(0, 0), false⟩]⟩ := rfl
  have run := run_trace executed
  have free : ¬ Holds ⟨some ⟨.juicity, 1, true, none, (0, 0)⟩, [.ended .completed, .live],
      [⟨(0, 0), false⟩]⟩ 0 := by
    rintro ⟨core, runs, stat⟩
    rw [← Option.some.inj runs] at stat
    cases stat
  refine ⟨_, _, run, ?_, rfl, free⟩
  exact (((supervised_of_run run).2.2.2 0 ⟨(0, 0), false⟩ rfl).mp rfl).resolve_left free

end Runs

end Juicity.Gui.CoreManager

import Juicity.Gui.Coding
import Juicity.Gui.Controller.CorePerform

/-!
Contract: what runtime.json says about the last session. The flag in memory is on disk
after a shutdown; it says whether the core ran, unless the startup left a flag of the
session before, or the core was found to have exited on its own.
-/

namespace Juicity.Gui

open Juicity.Common Juicity.Machine

/-! ## The flag in a file -/

/-- What the next start reads from runtime.json. -/
def Serde.recordedRunning (serde : Serde) (files : Files) : Bool :=
  (serde.runtime.loadOrRecover .default (files .runtime)).1.wasRunning

/-- The flag is written with the other settings. -/
theorem Serde.recordedRunning_of_written {serde : Serde} (lawful : serde.runtime.Lawful)
    {files : Files} {gui : GuiState} {saved : Saved}
    (written : files .runtime = some (ConfigFile.runtime.bytes serde gui saved)) :
    serde.recordedRunning files = gui.runtime.wasRunning := by
  have read : serde.runtime.fromSlice (ConfigFile.runtime.bytes serde gui saved) =
      some { gui.runtime with selectedProfile := saved.active } := lawful _
  rw [recordedRunning, written, Codec.loadOrRecover, read]

/-- A corrupt file that is moved aside reads as it did. -/
theorem Serde.recordedRunning_recovered (serde : Serde) (storage : Storage)
    (moved : ConfigFile → Bool) :
    serde.recordedRunning (storage.recovered serde moved).files =
      serde.recordedRunning storage.files := by
  have held : (storage.recovered serde moved).files .runtime = (storage.files .runtime).filter _ :=
    rfl
  unfold recordedRunning Codec.loadOrRecover
  rw [held]
  cases storage.files .runtime with
  | none => rfl
  | some content =>
      cases parsed : serde.runtime.fromSlice content with
      | some runtime => simp [Option.filter, Serde.parses, parsed]
      | none =>
          cases moved .runtime with
          | true => simp [Option.filter, Serde.parses, parsed]
          | false => simp [Option.filter, Serde.parses, parsed]

/-! ## A startup -/

namespace Controller

variable {Digest : Type} (answers : Answers) (now : Nat) (controller : Controller Digest)

/-- The startup starts the core: it is asked to, the active node is complete, and the
core comes up. -/
def startsCore : Bool :=
  controller.asksConnection &&
    controller.gui.selectedProfile.any (fun profile => decide (missingFields profile = [])) &&
      answers.startCore.isOk

/-- The flag that was read is true of the session: it is unset, or the core is started. -/
def StartsAsRecorded : Prop :=
  controller.gui.runtime.wasRunning = false ∨ controller.startsCore answers = true

/-- A start of a core that does not run. -/
theorem startCore_running (profile : StoredProfile) (idle : controller.connected = false) :
    (controller.startCore answers now profile).coreSide.connected = answers.startCore.isOk ∧
      (controller.startCore answers now profile).coreSide.wasRunning =
        (answers.startCore.isOk || controller.gui.runtime.wasRunning) := by
  unfold startCore
  cases answers.startCore with
  | ok =>
      dsimp only
      split
      all_goals exact ⟨rfl, rfl⟩
  | error =>
      dsimp only
      rw [if_neg (by rw [idle]; exact Bool.false_ne_true)]
      exact ⟨idle, rfl⟩

theorem startupConnection_running (idle : controller.connected = false) :
    (controller.startupConnection answers now).coreSide.connected = controller.startsCore answers ∧
      (controller.startupConnection answers now).coreSide.wasRunning =
        (controller.startsCore answers || controller.gui.runtime.wasRunning) := by
  rw [startupConnection_eq]
  unfold startsCore
  cases controller.asksConnection with
  | false => exact ⟨idle, rfl⟩
  | true =>
      rw [if_pos rfl, Bool.true_and]
      unfold startActive
      cases node : controller.gui.selectedProfile with
      | none => exact ⟨idle, rfl⟩
      | some profile =>
          dsimp only
          rw [Option.any_some]
          by_cases complete : missingFields profile = []
          · rw [if_pos complete, decide_eq_true complete, Bool.true_and]
            exact startCore_running answers now controller profile idle
          · rw [if_neg complete, decide_eq_false complete, Bool.false_and]
            exact ⟨idle, rfl⟩

theorem startup_running (idle : controller.connected = false) :
    (controller.startup answers now).1.coreSide.connected = controller.startsCore answers ∧
      (controller.startup answers now).1.coreSide.wasRunning =
        (controller.startsCore answers || controller.gui.runtime.wasRunning) := by
  obtain ⟨server, bound, rules, gui⟩ := controller.gui.restartPacServer_same true answers.bind
  have served : (controller.restartPac answers true).1.gui = _ := gui
  have same : (controller.restartPac answers true).1.startsCore answers =
      controller.startsCore answers := by
    unfold startsCore asksConnection
    rw [served]
    rfl
  have flag : (controller.restartPac answers true).1.gui.runtime.wasRunning =
      controller.gui.runtime.wasRunning := by
    rw [served]
  have core : (controller.startup answers now).1.coreSide = _ :=
    congrArg Sides.core (sides_startup answers now controller)
  rw [core, ← same, ← flag]
  exact startupConnection_running answers now _ idle

/-- The flag is true of the session after the startup if it was unset or the core came up. -/
theorem startup_agrees (idle : controller.connected = false) :
    ((controller.startup answers now).1.connected =
        (controller.startup answers now).1.gui.runtime.wasRunning) ↔
      controller.StartsAsRecorded answers := by
  obtain ⟨connected, wasRunning⟩ := startup_running answers now controller idle
  rw [show (controller.startup answers now).1.connected = _ from connected,
    show (controller.startup answers now).1.gui.runtime.wasRunning = _ from wasRunning,
    StartsAsRecorded]
  cases controller.startsCore answers with
  | true => exact ⟨fun _ => .inr rfl, fun _ => rfl⟩
  | false =>
      rw [Bool.false_or]
      exact ⟨fun unset => .inl unset.symm, fun starts =>
        (starts.resolve_right Bool.false_ne_true).symm⟩

/-! ## A reload -/

variable {answers now controller}

theorem connected_rebase (before : Controller Digest) (files : List ConfigFile) :
    (controller.rebase before files).connected = controller.connected := by
  unfold rebase
  dsimp only
  split
  · split
    · rfl
    · rfl
  · rfl

theorem connected_afterReload (edited : Option StoredProfile) :
    (controller.afterReload edited).connected = controller.connected := by
  unfold afterReload
  dsimp only
  split
  · rfl
  · rfl

variable [DecidableEq Digest] {env : Env Digest}

theorem connected_onFilesChanged :
    (controller.onFilesChanged env answers now).connected = controller.connected := by
  have shown : (controller.shown env now).connected = controller.connected :=
    (connected_afterReload _).trans (connected_rebase _ _)
  rw [onFilesChanged_eq]
  split
  · rfl
  · split
    · exact (congrArg (fun sides : Sides => sides.core.connected)
        (sides_followConfig answers _ _)).trans shown
    · exact shown

/-- A runtime.json that only the application wrote is not read again. -/
theorem wasRunning_onFilesChanged
    (own : ∀ content, controller.gui.storage.files .runtime = some content →
      controller.persist.known .runtime = some (env.contentHash content) ∨
        env.serde.parses .runtime content = false) :
    (controller.onFilesChanged env answers now).gui.runtime.wasRunning =
      controller.gui.runtime.wasRunning := by
  have unread : controller.toLoad env .runtime = none := by
    by_contra read
    obtain ⟨content, loads⟩ := Option.ne_none_iff_exists'.mp read
    obtain ⟨held, unknown, -, parses⟩ := controller.toLoad_eq_some.mp loads
    rcases own content held with known | broken
    · exact unknown known
    · rw [broken] at parses
      cases parses
  have kept : (controller.loaded env now).gui.runtime = controller.gui.runtime := by
    show (controller.newRuntime env).getD _ = _
    rw [newRuntime, unread]
    rfl
  have settings := (follows_onFilesChanged answers controller env now).settings
  rw [kept] at settings
  exact (congrArg RuntimeState.wasRunning settings :)

end Controller

/-! ## Steps -/

/-- Among the steps of the core only an exit on its own and a shutdown leave the flag
behind. -/
theorem CoreStep.agrees {operation : Operation} {answers : Answers} {before after : CoreSide}
    {active : Option StoredProfile} (step : CoreStep operation answers before active after)
    (agreed : before.connected = before.wasRunning) (stays : operation ≠ .shutdown)
    (unnoticed : operation = .pollCore → before.connected = true → answers.pollCore = none) :
    after.connected = after.wasRunning := by
  cases step with
  | kept => exact agreed
  | started | stopped => rfl
  | failed profile error startedWith wasRunning refused cleared idle =>
      cases running : before.connected with
      | true => exact (cleared running).symm
      | false => exact ((idle running).trans (agreed.symm.trans running)).symm
  | exited polled reason answer running =>
      rw [unnoticed polled running] at answer
      cases answer
  | shut leaving => exact absurd leaving stays

section Worlds

variable {Digest : Type}

def Action.writesRuntime : Action → Bool
  | .external .runtime _ => true
  | _ => false

/-- A shutdown that can write leaves in runtime.json whether the core ran when it was
called. -/
def World.RecordsRunning [DecidableEq Digest] (env : Env Digest) (world : World Digest) : Prop :=
  ∀ answers now final, step env world (.perform .shutdown answers now) = some final →
    (∀ file, answers.write file = .ok ()) →
      env.serde.recordedRunning final.controller.gui.storage.files = world.controller.connected

/-- A running core is not found to have exited on its own. -/
def ExitsUnnoticed (world : World Digest) : Action → Prop
  | .perform .pollCore answers _ => world.controller.connected = true → answers.pollCore = none
  | _ => True

/-- The application after `startup`. -/
def World.startedUp (env : Env Digest) (storage : Storage) (moved : ConfigFile → Bool)
    (answers : Answers) (now : Nat) : World Digest :=
  { World.start env storage moved with
    controller := ((Controller.new env storage moved).startup answers now).1 }

/-- The application alone writes runtime.json, and unless the flag is to be written it is
on disk. -/
structure World.Remembers (env : Env Digest) (world : World Digest) : Prop where
  own : world.Own env
  unshared : world.foreign .runtime = false
  recorded : world.controller.persist.dirty .runtime = false →
    env.serde.recordedRunning world.controller.gui.storage.files =
      world.controller.gui.runtime.wasRunning

variable [DecidableEq Digest] {env : Env Digest} {storage : Storage} {moved : ConfigFile → Bool}
  {world next : World Digest} {action : Action} {answers : Answers} {now : Nat}

/-- The steps in which no other program writes runtime.json. -/
def unsharedStep (env : Env Digest) : World Digest → Action → Option (World Digest) :=
  within (fun action => !action.writesRuntime) (step env)

theorem step_startup : step env (.start env storage moved) (.perform .startup answers now) =
    some (.startedUp env storage moved answers now) := rfl

omit [DecidableEq Digest] in
theorem remembers_start (env : Env Digest) (storage : Storage) (moved : ConfigFile → Bool) :
    (World.start env storage moved).Remembers env where
  own := own_start env storage moved
  unshared := rfl
  recorded := by
    intro _
    show env.serde.recordedRunning (storage.recovered env.serde moved).files =
      (if _ then _ else _ : RuntimeState).wasRunning
    rw [Serde.recordedRunning_recovered]
    split
    · rfl
    · rfl

theorem World.Remembers.perform (lawful : env.serde.runtime.Lawful)
    (remembers : world.Remembers env) {operation : Operation}
    (taken : step env world (.perform operation answers now) = some next) : next.Remembers env := by
  have own := remembers.own.step taken
  obtain ⟨-, done, -⟩ := step_perform taken
  by_cases reload : operation = .onFilesChanged
  · subst reload
    have after := Option.some.inj done
    refine ⟨own, ?_, fun clean => ?_⟩
    · simp only [step, Option.ite_none_left_eq_some] at taken
      obtain ⟨-, taken⟩ := taken
      obtain ⟨_, _, rfl⟩ := Option.map_eq_some_iff.mp taken
      rfl
    · have follows := Controller.follows_onFilesChanged answers world.controller env now
      rw [← after, follows.persist] at clean
      have same : (world.controller.lookedPersist env now).dirty = world.controller.persist.dirty :=
        Controller.lookedPersist_dirty world.controller
      have was : world.controller.persist.dirty .runtime = false := by
        rw [← same]
        exact clean
      rw [← after, Controller.files_onFilesChanged, remembers.recorded was]
      exact (Controller.wasRunning_onFilesChanged (remembers.own .runtime remembers.unshared)).symm
  · refine ⟨own, ?_, fun clean => ?_⟩
    · rw [foreign_perform reload taken, remembers.unshared]
      rfl
    · cases Controller.fileStep_perform reload done .runtime with
      | untouched files known unwritten kept =>
          obtain ⟨was, settings⟩ := kept clean
          have same : next.controller.gui.runtime.wasRunning =
              world.controller.gui.runtime.wasRunning :=
            (congrArg RuntimeState.wasRunning settings :)
          rw [same, ← remembers.recorded was, Serde.recordedRunning, Serde.recordedRunning, files]
      | written files => exact Serde.recordedRunning_of_written lawful files

theorem remembers_of_unsharedStep (lawful : env.serde.runtime.Lawful)
    (remembers : world.Remembers env) (taken : unsharedStep env world action = some next) :
    next.Remembers env := by
  obtain ⟨unshared, taken⟩ := within_eq_some.mp taken
  cases action with
  | perform operation answers now => exact remembers.perform lawful taken
  | external file content =>
      have own := remembers.own.step taken
      obtain rfl := Option.some.inj taken
      have other : ConfigFile.runtime ≠ file := by
        rintro rfl
        cases unshared
      refine ⟨own, ?_, fun clean => ?_⟩
      · exact (Function.update_of_ne other _ _).trans remembers.unshared
      · have held : Function.update world.controller.gui.storage.files file (some content)
            .runtime = world.controller.gui.storage.files .runtime :=
          Function.update_of_ne other _ _
        show env.serde.recordedRunning (Function.update _ _ _) = _
        rw [Serde.recordedRunning, held]
        exact remembers.recorded clean
  | rules chinaList gfw =>
      have own := remembers.own.step taken
      obtain rfl := Option.some.inj taken
      exact ⟨own, remembers.unshared, remembers.recorded⟩

/-- The flag in memory is what a shutdown leaves on disk. -/
theorem World.Remembers.recordedRunning_shutdown (lawful : env.serde.runtime.Lawful)
    (remembers : world.Remembers env)
    (taken : step env world (.perform .shutdown answers now) = some next)
    (writes : answers.write .runtime = .ok ()) :
    env.serde.recordedRunning next.controller.gui.storage.files =
      world.controller.gui.runtime.wasRunning := by
  have after := remembers.perform lawful taken
  obtain ⟨-, done, -⟩ := step_perform taken
  have left : world.controller.shutdown env answers now = next.controller := Option.some.inj done
  have flushed := Controller.flushed_shutdown env answers now world.controller
  rw [left] at flushed
  have clean : next.controller.persist.dirty .runtime = false := by
    rw [flushed.persist, Persist.flush_dirty, writes]
    exact Bool.and_false _
  rw [after.recorded clean, flushed.gui]

/-- The record of a session is right when the flag in memory is. -/
theorem World.Remembers.recordsRunning_iff (lawful : env.serde.runtime.Lawful)
    (remembers : world.Remembers env) : world.RecordsRunning env ↔
      (world.exited = false →
        world.controller.connected = world.controller.gui.runtime.wasRunning) := by
  constructor
  · intro records running
    obtain ⟨final, taken⟩ : ∃ final,
        Gui.step env world (.perform .shutdown .willing 0) = some final := by
      refine ⟨_, (if_neg ?_).trans rfl⟩
      rw [running]
      exact Bool.false_ne_true
    rw [← records .willing 0 final taken fun _ => rfl]
    exact remembers.recordedRunning_shutdown lawful taken rfl
  · intro agrees answers now final taken writes
    rw [remembers.recordedRunning_shutdown lawful taken (writes .runtime),
      agrees (step_perform taken).1]

/-! ## Runs -/

/-- What holds as long as the core is not found to have exited. -/
structure World.Accords (env : Env Digest) (world : World Digest) : Prop where
  remembers : world.Remembers env
  agrees : world.exited = false →
    world.controller.connected = world.controller.gui.runtime.wasRunning

theorem World.Accords.step (lawful : env.serde.runtime.Lawful) (agreed : world.Accords env)
    (unnoticed : ExitsUnnoticed world action)
    (taken : unsharedStep env world action = some next) : next.Accords env := by
  refine ⟨remembers_of_unsharedStep lawful agreed.remembers taken, fun stays => ?_⟩
  obtain ⟨unshared, taken⟩ := within_eq_some.mp taken
  cases action with
  | perform operation answers now =>
      obtain ⟨running, done, exits⟩ := step_perform taken
      have was := agreed.agrees running
      by_cases reload : operation = .onFilesChanged
      · subst reload
        rw [← Option.some.inj done, Controller.connected_onFilesChanged,
          Controller.wasRunning_onFilesChanged
            (agreed.remembers.own .runtime agreed.remembers.unshared)]
        exact was
      · refine (Controller.coreStep_perform reload done).agrees was (fun leaving => ?_) ?_
        · rw [exits.mpr leaving] at stays
          cases stays
        · rintro rfl connected
          exact unnoticed connected
  | external file content =>
      obtain rfl := Option.some.inj taken
      exact agreed.agrees stays
  | rules chinaList gfw =>
      obtain rfl := Option.some.inj taken
      exact agreed.agrees stays

/-- A core found to have exited leaves the flag set. -/
theorem not_recordsRunning_of_step (lawful : env.serde.runtime.Lawful) (agreed : world.Accords env)
    (noticed : ¬ExitsUnnoticed world action)
    (taken : unsharedStep env world action = some next) : ¬next.RecordsRunning env := by
  have remembers := remembers_of_unsharedStep lawful agreed.remembers taken
  obtain ⟨-, taken⟩ := within_eq_some.mp taken
  rw [remembers.recordsRunning_iff lawful]
  unfold ExitsUnnoticed at noticed
  split at noticed
  · rename_i answers now
    obtain ⟨connected, exits⟩ := Classical.not_imp.mp noticed
    obtain ⟨reason, answer⟩ := Option.ne_none_iff_exists'.mp exits
    obtain ⟨running, done, leaves⟩ := step_perform taken
    have core : next.controller.coreSide = ⟨false, none, world.controller.coreCalls,
        world.controller.gui.runtime.wasRunning⟩ := by
      rw [← Option.some.inj done, Controller.pollCore, if_pos connected, answer]
      rfl
    have stays : next.exited = false := by
      by_contra exited
      cases leaves.mp (by simpa using exited)
    have down : next.controller.connected = false := congrArg CoreSide.connected core
    have set : next.controller.gui.runtime.wasRunning = true :=
      (congrArg CoreSide.wasRunning core).trans ((agreed.agrees running).symm.trans connected)
    rw [down, set]
    exact fun same => Bool.false_ne_true (same stays)
  · exact absurd trivial noticed

theorem remembers_startedUp (lawful : env.serde.runtime.Lawful) :
    (World.startedUp env storage moved answers now).Remembers env :=
  (remembers_start env storage moved).perform lawful step_startup

/-- In every run after a startup, in which no other program writes runtime.json, the
sessions are recorded right if and only if the flag that was read at start is true of the
session or unset, and the core is never found to have exited on its own. -/
theorem sessionsRecorded_iff (lawful : env.serde.runtime.Lawful)
    {history : List (World Digest × Action)} {final : World Digest}
    (run : Run (unsharedStep env) (.startedUp env storage moved answers now) history final) :
    Everywhere (World.RecordsRunning env) history final ↔
      (Controller.new env storage moved).StartsAsRecorded answers ∧
        Allowed ExitsUnnoticed history := by
  have remembers : (World.startedUp env storage moved answers now).Remembers env :=
    remembers_startedUp lawful
  have first : (World.startedUp env storage moved answers now).RecordsRunning env ↔
      (Controller.new env storage moved).StartsAsRecorded answers := by
    rw [remembers.recordsRunning_iff lawful, ← Controller.startup_agrees answers now _ rfl]
    exact ⟨fun agrees => agrees rfl, fun agrees _ => agrees⟩
  have later (starts : (Controller.new env storage moved).StartsAsRecorded answers) :
      Everywhere (World.RecordsRunning env) history final ↔ Allowed ExitsUnnoticed history :=
    run.everywhere_iff_allowed
      ⟨remembers, fun _ => (Controller.startup_agrees answers now _ rfl).mpr starts⟩
      (fun _ _ _ agreed unnoticed taken => agreed.step lawful unnoticed taken)
      (fun _ agreed => (agreed.remembers.recordsRunning_iff lawful).mpr agreed.agrees)
      (fun _ _ _ agreed noticed taken => not_recordsRunning_of_step lawful agreed noticed taken)
  constructor
  · intro every
    have starts := first.mp (run.origin_of_everywhere every)
    exact ⟨starts, (later starts).mp every⟩
  · rintro ⟨starts, unnoticed⟩
    exact (later starts).mpr unnoticed

end Worlds

/-- The startup restores the last session, which ran or not. -/
def lastSession (running : Bool) : RuntimeState :=
  { secondActive with startupConnectionState := .lastState, wasRunning := running }

def sessionEnv : Env Bytes :=
  .ofTables [.default] [twoNodes] [lastSession true, lastSession false]

def sessionStorage (running : Bool) : Storage :=
  .ofRecords sessionEnv.serde .default twoNodes (lastSession running)

/-- The core of the last session is started again, and stopped before the exit. -/
theorem sessionsRecorded_iff_stopped :
    ∃ history final, Run (unsharedStep sessionEnv)
        (.startedUp sessionEnv (sessionStorage true) (fun _ => false) .willing 0) history final ∧
      history.length = 2 ∧
      sessionEnv.serde.recordedRunning final.controller.gui.storage.files = false ∧
      (Everywhere (World.RecordsRunning sessionEnv) history final ↔
        (Controller.new sessionEnv (sessionStorage true) fun _ => false).StartsAsRecorded .willing ∧
          Allowed ExitsUnnoticed history) := by
  have executed : ((exec (unsharedStep sessionEnv)
      (.startedUp sessionEnv (sessionStorage true) (fun _ => false) .willing 0)
      [.perform .toggleConnection .willing 1, .perform .shutdown .willing 2]).any fun final =>
        !sessionEnv.serde.recordedRunning final.controller.gui.storage.files) = true := by
    decide +kernel
  obtain ⟨final, ended, stopped⟩ := (Option.any_eq_true _ _).mp executed
  rw [Bool.not_eq_true'] at stopped
  have run := run_trace ended
  exact ⟨_, final, run, by decide +kernel, stopped,
    sessionsRecorded_iff (Serde.lawful_ofTables _ _ _).runtime run⟩

/-- The core is started, and then found to have exited; after the shutdown runtime.json
says that it was running. -/
theorem exited_core_recorded_running :
    ∃ history final after, Run (unsharedStep sessionEnv)
        (.startedUp sessionEnv (sessionStorage false) (fun _ => false) .willing 0) history final ∧
      final.controller.connected = false ∧
      step sessionEnv final (.perform .shutdown .willing 3) = some after ∧
      sessionEnv.serde.recordedRunning after.controller.gui.storage.files = true ∧
      ¬Everywhere (World.RecordsRunning sessionEnv) history final := by
  have executed : ((exec (unsharedStep sessionEnv)
      (.startedUp sessionEnv (sessionStorage false) (fun _ => false) .willing 0)
      [.perform .toggleConnection .willing 1,
        .perform .pollCore { Answers.willing with pollCore := some "exit" } 2]).any fun final =>
        !final.controller.connected &&
          (step sessionEnv final (.perform .shutdown .willing 3)).any fun after =>
            sessionEnv.serde.recordedRunning after.controller.gui.storage.files) = true := by
    decide +kernel
  obtain ⟨final, ended, facts⟩ := (Option.any_eq_true _ _).mp executed
  rw [Bool.and_eq_true, Bool.not_eq_true'] at facts
  obtain ⟨down, left⟩ := facts
  obtain ⟨after, taken, recorded⟩ := (Option.any_eq_true _ _).mp left
  refine ⟨_, final, after, run_trace ended, down, taken, recorded, fun every => ?_⟩
  have right := every.2 .willing 3 after taken fun _ => rfl
  rw [recorded, down] at right
  cases right

end Juicity.Gui

import Juicity.Gui.Controller.Writes
import Juicity.Gui.Coding

/-!
Owns which mode the OS proxy is in: the mode that was applied last against the one
in the configuration, before and after the shutdown. Also owns what writing,
saving and reloading leave alone of what the proxy depends on.
-/

namespace Juicity.Gui

open Juicity.Common Juicity.Machine

namespace Controller

variable {Digest : Type} {before middle after : Controller Digest} {env : Env Digest}
  {answers : Answers} {now : Nat} {controller : Controller Digest}

/-! ## Writing and saving -/

/-- Only the files changed. -/
theorem Flushed.sameProxy (flushed : Flushed env answers now before after)
    (calls : after.proxyCalls = before.proxyCalls) : SameProxy before after := by
  obtain ⟨files, new, storage, -⟩ :=
    before.persist.flush_storage env before.gui before.saved answers.write now
  have gui := flushed.gui
  rw [storage] at gui
  exact ⟨by rw [gui], by rw [gui], by rw [gui], by rw [gui], by rw [gui], by rw [gui], calls⟩

theorem sameProxy_flushAll (env : Env Digest) (answers : Answers) (now : Nat)
    (controller : Controller Digest) :
    SameProxy controller (controller.flushAll env answers now).1 :=
  (flushed_flushAll env answers now controller).sameProxy rfl

theorem sameProxy_flushDue (env : Env Digest) (answers : Answers) (now : Nat)
    (controller : Controller Digest) :
    SameProxy controller (controller.flushDue env answers now) := by
  unfold flushDue
  split
  · have flushed := sameProxy_flushAll env answers now controller
    generalize controller.flushAll env answers now = flush at flushed ⊢
    exact flushed.trans (quiet_report flush.1 flush.2 .saveFailed).proxy
  · exact .refl controller

theorem sameProxy_listSaved (env : Env Digest) (controller : Controller Digest) :
    SameProxy controller (controller.saveRefusal.1.listSaved env) := by
  rcases listSaved_cases env controller.saveRefusal.1 with same | stored
  · rw [same]
    exact ⟨rfl, rfl, rfl, rfl, rfl, rfl, rfl⟩
  · rw [stored]
    exact ⟨rfl, rfl, rfl, rfl, rfl, rfl, rfl⟩

theorem sameProxy_writeNodes (env : Env Digest) (answers : Answers)
    (controller : Controller Digest) :
    SameProxy controller (controller.writeNodes env answers).1 := by
  have listed := sameProxy_listSaved env controller
  have run := saveRun_writeNodes env answers controller
  generalize controller.writeNodes env answers = result at run ⊢
  obtain ⟨after, flag⟩ := result
  cases run with
  | clean => exact .refl _
  | refused => exact ⟨rfl, rfl, rfl, rfl, rfl, rfl, rfl⟩
  | listFailed => exact ⟨rfl, rfl, rfl, rfl, rfl, rfl, rfl⟩
  | indexFailed => exact listed.trans ⟨rfl, rfl, rfl, rfl, rfl, rfl, rfl⟩
  | listOnly => exact listed.trans (quiet_clearSaveNotice _).proxy
  | indexToo =>
      refine listed.trans (SameProxy.trans ?_ (quiet_clearSaveNotice _).proxy)
      exact ⟨rfl, rfl, rfl, rfl, rfl, rfl, rfl⟩

theorem sameProxy_answerPrompt (env : Env Digest) (answers : Answers)
    (controller : Controller Digest) :
    SameProxy controller (controller.answerPrompt env answers .save).1 := by
  have written := sameProxy_writeNodes env answers controller
  unfold answerPrompt
  split
  · exact .refl controller
  · dsimp only
    split
    · exact written.trans ⟨rfl, rfl, rfl, rfl, rfl, rfl, rfl⟩
    · exact written

/-! ## Reloading -/

theorem noted_rules (env : Env Digest) (contents : Files) (file : ConfigFile) (storage : Storage) :
    (Persist.noted env contents file storage).chinaList = storage.chinaList ∧
      (Persist.noted env contents file storage).gfw = storage.gfw := by
  unfold Persist.noted
  split
  · exact ⟨rfl, rfl⟩
  · exact ⟨rfl, rfl⟩

variable [DecidableEq Digest]

/-- The controller with the configuration a reload takes into memory. -/
def withNewConfig (env : Env Digest) (controller : Controller Digest) : Controller Digest :=
  controller.setConfig ((controller.newConfig env).getD controller.gui.config)

/-- Until the window has followed, a reload changes nothing of it but the configuration. -/
theorem sameProxy_shown (env : Env Digest) (now : Nat) (controller : Controller Digest) :
    SameProxy (controller.withNewConfig env) (controller.shown env now) := by
  have loaded : SameProxy (controller.withNewConfig env) (controller.loaded env now) := by
    refine ⟨rfl, rfl, rfl, rfl, ?_, ?_, rfl⟩
    · exact (noted_rules _ _ _ _).1.trans ((noted_rules _ _ _ _).1.trans (noted_rules _ _ _ _).1)
    · exact (noted_rules _ _ _ _).2.trans ((noted_rules _ _ _ _).2.trans (noted_rules _ _ _ _).2)
  have rebased : SameProxy (controller.loaded env now)
      ((controller.loaded env now).rebase controller (controller.reloaded env)) := by
    obtain ⟨profiles, index, gui⟩ :=
      rebase_gui controller (controller.loaded env now) (controller.reloaded env)
    refine ⟨by rw [gui]; rfl, by rw [gui]; rfl, by rw [gui]; rfl, by rw [gui]; rfl,
      by rw [gui]; rfl, by rw [gui]; rfl, ?_⟩
    unfold rebase
    dsimp only
    split
    · split
      · rfl
      · rfl
    · rfl
  exact (loaded.trans rebased).trans (quiet_afterReload _ _).proxy

/-- A reload that leaves app.json alone leaves the proxy alone. -/
theorem sameProxy_onFilesChanged (answers : Answers) (now : Nat)
    (unchanged : controller.newConfig env = none) :
    SameProxy controller (controller.onFilesChanged env answers now) := by
  have same : controller.withNewConfig env = controller := by
    rw [withNewConfig, unchanged]
    rfl
  have absent : .app ∉ controller.reloaded env := by
    rw [mem_reloaded, ← isSome_newConfig, unchanged]
    simp
  rw [onFilesChanged_eq]
  split
  · rename_i none
    rw [loaded_of_reloaded_nil controller none]
    exact ⟨rfl, rfl, rfl, rfl, rfl, rfl, rfl⟩
  · have shown := sameProxy_shown env now controller
    rwa [same] at shown

/-- A reload of app.json has the PAC server and the OS proxy follow. -/
theorem onFilesChanged_of_newConfig (answers : Answers) (now : Nat) {config : AppConfig}
    (changed : controller.newConfig env = some config) :
    controller.onFilesChanged env answers now =
      (controller.shown env now).followConfig answers controller.gui.config := by
  have member : .app ∈ controller.reloaded env := by
    rw [mem_reloaded, ← isSome_newConfig, changed]
    rfl
  rw [onFilesChanged_eq, if_neg (List.ne_nil_of_mem member), if_pos member]

/-! ## The mode that was applied -/

omit [DecidableEq Digest]

def proxyMode (controller : Controller Digest) : SystemProxyMode :=
  controller.gui.config.systemProxyMode

/-- The mode the effect was last called with. -/
def appliedMode (controller : Controller Digest) : Option SystemProxyMode :=
  controller.proxyCalls.head?.map fun call => call.config.systemProxyMode

/-- The mode in the configuration is the one applied last, or the one loaded at start
if none was applied. -/
def ModeApplied (loadedMode : SystemProxyMode) (controller : Controller Digest) : Prop :=
  controller.appliedMode.getD loadedMode = controller.proxyMode

/-- The mode stays and nothing is applied, or the mode afterwards is the one applied. -/
def ModeFollows (before after : Controller Digest) : Prop :=
  (after.proxyCalls = before.proxyCalls ∧ after.proxyMode = before.proxyMode) ∨
    after.appliedMode = some after.proxyMode

theorem ModeFollows.trans (first : ModeFollows before middle) (second : ModeFollows middle after) :
    ModeFollows before after := by
  rcases second with ⟨calls, mode⟩ | applied
  · rcases first with ⟨calls', mode'⟩ | applied'
    · exact Or.inl ⟨calls.trans calls', mode.trans mode'⟩
    · refine Or.inr ?_
      rw [mode, ← applied', appliedMode, appliedMode, calls]
  · exact Or.inr applied

theorem ModeFollows.ite {condition : Prop} [Decidable condition] {left right : Controller Digest}
    (first : ModeFollows before left) (second : ModeFollows before right) :
    ModeFollows before (if condition then left else right) := by
  split
  · exact first
  · exact second

theorem SameProxy.modeFollows (same : SameProxy before after) : ModeFollows before after :=
  Or.inl ⟨same.proxyCalls, by rw [proxyMode, proxyMode, same.config]⟩

theorem ModeFollows.refl (controller : Controller Digest) : ModeFollows controller controller :=
  (SameProxy.refl controller).modeFollows

theorem ModeFollows.modeApplied {loadedMode : SystemProxyMode} (follows : ModeFollows before after)
    (applied : before.ModeApplied loadedMode) : after.ModeApplied loadedMode := by
  rcases follows with ⟨calls, mode⟩ | now
  · rw [ModeApplied, appliedMode, calls, mode]
    exact applied
  · rw [ModeApplied, now]
    rfl

/-- Settings other than the mode may change. -/
theorem modeFollows_changeConfig (now : Nat) (controller : Controller Digest)
    (config : AppConfig) (mode : config.systemProxyMode = controller.proxyMode) :
    ModeFollows controller (controller.changeConfig now config) :=
  Or.inl ⟨rfl, mode⟩

/-- Applying the settings brings the mode up to date whatever it was. -/
theorem appliedMode_applyProxy (answers : Answers) (controller : Controller Digest) :
    (controller.applyProxy answers).appliedMode = some (controller.applyProxy answers).proxyMode := by
  unfold applyProxy
  cases answers.applySystemProxy with
  | ok => rfl
  | error => rfl

theorem modeFollows_applyProxy (answers : Answers) (controller : Controller Digest) :
    ModeFollows before (controller.applyProxy answers) :=
  Or.inr (appliedMode_applyProxy answers controller)

theorem modeFollows_restartPac (answers : Answers) (controller : Controller Digest)
    (forceRestart : Bool) :
    ModeFollows controller (controller.restartPac answers forceRestart).1 := by
  have follows := follows_restartPac answers controller forceRestart
  exact Or.inl ⟨rfl, by rw [proxyMode, proxyMode, follows.config]⟩

theorem modeFollows_reapplyPacProxy (answers : Answers) (controller : Controller Digest) :
    ModeFollows controller (controller.reapplyPacProxy answers) :=
  .ite (modeFollows_applyProxy answers controller) (.refl controller)

/-! ## Operations -/

theorem modeFollows_startup (answers : Answers) (now : Nat) (controller : Controller Digest) :
    ModeFollows controller (controller.startup answers now).1 := by
  unfold startup
  have connected := (modeFollows_restartPac answers controller true).trans
    (quiet_startupConnection answers now _).proxy.modeFollows
  dsimp only
  generalize ((controller.restartPac answers true).1).startupConnection answers now = middle
    at connected ⊢
  have applied : ModeFollows controller
      (if middle.gui.config.systemProxyMode = .disable then middle
      else middle.applyProxy answers) :=
    .ite connected (modeFollows_applyProxy answers middle)
  generalize (if middle.gui.config.systemProxyMode = .disable then middle
      else middle.applyProxy answers) = appliedAfter at applied ⊢
  split
  · exact applied.trans (quiet_beginRules _).proxy.modeFollows
  · exact applied

theorem modeFollows_setProxyMode (answers : Answers) (now : Nat) (controller : Controller Digest)
    (mode : SystemProxyMode) : ModeFollows controller (controller.setProxyMode answers now mode) :=
  .ite (.refl controller) (modeFollows_applyProxy answers _)

theorem modeFollows_setPacRule (answers : Answers) (now : Nat) (controller : Controller Digest)
    (rule : PacRuleMode) : ModeFollows controller (controller.setPacRule answers now rule) := by
  refine .ite (.refl controller) ?_
  have changed : ModeFollows controller
      (controller.setConfig { controller.gui.config with pacRuleMode := rule }) :=
    Or.inl ⟨rfl, rfl⟩
  exact (changed.trans (modeFollows_restartPac answers _ false)).trans (Or.inl ⟨rfl, rfl⟩)

theorem modeFollows_finishRules (answers : Answers) (controller : Controller Digest)
    (result : Except String Unit) :
    ModeFollows controller (controller.finishRules answers result) := by
  unfold finishRules
  cases result with
  | ok =>
      have idle : ModeFollows controller { controller with rulesUpdating := false } :=
        Or.inl ⟨rfl, rfl⟩
      exact (idle.trans (modeFollows_restartPac answers _ false)).trans
        (quiet_setNotice _ _).proxy.modeFollows
  | error => exact Or.inl ⟨rfl, rfl⟩

theorem modeFollows_setPacSource (answers : Answers) (now : Nat) (controller : Controller Digest)
    (mode : PacMode) : ModeFollows controller (controller.setPacSource answers now mode) :=
  .ite (.refl controller)
    ((modeFollows_changeConfig now controller _ rfl).trans (modeFollows_reapplyPacProxy answers _))

theorem modeFollows_applyListenChange (answers : Answers) (now : Nat)
    (controller : Controller Digest) :
    ModeFollows controller (controller.applyListenChange answers now) := by
  unfold applyListenChange
  have restarted := modeFollows_restartPac answers controller false
  generalize controller.restartPac answers false = restart at restarted ⊢
  obtain ⟨middle, outcome⟩ := restart
  have reported := restarted.trans (quiet_report middle outcome .proxyFailed).proxy.modeFollows
  dsimp only
  generalize middle.report outcome .proxyFailed = reportedAfter at reported ⊢
  have applied : ModeFollows controller
      (if reportedAfter.gui.config.systemProxyMode = .disable then reportedAfter
      else reportedAfter.applyProxy answers) :=
    .ite reported (modeFollows_applyProxy answers _)
  exact .ite (applied.trans (quiet_startActive answers now _).proxy.modeFollows) applied

theorem modeFollows_changePacListen (answers : Answers) (now : Nat)
    (controller : Controller Digest) (listen : String) :
    ModeFollows controller (controller.changePacListen answers now listen) := by
  unfold changePacListen
  have changed : ModeFollows controller
      (controller.setConfig { controller.gui.config with pacListen := listen }) :=
    Or.inl ⟨rfl, rfl⟩
  have restarted := changed.trans (modeFollows_restartPac answers _ true)
  have calls : ((controller.setConfig { controller.gui.config with pacListen := listen }).restartPac
      answers true).1.proxyCalls = controller.proxyCalls := rfl
  dsimp only
  generalize (controller.setConfig { controller.gui.config with pacListen := listen }).restartPac
    answers true = restart at restarted calls ⊢
  obtain ⟨middle, outcome⟩ := restart
  cases outcome with
  | ok =>
      have marked : ModeFollows middle (middle.markDirty now .app) := Or.inl ⟨rfl, rfl⟩
      exact (restarted.trans marked).trans (modeFollows_reapplyPacProxy answers _)
  | error => exact Or.inl ⟨calls, rfl⟩

theorem modeFollows_commitValue {key : SettingKey} {value : String}
    (taken : controller.commitValue answers now key value = some after) :
    ModeFollows controller after := by
  cases key with
  | mixedPort =>
      obtain ⟨port, -, split⟩ := Option.bind_eq_some_iff.mp taken
      obtain ⟨⟨host, _⟩, -, rfl⟩ := Option.map_eq_some_iff.mp split
      exact .ite (.refl controller)
        ((modeFollows_changeConfig now controller _ rfl).trans (modeFollows_applyListenChange answers now _))
  | directUrl | proxyUrl =>
      obtain rfl := Option.some.inj taken
      exact .ite (.refl controller) (modeFollows_changeConfig now controller _ rfl)
  | updateHours =>
      obtain ⟨hours, -, rfl⟩ := Option.map_eq_some_iff.mp taken
      exact .ite (.refl controller) (modeFollows_changeConfig now controller _ rfl)
  | pacListen =>
      obtain rfl := Option.some.inj taken
      exact .ite (.refl controller) (modeFollows_changePacListen answers now controller value)
  | onlinePacUrl =>
      obtain rfl := Option.some.inj taken
      exact .ite (.refl controller)
        ((modeFollows_changeConfig now controller _ rfl).trans (modeFollows_reapplyPacProxy answers _))

theorem modeFollows_commitSetting (taken : controller.commitSetting env answers now = some after) :
    ModeFollows controller after := by
  unfold commitSetting at taken
  split at taken
  · obtain rfl := Option.some.inj taken
    exact .refl controller
  · split at taken
    · obtain rfl := Option.some.inj taken
      exact Or.inl ⟨rfl, rfl⟩
    · have closed : ModeFollows controller { controller with sheet := none } :=
        Or.inl ⟨rfl, rfl⟩
      exact closed.trans (modeFollows_commitValue taken)

/-! ## Reload of app.json -/

/-- A restart of the PAC server for these settings succeeds: the listener can be bound,
or a server runs and its address is not asked to change. -/
def RestartSucceeds (answers : Answers) (controller : Controller Digest) (config : AppConfig) :
    Prop :=
  answers.bind = .ok () ∨
    (controller.gui.pacServer.isSome = true ∧ config.pacListen = controller.gui.config.pacListen)

/-- The restart after a reload fails as its bind does, unless the running server is kept. -/
theorem restartPac_failed (answers : Answers) (controller : Controller Digest)
    (forceRestart : Bool) :
    (∃ error, (controller.restartPac answers forceRestart).2 = .error error) ↔
      (∃ error, answers.bind = .error error) ∧
        ¬ (controller.gui.pacServer.isSome = true ∧ forceRestart = false) := by
  unfold restartPac GuiState.restartPacServer
  dsimp only
  cases controller.gui.pacServer with
  | none => cases answers.bind <;> simp
  | some server => cases forceRestart <;> cases answers.bind <;> simp

/-- When the settings that steer the proxy changed, they are applied. -/
theorem appliedMode_followConfig (answers : Answers) (controller : Controller Digest)
    (old : AppConfig)
    (restarted : ∀ error, (controller.restartPac answers
      (decide (old.pacListen ≠ controller.gui.config.pacListen))).2 ≠ .error error)
    (changed : old.systemProxyMode ≠ controller.proxyMode) :
    (controller.followConfig answers old).appliedMode =
      some (controller.followConfig answers old).proxyMode := by
  have follows := follows_restartPac answers controller
    (decide (old.pacListen ≠ controller.gui.config.pacListen))
  unfold followConfig
  dsimp only
  generalize controller.restartPac answers
    (decide (old.pacListen ≠ controller.gui.config.pacListen)) = restart at restarted follows ⊢
  obtain ⟨middle, outcome⟩ := restart
  cases outcome with
  | error error => exact absurd rfl (restarted error)
  | ok =>
      have differs : proxyChanged old middle.gui.config = true := by
        rw [follows.config]
        exact decide_eq_true (Or.inl changed)
      dsimp only
      rw [if_pos differs]
      exact appliedMode_applyProxy answers middle

theorem modeFollows_followConfig (answers : Answers) (controller : Controller Digest)
    (old : AppConfig) : ModeFollows controller (controller.followConfig answers old) := by
  have restarted := modeFollows_restartPac answers controller
    (decide (old.pacListen ≠ controller.gui.config.pacListen))
  unfold followConfig
  dsimp only
  generalize controller.restartPac answers
    (decide (old.pacListen ≠ controller.gui.config.pacListen)) = restart at restarted ⊢
  obtain ⟨middle, outcome⟩ := restart
  cases outcome with
  | error => exact restarted.trans (quiet_setNotice _ _).proxy.modeFollows
  | ok => exact .ite (modeFollows_applyProxy answers _) restarted

variable [DecidableEq Digest]

/-- The restart of the PAC server that a reload of app.json makes. -/
theorem restartPac_shown (now : Nat) {config : AppConfig}
    (changed : controller.newConfig env = some config) :
    (∃ error, ((controller.shown env now).restartPac answers
      (decide (controller.gui.config.pacListen ≠ (controller.shown env now).gui.config.pacListen))).2 =
        .error error) ↔ ¬ RestartSucceeds answers controller config := by
  have shown := sameProxy_shown env now controller
  have newConfig : (controller.shown env now).gui.config = config := by
    rw [shown.config, withNewConfig, changed]
    rfl
  have server : (controller.shown env now).gui.pacServer = controller.gui.pacServer :=
    shown.pacServer
  rw [restartPac_failed, newConfig, server, RestartSucceeds, not_or]
  refine and_congr ?_ ?_
  · cases answers.bind <;> simp
  · simp only [decide_eq_false_iff_not, not_not]
    rw [eq_comm (a := config.pacListen)]

/-- A reload that leaves the mode alone, or whose restart succeeds, has the OS follow. -/
theorem modeFollows_onFilesChanged (now : Nat)
    (follows : ∀ config, controller.newConfig env = some config →
      config.systemProxyMode ≠ controller.proxyMode → RestartSucceeds answers controller config) :
    ModeFollows controller (controller.onFilesChanged env answers now) := by
  cases changed : controller.newConfig env with
  | none => exact (sameProxy_onFilesChanged answers now changed).modeFollows
  | some config =>
      have shown := sameProxy_shown env now controller
      have newConfig : (controller.shown env now).gui.config = config := by
        rw [shown.config, withNewConfig, changed]
        rfl
      rw [onFilesChanged_of_newConfig answers now changed]
      by_cases same : config.systemProxyMode = controller.proxyMode
      · have kept : ModeFollows controller (controller.shown env now) := by
          refine Or.inl ⟨shown.proxyCalls, ?_⟩
          rw [proxyMode, newConfig]
          exact same
        exact kept.trans (modeFollows_followConfig answers _ _)
      · have succeeds := follows config changed same
        refine Or.inr (appliedMode_followConfig answers _ _ (fun error failed => ?_) ?_)
        · exact (restartPac_shown now changed).mp ⟨error, failed⟩ succeeds
        · rw [proxyMode, newConfig]
          exact fun equal => same equal.symm

/-- A reload that changes the mode and whose restart fails applies nothing. -/
theorem onFilesChanged_stuck (now : Nat) {config : AppConfig}
    (changed : controller.newConfig env = some config)
    (fails : ¬ RestartSucceeds answers controller config) :
    (controller.onFilesChanged env answers now).proxyCalls = controller.proxyCalls ∧
      (controller.onFilesChanged env answers now).proxyMode = config.systemProxyMode := by
  have shown := sameProxy_shown env now controller
  have newConfig : (controller.shown env now).gui.config = config := by
    rw [shown.config, withNewConfig, changed]
    rfl
  obtain ⟨error, failed⟩ := (restartPac_shown now changed).mpr fails
  rw [onFilesChanged_of_newConfig answers now changed]
  have restarted := follows_restartPac answers (controller.shown env now)
    (decide (controller.gui.config.pacListen ≠ (controller.shown env now).gui.config.pacListen))
  have calls : ((controller.shown env now).restartPac answers (decide
      (controller.gui.config.pacListen ≠ (controller.shown env now).gui.config.pacListen))).1.proxyCalls =
        (controller.shown env now).proxyCalls := rfl
  unfold followConfig
  dsimp only
  generalize (controller.shown env now).restartPac answers
    (decide (controller.gui.config.pacListen ≠ (controller.shown env now).gui.config.pacListen)) =
      restart at failed restarted calls ⊢
  obtain ⟨middle, outcome⟩ := restart
  obtain rfl : outcome = .error error := failed
  refine ⟨calls.trans shown.proxyCalls, ?_⟩
  change middle.gui.config.systemProxyMode = _
  rw [restarted.config, newConfig]

end Controller

/-! ## Runs -/

section Runs

variable {Digest : Type} [DecidableEq Digest] {env : Env Digest} {answers : Answers} {now : Nat}
  {controller after : Controller Digest} {storage : Storage} {moved : ConfigFile → Bool}
  {loadedMode : SystemProxyMode}

/-- A reload whose new settings change the mode restarts the PAC server successfully. -/
def ModeReaches (env : Env Digest) (world : World Digest) : Action → Prop
  | .perform .onFilesChanged answers _ =>
      ∀ config, world.controller.newConfig env = some config →
        config.systemProxyMode ≠ world.controller.proxyMode →
          world.controller.RestartSucceeds answers config
  | _ => True

/-- Until the shutdown the mode applied last is the one in the configuration;
afterwards it is Disable, if any other was applied. -/
structure ProxyInOrder (loadedMode : SystemProxyMode) (world : World Digest) : Prop where
  applied : world.exited = false → world.controller.ModeApplied loadedMode
  reset : world.exited = true →
    (∃ call ∈ world.controller.proxyCalls, call.config.systemProxyMode ≠ .disable) →
      world.controller.appliedMode = some .disable

open Controller in
/-- What an operation other than the shutdown does to the mode. -/
theorem modeFollows_perform {operation : Operation} (running : operation ≠ .shutdown)
    (reaches : operation = .onFilesChanged → ∀ config, controller.newConfig env = some config →
      config.systemProxyMode ≠ controller.proxyMode → RestartSucceeds answers controller config)
    (taken : operation.perform env answers now controller = some after) :
    ModeFollows controller after := by
  by_cases quiet : operation.isQuiet = true
  · exact (quiet_perform quiet taken).proxy.modeFollows
  · cases operation with
    | shutdown => exact absurd rfl running
    | commitSetting => exact modeFollows_commitSetting taken
    | startup =>
        obtain rfl := Option.some.inj taken
        exact modeFollows_startup answers now controller
    | flushDue =>
        obtain rfl := Option.some.inj taken
        exact (sameProxy_flushDue env answers now controller).modeFollows
    | flushAll =>
        obtain rfl := Option.some.inj taken
        exact (sameProxy_flushAll env answers now controller).modeFollows
    | onFilesChanged =>
        obtain rfl := Option.some.inj taken
        exact modeFollows_onFilesChanged now (reaches rfl)
    | setProxyMode mode =>
        obtain rfl := Option.some.inj taken
        exact modeFollows_setProxyMode answers now controller mode
    | setPacRule rule =>
        obtain rfl := Option.some.inj taken
        exact modeFollows_setPacRule answers now controller rule
    | finishRules result =>
        obtain rfl := Option.some.inj taken
        exact modeFollows_finishRules answers controller result
    | saveNodes =>
        obtain rfl := Option.some.inj taken
        exact (sameProxy_writeNodes env answers controller).modeFollows
    | setPacSource mode =>
        obtain rfl := Option.some.inj taken
        exact modeFollows_setPacSource answers now controller mode
    | setUpdateHours hours =>
        obtain rfl := Option.some.inj taken
        exact .ite (.refl controller) (modeFollows_changeConfig now controller _ rfl)
    | answerPrompt answer =>
        obtain rfl := Option.some.inj taken
        cases answer with
        | save => exact (sameProxy_answerPrompt env answers controller).modeFollows
        | discard | cancel => exact absurd rfl quiet
    | onTray event =>
        cases event with
        | setProxyMode mode =>
            obtain rfl := Option.some.inj taken
            exact modeFollows_setProxyMode answers now controller mode
        | setPacRule rule =>
            obtain rfl := Option.some.inj taken
            exact modeFollows_setPacRule answers now controller rule
        | _ => exact absurd rfl quiet
    | _ => exact absurd rfl quiet

open Controller in
omit [DecidableEq Digest] in
/-- The shutdown applies Disable unless it is the mode, and then it is the one applied
last if any was. -/
theorem reset_shutdown (applied : controller.ModeApplied loadedMode)
    (other : ∃ call ∈ (controller.shutdown env answers now).proxyCalls,
      call.config.systemProxyMode ≠ .disable) :
    (controller.shutdown env answers now).appliedMode = some .disable := by
  by_cases disabled : controller.gui.config.systemProxyMode = .disable
  · have calls : (controller.shutdown env answers now).proxyCalls = controller.proxyCalls := by
      simp [shutdown, disabled, flushAll]
    obtain ⟨call, member, -⟩ := other
    rw [calls] at member
    obtain ⟨last, rest, shape⟩ := List.exists_cons_of_ne_nil (List.ne_nil_of_mem member)
    have mode : last.config.systemProxyMode = .disable := by
      have same := applied
      rw [ModeApplied, appliedMode, shape] at same
      exact same.trans disabled
    rw [appliedMode, calls, shape]
    exact congrArg some mode
  · simp [shutdown, disabled, flushAll, callProxy, appliedMode]

/-- In every run the mode of the OS follows the configuration, and is reset by the
shutdown, exactly when no reload that changes the mode fails to restart the PAC
server. -/
theorem proxyInOrder_iff_modeReaches {history : List (World Digest × Action)} {final : World Digest}
    (run : Run (step env) (World.start env storage moved) history final) :
    Everywhere (ProxyInOrder (Controller.new env storage moved).proxyMode) history final ↔
      Allowed (ModeReaches env) history := by
  have initial : ProxyInOrder (Controller.new env storage moved).proxyMode
      (World.start env storage moved) :=
    ⟨fun _ => rfl, fun exited => by cases exited⟩
  refine run.everywhere_iff_allowed initial ?_ (fun _ inOrder => inOrder) ?_
  · intro world action next inOrder reaches taken
    cases action with
    | perform operation answers now =>
        obtain ⟨running, done, exits⟩ := step_perform taken
        have applied := inOrder.applied running
        by_cases leaving : operation = .shutdown
        · subst leaving
          have after := Option.some.inj done
          refine ⟨fun running => ?_, fun _ => by rw [← after]; exact reset_shutdown applied⟩
          rw [exits.mpr rfl] at running
          cases running
        · have follows := modeFollows_perform leaving
            (fun same => by subst same; exact reaches) done
          exact ⟨fun _ => follows.modeApplied applied, fun exited => absurd (exits.mp exited) leaving⟩
    | external file content =>
        obtain rfl := Option.some.inj taken
        exact ⟨inOrder.applied, inOrder.reset⟩
    | rules chinaList gfw =>
        obtain rfl := Option.some.inj taken
        exact ⟨inOrder.applied, inOrder.reset⟩
  · intro world action next inOrder stuck taken still
    unfold ModeReaches at stuck
    split at stuck
    · rename_i answers now
      obtain ⟨running, done, exits⟩ := step_perform taken
      push Not at stuck
      obtain ⟨config, changed, differs, fails⟩ := stuck
      obtain ⟨calls, mode⟩ := Controller.onFilesChanged_stuck now changed fails
      have runs : next.exited = false := by
        by_contra exited
        cases exits.mp (by simpa using exited)
      have applied := still.applied runs
      rw [← Option.some.inj done, Controller.ModeApplied, Controller.appliedMode, calls, mode] at applied
      exact differs (applied.symm.trans (inOrder.applied running))
    · exact stuck trivial

theorem modeReaches_of_bind {world : World Digest} {operation : Operation}
    (bound : answers.bind = .ok ()) : ModeReaches env world (.perform operation answers now) := by
  unfold ModeReaches
  split
  · rename_i same
    obtain ⟨-, rfl, -⟩ := Action.perform.inj same
    exact fun _ _ _ => Or.inl bound
  · trivial

end Runs

/-! ## Disable and another PAC address from outside -/

def pacConfig : AppConfig := { AppConfig.default with systemProxyMode := .pac }

def disabledElsewhere : AppConfig := { AppConfig.default with pacListen := "127.0.0.1:1091" }

def proxyEnv : Env Bytes := .ofTables [pacConfig, disabledElsewhere] [oneNode] [.default]

def proxyStorage : Storage := .ofRecords proxyEnv.serde pacConfig oneNode .default

/-- The PAC address is taken. -/
def Answers.occupied : Answers := { Answers.willing with bind := .error "in use" }

/-- The saved mode is applied, app.json is edited and reloaded, the application exits. -/
def editedElsewhere (reload : Answers) : List Action :=
  [.perform .startup .willing 0, .external .app (proxyEnv.serde.app.toVec disabledElsewhere),
    .perform .onFilesChanged reload 1, .perform .shutdown .willing 2]

/-- When the new address can be bound, the OS follows and is reset. -/
theorem proxyInOrder_iff_modeReaches_edited :
    ∃ history final, Run (step proxyEnv) (.start proxyEnv proxyStorage fun _ => false) history final ∧
      final.exited = true ∧ final.controller.appliedMode = some .disable ∧
      Everywhere (ProxyInOrder .pac) history final := by
  have executed : ((exec (step proxyEnv) (.start proxyEnv proxyStorage fun _ => false)
      (editedElsewhere .willing)).any fun final =>
        final.exited && decide (final.controller.appliedMode = some .disable)) = true := by
    decide +kernel
  obtain ⟨final, ended, facts⟩ := (Option.any_eq_true _ _).mp executed
  simp only [Bool.and_eq_true, decide_eq_true_eq] at facts
  have loaded : (Controller.new proxyEnv proxyStorage fun _ => false).proxyMode = .pac := by
    decide +kernel
  have inOrder := (proxyInOrder_iff_modeReaches (run_trace ended)).mpr
    (allowed_trace fun world action member => by
      simp only [editedElsewhere, List.mem_cons, List.not_mem_nil, or_false] at member
      rcases member with rfl | rfl | rfl | rfl
      · exact modeReaches_of_bind rfl
      · trivial
      · exact modeReaches_of_bind rfl
      · exact modeReaches_of_bind rfl)
  rw [loaded] at inOrder
  exact ⟨_, final, run_trace ended, facts.1, facts.2, inOrder⟩

/-- When it cannot be bound, the OS keeps the PAC mode, also after the shutdown. -/
theorem stuck_mode_survives_shutdown :
    ∃ history final, Run (step proxyEnv) (.start proxyEnv proxyStorage fun _ => false) history final ∧
      final.exited = true ∧ final.controller.appliedMode = some .pac ∧
      final.controller.proxyMode = .disable ∧ ¬ Everywhere (ProxyInOrder .pac) history final := by
  have executed : ((exec (step proxyEnv) (.start proxyEnv proxyStorage fun _ => false)
      (editedElsewhere .occupied)).any fun final =>
        final.exited && decide (final.controller.appliedMode = some .pac) &&
          decide (final.controller.proxyMode = .disable) &&
          final.controller.proxyCalls.any fun call =>
            decide (call.config.systemProxyMode ≠ .disable)) = true := by
    decide +kernel
  obtain ⟨final, ended, facts⟩ := (Option.any_eq_true _ _).mp executed
  simp only [Bool.and_eq_true, decide_eq_true_eq, List.any_eq_true] at facts
  obtain ⟨⟨⟨exited, applied⟩, mode⟩, other⟩ := facts
  refine ⟨_, final, run_trace ended, exited, applied, mode, fun inOrder => ?_⟩
  have reset := inOrder.2.reset exited other
  rw [applied] at reset
  cases reset

end Juicity.Gui

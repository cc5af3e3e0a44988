import Juicity.Gui.Controller.Proxy

/-!
Owns whether the local PAC URL is served whenever the OS is pointed at it. What is
known of the server is that it listens on the configured address exactly when the
last attempt to bind the listener succeeded, and that it then holds the text of
the rules it was last generated from. Both survive every operation, so a call of
the effect is in order exactly when the listener was bound by then and the rule
files still give that text.
-/

namespace Juicity.Gui

open Juicity.Common Juicity.Machine

/-- The proxy is to be pointed at the local PAC URL. -/
def AppConfig.PointsAtLocal (config : AppConfig) : Prop :=
  config.systemProxyMode = .pac ∧ (config.pacMode = .local ∨ config.onlinePacUrl = none)

instance : DecidablePred AppConfig.PointsAtLocal := fun _ => inferInstanceAs (Decidable (_ ∧ _))

/-- The desktop is then pointed at the application's own server. -/
theorem effectivePacUrl_of_pointsAtLocal {config : AppConfig} (points : config.PointsAtLocal) :
    Controller.effectivePacUrl config = pacUrl config.pacListen := by
  unfold Controller.effectivePacUrl
  rcases points.2 with localMode | missing
  · rw [localMode]
  · rw [missing]
    cases config.pacMode <;> rfl

namespace GuiState

variable {state : GuiState} {server : PacServer} {bind : Except String Unit}

/-- The text generated from some rules with the settings in memory. -/
def pacText (state : GuiState) (rules : List String × List String) : String :=
  generatePac state.config.pacRuleMode state.config.mixedListen rules.1 rules.2

/-- A server listens on the configured address exactly when the last bind succeeded. -/
def Listening (state : GuiState) : Prop :=
  state.pacBound = true ↔
    ∃ server, state.pacServer = some server ∧ server.listen = state.config.pacListen

/-- What is known of the PAC server in every reachable state. -/
structure PacKept (state : GuiState) : Prop where
  listening : state.Listening
  generated : state.pacBound = true → ∀ server, state.pacServer = some server →
    server.content = state.pacText state.pacRules

/-- The listener was bound, and the rule files still give the text that was generated. -/
def BoundNow (state : GuiState) : Prop :=
  state.pacBound = true ∧ state.pacText state.pacRules = state.generatedPac

/-- The listener is bound after a restart: it is kept, or bound anew. -/
def BoundByRestart (state : GuiState) (forceRestart : Bool) (bind : Except String Unit) : Prop :=
  if state.pacServer.isSome = true ∧ forceRestart = false then state.pacBound = true
  else bind = .ok ()

/-! ## Restarts -/

/-- A running server is updated where it is. -/
theorem restartPacServer_update (running : state.pacServer = some server) :
    state.restartPacServer false bind =
      ({ state with
          pacServer := some (server.update state.generatedPac)
          pacRules := state.storage.loadRules }, .ok ()) := by
  simp [restartPacServer, running]

/-- Otherwise the listener is bound. -/
theorem restartPacServer_bind {forceRestart : Bool}
    (bound : ¬ (state.pacServer.isSome = true ∧ forceRestart = false)) :
    state.restartPacServer forceRestart bind =
      match bind with
      | .ok () =>
          ({ state with
              pacServer := some ⟨state.config.pacListen, state.generatedPac⟩
              pacBound := true
              pacRules := state.storage.loadRules }, .ok ())
      | .error error => ({ state.releaseListener with pacBound := false }, .error error) := by
  cases running : state.pacServer with
  | none => cases bind <;> simp [restartPacServer, running]
  | some server =>
      have forced : forceRestart = true := by simpa [running] using bound
      cases bind <;> simp [restartPacServer, running, forced]

/-- No server is left on the address that could not be bound. -/
theorem releaseListener_listen (held : state.releaseListener.pacServer = some server) :
    server.listen ≠ state.config.pacListen := by
  unfold releaseListener at held
  split at held
  · cases held
  · rename_i other
    intro same
    simp [held, same] at other

/-- A failed restart leaves a server on another address running. -/
theorem restartPacServer_keeps {forceRestart : Bool} {error : String}
    (running : state.pacServer = some server) (other : server.listen ≠ state.config.pacListen)
    (failed : (state.restartPacServer forceRestart bind).2 = .error error) :
    (state.restartPacServer forceRestart bind).1.pacServer = some server := by
  cases forceRestart with
  | false =>
      rw [restartPacServer_update running] at failed
      cases failed
  | true =>
      rw [restartPacServer_bind (by simp)] at failed ⊢
      cases bind with
      | ok => cases failed
      | error => simp [releaseListener, running, other]

theorem pacKept_bind {forceRestart : Bool}
    (bound : ¬ (state.pacServer.isSome = true ∧ forceRestart = false)) :
    (state.restartPacServer forceRestart bind).1.PacKept := by
  rw [restartPacServer_bind bound]
  cases bind with
  | ok =>
      refine ⟨⟨fun _ => ⟨_, rfl, rfl⟩, fun _ => rfl⟩, fun _ server held => ?_⟩
      obtain rfl := Option.some.inj held
      rfl
  | error error =>
      have config : state.releaseListener.config = state.config := by
        unfold releaseListener
        split <;> rfl
      refine ⟨⟨fun unbound => ?_, fun ⟨server, held, same⟩ => ?_⟩, fun unbound => ?_⟩
      · cases unbound
      · exact absurd (same.trans (congrArg AppConfig.pacListen config)) (releaseListener_listen held)
      · cases unbound

/-- A restart keeps what is known; if the address is still the one of before, so does
an update. -/
theorem pacKept_restart {forceRestart : Bool}
    (listening : forceRestart = false → state.Listening) :
    (state.restartPacServer forceRestart bind).1.PacKept := by
  by_cases update : state.pacServer.isSome = true ∧ forceRestart = false
  · obtain ⟨running, rfl⟩ := update
    obtain ⟨server, running⟩ := Option.isSome_iff_exists.mp running
    rw [restartPacServer_update running]
    refine ⟨(listening rfl).trans ?_, fun _ updated held => ?_⟩
    · simp [running, PacServer.update]
    · obtain rfl := Option.some.inj held
      rfl
  · exact pacKept_bind update

/-- After a restart the text is the current one, so only the binding is in question. -/
theorem boundNow_restart {forceRestart : Bool} :
    (state.restartPacServer forceRestart bind).1.BoundNow ↔
      state.BoundByRestart forceRestart bind := by
  unfold BoundByRestart
  by_cases update : state.pacServer.isSome = true ∧ forceRestart = false
  · rw [if_pos update]
    obtain ⟨running, rfl⟩ := update
    obtain ⟨server, running⟩ := Option.isSome_iff_exists.mp running
    rw [restartPacServer_update running]
    exact and_iff_left rfl
  · rw [if_neg update, restartPacServer_bind update]
    cases bind with
    | ok => exact iff_of_true ⟨rfl, rfl⟩ rfl
    | error =>
        refine iff_of_false (fun bound => ?_) (by simp)
        cases bound.1

end GuiState

/-- What is asked of a call of the effect: in PAC mode with the local URL the server
listens there and holds the current text. -/
def ProxyCall.Served (call : ProxyCall) : Prop :=
  call.config.PointsAtLocal →
    ∃ server, call.gui.pacServer = some server ∧ server.listen = call.config.pacListen ∧
      server.content = { call.gui with config := call.config }.generatedPac

/-- A call with the settings in memory is in order exactly when the listener is bound. -/
theorem GuiState.PacKept.served_iff {gui : GuiState} (kept : gui.PacKept) :
    ProxyCall.Served ⟨gui.config, gui⟩ ↔ (gui.config.PointsAtLocal → gui.BoundNow) := by
  constructor
  · intro served points
    obtain ⟨server, running, listen, content⟩ := served points
    have bound : gui.pacBound = true := kept.listening.mpr ⟨server, running, listen⟩
    exact ⟨bound, (kept.generated bound server running).symm.trans content⟩
  · intro bound points
    obtain ⟨held, text⟩ := bound points
    obtain ⟨server, running, listen⟩ := kept.listening.mp held
    exact ⟨server, running, listen, (kept.generated held server running).trans text⟩

namespace Controller

variable {Digest : Type} {before middle after : Controller Digest} {env : Env Digest}
  {answers : Answers} {now : Nat} {controller : Controller Digest} {condition : Prop}

theorem SameProxy.pacKept (same : SameProxy before after) (kept : before.gui.PacKept) :
    after.gui.PacKept where
  listening := by
    rw [GuiState.Listening, same.pacBound, same.pacServer, same.config]
    exact kept.listening
  generated := by
    rw [same.pacBound, same.pacServer, GuiState.pacText, same.pacRules, same.config]
    exact kept.generated

theorem SameProxy.boundNow (same : SameProxy before after) :
    after.gui.BoundNow ↔ before.gui.BoundNow := by
  simp only [GuiState.BoundNow, GuiState.pacText, GuiState.generatedPac, Storage.loadRules,
    same.pacBound, same.pacRules, same.config, same.chinaList, same.gfw]

/-- The server stays known, and the calls that are made are in order exactly under a
condition. -/
structure Pointed (condition : Prop) (before after : Controller Digest) : Prop where
  kept : after.gui.PacKept
  calls : ∃ new, after.proxyCalls = new ++ before.proxyCalls ∧
    ((∀ call ∈ new, call.Served) ↔ condition)

theorem Pointed.congr {other : Prop} (pointed : Pointed condition before after)
    (same : condition ↔ other) : Pointed other before after :=
  propext same ▸ pointed

/-- No call is made. -/
theorem Pointed.idle (kept : after.gui.PacKept) (calls : after.proxyCalls = before.proxyCalls)
    (holds : condition) : Pointed condition before after :=
  ⟨kept, [], calls, iff_of_true (by simp) holds⟩

theorem SameProxy.pointed (same : SameProxy before after) (kept : before.gui.PacKept)
    (holds : condition) : Pointed condition before after :=
  .idle (same.pacKept kept) same.proxyCalls holds

theorem Pointed.then (pointed : Pointed condition before middle) (same : SameProxy middle after) :
    Pointed condition before after := by
  obtain ⟨new, calls, served⟩ := pointed.calls
  exact ⟨same.pacKept pointed.kept, new, same.proxyCalls.trans calls, served⟩

/-- One call is made, with the settings in memory. -/
theorem pointed_applyProxy (answers : Answers) (kept : middle.gui.PacKept)
    (calls : middle.proxyCalls = before.proxyCalls) :
    Pointed (middle.gui.config.PointsAtLocal → middle.gui.BoundNow) before
      (middle.applyProxy answers) := by
  have called : Pointed (middle.gui.config.PointsAtLocal → middle.gui.BoundNow) before
      (middle.callProxy middle.gui.config) := by
    refine ⟨kept, [⟨middle.gui.config, middle.gui⟩], ?_, ?_⟩
    · rw [← calls]
      rfl
    · rw [List.forall_mem_singleton]
      exact kept.served_iff
  exact called.then (quiet_report _ _ _).proxy

/-- The call is made unless the mode excludes that it points anywhere. -/
theorem pointed_applyProxy_unless (answers : Answers) {skipped : Prop} [Decidable skipped]
    (kept : middle.gui.PacKept) (calls : middle.proxyCalls = before.proxyCalls)
    (excluded : skipped → ¬ middle.gui.config.PointsAtLocal) :
    Pointed (middle.gui.config.PointsAtLocal → middle.gui.BoundNow) before
      (if skipped then middle else middle.applyProxy answers) := by
  split
  · rename_i holds
    exact .idle kept calls fun points => absurd points (excluded holds)
  · exact pointed_applyProxy answers kept calls

theorem pointed_reapplyPacProxy (answers : Answers) (kept : middle.gui.PacKept)
    (calls : middle.proxyCalls = before.proxyCalls) :
    Pointed (middle.gui.config.PointsAtLocal → middle.gui.BoundNow) before
      (middle.reapplyPacProxy answers) := by
  unfold reapplyPacProxy
  split
  · exact pointed_applyProxy answers kept calls
  · rename_i other
    exact .idle kept calls fun points => absurd points.1 other

/-! ## Operations -/

/-- With settings the server does not depend on, what is known of it stays. -/
theorem pacKept_changeConfig (now : Nat) (kept : controller.gui.PacKept) (config : AppConfig)
    (listen : config.pacListen = controller.gui.config.pacListen)
    (rule : config.pacRuleMode = controller.gui.config.pacRuleMode)
    (mixed : config.mixedListen = controller.gui.config.mixedListen) :
    (controller.changeConfig now config).gui.PacKept where
  listening := by
    change _ ↔ ∃ server, controller.gui.pacServer = some server ∧ server.listen = config.pacListen
    rw [listen]
    exact kept.listening
  generated := by
    change _ → ∀ server, controller.gui.pacServer = some server →
      server.content = generatePac config.pacRuleMode config.mixedListen _ _
    rw [rule, mixed]
    exact kept.generated

/-- Nor does it change whether the listener is bound now. -/
theorem boundNow_changeConfig (now : Nat) (controller : Controller Digest) (config : AppConfig)
    (rule : config.pacRuleMode = controller.gui.config.pacRuleMode)
    (mixed : config.mixedListen = controller.gui.config.mixedListen) :
    (controller.changeConfig now config).gui.BoundNow ↔ controller.gui.BoundNow := by
  change (controller.gui.pacBound = true ∧ generatePac config.pacRuleMode config.mixedListen _ _ =
    generatePac config.pacRuleMode config.mixedListen _ _) ↔ _
  rw [rule, mixed]
  rfl

theorem pointed_startup (answers : Answers) (now : Nat) (controller : Controller Digest) :
    Pointed (controller.gui.config.PointsAtLocal → answers.bind = .ok ()) controller
      (controller.startup answers now).1 := by
  unfold startup
  have restarted : (controller.restartPac answers true).1.gui.PacKept :=
    GuiState.pacKept_restart fun unforced => by cases unforced
  have bound : (controller.restartPac answers true).1.gui.BoundNow ↔ answers.bind = .ok () := by
    refine GuiState.boundNow_restart.trans ?_
    simp [GuiState.BoundByRestart]
  have config := (follows_restartPac answers controller true).config
  have connected := (quiet_startupConnection answers now (controller.restartPac answers true).1).proxy
  dsimp only
  generalize ((controller.restartPac answers true).1).startupConnection answers now = middle
    at connected ⊢
  have pointed : Pointed (controller.gui.config.PointsAtLocal → answers.bind = .ok ()) controller
      (if middle.gui.config.systemProxyMode = .disable then middle
      else middle.applyProxy answers) := by
    refine Pointed.congr (pointed_applyProxy_unless answers (connected.pacKept restarted)
      connected.proxyCalls fun disabled points => ?_) ?_
    · rw [points.1] at disabled
      cases disabled
    · rw [connected.config, config, connected.boundNow, bound]
  generalize (if middle.gui.config.systemProxyMode = .disable then middle
      else middle.applyProxy answers) = applied at pointed ⊢
  split
  · exact pointed.then (quiet_beginRules _).proxy
  · exact pointed

/-- The proxy is re-pointed after a change of such settings. -/
theorem pointed_apply_changeConfig (answers : Answers) (now : Nat) (kept : controller.gui.PacKept)
    (config : AppConfig) (listen : config.pacListen = controller.gui.config.pacListen)
    (rule : config.pacRuleMode = controller.gui.config.pacRuleMode)
    (mixed : config.mixedListen = controller.gui.config.mixedListen) :
    Pointed (config.PointsAtLocal → controller.gui.BoundNow) controller
        ((controller.changeConfig now config).applyProxy answers) ∧
      Pointed (config.PointsAtLocal → controller.gui.BoundNow) controller
        ((controller.changeConfig now config).reapplyPacProxy answers) := by
  have changed := pacKept_changeConfig now kept config listen rule mixed
  have bound := imp_congr_right fun _ : config.PointsAtLocal =>
    boundNow_changeConfig now controller config rule mixed
  have applied : Pointed _ controller ((controller.changeConfig now config).applyProxy answers) :=
    pointed_applyProxy answers changed rfl
  have reapplied : Pointed _ controller
      ((controller.changeConfig now config).reapplyPacProxy answers) :=
    pointed_reapplyPacProxy answers changed rfl
  exact ⟨applied.congr bound, reapplied.congr bound⟩

theorem pointed_setProxyMode (answers : Answers) (now : Nat) (kept : controller.gui.PacKept)
    (mode : SystemProxyMode) :
    Pointed (controller.gui.config.systemProxyMode ≠ mode →
      { controller.gui.config with systemProxyMode := mode }.PointsAtLocal →
        controller.gui.BoundNow) controller (controller.setProxyMode answers now mode) := by
  unfold setProxyMode
  dsimp only
  split
  · rename_i same
    exact .idle kept rfl fun differs => absurd same differs
  · rename_i differs
    have pointed := pointed_apply_changeConfig answers now kept
      { controller.gui.config with systemProxyMode := mode } rfl rfl rfl
    exact pointed.1.congr (imp_iff_right differs).symm

theorem pointed_setPacSource (answers : Answers) (now : Nat) (kept : controller.gui.PacKept)
    (mode : PacMode) :
    Pointed (controller.gui.config.pacMode ≠ mode →
      { controller.gui.config with pacMode := mode }.PointsAtLocal →
        controller.gui.BoundNow) controller (controller.setPacSource answers now mode) := by
  unfold setPacSource
  dsimp only
  split
  · rename_i same
    exact .idle kept rfl fun differs => absurd same differs
  · rename_i differs
    have pointed := pointed_apply_changeConfig answers now kept
      { controller.gui.config with pacMode := mode } rfl rfl rfl
    exact pointed.2.congr (imp_iff_right differs).symm

/-- A restart for settings on the same address keeps what is known of the server. -/
theorem pacKept_restartPac (answers : Answers) (kept : controller.gui.PacKept) (config : AppConfig)
    (listen : config.pacListen = controller.gui.config.pacListen) :
    ((controller.setConfig config).restartPac answers false).1.gui.PacKept := by
  refine GuiState.pacKept_restart fun _ => ?_
  change _ ↔ ∃ server, controller.gui.pacServer = some server ∧ server.listen = config.pacListen
  rw [listen]
  exact kept.listening

theorem pointed_setPacRule (kept : controller.gui.PacKept) (rule : PacRuleMode)
    (holds : condition) :
    Pointed condition controller (controller.setPacRule answers now rule) := by
  unfold setPacRule
  dsimp only
  split
  · exact .idle kept rfl holds
  · have restarted := pacKept_restartPac answers kept
      { controller.gui.config with pacRuleMode := rule } rfl
    exact .idle restarted rfl holds

theorem pointed_finishRules (kept : controller.gui.PacKept) (result : Except String Unit)
    (holds : condition) :
    Pointed condition controller (controller.finishRules answers result) := by
  unfold finishRules
  cases result with
  | ok =>
      have restarted : (controller.gui.restartPacServer false answers.bind).1.PacKept :=
        GuiState.pacKept_restart fun _ => kept.listening
      exact .idle restarted rfl holds
  | error => exact .idle kept rfl holds

/-- The new local port goes into the text before the proxy is re-pointed. -/
theorem pointed_applyListenChange (answers : Answers) (now : Nat) (kept : controller.gui.PacKept)
    (listen : String) :
    Pointed (controller.gui.config.PointsAtLocal →
        controller.gui.BoundByRestart false answers.bind) controller
      ((controller.changeConfig now { controller.gui.config with mixedListen := listen }).applyListenChange
        answers now) := by
  have restarted := pacKept_restartPac answers kept
    { controller.gui.config with mixedListen := listen } rfl
  have bound : ((controller.changeConfig now
      { controller.gui.config with mixedListen := listen }).restartPac answers false).1.gui.BoundNow ↔
        controller.gui.BoundByRestart false answers.bind :=
    GuiState.boundNow_restart
  have config := (follows_restartPac answers (controller.changeConfig now
    { controller.gui.config with mixedListen := listen }) false).config
  have calls : ((controller.changeConfig now
      { controller.gui.config with mixedListen := listen }).restartPac answers false).1.proxyCalls =
        controller.proxyCalls := rfl
  have points : ({ controller.gui.config with mixedListen := listen } : AppConfig).PointsAtLocal ↔
      controller.gui.config.PointsAtLocal := Iff.rfl
  unfold applyListenChange
  change (controller.changeConfig now { controller.gui.config with mixedListen := listen }).restartPac
    answers false |>.1.gui.PacKept at restarted
  dsimp only
  generalize (controller.changeConfig now { controller.gui.config with mixedListen := listen }).restartPac
    answers false = restart at restarted bound config calls ⊢
  obtain ⟨middle, outcome⟩ := restart
  dsimp only at restarted bound config calls ⊢
  have reported := (quiet_report middle outcome .proxyFailed).proxy
  generalize middle.report outcome .proxyFailed = reportedAfter at reported ⊢
  have pointed : Pointed (controller.gui.config.PointsAtLocal →
      controller.gui.BoundByRestart false answers.bind) controller
      (if reportedAfter.gui.config.systemProxyMode = .disable then reportedAfter
      else reportedAfter.applyProxy answers) := by
    refine Pointed.congr (pointed_applyProxy_unless answers (reported.pacKept restarted)
      (reported.proxyCalls.trans calls) fun disabled points => ?_) ?_
    · rw [points.1] at disabled
      cases disabled
    · rw [reported.config, config, reported.boundNow, bound]
      exact imp_congr_left points
  generalize (if reportedAfter.gui.config.systemProxyMode = .disable then reportedAfter
      else reportedAfter.applyProxy answers) = applied at pointed ⊢
  split
  · exact pointed.then (quiet_startActive answers now _).proxy
  · exact pointed

/-- A failed change of the PAC address leaves what is known of the server: one on the
previous address was not stopped. -/
theorem pacKept_unchanged (kept : controller.gui.PacKept) {listen : String}
    (differs : controller.gui.config.pacListen ≠ listen) (released : GuiState)
    (server : released.pacServer = { controller.gui with
      config := { controller.gui.config with pacListen := listen } }.releaseListener.pacServer)
    (rules : released.pacRules = controller.gui.pacRules) :
    { released with
      config := controller.gui.config, pacBound := controller.gui.pacBound }.PacKept := by
  have kept' : ∀ held, released.pacServer = some held → controller.gui.pacServer = some held := by
    intro held running
    rw [server] at running
    unfold GuiState.releaseListener at running
    split at running
    · cases running
    · exact running
  constructor
  · constructor
    · intro bound
      obtain ⟨held, running, same⟩ := kept.listening.mp bound
      refine ⟨held, ?_, same⟩
      change released.pacServer = some held
      rw [server]
      simp [GuiState.releaseListener, running, same, differs]
    · rintro ⟨held, running, same⟩
      exact kept.listening.mpr ⟨held, kept' held running, same⟩
  · intro bound held running
    refine (kept.generated bound held (kept' held running)).trans ?_
    simp only [GuiState.pacText, rules]

/-- On a new PAC address the server is bound before the proxy is re-pointed, and a
failure leaves everything as it was. -/
theorem pointed_changePacListen (answers : Answers) (now : Nat) (kept : controller.gui.PacKept)
    {listen : String} (differs : controller.gui.config.pacListen ≠ listen) (holds : condition) :
    Pointed condition controller (controller.changePacListen answers now listen) := by
  have restarted : ((controller.setConfig { controller.gui.config with pacListen := listen }).restartPac
      answers true).1.gui.PacKept :=
    GuiState.pacKept_restart fun unforced => by cases unforced
  have bound : ((controller.setConfig { controller.gui.config with pacListen := listen }).restartPac
      answers true).1.gui.BoundNow ↔ answers.bind = .ok () := by
    refine GuiState.boundNow_restart.trans ?_
    simp [GuiState.BoundByRestart]
  have calls : ((controller.setConfig { controller.gui.config with pacListen := listen }).restartPac
      answers true).1.proxyCalls = controller.proxyCalls := rfl
  have outcome : ((controller.setConfig { controller.gui.config with pacListen := listen }).restartPac
      answers true).2 = answers.bind := by
    unfold restartPac
    rw [GuiState.restartPacServer_bind (by simp)]
    cases answers.bind <;> rfl
  have released : ∀ error, answers.bind = .error error →
      ((controller.setConfig { controller.gui.config with pacListen := listen }).restartPac
        answers true).1 = { controller with gui := { ({ controller.gui with
          config := { controller.gui.config with pacListen := listen } } : GuiState).releaseListener with
            pacBound := false } } := by
    intro error failed
    unfold restartPac
    rw [GuiState.restartPacServer_bind (by simp), failed]
    rfl
  unfold changePacListen
  dsimp only
  generalize (controller.setConfig { controller.gui.config with pacListen := listen }).restartPac
    answers true = restart at restarted bound calls outcome released ⊢
  obtain ⟨middle, result⟩ := restart
  dsimp only at restarted bound calls outcome released
  subst outcome
  cases done : answers.bind with
  | ok =>
      have pointed : Pointed _ controller ((middle.markDirty now .app).reapplyPacProxy answers) :=
        pointed_reapplyPacProxy answers restarted calls
      exact pointed.congr (iff_of_true (fun _ => bound.mpr done) holds)
  | error error =>
      have rules : ({ controller.gui with config := { controller.gui.config with
          pacListen := listen } } : GuiState).releaseListener.pacRules = controller.gui.pacRules := by
        unfold GuiState.releaseListener
        split <;> rfl
      obtain rfl := released error done
      exact .idle (pacKept_unchanged kept differs _ rfl rules) rfl holds

/-- A sheet value that re-points the proxy does so while the listener is bound; a new
local port updates the text first. -/
def BoundWhenCommitted (answers : Answers) (controller : Controller Digest) (key : SettingKey)
    (value : String) : Prop :=
  let config := controller.gui.config
  match key with
  | .mixedPort => ∀ port host current, parseU16 value.toList = some port →
      splitHostPort config.mixedListen = some (host, current) →
        formatHostPort host port ≠ config.mixedListen → config.PointsAtLocal →
          controller.gui.BoundByRestart false answers.bind
  | .onlinePacUrl =>
      let url := if value = "" then none else some value
      config.onlinePacUrl ≠ url → { config with onlinePacUrl := url }.PointsAtLocal →
        controller.gui.BoundNow
  | .directUrl | .proxyUrl | .updateHours | .pacListen => True

/-- A setting nothing of the proxy depends on. -/
theorem pointed_changeConfig_unless {same : Prop} [Decidable same] (now : Nat)
    (kept : controller.gui.PacKept) (config : AppConfig)
    (listen : config.pacListen = controller.gui.config.pacListen)
    (rule : config.pacRuleMode = controller.gui.config.pacRuleMode)
    (mixed : config.mixedListen = controller.gui.config.mixedListen) (holds : condition) :
    Pointed condition controller (if same then controller else controller.changeConfig now config) := by
  split
  · exact .idle kept rfl holds
  · exact .idle (pacKept_changeConfig now kept config listen rule mixed) rfl holds

theorem pointed_commitValue {key : SettingKey} {value : String} (kept : controller.gui.PacKept)
    (taken : controller.commitValue answers now key value = some after) :
    Pointed (controller.BoundWhenCommitted answers key value) controller after := by
  cases key with
  | mixedPort =>
      obtain ⟨port, parsed, split⟩ := Option.bind_eq_some_iff.mp taken
      obtain ⟨⟨host, current⟩, found, rfl⟩ := Option.map_eq_some_iff.mp split
      dsimp only
      split
      · rename_i same
        refine .idle kept rfl fun port' host' current' parsed' found' differs => ?_
        obtain rfl := Option.some.inj (parsed.symm.trans parsed')
        obtain ⟨rfl, -⟩ := Prod.mk.inj (Option.some.inj (found.symm.trans found'))
        exact absurd same differs
      · rename_i differs
        refine (pointed_applyListenChange answers now kept _).congr ⟨fun bound => ?_, fun bound => ?_⟩
        · exact fun _ _ _ _ _ _ => bound
        · exact bound port host current parsed found differs
  | directUrl | proxyUrl =>
      obtain rfl := Option.some.inj taken
      exact pointed_changeConfig_unless now kept _ rfl rfl rfl trivial
  | updateHours =>
      obtain ⟨hours, -, rfl⟩ := Option.map_eq_some_iff.mp taken
      exact pointed_changeConfig_unless now kept _ rfl rfl rfl trivial
  | pacListen =>
      obtain rfl := Option.some.inj taken
      split
      · exact .idle kept rfl trivial
      · rename_i differs
        exact pointed_changePacListen answers now kept differs trivial
  | onlinePacUrl =>
      obtain rfl := Option.some.inj taken
      unfold BoundWhenCommitted
      dsimp only
      generalize (if value = "" then none else some value) = url
      split
      · rename_i same
        exact .idle kept rfl fun differs => absurd same differs
      · rename_i differs
        have pointed := pointed_apply_changeConfig answers now kept
          { controller.gui.config with onlinePacUrl := url } rfl rfl rfl
        exact pointed.2.congr (imp_iff_right differs).symm

theorem pointed_commitSetting (kept : controller.gui.PacKept)
    (taken : controller.commitSetting env answers now = some after) :
    Pointed (∀ sheet value, controller.sheet = some sheet →
      validate env.url sheet.key sheet.draft = .ok value →
        controller.BoundWhenCommitted answers sheet.key value) controller after := by
  unfold commitSetting at taken
  cases shown : controller.sheet with
  | none =>
      rw [shown] at taken
      obtain rfl := Option.some.inj taken
      exact .idle kept rfl fun sheet value held => by cases held
  | some sheet =>
      rw [shown] at taken
      cases checked : validate env.url sheet.key sheet.draft with
      | error error =>
          simp only [checked, Option.some.injEq] at taken
          subst taken
          refine .idle kept rfl fun sheet' value held valid => ?_
          obtain rfl := Option.some.inj held
          rw [checked] at valid
          cases valid
      | ok value =>
          simp only [checked] at taken
          have closed : ({ controller with sheet := none } : Controller Digest).gui.PacKept := kept
          have pointed := pointed_commitValue closed taken
          refine ⟨pointed.kept, ?_⟩
          obtain ⟨new, calls, served⟩ := pointed.calls
          refine ⟨new, calls, served.trans ⟨fun bound sheet' value' held valid => ?_, fun every => ?_⟩⟩
          · obtain rfl := Option.some.inj held
            obtain rfl := Except.ok.inj (checked.symm.trans valid)
            exact bound
          · exact every sheet value rfl checked

/-- The call of the shutdown points nowhere. -/
theorem pointed_shutdown (env : Env Digest) (answers : Answers) (now : Nat)
    (kept : controller.gui.PacKept) (holds : condition) :
    Pointed condition controller (controller.shutdown env answers now) := by
  unfold shutdown
  dsimp only
  split
  · exact .idle ((sameProxy_flushAll env answers now _).pacKept kept) rfl holds
  · refine ⟨(sameProxy_flushAll env answers now _).pacKept kept, [_], rfl, iff_of_true ?_ holds⟩
    intro call member points
    rw [List.mem_singleton.mp member] at points
    cases points.1

/-- After a change of settings the proxy is re-pointed only once the server has
followed; that is in order unless a running server is kept that is not bound. -/
theorem pointed_followConfig (answers : Answers) (old : AppConfig)
    (calls : middle.proxyCalls = before.proxyCalls)
    (listening : old.pacListen = middle.gui.config.pacListen → middle.gui.Listening) :
    Pointed (proxyChanged old middle.gui.config = true → middle.gui.config.PointsAtLocal →
      old.pacListen = middle.gui.config.pacListen → middle.gui.pacServer.isSome = true →
        middle.gui.pacBound = true) before (middle.followConfig answers old) := by
  have restarted : (middle.restartPac answers
      (decide (old.pacListen ≠ middle.gui.config.pacListen))).1.gui.PacKept :=
    GuiState.pacKept_restart fun unforced => listening (by simpa using unforced)
  have bound : (middle.restartPac answers
      (decide (old.pacListen ≠ middle.gui.config.pacListen))).1.gui.BoundNow ↔
        middle.gui.BoundByRestart (decide (old.pacListen ≠ middle.gui.config.pacListen))
          answers.bind :=
    GuiState.boundNow_restart
  have failed := restartPac_failed answers middle
    (decide (old.pacListen ≠ middle.gui.config.pacListen))
  have config := (follows_restartPac answers middle
    (decide (old.pacListen ≠ middle.gui.config.pacListen))).config
  have calls' : (middle.restartPac answers
      (decide (old.pacListen ≠ middle.gui.config.pacListen))).1.proxyCalls = before.proxyCalls :=
    calls
  unfold followConfig
  dsimp only
  generalize middle.restartPac answers (decide (old.pacListen ≠ middle.gui.config.pacListen)) =
    restart at restarted bound failed config calls' ⊢
  obtain ⟨after, outcome⟩ := restart
  dsimp only at restarted bound failed config calls' ⊢
  simp only [decide_eq_false_iff_not, not_not] at failed
  cases outcome with
  | error error =>
      refine .idle restarted calls' fun _ _ same running => ?_
      exact absurd ⟨running, same⟩ (failed.mp ⟨error, rfl⟩).2
  | ok =>
      have succeeds : ¬ ((∃ error, answers.bind = .error error) ∧
          ¬ (middle.gui.pacServer.isSome = true ∧ old.pacListen = middle.gui.config.pacListen)) := by
        rw [← failed]
        simp
      dsimp only
      rw [config]
      split
      · rename_i differs
        have pointed : Pointed _ before (after.applyProxy answers) :=
          pointed_applyProxy answers restarted calls'
        refine pointed.congr ?_
        rw [config, bound, GuiState.BoundByRestart, imp_iff_right differs]
        refine imp_congr_right fun _ => ?_
        simp only [decide_eq_false_iff_not, not_not]
        split
        · rename_i kept
          simp [kept.1, kept.2]
        · rename_i anew
          have reached : answers.bind = .ok () := by
            cases binding : answers.bind with
            | ok => rfl
            | error error => exact absurd ⟨⟨error, binding⟩, anew⟩ succeeds
          exact iff_of_true reached fun same running => absurd ⟨running, same⟩ anew
      · rename_i unchanged
        exact .idle restarted calls' fun differs => absurd differs unchanged

variable [DecidableEq Digest]

theorem pointed_onFilesChanged (env : Env Digest) (answers : Answers) (now : Nat)
    (kept : controller.gui.PacKept) :
    Pointed (∀ config, controller.newConfig env = some config →
      proxyChanged controller.gui.config config = true → config.PointsAtLocal →
        controller.gui.config.pacListen = config.pacListen →
          controller.gui.pacServer.isSome = true → controller.gui.pacBound = true)
      controller (controller.onFilesChanged env answers now) := by
  cases changed : controller.newConfig env with
  | none =>
      exact (sameProxy_onFilesChanged answers now changed).pointed kept
        fun config loaded => by cases loaded
  | some config =>
      have shown := sameProxy_shown env now controller
      have newConfig : (controller.shown env now).gui.config = config := by
        rw [shown.config, withNewConfig, changed]
        rfl
      have server : (controller.shown env now).gui.pacServer = controller.gui.pacServer :=
        shown.pacServer
      have bound : (controller.shown env now).gui.pacBound = controller.gui.pacBound :=
        shown.pacBound
      have pointed : Pointed _ controller
          ((controller.shown env now).followConfig answers controller.gui.config) :=
        pointed_followConfig answers controller.gui.config shown.proxyCalls fun same => by
          rw [GuiState.Listening, bound, server, ← same]
          exact kept.listening
      rw [onFilesChanged_of_newConfig answers now changed]
      refine pointed.congr ?_
      rw [newConfig, server, bound]
      exact ⟨fun holds other loaded => Option.some.inj loaded ▸ holds, fun holds => holds config rfl⟩

end Controller

/-! ## Runs -/

section Runs

variable {Digest : Type} [DecidableEq Digest] {env : Env Digest} {answers : Answers} {now : Nat}
  {controller after : Controller Digest} {storage : Storage} {moved : ConfigFile → Bool}

/-- Where an operation is about to point the OS at the local PAC URL, the listener is
bound and its text current: the startup and a reload on a new address bind it
themselves, a new local port renews the text of a listener that was bound before, and
everything else relies on the state it finds. -/
def Operation.BoundWhenPointed (env : Env Digest) (answers : Answers)
    (controller : Controller Digest) (operation : Operation) : Prop :=
  let gui := controller.gui
  match operation with
  | .startup => gui.config.PointsAtLocal → answers.bind = .ok ()
  | .setProxyMode mode | .onTray (.setProxyMode mode) =>
      gui.config.systemProxyMode ≠ mode →
        { gui.config with systemProxyMode := mode }.PointsAtLocal → gui.BoundNow
  | .setPacSource mode =>
      gui.config.pacMode ≠ mode → { gui.config with pacMode := mode }.PointsAtLocal → gui.BoundNow
  | .commitSetting =>
      ∀ sheet value, controller.sheet = some sheet →
        validate env.url sheet.key sheet.draft = .ok value →
          controller.BoundWhenCommitted answers sheet.key value
  | .onFilesChanged =>
      ∀ config, controller.newConfig env = some config →
        Controller.proxyChanged gui.config config = true → config.PointsAtLocal →
          gui.config.pacListen = config.pacListen → gui.pacServer.isSome = true →
            gui.pacBound = true
  | _ => True

def BoundWhenPointed (env : Env Digest) (world : World Digest) : Action → Prop
  | .perform operation answers _ => operation.BoundWhenPointed env answers world.controller
  | .external _ _ | .rules _ _ => True

/-- Every call of the effect so far was in order. -/
def World.Served (world : World Digest) : Prop :=
  ∀ call ∈ world.controller.proxyCalls, call.Served

/-- What is known of the server, and every call so far was in order. -/
structure World.PacInOrder (world : World Digest) : Prop where
  kept : world.controller.gui.PacKept
  served : world.Served

open Controller in
theorem pointed_perform {operation : Operation} (kept : controller.gui.PacKept)
    (taken : operation.perform env answers now controller = some after) :
    Pointed (operation.BoundWhenPointed env answers controller) controller after := by
  by_cases quiet : operation.isQuiet = true
  · refine (quiet_perform quiet taken).proxy.pointed kept ?_
    unfold Operation.BoundWhenPointed
    dsimp only
    split <;> trivial
  · cases operation with
    | startup =>
        obtain rfl := Option.some.inj taken
        exact pointed_startup answers now controller
    | shutdown =>
        obtain rfl := Option.some.inj taken
        exact pointed_shutdown env answers now kept trivial
    | commitSetting => exact pointed_commitSetting kept taken
    | flushDue =>
        obtain rfl := Option.some.inj taken
        exact (sameProxy_flushDue env answers now controller).pointed kept trivial
    | flushAll =>
        obtain rfl := Option.some.inj taken
        exact (sameProxy_flushAll env answers now controller).pointed kept trivial
    | onFilesChanged =>
        obtain rfl := Option.some.inj taken
        exact pointed_onFilesChanged env answers now kept
    | setProxyMode mode =>
        obtain rfl := Option.some.inj taken
        exact pointed_setProxyMode answers now kept mode
    | setPacRule rule =>
        obtain rfl := Option.some.inj taken
        exact pointed_setPacRule kept rule trivial
    | finishRules result =>
        obtain rfl := Option.some.inj taken
        exact pointed_finishRules kept result trivial
    | saveNodes =>
        obtain rfl := Option.some.inj taken
        exact (sameProxy_writeNodes env answers controller).pointed kept trivial
    | setPacSource mode =>
        obtain rfl := Option.some.inj taken
        exact pointed_setPacSource answers now kept mode
    | setUpdateHours hours =>
        obtain rfl := Option.some.inj taken
        exact pointed_changeConfig_unless now kept _ rfl rfl rfl trivial
    | answerPrompt answer =>
        obtain rfl := Option.some.inj taken
        cases answer with
        | save => exact (sameProxy_answerPrompt env answers controller).pointed kept trivial
        | discard | cancel => exact absurd rfl quiet
    | onTray event =>
        cases event with
        | setProxyMode mode =>
            obtain rfl := Option.some.inj taken
            exact pointed_setProxyMode answers now kept mode
        | setPacRule rule =>
            obtain rfl := Option.some.inj taken
            exact pointed_setPacRule kept rule trivial
        | _ => exact absurd rfl quiet
    | _ => exact absurd rfl quiet

omit [DecidableEq Digest] in
theorem pacKept_new (env : Env Digest) (storage : Storage) (moved : ConfigFile → Bool) :
    (Controller.new env storage moved).gui.PacKept where
  listening := iff_of_false (by simp [Controller.new, GuiState.loadTracked])
    (by simp [Controller.new, GuiState.loadTracked])
  generated := fun bound => by cases bound

/-- In every run the OS is pointed only at a PAC URL that is served, with the current
text, exactly when every step that points it there finds or makes the listener bound;
and no failed restart stops a server on another address. -/
theorem served_iff_boundWhenPointed {history : List (World Digest × Action)} {final : World Digest}
    (run : Run (step env) (World.start env storage moved) history final) :
    (Everywhere World.Served history final ↔ Allowed (BoundWhenPointed env) history) ∧
      ∀ (state : GuiState) (forceRestart : Bool) (bind : Except String Unit) (error : String)
        (server : PacServer), state.pacServer = some server →
          server.listen ≠ state.config.pacListen →
            (state.restartPacServer forceRestart bind).2 = .error error →
              (state.restartPacServer forceRestart bind).1.pacServer = some server := by
  refine ⟨?_, fun state forceRestart bind error server running other failed =>
    GuiState.restartPacServer_keeps running other failed⟩
  have initial : (World.start env storage moved).PacInOrder :=
    ⟨pacKept_new env storage moved, fun call member => by cases member⟩
  refine run.everywhere_iff_allowed initial ?_ (fun _ held => held.served) ?_
  · rintro world action next ⟨kept, served⟩ bound taken
    cases action with
    | perform operation answers now =>
        obtain ⟨-, done, -⟩ := step_perform taken
        have pointed := pointed_perform kept done
        obtain ⟨new, calls, inOrder⟩ := pointed.calls
        refine ⟨pointed.kept, fun call member => ?_⟩
        rw [calls] at member
        rcases List.mem_append.mp member with made | earlier
        · exact inOrder.mpr bound call made
        · exact served call earlier
    | external file content =>
        obtain rfl := Option.some.inj taken
        exact ⟨⟨kept.listening, kept.generated⟩, served⟩
    | rules chinaList gfw =>
        obtain rfl := Option.some.inj taken
        exact ⟨⟨kept.listening, kept.generated⟩, served⟩
  · rintro world action next ⟨kept, served⟩ unbound taken every
    cases action with
    | perform operation answers now =>
        obtain ⟨-, done, -⟩ := step_perform taken
        obtain ⟨new, calls, inOrder⟩ := (pointed_perform kept done).calls
        refine unbound (inOrder.mp fun call made => every call ?_)
        rw [calls]
        exact List.mem_append_left _ made
    | external file content => exact unbound trivial
    | rules chinaList gfw => exact unbound trivial

end Runs

/-- The saved PAC mode is applied at startup, by a listener that could be bound. -/
theorem served_iff_boundWhenPointed_startup :
    ∃ history final, Run (step proxyEnv) (.start proxyEnv proxyStorage fun _ => false) history final ∧
      final.controller.appliedMode = some .pac ∧ Everywhere World.Served history final := by
  have executed : ((exec (step proxyEnv) (.start proxyEnv proxyStorage fun _ => false)
      [.perform .startup .willing 0]).any fun final =>
        decide (final.controller.appliedMode = some .pac)) = true := by
    decide +kernel
  obtain ⟨final, ended, applied⟩ := (Option.any_eq_true _ _).mp executed
  refine ⟨_, final, run_trace ended, of_decide_eq_true applied, ?_⟩
  exact (served_iff_boundWhenPointed (run_trace ended)).1.mpr
    (allowed_trace fun world action member => by
      obtain rfl := List.mem_singleton.mp member
      exact fun _ => rfl)

/-- When the listener cannot be bound, the startup points the OS at it all the same. -/
theorem startup_points_at_unserved :
    ∃ history final, Run (step proxyEnv) (.start proxyEnv proxyStorage fun _ => false) history final ∧
      final.controller.appliedMode = some .pac ∧ final.controller.gui.pacServer = none ∧
      ¬ Everywhere World.Served history final := by
  have executed : ((exec (step proxyEnv) (.start proxyEnv proxyStorage fun _ => false)
      [.perform .startup .occupied 0]).any fun final =>
        decide (final.controller.appliedMode = some .pac) &&
          decide (final.controller.gui.pacServer = none) &&
          final.controller.proxyCalls.any fun call =>
            decide call.config.PointsAtLocal && decide (call.gui.pacServer = none)) = true := by
    decide +kernel
  obtain ⟨final, ended, facts⟩ := (Option.any_eq_true _ _).mp executed
  simp only [Bool.and_eq_true, decide_eq_true_eq, List.any_eq_true] at facts
  obtain ⟨⟨applied, stopped⟩, call, member, points, unserved⟩ := facts
  refine ⟨_, final, run_trace ended, applied, stopped, fun every => ?_⟩
  obtain ⟨server, running, -⟩ := every.2 call member points
  rw [unserved] at running
  cases running

end Juicity.Gui

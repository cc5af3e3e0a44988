import Juicity.Gui.Controller.Sides

/-!
Contract: what one operation does to the core. It is left alone, started with the
active node, which succeeds or fails, stopped, or found to have exited; the node side
stays as it is but for the operations on nodes.
-/

namespace Juicity.Gui

open Juicity.Common Juicity.Machine

/-- What an operation does to the core side; `active` is the active node after it. -/
inductive CoreStep (operation : Operation) (answers : Answers) (before : CoreSide)
    (active : Option StoredProfile) : CoreSide → Prop where
  | kept : CoreStep operation answers before active before
  | started (profile : StoredProfile) (node : active = some profile)
      (complete : missingFields profile = []) (done : answers.startCore = .ok ()) :
      CoreStep operation answers before active
        ⟨true, some profile, .start profile (.ok ()) :: before.calls, true⟩
  | failed (profile : StoredProfile) (error : String) (startedWith : Option StoredProfile)
      (wasRunning : Bool) (refused : answers.startCore = .error error)
      (cleared : before.connected = true → wasRunning = false)
      (idle : before.connected = false → wasRunning = before.wasRunning) :
      CoreStep operation answers before active
        ⟨false, startedWith, .start profile (.error error) :: before.calls, wasRunning⟩
  | stopped : CoreStep operation answers before active ⟨false, none, .stop :: before.calls, false⟩
  | exited (polled : operation = .pollCore) (reason : String)
      (answer : answers.pollCore = some reason) (running : before.connected = true) :
      CoreStep operation answers before active ⟨false, none, before.calls, before.wasRunning⟩
  | shut (leaving : operation = .shutdown) :
      CoreStep operation answers before active
        ⟨false, before.startedWith, .stop :: before.calls, before.wasRunning⟩

namespace Controller

variable {Digest : Type} (answers : Answers) (now : Nat) (controller : Controller Digest)
  {after : Controller Digest} {operation : Operation}

theorem selectedProfile_of_nodeSide (same : after.nodeSide = controller.nodeSide) :
    after.gui.selectedProfile = controller.gui.selectedProfile :=
  congrArg (fun side : NodeSide => side.row side.active) same

/-! ## Starting and stopping -/

@[simp] theorem nodeSide_startCore (profile : StoredProfile) :
    (controller.startCore answers now profile).nodeSide = controller.nodeSide := by
  unfold startCore
  cases answers.startCore with
  | ok =>
      dsimp only
      split
      · rfl
      · rfl
      · rfl
      · rfl
      · rfl
  | error =>
      dsimp only
      split
      · rfl
      · rfl

@[simp] theorem nodeSide_startActive :
    (controller.startActive answers now).nodeSide = controller.nodeSide := by
  unfold startActive
  split
  · rfl
  · split
    · rw [nodeSide_startCore]
    · rfl

@[simp] theorem nodeSide_toggleConnection :
    (controller.toggleConnection answers now).nodeSide = controller.nodeSide := by
  unfold toggleConnection
  split
  · rfl
  · rw [nodeSide_startActive]

@[simp] theorem nodeSide_pollCore :
    (controller.pollCore answers).nodeSide = controller.nodeSide := by
  unfold pollCore
  split
  · split
    · rfl
    · rfl
  · rfl

theorem coreCalls_startCore (profile : StoredProfile) :
    (controller.startCore answers now profile).coreCalls =
      .start profile answers.startCore :: controller.coreCalls := by
  unfold startCore
  cases answers.startCore with
  | ok =>
      dsimp only
      split
      · rfl
      · rfl
      · rfl
      · rfl
      · rfl
  | error =>
      dsimp only
      split
      · rfl
      · rfl

theorem coreStep_startCore {profile : StoredProfile}
    (node : controller.gui.selectedProfile = some profile) (complete : missingFields profile = []) :
    CoreStep operation answers controller.coreSide controller.gui.selectedProfile
      (controller.startCore answers now profile).coreSide := by
  unfold startCore
  cases outcome : answers.startCore with
  | ok =>
      dsimp only
      split
      all_goals exact .started profile node complete outcome
  | error error =>
      dsimp only
      cases running : controller.connected with
      | true =>
          rw [if_pos rfl]
          exact .failed profile error none false outcome (fun _ => rfl)
            fun idle => nomatch running.symm.trans idle
      | false =>
          rw [if_neg Bool.false_ne_true]
          have failed : CoreStep operation answers controller.coreSide
              controller.gui.selectedProfile ⟨false, controller.nodes.startedWith,
                .start profile (.error error) :: controller.coreCalls,
                controller.gui.runtime.wasRunning⟩ :=
            .failed profile error _ _ outcome (fun connected => nomatch running.symm.trans connected)
              fun _ => rfl
          exact failed

theorem coreStep_startActive :
    CoreStep operation answers controller.coreSide controller.gui.selectedProfile
      (controller.startActive answers now).coreSide := by
  unfold startActive
  cases node : controller.gui.selectedProfile with
  | none => exact .kept
  | some profile =>
      dsimp only
      split
      · rename_i complete
        rw [← node]
        exact coreStep_startCore answers now controller node complete
      · exact .kept

theorem coreStep_toggleConnection :
    CoreStep operation answers controller.coreSide controller.gui.selectedProfile
      (controller.toggleConnection answers now).coreSide := by
  unfold toggleConnection
  split
  · exact .stopped
  · exact coreStep_startActive answers now controller

theorem coreStep_pollCore (polled : operation = .pollCore) :
    CoreStep operation answers controller.coreSide controller.gui.selectedProfile
      (controller.pollCore answers).coreSide := by
  unfold pollCore
  split
  · rename_i running
    split
    · rename_i reason answer
      exact .exited polled reason answer running
    · exact .kept
  · exact .kept

/-- A start when the active node lacks nothing is a call of the core. -/
theorem coreCalls_startActive {profile : StoredProfile}
    (node : controller.gui.selectedProfile = some profile) (complete : missingFields profile = []) :
    (controller.startActive answers now).coreCalls =
      .start profile answers.startCore :: controller.coreCalls := by
  unfold startActive
  rw [node]
  dsimp only
  rw [if_pos complete, coreCalls_startCore]

/-- A core that has to follow a list command: it is stopped when the new active node is
incomplete, and restarted otherwise. -/
def follow : Controller Digest :=
  (if controller.gui.selectedProfile.all fun profile => decide (missingFields profile ≠ []) then
    controller.toggleConnection answers now else controller).startActive answers now

theorem nodeSide_follow : (controller.follow answers now).nodeSide = controller.nodeSide := by
  unfold follow
  rw [nodeSide_startActive]
  split
  · rw [nodeSide_toggleConnection]
  · rfl

/-- A running core that follows is not left alone. -/
theorem coreStep_follow (operation : Operation) (running : controller.connected = true) :
    CoreStep operation answers controller.coreSide controller.gui.selectedProfile
        (controller.follow answers now).coreSide ∧
      (controller.follow answers now).coreCalls ≠ controller.coreCalls := by
  have stopped : (controller.toggleConnection answers now).coreSide =
      ⟨false, none, .stop :: controller.coreCalls, false⟩ := by
    unfold toggleConnection
    rw [if_pos running]
    rfl
  have sameNode := selectedProfile_of_nodeSide controller
    (nodeSide_toggleConnection answers now controller)
  unfold follow
  by_cases incomplete : (controller.gui.selectedProfile.all fun profile =>
      decide (missingFields profile ≠ [])) = true
  · rw [if_pos incomplete]
    have unstarted : ((controller.toggleConnection answers now).startActive answers now).coreSide =
        ⟨false, none, .stop :: controller.coreCalls, false⟩ := by
      rw [← stopped, startActive, sameNode]
      cases node : controller.gui.selectedProfile with
      | none => rfl
      | some profile =>
          rw [node, Option.all_some, decide_eq_true_eq] at incomplete
          dsimp only
          rw [if_neg incomplete]
          rfl
    rw [unstarted]
    exact ⟨.stopped, fun same => List.cons_ne_self _ _
      ((congrArg CoreSide.calls unstarted).symm.trans same)⟩
  · rw [if_neg incomplete]
    refine ⟨coreStep_startActive answers now controller, ?_⟩
    cases node : controller.gui.selectedProfile with
    | none =>
        rw [node] at incomplete
        exact absurd rfl incomplete
    | some profile =>
        rw [node, Option.all_some, decide_eq_true_eq, not_not] at incomplete
        rw [coreCalls_startActive answers now controller node incomplete]
        exact List.cons_ne_self _ _

/-! ## Start and exit -/

/-- The startup setting asks for a connection. -/
def asksConnection : Bool :=
  match controller.gui.runtime.startupConnectionState with
  | .off => false
  | .on => true
  | .lastState => controller.gui.runtime.wasRunning

theorem startupConnection_eq :
    controller.startupConnection answers now =
      if controller.asksConnection then controller.startActive answers now else controller := rfl

/-- Of a startup the sides see the connection only. -/
theorem sides_startup :
    (controller.startup answers now).1.sides =
      (((controller.restartPac answers true).1).startupConnection answers now).sides := by
  unfold startup
  dsimp only
  generalize ((controller.restartPac answers true).1).startupConnection answers now = middle
  have applied : (if middle.gui.config.systemProxyMode = .disable then middle
      else middle.applyProxy answers).sides = middle.sides := by
    split
    · rfl
    · rw [sides_applyProxy]
  generalize (if middle.gui.config.systemProxyMode = .disable then middle
      else middle.applyProxy answers) = appliedAfter at applied ⊢
  split
  · rw [sides_beginRules, applied]
  · exact applied

theorem coreStep_startupConnection :
    CoreStep operation answers controller.coreSide controller.gui.selectedProfile
      (controller.startupConnection answers now).coreSide := by
  rw [startupConnection_eq]
  split
  · exact coreStep_startActive answers now controller
  · exact .kept

theorem nodeSide_startupConnection :
    (controller.startupConnection answers now).nodeSide = controller.nodeSide := by
  rw [startupConnection_eq]
  split
  · rw [nodeSide_startActive]
  · rfl

theorem nodeSide_startup : (controller.startup answers now).1.nodeSide = controller.nodeSide := by
  have connected := congrArg Sides.nodes (sides_startup answers now controller)
  have served := congrArg Sides.nodes (sides_restartPac answers controller true)
  exact (connected.trans (nodeSide_startupConnection answers now _)).trans served

/-- What surrounds a step on the core and leaves both sides alone. -/
theorem coreStep_of_sides {first last : Controller Digest}
    (step : CoreStep operation answers first.coreSide first.gui.selectedProfile last.coreSide)
    (entered : first.sides = controller.sides) (left : after.sides = last.sides) :
    CoreStep operation answers controller.coreSide controller.gui.selectedProfile
      after.coreSide := by
  rw [← selectedProfile_of_nodeSide controller (congrArg Sides.nodes entered),
    show controller.coreSide = first.coreSide from (congrArg Sides.core entered).symm,
    show after.coreSide = last.coreSide from congrArg Sides.core left]
  exact step

theorem coreStep_startup :
    CoreStep operation answers controller.coreSide controller.gui.selectedProfile
      (controller.startup answers now).1.coreSide :=
  coreStep_of_sides answers controller (coreStep_startupConnection answers now _)
    (sides_restartPac answers controller true) (sides_startup answers now controller)

variable (env : Env Digest)

theorem nodeSide_shutdown :
    (controller.shutdown env answers now).nodeSide = controller.nodeSide := by
  unfold shutdown
  dsimp only
  split
  · rfl
  · rfl

theorem coreStep_shutdown (leaving : operation = .shutdown) :
    CoreStep operation answers controller.coreSide controller.gui.selectedProfile
      (controller.shutdown env answers now).coreSide := by
  unfold shutdown
  dsimp only
  split
  · exact .shut leaving
  · exact .shut leaving

/-! ## The port of the core -/

theorem applyListenChange_sides :
    ∃ applied : Controller Digest, applied.sides = controller.sides ∧
      controller.applyListenChange answers now =
        if applied.connected then applied.startActive answers now else applied := by
  unfold applyListenChange
  have restarted := sides_restartPac answers controller false
  generalize controller.restartPac answers false = restart at restarted ⊢
  obtain ⟨middle, outcome⟩ := restart
  refine ⟨_, ?_, rfl⟩
  split
  · rw [sides_report, restarted]
  · rw [sides_applyProxy, sides_report, restarted]

/-- A setting is committed: nothing happens to the core, or its port changed. -/
theorem commitSetting_sides (taken : controller.commitSetting env answers now = some after) :
    after.sides = controller.sides ∨ ∃ applied : Controller Digest,
      applied.sides = controller.sides ∧ applied.connected = true ∧
        after = applied.startActive answers now := by
  unfold commitSetting at taken
  split at taken
  · obtain rfl := Option.some.inj taken
    exact .inl rfl
  · rename_i sheet opened
    split at taken
    · obtain rfl := Option.some.inj taken
      exact .inl rfl
    · rename_i value valid
      by_cases portless : sheet.key ≠ .mixedPort
      · exact .inl ((sides_commitValue answers now _ portless taken).trans rfl)
      · rw [not_not.mp portless] at taken
        obtain ⟨port, -, split⟩ := Option.bind_eq_some_iff.mp taken
        obtain ⟨⟨host, _⟩, -, rfl⟩ := Option.map_eq_some_iff.mp split
        dsimp only
        split
        · exact .inl rfl
        · obtain ⟨applied, same, restart⟩ := applyListenChange_sides answers now
            ((({ controller with sheet := none } : Controller Digest).changeConfig now
              { controller.gui.config with mixedListen := formatHostPort host port }))
          rw [restart]
          split
          · rename_i running
            exact .inr ⟨applied, same, running, rfl⟩
          · exact .inl same

theorem nodeSide_commitSetting (taken : controller.commitSetting env answers now = some after) :
    after.nodeSide = controller.nodeSide := by
  rcases commitSetting_sides answers now controller env taken with same | ⟨applied, same, -, rfl⟩
  · exact congrArg Sides.nodes same
  · rw [nodeSide_startActive]
    exact congrArg Sides.nodes same

theorem coreStep_commitSetting (taken : controller.commitSetting env answers now = some after) :
    CoreStep operation answers controller.coreSide controller.gui.selectedProfile
      after.coreSide := by
  rcases commitSetting_sides answers now controller env taken with same | ⟨applied, same, -, rfl⟩
  · rw [show after.coreSide = controller.coreSide from congrArg Sides.core same]
    exact .kept
  · exact coreStep_of_sides answers controller (coreStep_startActive answers now applied) same rfl

end Controller

end Juicity.Gui

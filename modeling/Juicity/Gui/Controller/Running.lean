import Juicity.Gui.Controller.CorePerform
import Juicity.Gui.Controller.Indices

/-!
Contract: the core that runs and the node it was started for. Every operation but a
reload of files keeps the two together, restarting or stopping the core where the
active node changes. Dropping the unsaved edits does neither, so it is fine only
while the active node is the one that was saved as active.
-/

namespace Juicity.Gui

open Juicity.Common Juicity.Machine

/-! ## Events that leave the active index on its node -/

namespace Names

variable {names : Names} {side : NodeSide}

/-- The event keeps the active index on the same node. -/
def KeepsActive (names : Names) (side : NodeSide) : NodeEvent → Prop
  | .activate index => (side.activate index).active = side.active
  | .command index command =>
      ¬(command = .delete ∧ index = side.active ∧ index < side.rows.length ∧ 1 < side.rows.length)
  | .revert => side.dirty = true → names.saved[side.saved.active]? = names.working[side.active]?
  | .reload _ _ => False
  | .select _ | .append _ | .edit _ _ | .openSheet | .editSheet _ _ | .commitSheet | .cancelSheet
  | .save _ => True

theorem active_take (tracks : names.Tracks side) (coherent : side.Coherent) {name : Nat}
    (held : names.working[side.active]? = some name) {event : NodeEvent}
    (keeps : names.KeepsActive side event) :
    (names.take side event).working[(side.take event).active]? = some name := by
  obtain ⟨known, _⟩ := List.getElem?_eq_some_iff.mp held
  cases event with
  | select index =>
      show (if _ then _ else _ : Names).working[(if _ then _ else _ : NodeSide).active]? = _
      by_cases stays : index = side.selected ∨ index ≥ side.rows.length
      · rw [if_pos stays, if_pos stays]
        exact held
      · rw [if_neg stays, if_neg stays]
        exact held
  | append added =>
      show (names.working ++ _)[side.active]? = _
      rw [List.getElem?_append_left known]
      exact held
  | command index command =>
      show (names.command side index command).working[(side.command index command).active]? = _
      rcases command_cases tracks index command with
        ⟨same, stays, -⟩ | ⟨rows, remap, moved, edited⟩
      · rw [same, stays]
        exact held
      · have inList : side.active < side.rows.length := by rw [← tracks.working]; exact known
        have several (deletes : command = .delete) : 1 < side.rows.length :=
          Nat.lt_of_le_of_ne (Nat.succ_le_of_lt (Nat.zero_lt_of_lt inList))
            (several_of_delete moved.done deletes).symm
        rw [(rows_command edited).2, moved.kept _ inList fun ⟨deletes, here⟩ =>
          keeps ⟨deletes, here.symm, moved.inside, several deletes⟩]
        exact held
  | edit field value =>
      show names.working[(NodeSide.commit _).active]? = _
      rw [NodeSide.active_commit]
      exact held
  | activate index =>
      show names.working[(side.activate index).active]? = _
      rw [show (side.activate index).active = side.active from keeps]
      exact held
  | openSheet | editSheet | cancelSheet => exact held
  | commitSheet =>
      show names.working[side.commitSheet.active]? = _
      unfold NodeSide.commitSheet
      split
      · exact held
      · rw [NodeSide.active_commit]
        exact held
  | save saved =>
      show (if _ then _ else _ : Names).working[side.active]? = _
      split
      · exact held
      · exact held
  | revert =>
      show (if _ then _ else _ : Names).working[side.revert.active]? = _
      cases edited : side.dirty with
      | false =>
          rw [if_neg (by decide), NodeSide.revert, edited, if_pos rfl]
          exact held
      | true =>
          rw [if_pos rfl, coherent.revert_eq edited]
          exact (keeps edited).trans held
  | reload => exact keeps.elim

end Names

/-! ## The operation behind an event -/

section Events

variable {Digest : Type} [DecidableEq Digest] {env : Env Digest} {answers : Answers} {now : Nat}
  {controller after : Controller Digest} {operation : Operation} {event : NodeEvent}

/-- The operations that events of these kinds come from. -/
def NodeEvent.ComesFrom (controller : Controller Digest) (operation : Operation) :
    NodeEvent → Prop
  | .activate index =>
      operation = .setActiveNode ∧ index = controller.nodes.selected ∨
        operation = .onTray (.selectNode index)
  | .command index given => operation = .nodeCommand index given
  | .revert => operation = .revertNodes ∨ operation = .answerPrompt .discard
  | .reload _ _ => operation = .onFilesChanged
  | _ => True

theorem comesFrom_of_nodeEvent
    (happens : operation.nodeEvent env answers now controller = some event) :
    event.ComesFrom controller operation := by
  have pasted : ∀ text, env.importEvent text = some event →
      event.ComesFrom controller operation := by
    intro text read
    unfold Env.importEvent at read
    split at read
    · obtain rfl := Option.some.inj read
      exact trivial
    · cases read
  have clipboard : answers.pasteEvent env = some event → event.ComesFrom controller operation := by
    intro read
    unfold Answers.pasteEvent at read
    split at read
    · exact pasted _ read
    · cases read
  cases operation with
  | importText text => exact pasted text happens
  | importLinks => exact clipboard happens
  | setActiveNode =>
      obtain rfl := Option.some.inj happens
      exact .inl ⟨rfl, rfl⟩
  | revertNodes =>
      obtain rfl := Option.some.inj happens
      exact .inl rfl
  | answerPrompt answer =>
      dsimp only [Operation.nodeEvent] at happens
      split at happens
      · obtain rfl := Option.some.inj happens
        exact trivial
      · obtain rfl := Option.some.inj happens
        exact .inr rfl
      · cases happens
      · cases happens
  | onFilesChanged =>
      dsimp only [Operation.nodeEvent] at happens
      split at happens
      · cases happens
      · obtain rfl := Option.some.inj happens
        exact rfl
  | commitAdvanced =>
      dsimp only [Operation.nodeEvent] at happens
      split at happens
      · obtain rfl := Option.some.inj happens
        exact trivial
      · cases happens
  | onTray event =>
      cases event with
      | importClipboard => exact clipboard happens
      | selectNode index =>
          obtain rfl := Option.some.inj happens
          exact .inr rfl
      | _ => cases happens
  | nodeCommand =>
      obtain rfl := Option.some.inj happens
      exact rfl
  | selectNode | addNode | editNode | openAdvanced | editAdvanced | cancelAdvanced | saveNodes =>
      obtain rfl := Option.some.inj happens
      exact trivial
  | _ => cases happens

/-- A revert leaves the core alone. -/
theorem coreSide_of_revert
    (happens : operation.nodeEvent env answers now controller = some .revert)
    (taken : operation.perform env answers now controller = some after) :
    after.coreSide = controller.coreSide := by
  rcases comesFrom_of_nodeEvent happens with rfl | rfl
  · obtain rfl := Option.some.inj taken
    exact Controller.coreSide_revertNodes
  · obtain rfl := Option.some.inj taken
    exact Controller.coreSide_answerPrompt .discard

/-- An operation that leaves a running core alone keeps the active index on its node,
unless it drops edits. -/
theorem keepsActive_of_kept (names : Names) (loaded : operation ≠ .onFilesChanged)
    (happens : operation.nodeEvent env answers now controller = some event)
    (taken : operation.perform env answers now controller = some after)
    (running : controller.connected = true) (kept : after.coreCalls = controller.coreCalls)
    (reverts : event = .revert → controller.nodeSide.dirty = true →
      names.saved[controller.nodeSide.saved.active]? = names.working[controller.nodeSide.active]?) :
    names.KeepsActive controller.nodeSide event := by
  have source := comesFrom_of_nodeEvent happens
  cases event with
  | activate index =>
      have side := Controller.nodeSide_perform taken
      rw [happens] at side
      have active : after.nodeSide.active = controller.nodeSide.active := by
        rcases source with ⟨rfl, rfl⟩ | rfl
        · obtain rfl := Option.some.inj taken
          exact (Controller.coreStep_setActiveNode .setActiveNode).2 running kept
        · obtain rfl := Option.some.inj taken
          exact (Controller.coreStep_activateNode (.onTray (.selectNode index)) index).2 running kept
      exact (congrArg NodeSide.active side).symm.trans active
  | command index command =>
      obtain rfl : operation = .nodeCommand index command := source
      obtain rfl := Option.some.inj taken
      exact (Controller.coreStep_nodeCommand (.nodeCommand index command) index command).2 running
        kept
  | revert => exact reverts rfl
  | reload => exact absurd source loaded
  | _ => exact trivial

end Events

/-! ## The core in one state -/

def CoreCall.asStart : CoreCall → Option (StoredProfile × Except String Unit)
  | .start profile outcome => some (profile, outcome)
  | .stop => none

/-- The last start among the calls, newest first, and what came of it. -/
def lastStart (calls : List CoreCall) : Option (StoredProfile × Except String Unit) :=
  calls.findSome? CoreCall.asStart

/-- A core believed to run was started by the newest call, with the profile noted. -/
def CoreSide.Answered (core : CoreSide) : Prop :=
  core.connected = true → ∃ profile earlier, core.calls = .start profile (.ok ()) :: earlier ∧
    core.startedWith = some profile

namespace CoreStep

variable {operation : Operation} {answers : Answers} {before after : CoreSide}
  {active : Option StoredProfile}

theorem answered (step : CoreStep operation answers before active after)
    (was : before.Answered) : after.Answered := by
  cases step with
  | kept => exact was
  | started profile => exact fun _ => ⟨profile, before.calls, rfl, rfl⟩
  | failed | stopped | exited | shut => exact fun running => nomatch running

/-- After a step that leaves a core running, it is the core that ran before, or one that
was started with the active node. -/
theorem running_cases (step : CoreStep operation answers before active after)
    (running : after.connected = true) :
    before.connected = true ∧ after.calls = before.calls ∨
      ∃ profile, active = some profile ∧ after.calls = .start profile (.ok ()) :: before.calls := by
  cases step with
  | kept => exact .inl ⟨running, rfl⟩
  | started profile node => exact .inr ⟨profile, node, rfl⟩
  | failed | stopped | exited | shut => cases running

end CoreStep

/-! ## Runs -/

section Runs

variable {Digest : Type}

/-- The profile of a start that succeeded between two states. -/
def startedSince (before after : Controller Digest) : Option StoredProfile :=
  if after.coreCalls.length = before.coreCalls.length then none
  else
    match after.coreCalls with
    | .start profile (.ok ()) :: _ => some profile
    | _ => none

/-- The application with the names of its nodes, and the node that the core was last
started with successfully. -/
structure Session (Digest : Type) where
  tracked : Tracked Digest
  running : Option Nat

namespace Session

variable (session : Session Digest)

def controller : Controller Digest := session.tracked.world.controller

/-- The node of the last successful start after a step: a start that was given the row
of the active node is a start of that node. -/
def runningAfter (tracked : Tracked Digest) : Option Nat :=
  match startedSince session.controller tracked.world.controller with
  | none => session.running
  | some profile =>
      if tracked.world.controller.gui.selectedProfile = some profile then tracked.activeNode
      else none

def start (env : Env Digest) (storage : Storage) (moved : ConfigFile → Bool) : Session Digest :=
  ⟨.start env storage moved, none⟩

/-- The core runs the active node, which is one of the working list, and the controller
knows whether and with what. -/
structure RunsActiveNode : Prop where
  node : session.controller.connected = true →
    ∃ name, session.running = some name ∧ session.tracked.activeNode = some name
  startedWith : session.controller.connected = true →
    ∃ profile, lastStart session.controller.coreCalls = some (profile, .ok ()) ∧
      session.controller.nodes.startedWith = some profile
  failed : ∀ profile error, lastStart session.controller.coreCalls = some (profile, .error error) →
    session.controller.connected = false
  stopped : session.controller.coreCalls.head? = some .stop → session.controller.connected = false

end Session

def Action.reloads : Action → Bool
  | .perform .onFilesChanged _ _ => true
  | _ => false

variable [DecidableEq Digest]

/-- The steps but for a reload of files, which may replace the list. -/
def sessionStep (env : Env Digest) : Session Digest → Action → Option (Session Digest) :=
  within (fun action => !action.reloads) fun session action =>
    (trackedStep env session.tracked action).map fun tracked =>
      ⟨tracked, session.runningAfter tracked⟩

/-- Edits are dropped only if the core is stopped, or the active node is the one that was
saved as active. -/
def KeepsRunning (env : Env Digest) (session : Session Digest) : Action → Prop
  | .perform operation answers now =>
      operation.nodeEvent env answers now session.controller = some .revert →
        session.controller.connected = true → session.controller.nodesDirty = true →
          session.tracked.names.saved[session.controller.saved.active]? = session.tracked.activeNode
  | .external _ _ | .rules _ _ => True

/-- What holds while edits are dropped in that way only. -/
structure Session.Sound (session : Session Digest) : Prop where
  fits : session.tracked.Fits
  answered : session.controller.coreSide.Answered
  node : session.controller.connected = true →
    ∃ name, session.running = some name ∧ session.tracked.activeNode = some name

variable {env : Env Digest} {storage : Storage} {moved : ConfigFile → Bool}
  {session after : Session Digest} {action : Action}

omit [DecidableEq Digest] in
theorem Session.Sound.runsActiveNode (sound : session.Sound) : session.RunsActiveNode := by
  refine ⟨sound.node, fun running => ?_, fun profile error last => ?_, fun last => ?_⟩
  · obtain ⟨profile, earlier, calls, startedWith⟩ := sound.answered running
    exact ⟨profile, congrArg lastStart calls, startedWith⟩
  · by_contra running
    rw [Bool.not_eq_false] at running
    obtain ⟨started, earlier, calls, -⟩ := sound.answered running
    have succeeded : lastStart session.controller.coreCalls = some (started, .ok ()) :=
      congrArg lastStart calls
    rw [last] at succeeded
    cases succeeded
  · by_contra running
    rw [Bool.not_eq_false] at running
    obtain ⟨started, earlier, calls, -⟩ := sound.answered running
    have newest : session.controller.coreCalls.head? = some (.start started (.ok ())) :=
      congrArg List.head? calls
    rw [last] at newest
    cases newest

theorem sessionStep_eq_some : sessionStep env session action = some after ↔
    action.reloads = false ∧ trackedStep env session.tracked action = some after.tracked ∧
      after.running = session.runningAfter after.tracked := by
  rw [sessionStep, within_eq_some, Option.map_eq_some_iff, Bool.not_eq_true']
  constructor
  · rintro ⟨kept, tracked, taken, rfl⟩
    exact ⟨kept, taken, rfl⟩
  · rintro ⟨kept, taken, running⟩
    exact ⟨kept, after.tracked, taken, by rw [← running]⟩

omit [DecidableEq Digest] in
/-- Without a call of the core its node stays. -/
theorem Session.runningAfter_of_same {tracked : Tracked Digest}
    (same : tracked.world.controller.coreCalls = session.controller.coreCalls) :
    session.runningAfter tracked = session.running := by
  unfold runningAfter startedSince
  rw [same, if_pos rfl]

omit [DecidableEq Digest] in
theorem Session.runningAfter_of_start {tracked : Tracked Digest} {profile : StoredProfile}
    (started : tracked.world.controller.coreCalls =
      .start profile (.ok ()) :: session.controller.coreCalls)
    (node : tracked.world.controller.gui.selectedProfile = some profile) :
    session.runningAfter tracked = tracked.activeNode := by
  have longer : tracked.world.controller.coreCalls.length ≠ session.controller.coreCalls.length := by
    rw [started]
    exact Nat.succ_ne_self _
  unfold runningAfter startedSince
  rw [if_neg longer, started]
  exact if_pos node

omit [DecidableEq Digest] in
/-- The active row has a name. -/
theorem Tracked.Fits.activeNode_of_row {tracked : Tracked Digest} (fits : tracked.Fits)
    {profile : StoredProfile}
    (node : tracked.world.controller.gui.selectedProfile = some profile) :
    ∃ name, tracked.activeNode = some name := by
  obtain ⟨inside, -⟩ := List.getElem?_eq_some_iff.mp node
  have named : tracked.active < tracked.names.working.length := by
    rw [fits.tracks.working]
    exact inside
  exact ⟨_, List.getElem?_eq_getElem named⟩

/-- What an operation that leaves a running core alone does to its node. -/
theorem Session.Sound.activeNode {operation : Operation} {answers : Answers} {now : Nat}
    (sound : session.Sound) (loaded : operation ≠ .onFilesChanged)
    (keeps : KeepsRunning env session (.perform operation answers now))
    (taken : trackedStep env session.tracked (.perform operation answers now) = some after.tracked)
    (running : session.controller.connected = true)
    (kept : after.controller.coreCalls = session.controller.coreCalls) {name : Nat}
    (active : session.tracked.activeNode = some name) : after.tracked.activeNode = some name := by
  have performed := (step_perform (trackedStep_eq_some.mp taken).1).2.1
  show after.tracked.names.working[after.tracked.world.controller.nodeSide.active]? = _
  rcases trackedStep_cases taken with ⟨side, names⟩ | ⟨_, _, _, event, same, happens, side, names⟩
  · rw [side, names]
    exact active
  · obtain ⟨rfl, rfl, rfl⟩ := Action.perform.inj same
    rw [side, names]
    refine Names.active_take sound.fits.tracks sound.fits.coherent active
      (keepsActive_of_kept session.tracked.names loaded happens performed running kept ?_)
    rintro rfl edited
    refine keeps happens running ?_
    rw [Controller.nodesDirty_eq]
    exact edited

omit [DecidableEq Digest] in
/-- What other programs do to the files is no matter of the core. -/
theorem Session.Sound.of_sides (sound : session.Sound) (fits : after.tracked.Fits)
    (sides : after.controller.sides = session.controller.sides)
    (names : after.tracked.names = session.tracked.names)
    (ran : after.running = session.runningAfter after.tracked) : after.Sound := by
  have core : after.controller.coreSide = session.controller.coreSide := congrArg Sides.core sides
  have active : after.tracked.activeNode = session.tracked.activeNode := by
    rw [Tracked.activeNode, names]
    exact congrArg (fun sides : Sides => session.tracked.names.working[sides.nodes.active]?) sides
  refine ⟨fits, by rw [core]; exact sound.answered, fun running => ?_⟩
  rw [ran, runningAfter_of_same (congrArg CoreSide.calls core), active]
  exact sound.node ((congrArg CoreSide.connected core).symm.trans running)

theorem Session.Sound.step (sound : session.Sound) (keeps : KeepsRunning env session action)
    (taken : sessionStep env session action = some after) : after.Sound := by
  obtain ⟨kept, tracked, ran⟩ := sessionStep_eq_some.mp taken
  have fits := sound.fits.step tracked
  cases action with
  | perform operation answers now =>
      have loaded : operation ≠ .onFilesChanged := by
        rintro rfl
        cases kept
      have performed := (step_perform (trackedStep_eq_some.mp tracked).1).2.1
      have step := Controller.coreStep_perform loaded performed
      refine ⟨fits, step.answered sound.answered, fun running => ?_⟩
      rcases step.running_cases running with ⟨before, calls⟩ | ⟨profile, node, calls⟩
      · obtain ⟨name, runs, active⟩ := sound.node before
        refine ⟨name, ?_, sound.activeNode loaded keeps tracked before calls active⟩
        rw [ran, runningAfter_of_same calls, runs]
      · obtain ⟨name, active⟩ := fits.activeNode_of_row node
        exact ⟨name, by rw [ran, runningAfter_of_start calls node, active], active⟩
  | external file content =>
      obtain ⟨stepped, names⟩ := trackedStep_eq_some.mp tracked
      have sides := congrArg (fun world => world.controller.sides) (Option.some.inj stepped)
      exact sound.of_sides fits sides.symm names ran
  | rules chinaList gfw =>
      obtain ⟨stepped, names⟩ := trackedStep_eq_some.mp tracked
      have sides := congrArg (fun world => world.controller.sides) (Option.some.inj stepped)
      exact sound.of_sides fits sides.symm names ran

/-- Edits dropped while another node than the saved one is active leave the core on a
node that is not the active one. -/
theorem not_runsActiveNode_of_step (sound : session.Sound)
    (drops : ¬KeepsRunning env session action)
    (taken : sessionStep env session action = some after) : ¬after.RunsActiveNode := by
  obtain ⟨-, tracked, ran⟩ := sessionStep_eq_some.mp taken
  cases action with
  | perform operation answers now =>
      simp only [KeepsRunning, Classical.not_imp] at drops
      obtain ⟨happens, running, edited, other⟩ := drops
      rw [Controller.nodesDirty_eq] at edited
      have performed := (step_perform (trackedStep_eq_some.mp tracked).1).2.1
      have core : after.controller.coreSide = session.controller.coreSide :=
        coreSide_of_revert happens performed
      have stays : after.controller.connected = true :=
        (congrArg CoreSide.connected core).trans running
      have change := nodeSide_tracked tracked
      rw [show operation.nodeEvent env answers now session.tracked.world.controller = _
        from happens] at change
      obtain ⟨side, names⟩ := change
      have active : after.tracked.activeNode =
          session.tracked.names.saved[session.controller.saved.active]? := by
        have index : after.tracked.active = session.controller.saved.active :=
          (congrArg NodeSide.active side).trans
            (congrArg NodeSide.active (sound.fits.coherent.revert_eq edited))
        have working : after.tracked.names.working = session.tracked.names.saved :=
          congrArg Names.working (names.trans (if_pos edited))
        rw [Tracked.activeNode, index, working]
      intro follows
      obtain ⟨name, runs, still⟩ := follows.node stays
      obtain ⟨old, ranBefore, activeBefore⟩ := sound.node running
      rw [ran, Session.runningAfter_of_same (congrArg CoreSide.calls core), ranBefore] at runs
      rw [active] at still
      exact other (still.trans (runs.symm.trans activeBefore.symm))
  | external | rules => exact absurd trivial drops

/-- In every run, whatever comes of the starts, the core runs the active node if and only
if edits are dropped with the core stopped, or with the saved node active. -/
theorem runsActiveNode_iff_keepsRunning {history : List (Session Digest × Action)}
    {final : Session Digest} (run : Run (sessionStep env) (.start env storage moved) history final) :
    Everywhere Session.RunsActiveNode history final ↔ Allowed (KeepsRunning env) history :=
  run.everywhere_iff_allowed
    ⟨fits_start env storage moved, fun running => absurd running Bool.false_ne_true,
      fun running => absurd running Bool.false_ne_true⟩
    (fun _ _ _ sound keeps taken => sound.step keeps taken) (fun _ sound => sound.runsActiveNode)
    (fun _ _ _ sound drops taken => not_runsActiveNode_of_step sound drops taken)

end Runs

/-- The second of two nodes is active and runs; the first is deleted, and then the edits
are dropped. -/
theorem runsActiveNode_iff_keepsRunning_deleted :
    ∃ history final, Run (sessionStep nodesEnv) (.start nodesEnv nodesStorage fun _ => false)
        history final ∧
      history.length = 3 ∧ final.controller.connected = true ∧ final.running = some 1 ∧
      (Everywhere Session.RunsActiveNode history final ↔
        Allowed (KeepsRunning nodesEnv) history) := by
  have executed : ((exec (sessionStep nodesEnv) (.start nodesEnv nodesStorage fun _ => false)
      [.perform .toggleConnection .willing 0, .perform (.nodeCommand 0 .delete) .willing 1,
        .perform .revertNodes .willing 2]).any fun final =>
        final.controller.connected && decide (final.running = some 1)) = true := by
    decide +kernel
  obtain ⟨final, ended, facts⟩ := (Option.any_eq_true _ _).mp executed
  rw [Bool.and_eq_true, decide_eq_true_eq] at facts
  have run := run_trace ended
  exact ⟨_, final, run, by decide +kernel, facts.1, facts.2, runsActiveNode_iff_keepsRunning run⟩

/-- A copy of the second node is made, activated and started, and then the edits are
dropped: the core runs on with a node that no longer exists. -/
theorem reverted_node_keeps_running :
    ∃ history final, Run (sessionStep nodesEnv) (.start nodesEnv nodesStorage fun _ => false)
        history final ∧
      final.controller.connected = true ∧ final.running = some 2 ∧
      final.tracked.names.working = [0, 1] ∧
      ¬Everywhere Session.RunsActiveNode history final := by
  have executed : ((exec (sessionStep nodesEnv) (.start nodesEnv nodesStorage fun _ => false)
      [.perform (.nodeCommand 1 .duplicate) .willing 0, .perform .setActiveNode .willing 1,
        .perform .toggleConnection .willing 2, .perform .revertNodes .willing 3]).any fun final =>
        final.controller.connected && decide (final.running = some 2) &&
          decide (final.tracked.names.working = [0, 1])) = true := by
    decide +kernel
  obtain ⟨final, ended, facts⟩ := (Option.any_eq_true _ _).mp executed
  simp only [Bool.and_eq_true, decide_eq_true_eq] at facts
  obtain ⟨⟨running, node⟩, working⟩ := facts
  refine ⟨_, final, run_trace ended, running, node, working, fun every => ?_⟩
  obtain ⟨name, runs, active⟩ := every.2.node running
  rw [node] at runs
  have listed := List.mem_of_getElem? active
  rw [working, ← Option.some.inj runs] at listed
  revert listed
  decide

end Juicity.Gui

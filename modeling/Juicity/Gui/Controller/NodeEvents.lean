import Juicity.Gui.Controller.NodeSteps

/-!
Owns the nodes as a machine of their own: its events, what each does to the node
side, and which event an operation of the controller is.

Contract: `nodeSide_perform` says that the controller refines this machine, and
`sound_nodeEvent` what an event brings from the files.
-/

namespace Juicity.Gui

open Juicity.Common Juicity.Machine

/-- What an operation does to the nodes. -/
inductive NodeEvent where
  | select (index : Nat)
  | append (added : List StoredProfile)
  | command (index : Nat) (command : ListCommand)
  | edit (field : DraftField) (value : String)
  | activate (index : Nat)
  | openSheet
  | editSheet (field : DraftField) (value : String)
  | commitSheet
  | cancelSheet
  | save (saved : Saved)
  | revert
  | reload (saved : Saved) (listed : Bool)

namespace NodeSide

variable (side : NodeSide)

def take : NodeEvent → NodeSide
  | .select index =>
      if index = side.selected ∨ index ≥ side.rows.length then side else side.display index
  | .append added => side.append added
  | .command index command => side.command index command
  | .edit field value =>
      ({ side with draft := side.draft.set field value } : NodeSide).commit
  | .activate index => side.activate index
  | .openSheet => { side with advanced := some side.draft }
  | .editSheet field value =>
      { side with advanced := side.advanced.map fun sheet => sheet.set field value }
  | .commitSheet => side.commitSheet
  | .cancelSheet => { side with advanced := none }
  | .save saved => { side with saved }
  | .revert => side.revert
  | .reload saved listed => side.reload saved listed

/-- What an event brings: rows to append, saved nodes that a save left or that were read. -/
def Sound : NodeEvent → Prop
  | .append added => added ≠ []
  | .save saved =>
      saved = side.saved ∨ saved.profiles = side.profiles ∧
        (saved.active = min side.saved.active (side.rows.length - 1) ∨
          saved.active = min side.active (side.rows.length - 1))
  | .reload saved listed =>
      saved.active < saved.profiles.profiles.length ∧
        (listed = false → saved.profiles = side.saved.profiles)
  | _ => True

end NodeSide

section Events

variable {Digest : Type}

/-- A text of links, unless it holds none. -/
def Env.importEvent (env : Env Digest) (text : String) : Option NodeEvent :=
  match env.links text with
  | some (profile :: more, _) => some (.append (profile :: more))
  | _ => none

def Answers.pasteEvent (answers : Answers) (env : Env Digest) : Option NodeEvent :=
  match answers.pasteText with
  | .ok text => env.importEvent text
  | .error _ => none

/-- The event that an operation is, unless it leaves the nodes alone. -/
def Operation.nodeEvent [DecidableEq Digest] (env : Env Digest) (answers : Answers) (now : Nat)
    (controller : Controller Digest) : Operation → Option NodeEvent
  | .selectNode index => some (.select index)
  | .addNode name => some (.append [{ StoredProfile.default with name := name }])
  | .nodeCommand index command => some (.command index command)
  | .editNode field value => some (.edit field value)
  | .setActiveNode => some (.activate controller.nodes.selected)
  | .importLinks => answers.pasteEvent env
  | .importText text => env.importEvent text
  | .openAdvanced => some .openSheet
  | .editAdvanced field value => some (.editSheet field value)
  | .commitAdvanced =>
      if controller.nodes.advancedErrors = [] then some .commitSheet else none
  | .cancelAdvanced => some .cancelSheet
  | .saveNodes => some (.save (controller.saveNodes env answers).saved)
  | .revertNodes => some .revert
  | .answerPrompt answer =>
      match controller.leave, answer with
      | some _, .save => some (.save (controller.saveNodes env answers).saved)
      | some _, .discard => some .revert
      | some _, .cancel | none, _ => none
  | .onFilesChanged =>
      if controller.reloaded env = [] then none
      else some (.reload (controller.loaded env now).saved
        (decide (.profiles ∈ controller.reloaded env)))
  | .onTray event =>
      match event with
      | .selectNode index => some (.activate index)
      | .importClipboard => answers.pasteEvent env
      | _ => none
  | _ => none

end Events

namespace Controller

variable {Digest : Type} {env : Env Digest} {answers : Answers} {now : Nat}
  {controller after : Controller Digest}

/-! ## The controller refines the machine -/

theorem nodeSide_importEvent {text : String}
    (taken : controller.importText env text = some after) :
    after.nodeSide = (env.importEvent text).elim controller.nodeSide controller.nodeSide.take := by
  obtain ⟨added, skipped, read, side⟩ := nodeSide_importText controller taken
  rw [side, Env.importEvent, read]
  cases added with
  | nil => rfl
  | cons profile more => rfl

theorem nodeSide_pasteEvent (taken : controller.importLinks env answers = some after) :
    after.nodeSide =
      (answers.pasteEvent env).elim controller.nodeSide controller.nodeSide.take := by
  unfold importLinks at taken
  unfold Answers.pasteEvent
  cases pasted : answers.pasteText with
  | ok text =>
      rw [pasted] at taken
      exact nodeSide_importEvent taken
  | error error =>
      rw [pasted] at taken
      obtain rfl := Option.some.inj taken
      rfl

theorem nodeSide_saveNodes (env : Env Digest) (answers : Answers) (controller : Controller Digest) :
    (controller.saveNodes env answers).nodeSide =
      { controller.nodeSide with saved := (controller.saveNodes env answers).saved } :=
  (saveRun_writeNodes env answers controller).nodeSide.1

variable [DecidableEq Digest]

theorem nodeSide_answerPrompt (answer : Answer) :
    (controller.answerPrompt env answers answer).1.nodeSide =
      ((Operation.answerPrompt answer).nodeEvent env answers now controller).elim
        controller.nodeSide controller.nodeSide.take := by
  unfold answerPrompt Operation.nodeEvent
  cases controller.leave with
  | none => rfl
  | some leave =>
      cases answer with
      | save =>
          have stored := nodeSide_saveNodes env answers controller
          dsimp only
          split
          · exact stored
          · exact stored
      | discard => exact nodeSide_revertNodes _
      | cancel => rfl

theorem nodeSide_onTray {event : TrayEvent}
    (taken : (Operation.onTray event).perform env answers now controller = some after) :
    after.nodeSide = ((Operation.onTray event).nodeEvent env answers now controller).elim
      controller.nodeSide controller.nodeSide.take := by
  cases event with
  | importClipboard => exact nodeSide_pasteEvent taken
  | selectNode index =>
      obtain rfl := Option.some.inj taken
      exact nodeSide_activateNode answers now controller index
  | toggleConnection =>
      obtain rfl := Option.some.inj taken
      exact nodeSide_toggleConnection answers now controller
  | setProxyMode | setPacRule | updateRules | window =>
      exact congrArg Sides.nodes (sides_perform rfl taken)

/-- Every operation acts on the nodes as its event does. -/
theorem nodeSide_perform {operation : Operation}
    (taken : operation.perform env answers now controller = some after) :
    after.nodeSide = (operation.nodeEvent env answers now controller).elim
      controller.nodeSide controller.nodeSide.take := by
  cases operation with
  | importLinks => exact nodeSide_pasteEvent taken
  | importText text => exact nodeSide_importEvent taken
  | onTray event => exact nodeSide_onTray taken
  | startup =>
      obtain rfl := Option.some.inj taken
      exact nodeSide_startup answers now controller
  | shutdown =>
      obtain rfl := Option.some.inj taken
      exact nodeSide_shutdown answers now controller env
  | toggleConnection =>
      obtain rfl := Option.some.inj taken
      exact nodeSide_toggleConnection answers now controller
  | pollCore =>
      obtain rfl := Option.some.inj taken
      exact nodeSide_pollCore answers controller
  | commitSetting => exact nodeSide_commitSetting answers now controller env taken
  | onFilesChanged =>
      obtain rfl := Option.some.inj taken
      rw [nodeSide_onFilesChanged, Operation.nodeEvent]
      split
      · rfl
      · rfl
  | selectNode index =>
      obtain rfl := Option.some.inj taken
      exact nodeSide_selectNode controller index
  | addNode name =>
      obtain rfl := Option.some.inj taken
      exact nodeSide_addNode controller name
  | nodeCommand index command =>
      obtain rfl := Option.some.inj taken
      exact nodeSide_nodeCommand answers now controller index command
  | editNode field value =>
      obtain rfl := Option.some.inj taken
      exact nodeSide_editNode controller field value
  | setActiveNode =>
      obtain rfl := Option.some.inj taken
      exact nodeSide_setActiveNode answers now controller
  | openAdvanced =>
      obtain rfl := Option.some.inj taken
      exact nodeSide_openAdvanced controller
  | editAdvanced field value =>
      obtain rfl := Option.some.inj taken
      exact nodeSide_editAdvanced controller field value
  | commitAdvanced =>
      obtain rfl := Option.some.inj taken
      rw [nodeSide_commitAdvanced, Operation.nodeEvent]
      split
      · rfl
      · rfl
  | cancelAdvanced =>
      obtain rfl := Option.some.inj taken
      exact nodeSide_cancelAdvanced controller
  | saveNodes =>
      obtain rfl := Option.some.inj taken
      exact nodeSide_saveNodes env answers controller
  | revertNodes =>
      obtain rfl := Option.some.inj taken
      exact nodeSide_revertNodes controller
  | answerPrompt answer =>
      obtain rfl := Option.some.inj taken
      exact nodeSide_answerPrompt answer
  | _ => exact congrArg Sides.nodes (sides_perform rfl taken)

/-- An event brings what the node side expects of it. -/
theorem sound_nodeEvent {operation : Operation} {event : NodeEvent}
    (inside : controller.saved.active < controller.saved.profiles.profiles.length)
    (happens : operation.nodeEvent env answers now controller = some event) :
    controller.nodeSide.Sound event := by
  have pasted : ∀ text, env.importEvent text = some event → controller.nodeSide.Sound event := by
    intro text read
    unfold Env.importEvent at read
    split at read
    · obtain rfl := Option.some.inj read
      exact List.cons_ne_nil _ _
    · cases read
  have clipboard : answers.pasteEvent env = some event → controller.nodeSide.Sound event := by
    intro read
    unfold Answers.pasteEvent at read
    split at read
    · exact pasted _ read
    · cases read
  have stored : controller.nodeSide.Sound (.save (controller.saveNodes env answers).saved) :=
    (saveRun_writeNodes env answers controller).nodeSide.2
  cases operation with
  | importText text => exact pasted text happens
  | importLinks => exact clipboard happens
  | addNode name =>
      obtain rfl := Option.some.inj happens
      exact List.cons_ne_nil _ _
  | saveNodes =>
      obtain rfl := Option.some.inj happens
      exact stored
  | answerPrompt answer =>
      dsimp only [Operation.nodeEvent] at happens
      split at happens
      · obtain rfl := Option.some.inj happens
        exact stored
      · obtain rfl := Option.some.inj happens
        exact trivial
      · cases happens
      · cases happens
  | onFilesChanged =>
      dsimp only [Operation.nodeEvent] at happens
      split at happens
      · cases happens
      · obtain rfl := Option.some.inj happens
        refine ⟨inside_read inside _ _, fun unread => ?_⟩
        have absent : controller.newStore env = none := by
          have unlisted := of_decide_eq_false unread
          rw [mem_reloaded, ← isSome_newStore] at unlisted
          simpa using unlisted
        show ((controller.saved.listed (controller.newStore env)).indexed _).profiles = _
        rw [Saved.indexed_profiles, Saved.listed_profiles, absent]
        rfl
  | commitAdvanced =>
      dsimp only [Operation.nodeEvent] at happens
      split at happens
      · obtain rfl := Option.some.inj happens
        exact trivial
      · cases happens
  | onTray event =>
      cases event with
      | importClipboard => exact clipboard happens
      | selectNode index =>
          obtain rfl := Option.some.inj happens
          exact trivial
      | _ => cases happens
  | selectNode | nodeCommand | editNode | setActiveNode | openAdvanced | editAdvanced
  | cancelAdvanced | revertNodes =>
      obtain rfl := Option.some.inj happens
      exact trivial
  | _ => cases happens

end Controller

end Juicity.Gui

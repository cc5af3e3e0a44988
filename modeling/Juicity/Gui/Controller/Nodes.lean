import Juicity.Gui.Controller.Model

/-!
Owns `gui/src/ui/controller/nodes.rs` and `save.rs`: the node list with its
editor and sheets, and the explicit save. No result is a panic.
-/

namespace Juicity.Gui

open Juicity.Common

inductive ListCommand where
  | moveUp
  | moveDown
  | duplicate
  | delete
deriving DecidableEq

/-- `Vec::swap`. -/
def swapAt {α : Type} (list : List α) (left right : Nat) : List α :=
  match list[left]?, list[right]? with
  | some first, some second => (list.set left second).set right first
  | _, _ => list

/-- The list after a command on the entry at `index`, with the new index of the entry
at an old one; no result changes nothing. -/
def ListCommand.edit {α : Type} (command : ListCommand) (index : Nat) (list : List α) :
    Option (List α × (Nat → Nat)) :=
  let exchange (other : Nat) : List α × (Nat → Nat) :=
    (swapAt list index other, fun i => if i = index then other else if i = other then index else i)
  match command with
  | .moveUp => if index > 0 then some (exchange (index - 1)) else none
  | .moveDown => if index + 1 < list.length then some (exchange (index + 1)) else none
  | .duplicate =>
      list[index]?.map fun copy =>
        (list.insertIdx (index + 1) copy, fun i => if i > index then i + 1 else i)
  | .delete =>
      if list.length = 1 then none
      else some (list.eraseIdx index, fun i => if i > index then i - 1 else min i (list.length - 2))

/-- The answer to the unsaved-changes prompt. -/
inductive Answer where
  | save
  | discard
  | cancel
deriving DecidableEq

namespace Controller

variable {Digest : Type} (env : Env Digest) (answers : Answers) (now : Nat)
  (controller : Controller Digest)

/-! ## Editor -/

def setProfiles (profiles : List StoredProfile) : Controller Digest :=
  { controller with gui := { controller.gui with profiles := ⟨profiles⟩ } }

def select (index : Nat) : Controller Digest :=
  { controller with nodes := { controller.nodes with selected := index } }

/-- Reload the editor from the selected profile, dropping invalid text. -/
def loadSelected : Controller Digest :=
  let selected := min controller.nodes.selected (controller.gui.profiles.profiles.length - 1)
  { controller with
    nodes := { controller.nodes with
      selected
      draft := controller.gui.draftAt selected
      errors := []
      qr := none } }

/-- The editor shows invalid text that is not in the working list. -/
def draftUnapplied : Bool :=
  controller.gui.profiles.profiles[controller.nodes.selected]?.any controller.nodes.draft.unapplied

def selectNode (index : Nat) : Controller Digest :=
  if index = controller.nodes.selected ∨ index ≥ controller.gui.profiles.profiles.length then
    controller
  else (controller.select index).loadSelected

/-- Append a default node and select it. -/
def addNode (name : String) : Controller Digest :=
  let profiles :=
    controller.gui.profiles.profiles ++ [{ StoredProfile.default with name := name }]
  ((controller.setProfiles profiles).select (profiles.length - 1)).loadSelected

/-- Row context menu and footer actions. -/
def nodeCommand (index : Nat) (command : ListCommand) : Controller Digest :=
  let profiles := controller.gui.profiles.profiles
  if index ≥ profiles.length then controller
  else
    match command.edit index profiles with
    | none => controller
    | some (profiles, remap) =>
        let active := controller.gui.runtime.selectedProfile
        let selected := controller.nodes.selected
        let moved := { controller with
          gui := { controller.gui with profiles := ⟨profiles⟩ }.setSelected (remap active) }
        let shown :=
          if command = .duplicate then (moved.select (index + 1)).loadSelected
          else if command = .delete ∧ selected = index then
            (moved.select (remap selected)).loadSelected
          else moved.select (remap selected)
        -- the core must not keep running a node that no longer exists
        if command = .delete ∧ index = active ∧ shown.connected then
          let incomplete :=
            shown.gui.selectedProfile.all fun profile => decide (missingFields profile ≠ [])
          (if incomplete then shown.toggleConnection answers now else shown).startActive answers now
        else shown

/-- Validate the draft and copy its valid fields into the working list. -/
def commitDraft : Controller Digest :=
  let nodes := { controller.nodes with errors := controller.nodes.draft.errors }
  let checked := { controller with nodes }
  let profiles := controller.gui.profiles.profiles
  match profiles[nodes.selected]? with
  | some profile => checked.setProfiles (profiles.set nodes.selected (nodes.draft.applyTo profile))
  | none => checked

def editNode (field : DraftField) (value : String) : Controller Digest :=
  { controller with
    nodes := { controller.nodes with draft := controller.nodes.draft.set field value } }.commitDraft

/-- Only Save writes the index; runtime writes keep the saved one. -/
def setWorkingActive (index : Nat) : Controller Digest :=
  { controller with gui := controller.gui.setSelected index }

/-- Make the selected node active; a running core switches to it. -/
def setActiveNode : Controller Digest :=
  let index := controller.nodes.selected
  match controller.gui.profiles.profiles[index]? with
  | none => controller
  | some target =>
      if missingFields target = [] then
        let switched := controller.setWorkingActive index
        if switched.connected then switched.startActive answers now else switched
      else controller.setNotice (.missingFields (missingFields target))

/-! ## Links -/

/-- The profile an imported link becomes. -/
def importedProfile (imported : ImportedShareLink) : StoredProfile :=
  { StoredProfile.default with toProxyProfile := imported.applyTo ProxyProfile.default }

/-- One line of the clipboard: the profiles and skipped lines so far. -/
def importLine (state : List StoredProfile × Nat) (line : String) :
    Option (List StoredProfile × Nat) :=
  match importShareLink env.url env.base64 line with
  | .ok imported => some (state.1 ++ [importedProfile imported], state.2)
  | .error (.bail _) => some (state.1, state.2 + 1)
  | .error .panicked => none

def importText (text : String) : Option (Controller Digest) :=
  let first := controller.gui.profiles.profiles
  let given := ((lines text).map trim).filter (· ≠ "")
  (given.foldlM (importLine env) (first, 0)).map fun (profiles, skipped) =>
    let imported := controller.setProfiles profiles
    let added := profiles.length - first.length
    if added = 0 then
      imported.setNotice (.importFailed
        (if skipped = 0 then "the clipboard holds no link"
        else "no line is a valid juicity:// or ss:// link"))
    else
      (imported.select first.length).loadSelected.setNotice
        (if skipped = 0 then .imported else .importPartial added skipped)

def importLinks : Option (Controller Digest) :=
  match answers.pasteText with
  | .ok text => controller.importText env text
  | .error error => some (controller.setNotice (.importFailed error))

/-- The link of the selected node once it is built. -/
def withShareLink (next : String → Controller Digest) : Option (Controller Digest) :=
  if controller.nodes.errors ≠ [] then some (controller.setNotice .exportInvalid)
  else
    match controller.gui.profiles.profiles[controller.nodes.selected]? with
    | none => some controller
    | some profile =>
        match exportShareLink env.url env.base64 profile.toProxyProfile with
        | .ok link => some (next link)
        | .error (.bail reason) => some (controller.setNotice (.exportFailed reason))
        | .error .panicked => none

def exportLink : Option (Controller Digest) :=
  controller.withShareLink env fun _ =>
    match answers.copyText with
    | .ok () => controller.setNotice .linkCopied
    | .error error => controller.setNotice (.exportFailed error)

def shareQrCode : Option (Controller Digest) :=
  controller.withShareLink env fun link =>
    match answers.qrMask with
    | .ok () => { controller with nodes := { controller.nodes with qr := some link } }
    | .error error => controller.setNotice (.exportFailed error)

def closeQrCode : Controller Digest :=
  { controller with nodes := { controller.nodes with qr := none } }

/-! ## Advanced sheet -/

def openAdvanced : Controller Digest :=
  { controller with
    nodes := { controller.nodes with
      advanced := some controller.nodes.draft
      advancedErrors := [] } }

/-- A sheet field changed; nothing is saved until Done. -/
def editAdvanced (field : DraftField) (value : String) : Controller Digest :=
  match controller.nodes.advanced with
  | none => controller
  | some sheet =>
      let sheet := sheet.set field value
      { controller with
        nodes := { controller.nodes with
          advanced := some sheet
          advancedErrors := sheet.errors.filter (·.1 = .timeout) } }

/-- Keep the sheet open while it has errors, else copy it into the working list. -/
def commitAdvanced : Controller Digest :=
  if controller.nodes.advancedErrors ≠ [] then controller
  else
    match controller.nodes.advanced with
    | none => controller
    | some sheet =>
        { controller with
          nodes := { controller.nodes with
            advanced := none
            draft := controller.nodes.draft.takeAdvanced sheet } }.commitDraft

def cancelAdvanced : Controller Digest :=
  { controller with nodes := { controller.nodes with advanced := none, advancedErrors := [] } }

/-- The profile shown in the editor. -/
def editedProfile : Option StoredProfile :=
  controller.gui.profiles.profiles[controller.nodes.selected]?

/-- Reload the editor only when the node it shows changed. -/
def afterReload (edited : Option StoredProfile) : Controller Digest :=
  let last := controller.gui.profiles.profiles.length - 1
  let shown := controller.select (min controller.nodes.selected last)
  if shown.editedProfile = edited then shown
  else shown.cancelAdvanced.loadSelected

/-! ## Save -/

/-- The working list or active node differs from the saved ones. -/
def listDirty : Bool :=
  decide (controller.gui.profiles ≠ controller.saved.profiles ∨
    controller.gui.runtime.selectedProfile ≠ controller.saved.active)

def nodesDirty : Bool := controller.listDirty || controller.draftUnapplied

/-- Why Save must refuse: invalid editor text, or a node that lacks mandatory fields. -/
def saveRefusal : Controller Digest × Option Notice :=
  let errors := controller.nodes.draft.errors
  let checked := { controller with nodes := { controller.nodes with errors } }
  (checked,
    if errors ≠ [] then some .saveInvalid
    else
      controller.gui.profiles.profiles.findSome? fun profile =>
        if missingFields profile = [] then none
        else some (.nodeIncomplete profile.displayName (missingFields profile)))

def clearSaveNotice : Controller Digest :=
  match controller.notice with
  | .nodesSaveFailed _ | .saveInvalid | .nodeIncomplete _ _ | .profilesChanged =>
      controller.dismissNotice
  | _ => controller

def saveFailed (error : String) : Controller Digest × Bool :=
  ({ controller with leave := none }.setNotice (.nodesSaveFailed error), false)

/-- The working list and active node, as they are to be saved. -/
def nextSaved : Saved :=
  Saved.clampActive ⟨controller.gui.profiles, controller.gui.runtime.selectedProfile⟩

/-- Write the list if it changed; `saved` follows what reached disk. -/
def writeList (next : Saved) : Controller Digest × Except String Unit :=
  if next.profiles = controller.saved.profiles then (controller, .ok ())
  else
    match controller.persist.write env .profiles controller.gui next (answers.write .profiles) with
    | (persist, storage, .ok ()) =>
        ({ controller with
            persist
            gui := { controller.gui with storage }
            saved := { controller.saved with profiles := next.profiles }.clampActive }, .ok ())
    | (_, storage, .error error) =>
        ({ controller with gui := { controller.gui with storage } }, .error error)

/-- Write the active index if it is not the one saved by now. -/
def writeIndex (next : Saved) : Controller Digest × Except String Unit :=
  if next.active = controller.saved.active then (controller, .ok ())
  else
    let saved := { controller.saved with active := next.active }
    match controller.persist.write env .runtime controller.gui saved (answers.write .runtime) with
    | (persist, storage, .ok ()) =>
        ({ controller with persist, gui := { controller.gui with storage }, saved }, .ok ())
    | (_, storage, .error error) =>
        ({ controller with gui := { controller.gui with storage } }, .error error)

/-- `write_nodes`; the flag is false unless both the list and the active index reached
disk. -/
def writeNodes : Controller Digest × Bool :=
  if controller.nodesDirty = false then (controller, true)
  else
    match controller.saveRefusal with
    | (checked, some notice) => ({ checked with leave := none }.setNotice notice, false)
    | (checked, none) =>
        let next := checked.nextSaved
        -- the list first, so the index on disk never points past it
        match checked.writeList env answers next with
        | (unwritten, .error error) => unwritten.saveFailed error
        | (listed, .ok ()) =>
            match listed.writeIndex env answers next with
            | (unwritten, .error error) => unwritten.saveFailed error
            | (written, .ok ()) => (written.clearSaveNotice, true)

def saveNodes : Controller Digest := (controller.writeNodes env answers).1

/-- Restore the saved list and active node and reload the editor. -/
def revertNodes : Controller Digest :=
  if controller.nodesDirty = false then controller
  else
    let gui := ({ controller.gui with profiles := controller.saved.profiles }.setSelected
      controller.saved.active).normalizeSelectedIndex
    (({ controller with gui }.select gui.runtime.selectedProfile).cancelAdvanced.loadSelected).clearSaveNotice

/-- Closing the window or quitting; the result is the action to perform now. -/
def requestLeave (leave : Leave) : Controller Digest × Option Leave :=
  if controller.leave.isSome then (controller, none)
  else if controller.nodesDirty = false then (controller, some leave)
  else ({ controller with leave := some leave }, none)

/-- Answer the prompt; the result is the stored action when it may proceed. -/
def answerPrompt (answer : Answer) : Controller Digest × Option Leave :=
  match controller.leave with
  | none => (controller, none)
  | some leave =>
      match answer with
      | .save =>
          let (written, saved) := controller.writeNodes env answers
          if saved then ({ written with leave := none }, written.leave) else (written, none)
      | .discard => ({ controller with leave := none }.revertNodes, some leave)
      | .cancel => ({ controller with leave := none }, none)

end Controller

end Juicity.Gui

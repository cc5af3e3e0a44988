import Juicity.Gui.Controller.Indices

/-!
Owns what an edit of a node changes: a sequence of `edit_node` calls on the
selected node, with the commit of the draft behind each of them. A field keeps
what is stored as long as its text is the stored one or is not valid; any other
text is stored by the rule of its field. The rules differ: names, servers and
UUIDs are trimmed, optional texts are trimmed or left out, numbers are parsed,
the congestion control is normalised, and a password and a method are stored as
typed.
-/

namespace Juicity.Gui

open Juicity.Common

/-- The value of a field, in a draft or in a profile. -/
inductive FieldValue where
  | text (value : String)
  | optional (value : Option String)
  | protocol (value : ProxyProtocol)
  | flag (value : Bool)
  | port (value : UInt16)
  | timeout (value : UInt32)
deriving DecidableEq

def StoredProfile.stored (profile : StoredProfile) : DraftField → FieldValue
  | .name => .text profile.name
  | .protocol => .protocol profile.protocol
  | .server => .text profile.server
  | .port => .port profile.serverPort
  | .uuid => .text profile.uuid
  | .password => .text profile.password
  | .method => .text profile.method
  | .sni => .optional profile.sni
  | .allowInsecure => .flag profile.allowInsecure
  | .pinnedCertchainSha256 => .optional profile.pinnedCertchainSha256
  | .congestionControl => .optional profile.congestionControl
  | .plugin => .optional profile.plugin
  | .pluginOptions => .optional profile.pluginOpts
  | .pluginArgs => .optional profile.pluginArgs
  | .timeout => .timeout profile.timeout
  | .group => .optional profile.group

namespace DraftData

/-- What the editor holds for a field. -/
def entry (draft : DraftData) : DraftField → FieldValue
  | .name => .text draft.name
  | .protocol => .protocol draft.protocol
  | .server => .text draft.server
  | .port => .text draft.port
  | .uuid => .text draft.uuid
  | .password => .text draft.password
  | .method => .text draft.method
  | .sni => .text draft.sni
  | .allowInsecure => .flag draft.allowInsecure
  | .pinnedCertchainSha256 => .text draft.pinnedCertchainSha256
  | .congestionControl => .text draft.congestionControl
  | .plugin => .text draft.plugin
  | .pluginOptions => .text draft.pluginOptions
  | .pluginArgs => .text draft.pluginArgs
  | .timeout => .text draft.timeout
  | .group => .text draft.group

/-- What the rule of a field makes of its text. -/
def accepted (draft : DraftData) : DraftField → Option FieldValue
  | .name => some (.text (trim draft.name))
  | .protocol => some (.protocol draft.protocol)
  | .server => some (.text (trim draft.server))
  | .port => (parsePort draft.port).map .port
  | .uuid => some (.text (trim draft.uuid))
  | .password => some (.text draft.password)
  | .method => some (.text draft.method)
  | .sni => some (.optional (nonEmptyText draft.sni))
  | .allowInsecure => some (.flag draft.allowInsecure)
  | .pinnedCertchainSha256 => some (.optional (nonEmptyText draft.pinnedCertchainSha256))
  | .congestionControl =>
      some (.optional (normalizeCongestionControl draft.congestionControl))
  | .plugin => some (.optional (nonEmptyText draft.plugin))
  | .pluginOptions => some (.optional (nonEmptyText draft.pluginOptions))
  | .pluginArgs => some (.optional (nonEmptyText draft.pluginArgs))
  | .timeout => (parseTimeout draft.timeout).map .timeout
  | .group => some (.optional (nonEmptyText draft.group))

/-- Rules that trim the password and the method as well. -/
def trimmed (draft : DraftData) : DraftField → Option FieldValue
  | .password => some (.text (trim draft.password))
  | .method => some (.text (trim draft.method))
  | field => draft.accepted field

/-- What a commit of the draft may do to its profile, where `rule` says how a text is stored. -/
structure Commits (rule : DraftData → DraftField → Option FieldValue) (draft : DraftData)
    (before after : StoredProfile) : Prop where
  configPath : after.configPath = before.configPath
  link : after.link = before.link
  unedited : ∀ field, draft.entry field = (fromProfile before).entry field →
    after.stored field = before.stored field
  invalid : ∀ field reason, (field, reason) ∈ draft.errors →
    after.stored field = before.stored field
  written : ∀ field, draft.entry field ≠ (fromProfile before).entry field →
    (∀ reason, (field, reason) ∉ draft.errors) → some (after.stored field) = rule draft field

variable {draft : DraftData} {profile : StoredProfile}

/-- A field whose text is the stored one is left alone. -/
theorem stored_of_entry_eq {field : DraftField}
    (same : draft.entry field = (fromProfile profile).entry field) :
    (draft.applyTo profile).stored field = profile.stored field := by
  cases field with
  | name | sni | pinnedCertchainSha256 | congestionControl | plugin | pluginOptions | pluginArgs
  | group =>
      simp only [StoredProfile.stored, applyTo]
      rw [if_neg (not_not_intro (FieldValue.text.inj same))]
  | server | uuid =>
      simp only [StoredProfile.stored, applyTo]
      rw [if_neg fun changed => changed.1 (FieldValue.text.inj same)]
  | protocol | method | allowInsecure => exact same
  | port =>
      have typed : draft.port = toString profile.serverPort.toNat := FieldValue.text.inj same
      simp only [StoredProfile.stored, applyTo]
      rw [typed, parsePort_toString]
  | timeout =>
      have typed : draft.timeout = toString profile.timeout.toNat := FieldValue.text.inj same
      simp only [StoredProfile.stored, applyTo]
      rw [typed, parseTimeout_toString, Option.getD_some]
  | password =>
      have typed : draft.password = profile.password := FieldValue.text.inj same
      simp only [StoredProfile.stored, applyTo]
      rw [typed, ite_self]

/-- A field that is reported is left alone. -/
theorem stored_of_mem_errors {field : DraftField} {reason : DraftError}
    (reported : (field, reason) ∈ draft.errors) :
    (draft.applyTo profile).stored field = profile.stored field := by
  rcases List.mem_append.mp reported with reported | timeout
  · rcases List.mem_append.mp reported with required | port
    · obtain ⟨listed, member, same⟩ := List.mem_map.mp required
      obtain rfl : listed = field := (Prod.mk.inj same).1
      obtain ⟨asked, _, rfl⟩ := List.mem_map.mp member
      cases asked with
      | server | uuid =>
          simp only [StoredProfile.stored, applyTo]
          rw [if_neg fun changed => changed.2 member]
      | password =>
          simp only [StoredProfile.stored, applyTo]
          rw [if_neg fun changed => changed member]
    · split at port
      next refused =>
        obtain ⟨rfl, _⟩ := Prod.mk.inj (List.mem_singleton.mp port)
        simp only [StoredProfile.stored, applyTo, refused, Option.getD_none]
      next => cases port
  · split at timeout
    next refused =>
      obtain ⟨rfl, _⟩ := Prod.mk.inj (List.mem_singleton.mp timeout)
      simp only [StoredProfile.stored, applyTo, refused, Option.getD_none]
    next => cases timeout

/-- A field that was edited and that is not reported is stored by its rule. -/
theorem stored_of_entry_ne {field : DraftField}
    (edited : draft.entry field ≠ (fromProfile profile).entry field)
    (valid : ∀ reason, (field, reason) ∉ draft.errors) :
    some ((draft.applyTo profile).stored field) = draft.accepted field := by
  have given : field ∉ draft.missing := fun empty => valid .required (required_mem_errors empty)
  cases field with
  | name | sni | pinnedCertchainSha256 | congestionControl | plugin | pluginOptions | pluginArgs
  | group =>
      simp only [StoredProfile.stored, applyTo, accepted]
      rw [if_pos fun same => edited (congrArg FieldValue.text same)]
  | server | uuid =>
      simp only [StoredProfile.stored, applyTo, accepted]
      rw [if_pos ⟨fun same => edited (congrArg FieldValue.text same), given⟩]
  | protocol | method | allowInsecure => rfl
  | password =>
      simp only [StoredProfile.stored, applyTo, accepted]
      rw [if_pos given]
  | port =>
      cases parsed : parsePort draft.port with
      | none => exact absurd (show (DraftField.port, DraftError.port) ∈ draft.errors by
          simp [errors, parsed]) (valid .port)
      | some number => simp only [StoredProfile.stored, applyTo, accepted, parsed,
          Option.getD_some, Option.map_some]
  | timeout =>
      cases parsed : parseTimeout draft.timeout with
      | none => exact absurd (show (DraftField.timeout, DraftError.timeout) ∈ draft.errors by
          simp [errors, parsed]) (valid .timeout)
      | some number => simp only [StoredProfile.stored, applyTo, accepted, parsed,
          Option.getD_some, Option.map_some]

theorem commits_applyTo (draft : DraftData) (profile : StoredProfile) :
    Commits accepted draft profile (draft.applyTo profile) where
  configPath := rfl
  link := rfl
  unedited _ same := stored_of_entry_eq same
  invalid _ _ reported := stored_of_mem_errors reported
  written _ edited valid := stored_of_entry_ne edited valid

theorem entry_set_of_ne {field other : DraftField} (apart : other ≠ field) (value : String) :
    (draft.set field value).entry other = draft.entry other := by
  cases field <;> cases other <;> first | rfl | exact absurd rfl apart

/-- What the editor shows of a field depends on what is stored of it. -/
theorem entry_fromProfile {before after : StoredProfile} {field : DraftField}
    (same : after.stored field = before.stored field) :
    (fromProfile after).entry field = (fromProfile before).entry field := by
  cases field with
  | name | server | uuid | password | method | protocol | allowInsecure => exact same
  | sni | pinnedCertchainSha256 | plugin | pluginOptions | pluginArgs | group =>
      exact congrArg (fun stored => FieldValue.text (Option.getD stored ""))
        (FieldValue.optional.inj same)
  | congestionControl =>
      exact congrArg (fun stored => FieldValue.text (Option.getD stored "bbr"))
        (FieldValue.optional.inj same)
  | port =>
      exact congrArg (fun stored : UInt16 => FieldValue.text (toString stored.toNat))
        (FieldValue.port.inj same)
  | timeout =>
      exact congrArg (fun stored : UInt32 => FieldValue.text (toString stored.toNat))
        (FieldValue.timeout.inj same)

end DraftData

namespace Controller

variable {Digest : Type}

/-- A sequence of edits of the selected node. -/
def editNodes (controller : Controller Digest) (edits : List (DraftField × String)) :
    Controller Digest :=
  edits.foldl (fun controller edit => controller.editNode edit.1 edit.2) controller

/-- An edit of the selected node changes what was edited: a commit stores by the rule, leaves
the other nodes alone, and changes nothing when it is made again; a field that no edit of the
sequence names keeps its value. -/
structure ChangesOnlyEdits (rule : DraftData → DraftField → Option FieldValue)
    (controller : Controller Digest) (edits : List (DraftField × String)) : Prop where
  commits : ∀ played field value, played ++ [(field, value)] <+: edits →
    ∀ profile, (controller.editNodes played).editedProfile = some profile →
      ∃ after, ((controller.editNodes played).editNode field value).editedProfile = some after ∧
        ((controller.editNodes played).editNode field value).nodes.draft.Commits rule profile after
  others : ∀ index ≠ controller.nodes.selected,
    (controller.editNodes edits).gui.profiles.profiles[index]? =
      controller.gui.profiles.profiles[index]?
  again : ∀ played field value, played ++ [(field, value)] <+: edits →
    ((controller.editNodes played).editNode field value).commitDraft =
      (controller.editNodes played).editNode field value
  untouched : ∀ profile, controller.editedProfile = some profile →
    controller.nodes.draft = .fromProfile profile →
      ∃ after, (controller.editNodes edits).editedProfile = some after ∧
        after.configPath = profile.configPath ∧ after.link = profile.link ∧
        ∀ field, (∀ edit ∈ edits, edit.1 ≠ field) → after.stored field = profile.stored field

variable {controller : Controller Digest}

theorem selected_commitDraft :
    controller.commitDraft.nodes.selected = controller.nodes.selected := by
  unfold commitDraft
  dsimp only
  split <;> rfl

theorem draft_commitDraft : controller.commitDraft.nodes.draft = controller.nodes.draft := by
  unfold commitDraft
  dsimp only
  split <;> rfl

theorem editedProfile_commitDraft {profile : StoredProfile}
    (shown : controller.editedProfile = some profile) :
    controller.commitDraft.editedProfile = some (controller.nodes.draft.applyTo profile) := by
  have row : controller.gui.profiles.profiles[controller.nodes.selected]? = some profile := shown
  obtain ⟨inside, _⟩ := List.getElem?_eq_some_iff.mp row
  unfold commitDraft
  dsimp only
  rw [row]
  exact List.getElem?_set_self inside

theorem others_commitDraft {index : Nat} (other : index ≠ controller.nodes.selected) :
    controller.commitDraft.gui.profiles.profiles[index]? =
      controller.gui.profiles.profiles[index]? := by
  unfold commitDraft
  dsimp only
  split
  next => exact List.getElem?_set_ne (Ne.symm other)
  next => rfl

/-- A second commit of the same draft changes nothing. -/
theorem commitDraft_commitDraft : controller.commitDraft.commitDraft = controller.commitDraft := by
  cases row : controller.gui.profiles.profiles[controller.nodes.selected]? with
  | none =>
      have once : controller.commitDraft = { controller with
          nodes := { controller.nodes with errors := controller.nodes.draft.errors } } := by
        unfold commitDraft
        dsimp only
        rw [row]
      rw [once]
      unfold commitDraft
      dsimp only
      rw [row]
  | some profile =>
      obtain ⟨inside, _⟩ := List.getElem?_eq_some_iff.mp row
      have once : controller.commitDraft = { controller with
          nodes := { controller.nodes with errors := controller.nodes.draft.errors }
          gui := { controller.gui with
            profiles := ⟨controller.gui.profiles.profiles.set controller.nodes.selected
              (controller.nodes.draft.applyTo profile)⟩ } } := by
        unfold commitDraft
        dsimp only
        rw [row]
        rfl
      rw [once]
      unfold commitDraft
      dsimp only
      rw [List.getElem?_set_self inside]
      dsimp only [setProfiles]
      rw [DraftData.applyTo_applyTo, List.set_set]

theorem editNodes_snoc (edits : List (DraftField × String)) (edit : DraftField × String) :
    controller.editNodes (edits ++ [edit]) =
      (controller.editNodes edits).editNode edit.1 edit.2 :=
  List.foldl_concat _ _ _ _

theorem editedProfile_editNode {profile : StoredProfile}
    (shown : controller.editedProfile = some profile) (field : DraftField) (value : String) :
    (controller.editNode field value).editedProfile =
      some ((controller.nodes.draft.set field value).applyTo profile) :=
  @editedProfile_commitDraft _ { controller with
    nodes := { controller.nodes with draft := controller.nodes.draft.set field value } } _ shown

theorem draft_editNode (field : DraftField) (value : String) :
    (controller.editNode field value).nodes.draft = controller.nodes.draft.set field value :=
  draft_commitDraft

theorem selected_editNodes (edits : List (DraftField × String)) :
    (controller.editNodes edits).nodes.selected = controller.nodes.selected := by
  induction edits using List.reverseRecOn with
  | nil => rfl
  | append_singleton earlier edit inductionHypothesis =>
      rw [editNodes_snoc]
      exact selected_commitDraft.trans inductionHypothesis

theorem others_editNodes (edits : List (DraftField × String)) {index : Nat}
    (other : index ≠ controller.nodes.selected) :
    (controller.editNodes edits).gui.profiles.profiles[index]? =
      controller.gui.profiles.profiles[index]? := by
  induction edits using List.reverseRecOn with
  | nil => rfl
  | append_singleton earlier edit inductionHypothesis =>
      rw [editNodes_snoc, ← inductionHypothesis]
      exact others_commitDraft (by
        rw [← @selected_editNodes _ controller earlier] at other
        exact other)

/-- A field that no edit names keeps its value, and the editor shows it as it did. -/
theorem untouched_editNodes {profile : StoredProfile}
    (shown : controller.editedProfile = some profile)
    (loaded : controller.nodes.draft = .fromProfile profile)
    (edits : List (DraftField × String)) :
    ∃ after, (controller.editNodes edits).editedProfile = some after ∧
      after.configPath = profile.configPath ∧ after.link = profile.link ∧
      ∀ field, (∀ edit ∈ edits, edit.1 ≠ field) →
        after.stored field = profile.stored field ∧
          (controller.editNodes edits).nodes.draft.entry field =
            (DraftData.fromProfile after).entry field := by
  induction edits using List.reverseRecOn with
  | nil => exact ⟨profile, shown, rfl, rfl, fun field _ => ⟨rfl, by rw [← loaded]; rfl⟩⟩
  | append_singleton earlier edit inductionHypothesis =>
      obtain ⟨before, row, configPath, link, kept⟩ := inductionHypothesis
      rw [editNodes_snoc]
      refine ⟨_, editedProfile_editNode row edit.1 edit.2, configPath, link, fun field apart => ?_⟩
      obtain ⟨same, entry⟩ := kept field fun other member =>
        apart other (List.mem_append_left _ member)
      have other : field ≠ edit.1 :=
        Ne.symm (apart edit (List.mem_append_right _ List.mem_cons_self))
      have unchanged : ((controller.editNodes earlier).nodes.draft.set edit.1 edit.2).entry field =
          (DraftData.fromProfile before).entry field :=
        (DraftData.entry_set_of_ne other edit.2).trans entry
      have stays := DraftData.stored_of_entry_eq unchanged
      refine ⟨stays.trans same, ?_⟩
      rw [draft_editNode, unchanged]
      exact (DraftData.entry_fromProfile stays).symm

/-- The draft of a profile is written into it without effect, and in every sequence of edits
each commit changes only what was edited. -/
theorem changesOnlyEdits (controller : Controller Digest) (edits : List (DraftField × String)) :
    (∀ profile, (DraftData.fromProfile profile).applyTo profile = profile) ∧
      controller.ChangesOnlyEdits DraftData.accepted edits where
  left := DraftData.fromProfile_applyTo
  right :=
    { commits := fun played field value _ profile shown =>
        ⟨_, editedProfile_editNode shown field value, by
          rw [draft_editNode]
          exact DraftData.commits_applyTo _ profile⟩
      others := fun _ other => others_editNodes edits other
      again := fun _ _ _ _ => commitDraft_commitDraft
      untouched := fun profile shown loaded => by
        obtain ⟨after, row, configPath, link, kept⟩ := untouched_editNodes shown loaded edits
        exact ⟨after, row, configPath, link, fun field apart => (kept field apart).1⟩ }

/-- A password is not trimmed: spaces around it are stored. -/
theorem password_not_trimmed :
    ((Controller.new nodesEnv nodesStorage fun _ => false).editNode .password " p ").editedProfile =
        some { serverNode "second" with password := " p " } ∧
      ¬((∀ profile, (DraftData.fromProfile profile).applyTo profile = profile) ∧
        (Controller.new nodesEnv nodesStorage fun _ => false).ChangesOnlyEdits DraftData.trimmed
          [(.password, " p ")]) := by
  have result : ((Controller.new nodesEnv nodesStorage fun _ => false).editNode
      .password " p ").editedProfile = some { serverNode "second" with password := " p " } := by
    decide +kernel
  refine ⟨result, fun ⟨_, changes⟩ => ?_⟩
  obtain ⟨after, row, commits⟩ := changes.commits [] .password " p " (List.prefix_refl _)
    (serverNode "second") (by decide +kernel)
  have typed : ((Controller.new nodesEnv nodesStorage fun _ => false).editNode
      .password " p ").nodes.draft =
        { DraftData.fromProfile (serverNode "second") with password := " p " } := by
    decide +kernel
  obtain rfl := Option.some.inj (result.symm.trans row)
  have stored := (typed ▸ commits).written .password (by decide)
    fun reason => by cases reason <;> decide +kernel
  exact absurd stored (by decide +kernel)

end Controller

end Juicity.Gui

import Juicity.Gui.Coding
import Mathlib.Data.List.Induction

/-!
Owns the dates of the rule files in `gui/src/pac.rs`: what a download replaces,
how old the rules are taken to be, and the date that is shown. Times are
nanoseconds of a system clock that is not set back. The age is that of the direct
list alone, so an update that failed behind it is taken for a whole one.
-/

namespace Juicity.Gui

open Juicity.Common

/-- When `china-list.txt` and `gfw.txt` were last replaced. -/
structure RuleFiles where
  chinaList : Option Nat
  gfw : Option Nat

def hour : Nat := 3600 * 1000000000

/-- `SystemTime::elapsed`, which fails for a time to come. -/
def elapsed (modified now : Nat) : Option Nat :=
  if modified ≤ now then some (now - modified) else none

namespace RuleFiles

def rulesAgeHours (files : RuleFiles) (now : Nat) : Option Nat := do
  let modified ← files.chinaList
  let elapsed ← elapsed modified now
  return elapsed / 1000000000 / 3600

/-- The older of the two, once both are there. -/
def rulesUpdatedAt (files : RuleFiles) : Option Nat := do
  let china ← files.chinaList
  let gfw ← files.gfw
  return min china gfw

/-- A file is missing, or the older one was replaced at least that many hours ago. -/
def Stale (files : RuleFiles) (hours now : Nat) : Prop :=
  ∀ updated, files.rulesUpdatedAt = some updated → hours * hour ≤ now - updated

end RuleFiles

/-! ## Downloads -/

/-- How far a download gets, with the time it spends on each list it replaces. -/
inductive DownloadOutcome where
  | failsFirst
  | failsBetween (direct : Nat)
  | replacesBoth (direct proxy : Nat)

/-- A download, and the time that passes before it. -/
structure Download where
  wait : Nat
  outcome : DownloadOutcome

/-- The clock and the rule files. -/
structure RuleDir where
  now : Nat
  files : RuleFiles

/-- `download_rules`: the lists are replaced one after the other. -/
def RuleDir.downloadRules (dir : RuleDir) : DownloadOutcome → RuleDir
  | .failsFirst => dir
  | .failsBetween direct =>
      let replaced := dir.now + direct
      { now := replaced, files := { dir.files with chinaList := some replaced } }
  | .replacesBoth direct proxy =>
      let first := dir.now + direct
      let second := first + proxy
      { now := second, files := ⟨some first, some second⟩ }

def RuleDir.step (dir : RuleDir) (download : Download) : RuleDir :=
  { dir with now := dir.now + download.wait }.downloadRules download.outcome

/-- No rules were downloaded yet. -/
def RuleDir.empty : RuleDir := ⟨0, none, none⟩

def replay (downloads : List Download) : RuleDir := downloads.foldl RuleDir.step .empty

/-- When the direct list was replaced, download by download. -/
def Download.direct (download : Download) (before : Nat) : Option Nat :=
  match download.outcome with
  | .failsFirst => none
  | .failsBetween direct | .replacesBoth direct _ => some (before + download.wait + direct)

/-- When the proxy list was replaced. -/
def Download.proxy (download : Download) (before : Nat) : Option Nat :=
  match download.outcome with
  | .failsFirst | .failsBetween _ => none
  | .replacesBoth direct proxy => some (before + download.wait + direct + proxy)

/-- Some download has replaced a list within the last hours. -/
def Recent (replaced : Download → Nat → Option Nat) (hours : Nat) (downloads : List Download)
    (now : Nat) : Prop :=
  ∃ earlier download, earlier ++ [download] <+: downloads ∧
    ∃ time, replaced download (replay earlier).now = some time ∧ now < time + hours * hour

/-- The last hours have a new direct list and no new proxy list. -/
def HalfUpdated (hours : Nat) (downloads : List Download) (now : Nat) : Prop :=
  Recent Download.direct hours downloads now ∧ ¬Recent Download.proxy hours downloads now

/-- The date of a list is when the last download that came so far replaced it. -/
structure Dates (date : RuleFiles → Option Nat) (replaced : Download → Nat → Option Nat) :
    Prop where
  start : date RuleDir.empty.files = none
  step : ∀ dir download, date (RuleDir.step dir download).files =
    (replaced download dir.now).or (date dir.files)
  ordered : ∀ (dir : RuleDir) download time, replaced download dir.now = some time →
    dir.now ≤ time ∧ time ≤ (dir.step download).now

theorem dates_direct : Dates RuleFiles.chinaList Download.direct where
  start := rfl
  step dir download := by
    obtain ⟨wait, outcome⟩ := download
    cases outcome <;> rfl
  ordered dir download time given := by
    obtain ⟨wait, outcome⟩ := download
    cases outcome with
    | failsFirst => cases given
    | failsBetween direct =>
        obtain rfl := Option.some.inj given
        dsimp only [RuleDir.step, RuleDir.downloadRules]
        omega
    | replacesBoth direct proxy =>
        obtain rfl := Option.some.inj given
        dsimp only [RuleDir.step, RuleDir.downloadRules]
        omega

theorem dates_proxy : Dates RuleFiles.gfw Download.proxy where
  start := rfl
  step dir download := by
    obtain ⟨wait, outcome⟩ := download
    cases outcome <;> rfl
  ordered dir download time given := by
    obtain ⟨wait, outcome⟩ := download
    cases outcome with
    | failsFirst => cases given
    | failsBetween direct => cases given
    | replacesBoth direct proxy =>
        obtain rfl := Option.some.inj given
        dsimp only [RuleDir.step, RuleDir.downloadRules]
        omega

theorem now_le_step (dir : RuleDir) (download : Download) : dir.now ≤ (dir.step download).now := by
  obtain ⟨wait, outcome⟩ := download
  cases outcome <;> dsimp only [RuleDir.step, RuleDir.downloadRules] <;> omega

theorem replay_snoc (downloads : List Download) (download : Download) :
    replay (downloads ++ [download]) = (replay downloads).step download :=
  List.foldl_concat _ _ _ _

section Dates

variable {date : RuleFiles → Option Nat} {replaced : Download → Nat → Option Nat}

/-- No list is dated later than the clock. -/
theorem Dates.le_now (dates : Dates date replaced) (downloads : List Download) {time : Nat}
    (dated : date (replay downloads).files = some time) : time ≤ (replay downloads).now := by
  induction downloads using List.reverseRecOn with
  | nil => cases dates.start.symm.trans dated
  | append_singleton earlier download inductionHypothesis =>
      rw [replay_snoc] at dated ⊢
      rw [dates.step] at dated
      rcases Option.or_eq_some_iff.mp dated with here | ⟨_, before⟩
      · exact (dates.ordered _ _ _ here).2
      · exact (inductionHypothesis before).trans (now_le_step _ _)

theorem recent_snoc {hours now : Nat} (downloads : List Download) (download : Download) :
    Recent replaced hours (downloads ++ [download]) now ↔
      Recent replaced hours downloads now ∨
        ∃ time, replaced download (replay downloads).now = some time ∧
          now < time + hours * hour := by
  constructor
  · rintro ⟨earlier, taken, front, found⟩
    rcases List.prefix_concat_iff.mp front with whole | shorter
    · obtain ⟨rfl, same⟩ := List.append_inj' whole rfl
      obtain rfl := List.singleton_inj.mp same
      exact .inr found
    · exact .inl ⟨earlier, taken, shorter, found⟩
  · rintro (⟨earlier, taken, front, found⟩ | found)
    · exact ⟨earlier, taken, front.trans (List.prefix_append _ _), found⟩
    · exact ⟨downloads, download, List.prefix_refl _, found⟩

/-- A list was replaced lately exactly when it is dated lately. -/
theorem Dates.recent_iff (dates : Dates date replaced) (hours now : Nat)
    (downloads : List Download) :
    Recent replaced hours downloads now ↔
      ∃ time, date (replay downloads).files = some time ∧ now < time + hours * hour := by
  induction downloads using List.reverseRecOn with
  | nil =>
      constructor
      · rintro ⟨earlier, taken, front, _⟩
        cases List.append_eq_nil_iff.mp (List.prefix_nil.mp front) |>.2
      · rintro ⟨time, dated, _⟩
        cases dates.start.symm.trans dated
  | append_singleton earlier download inductionHypothesis =>
      rw [recent_snoc, inductionHypothesis, replay_snoc, dates.step]
      cases here : replaced download (replay earlier).now with
      | none => simp
      | some time =>
          constructor
          · rintro (⟨old, dated, recent⟩ | ⟨same, found, recent⟩)
            · have order := (dates.ordered _ _ _ here).1
              have before := dates.le_now earlier dated
              exact ⟨time, rfl, by omega⟩
            · exact ⟨same, found, recent⟩
          · rintro ⟨same, found, recent⟩
            exact .inr ⟨same, found, recent⟩

end Dates

/-! ## What is overdue -/

theorem le_hours_iff {hours modified now : Nat} (past : modified ≤ now) :
    hours ≤ (now - modified) / 1000000000 / 3600 ↔ ¬now < modified + hours * hour := by
  rw [Nat.div_div_eq_div_mul, Nat.le_div_iff_mul_le (by decide), hour]
  omega

namespace RuleFiles

variable {files : RuleFiles} {hours now : Nat}

theorem all_rulesAgeHours_iff (past : ∀ china, files.chinaList = some china → china ≤ now) :
    ((files.rulesAgeHours now).all fun age => decide (age ≥ hours)) = true ↔
      ¬∃ china, files.chinaList = some china ∧ now < china + hours * hour := by
  unfold rulesAgeHours
  cases dated : files.chinaList with
  | none => simp
  | some china =>
      have elapses : elapsed china now = some (now - china) := if_pos (past china dated)
      simp only [Option.bind_eq_bind, Option.bind_some, elapses, Option.pure_def, Option.all_some,
        decide_eq_true_eq, ge_iff_le, le_hours_iff (past china dated), Option.some.injEq,
        exists_eq_left']

theorem stale_iff (hours : Nat) (china : ∀ time, files.chinaList = some time → time ≤ now)
    (gfw : ∀ time, files.gfw = some time → time ≤ now) :
    files.Stale hours now ↔
      ¬((∃ time, files.chinaList = some time ∧ now < time + hours * hour) ∧
        ∃ time, files.gfw = some time ∧ now < time + hours * hour) := by
  unfold Stale rulesUpdatedAt
  cases direct : files.chinaList with
  | none => simp
  | some first =>
      cases proxy : files.gfw with
      | none => simp
      | some second =>
          have before := china first direct
          have behind := gfw second proxy
          simp only [Option.bind_eq_bind, Option.bind_some, Option.pure_def, Option.some.injEq,
            forall_eq', exists_eq_left']
          omega

end RuleFiles

/-- `rules_overdue` asks whether the direct list was not replaced lately. -/
theorem rulesOverdue_iff {Digest : Type} (controller : Controller Digest) (answers : Answers)
    (hours : 0 < controller.gui.config.pacAutoUpdateHours.toNat) (downloads : List Download)
    (idle : Nat) :
    controller.rulesOverdue { answers with
        rulesAgeHours := (replay downloads).files.rulesAgeHours ((replay downloads).now + idle) } =
        true ↔
      ¬Recent Download.direct controller.gui.config.pacAutoUpdateHours.toNat downloads
        ((replay downloads).now + idle) := by
  have past : ∀ china, (replay downloads).files.chinaList = some china →
      china ≤ (replay downloads).now + idle :=
    fun china dated => (dates_direct.le_now downloads dated).trans (Nat.le_add_right _ _)
  rw [dates_direct.recent_iff, ← RuleFiles.all_rulesAgeHours_iff past, Controller.rulesOverdue,
    Bool.and_eq_true, decide_eq_true_eq]
  exact and_iff_right hours

/-- After any downloads and at any later time, the rules are overdue as their shown date says
exactly when the last hours have no half of an update. -/
theorem overdue_iff_not_halfUpdated {Digest : Type} (controller : Controller Digest)
    (answers : Answers) (hours : 0 < controller.gui.config.pacAutoUpdateHours.toNat)
    (downloads : List Download) (idle : Nat) :
    (controller.rulesOverdue { answers with
        rulesAgeHours := (replay downloads).files.rulesAgeHours ((replay downloads).now + idle) } =
        true ↔
      (replay downloads).files.Stale controller.gui.config.pacAutoUpdateHours.toNat
        ((replay downloads).now + idle)) ↔
    ¬HalfUpdated controller.gui.config.pacAutoUpdateHours.toNat downloads
      ((replay downloads).now + idle) := by
  have stale := RuleFiles.stale_iff controller.gui.config.pacAutoUpdateHours.toNat
    (fun time dated => (dates_direct.le_now downloads dated).trans (Nat.le_add_right _ idle))
    (fun time dated => (dates_proxy.le_now downloads dated).trans (Nat.le_add_right _ idle))
  rw [rulesOverdue_iff controller answers hours, stale, ← dates_direct.recent_iff,
    ← dates_proxy.recent_iff, HalfUpdated]
  tauto

/-- A controller that updates its rules once a day. -/
def dailyController : Controller Bytes :=
  let controller := Controller.new nodesEnv nodesStorage fun _ => false
  { controller with
    gui := { controller.gui with
      config := { controller.gui.config with pacAutoUpdateHours := 24 } } }

/-- A whole update, and two days later one that fails between the lists. -/
def halfUpdate : List Download :=
  [⟨0, .replacesBoth 1 1⟩, ⟨48 * hour, .failsBetween 1⟩]

theorem overdue_iff_daily :
    0 < dailyController.gui.config.pacAutoUpdateHours.toNat ∧
      ((dailyController.rulesOverdue { Answers.willing with
          rulesAgeHours := (replay [⟨0, .replacesBoth 1 1⟩]).files.rulesAgeHours
            ((replay [⟨0, .replacesBoth 1 1⟩]).now + 25 * hour) } = true ↔
        (replay [⟨0, .replacesBoth 1 1⟩]).files.Stale
          dailyController.gui.config.pacAutoUpdateHours.toNat
          ((replay [⟨0, .replacesBoth 1 1⟩]).now + 25 * hour)) ↔
      ¬HalfUpdated dailyController.gui.config.pacAutoUpdateHours.toNat [⟨0, .replacesBoth 1 1⟩]
        ((replay [⟨0, .replacesBoth 1 1⟩]).now + 25 * hour)) := by
  have daily : 0 < dailyController.gui.config.pacAutoUpdateHours.toNat := by decide +kernel
  exact ⟨daily, overdue_iff_not_halfUpdated dailyController .willing daily _ (25 * hour)⟩

/-- One hour after the update that failed, the proxy list is two days old and no rule is
overdue. -/
theorem halfUpdate_not_overdue :
    dailyController.gui.config.pacAutoUpdateHours.toNat = 24 ∧
      (replay halfUpdate).files.Stale 24 ((replay halfUpdate).now + hour) ∧
      ¬dailyController.rulesOverdue { Answers.willing with
        rulesAgeHours :=
          (replay halfUpdate).files.rulesAgeHours ((replay halfUpdate).now + hour) } = true := by
  refine ⟨by decide +kernel, fun updated dated => ?_, by decide +kernel⟩
  have shown : (replay halfUpdate).files.rulesUpdatedAt = some 2 := by decide +kernel
  obtain rfl := Option.some.inj (shown.symm.trans dated)
  decide +kernel

end Juicity.Gui

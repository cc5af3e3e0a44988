import Juicity.Gui.Controller.Model
import Mathlib.Data.List.Induction
import Mathlib.Logic.Function.Basic

/-!
Owns the Windows part of `gui/src/system_proxy.rs`: a registry key as a map of
values, what each mode of the system proxy adds and deletes, and what `reg query`
prints of a value. A value belongs to the program when it is printed as the
listen address of the call that disables the proxy.
-/

namespace Juicity.Gui.SystemProxy

open Juicity.Common

/-! ## The registry -/

/-- A value as `reg` writes it: its type and its data. -/
structure RegValue where
  kind : String
  data : String
deriving DecidableEq

/-- The values of the key `Internet Settings`. -/
abbrev Registry := String → Option RegValue

def regAdd (registry : Registry) (name kind data : String) : Registry :=
  Function.update registry name (some ⟨kind, data⟩)

def regDelete (registry : Registry) (name : String) : Registry :=
  Function.update registry name none

/-- `INTERNET_SETTINGS`, as it is printed. -/
def internetSettings : String :=
  "HKEY_CURRENT_USER\\Software\\Microsoft\\Windows\\CurrentVersion\\Internet Settings"

/-- What `reg query` prints of a value. -/
def regOutput (name : String) (value : RegValue) : String :=
  "\r\n" ++ internetSettings ++ "\r\n" ++
    ("    " ++ name ++ "    " ++ value.kind ++ "    " ++ value.data ++ "\r\n\r\n")

/-- `str::trim_start`. -/
def trimStart (text : List Char) : List Char := text.dropWhile isWhitespace

/-- The data on a line of the output. -/
def regSzOfLine (name line : String) : Option String := do
  let rest ← (trimStart line.toList).dropPrefix? name.toList
  let data ← (trimStart rest).dropPrefix? "REG_SZ".toList
  return trim (String.ofList data)

def parseRegSz (output name : String) : Option String :=
  (lines output).findSome? (regSzOfLine name)

/-- What the program reads of a value. -/
def shown (name : String) (value : RegValue) : Option String :=
  parseRegSz (regOutput name value) name

/-- Of a value that is absent `reg` prints nothing. -/
def regQuery (registry : Registry) (name : String) : Option String :=
  (registry name).bind (shown name)

/-! ## What is printed -/

theorem trimStart_append {front back : List Char} {char : Char}
    (white : ∀ char ∈ front, isWhitespace char = true) (starts : back.head? = some char)
    (inked : isWhitespace char = false) : trimStart (front ++ back) = back := by
  obtain ⟨rest, rfl⟩ : ∃ rest, back = char :: rest := by
    cases back with
    | nil => cases starts
    | cons first rest => exact ⟨rest, by rw [Option.some.inj starts]⟩
  rw [trimStart, List.dropWhile_append_of_pos white, List.dropWhile_cons_of_neg]
  rw [inked]
  exact Bool.false_ne_true

theorem white_spaces : ∀ char ∈ "    ".toList, isWhitespace char = true :=
  List.all_eq_true.mp (by decide)

/-- The line `reg query` prints of a string. -/
def regLine (name data : String) : List Char :=
  "    ".toList ++ (name.toList ++ ("    ".toList ++ ("REG_SZ".toList ++
    ("    ".toList ++ data.toList))))

theorem regSzOfLine_regLine {name : String} {char : Char} (starts : name.toList.head? = some char)
    (inked : isWhitespace char = false) (data : String) :
    regSzOfLine name (String.ofList (regLine name data)) = some (trim data) := by
  have first : (name.toList ++ ("    ".toList ++ ("REG_SZ".toList ++
      ("    ".toList ++ data.toList)))).head? = some char := by
    rw [List.head?_append, starts]
    rfl
  have second : trimStart ("    ".toList ++ ("REG_SZ".toList ++ ("    ".toList ++ data.toList))) =
      "REG_SZ".toList ++ ("    ".toList ++ data.toList) :=
    @trimStart_append _ _ 'R' white_spaces rfl (by decide)
  simp only [regSzOfLine, String.toList_ofList, regLine, trimStart_append white_spaces first inked,
    dropPrefix?_append, second, Option.bind_eq_bind, Option.bind_some,
    trim_append_left white_spaces, Option.pure_def]

theorem regOutput_sz (name data : String) :
    regOutput name ⟨"REG_SZ", data⟩ = String.ofList (['\r'] ++ '\n' ::
      ((internetSettings.toList ++ ['\r']) ++ '\n' ::
        ((regLine name data ++ ['\r']) ++ '\n' :: ['\r', '\n']))) := by
  rw [← String.toList_inj, String.toList_ofList]
  unfold regOutput regLine
  simp only [String.toList_append, List.append_assoc]
  rfl

/-- A string of one line is printed without the white space around it. -/
theorem shown_sz {name data : String} (named : name ∈ ["ProxyServer", "ProxyOverride"])
    (oneLine : '\n' ∉ data.toList) : shown name ⟨"REG_SZ", data⟩ = some (trim data) := by
  have settings : '\n' ∉ internetSettings.toList ++ ['\r'] := by decide +kernel
  have starts : name.toList.head? = some 'P' := by
    rcases List.mem_cons.mp named with rfl | last
    · rfl
    · rw [List.mem_singleton.mp last]
      rfl
  have plain : '\n' ∉ name.toList := by
    rcases List.mem_cons.mp named with rfl | last
    · decide
    · rw [List.mem_singleton.mp last]
      decide
  have free : '\n' ∉ regLine name data ++ ['\r'] := by
    simp only [regLine, List.mem_append, not_or]
    exact ⟨⟨by decide, plain, by decide, by decide, by decide, oneLine⟩, by decide⟩
  have passed : regSzOfLine name internetSettings = none := by
    rcases List.mem_cons.mp named with rfl | last
    · decide +kernel
    · rw [List.mem_singleton.mp last]
      decide +kernel
  have empty : regSzOfLine name (String.ofList []) = none := by
    rcases List.mem_cons.mp named with rfl | last
    · decide +kernel
    · rw [List.mem_singleton.mp last]
      decide +kernel
  have carriage : stripCarriageReturn ['\r'] = [] := rfl
  rw [shown, parseRegSz, regOutput_sz, lines_append (by decide), lines_append settings,
    lines_append free, carriage, stripCarriageReturn_concat, stripCarriageReturn_concat,
    String.ofList_toList, List.findSome?_cons, empty, List.findSome?_cons, passed,
    List.findSome?_cons, regSzOfLine_regLine starts (by decide)]

/-! ## The modes -/

/-- `ProxyOverride` for Global mode. -/
def windowsBypass : String :=
  ";".intercalate (["localhost", "127.*", "10.*"] ++
    (List.range' 16 16).map (fun n => "172." ++ toString n ++ ".*") ++ ["192.168.*", "<local>"])

/-- The arguments of `apply_windows`. -/
structure Call where
  mode : SystemProxyMode
  pacUrl : String
  listen : String

def applyWindows (registry : Registry) (call : Call) : Registry :=
  match call.mode with
  | .disable =>
      let registry := regAdd registry "ProxyEnable" "REG_DWORD" "0"
      let registry := regDelete registry "AutoConfigURL"
      -- only what Global mode wrote is removed
      let registry :=
        if regQuery registry "ProxyServer" = some call.listen then
          regDelete registry "ProxyServer"
        else registry
      if regQuery registry "ProxyOverride" = some windowsBypass then
        regDelete registry "ProxyOverride"
      else registry
  | .pac =>
      let registry := regAdd registry "ProxyEnable" "REG_DWORD" "0"
      regAdd registry "AutoConfigURL" "REG_SZ" call.pacUrl
  | .global =>
      let registry := regAdd registry "ProxyEnable" "REG_DWORD" "1"
      let registry := regAdd registry "ProxyServer" "REG_SZ" call.listen
      let registry := regAdd registry "ProxyOverride" "REG_SZ" windowsBypass
      -- a PAC script would take precedence
      regDelete registry "AutoConfigURL"

/-- `apply_system_proxy` on Windows. -/
def applySystemProxy (registry : Registry) (config : AppConfig) : Registry :=
  applyWindows registry
    ⟨config.systemProxyMode, Controller.effectivePacUrl config, config.mixedListen⟩

def run (start : Registry) (calls : List Call) : Registry := calls.foldl applyWindows start

/-! ## What a clean-up owes -/

/-- What Global mode writes for the address of a call. -/
def Call.proxy (call : Call) : List (String × RegValue) :=
  [("ProxyServer", ⟨"REG_SZ", call.listen⟩), ("ProxyOverride", ⟨"REG_SZ", windowsBypass⟩)]

/-- The strings a call writes. -/
def Call.writes (call : Call) : List (String × RegValue) :=
  match call.mode with
  | .disable => []
  | .pac => [("AutoConfigURL", ⟨"REG_SZ", call.pacUrl⟩)]
  | .global => call.proxy

/-- Behind a Disable nothing is left that an earlier call wrote, the proxy is off, and what the
user had is as it was. -/
structure CleanedUp (start : Registry) (earlier : List Call) (final : Call) : Prop where
  removed : ∀ name ∈ ["ProxyServer", "ProxyOverride", "AutoConfigURL"], ∀ value,
    run start (earlier ++ [final]) name = some value →
      ∀ call ∈ earlier, (name, value) ∉ call.writes
  disabled : run start (earlier ++ [final]) "ProxyEnable" = some ⟨"REG_DWORD", "0"⟩
  kept : ∀ name ∈ ["ProxyServer", "ProxyOverride"], ∀ value, start name = some value →
    (∀ call ∈ earlier, call.mode ≠ .global) →
    (∀ call ∈ earlier ++ [final], (name, value) ∉ call.proxy) →
      run start (earlier ++ [final]) name = some value
  others : ∀ name ∉ ["ProxyEnable", "ProxyServer", "ProxyOverride", "AutoConfigURL"],
    run start (earlier ++ [final]) name = start name

/-- The address of the last Global call is met by a Disable behind it, and no value of the
user is printed as one of the program's without being it. -/
structure Recognised (start : Registry) (earlier : List Call) (final : Call) : Prop where
  server : ∀ before call later, earlier = before ++ call :: later → call.mode = .global →
    (∀ other ∈ later, other.mode ≠ .global) →
      ∃ other ∈ later ++ [final], other.mode = .disable ∧
        shown "ProxyServer" ⟨"REG_SZ", call.listen⟩ = some other.listen
  foreignServer : (∀ call ∈ earlier, call.mode ≠ .global) → ∀ value,
    start "ProxyServer" = some value → ∀ other ∈ earlier ++ [final], other.mode = .disable →
      shown "ProxyServer" value = some other.listen →
        ∃ call ∈ earlier ++ [final], value = ⟨"REG_SZ", call.listen⟩
  foreignOverride : (∀ call ∈ earlier, call.mode ≠ .global) → ∀ value,
    start "ProxyOverride" = some value → shown "ProxyOverride" value = some windowsBypass →
      value = ⟨"REG_SZ", windowsBypass⟩

/-! ## One value -/

/-- What a call does to one of the two strings of a proxy. -/
def settle (name : String) (text : Call → String) (cell : Option RegValue) (call : Call) :
    Option RegValue :=
  match call.mode with
  | .global => some ⟨"REG_SZ", text call⟩
  | .pac => cell
  | .disable => if cell.bind (shown name) = some (text call) then none else cell

theorem applyWindows_server (registry : Registry) (call : Call) :
    applyWindows registry call "ProxyServer" =
      settle "ProxyServer" Call.listen (registry "ProxyServer") call := by
  obtain ⟨mode, pacUrl, listen⟩ := call
  cases mode with
  | disable =>
      have queried : regQuery (regDelete (regAdd registry "ProxyEnable" "REG_DWORD" "0")
          "AutoConfigURL") "ProxyServer" = (registry "ProxyServer").bind (shown "ProxyServer") := by
        simp [regQuery, regDelete, regAdd]
      simp only [applyWindows, settle, queried]
      split
      next => split <;> simp [regDelete]
      next => split <;> simp [regDelete, regAdd]
  | pac => simp [applyWindows, settle, regAdd]
  | global => simp [applyWindows, settle, regAdd, regDelete]

theorem applyWindows_override (registry : Registry) (call : Call) :
    applyWindows registry call "ProxyOverride" =
      settle "ProxyOverride" (fun _ => windowsBypass) (registry "ProxyOverride") call := by
  obtain ⟨mode, pacUrl, listen⟩ := call
  cases mode with
  | disable =>
      have untouched : ∀ middle : Registry, middle "ProxyOverride" = registry "ProxyOverride" →
          (if regQuery middle "ProxyOverride" = some windowsBypass then
            regDelete middle "ProxyOverride" else middle) "ProxyOverride" =
          if (registry "ProxyOverride").bind (shown "ProxyOverride") = some windowsBypass then none
          else registry "ProxyOverride" := by
        intro middle same
        rw [regQuery, same]
        split
        next => simp [regDelete]
        next => exact same
      refine untouched _ ?_
      split <;> simp [regDelete, regAdd]
  | pac => simp [applyWindows, settle, regAdd]
  | global => simp [applyWindows, settle, regAdd, regDelete]

theorem applyWindows_autoConfig (registry : Registry) {call : Call} (final : call.mode = .disable) :
    applyWindows registry call "AutoConfigURL" = none ∧
      applyWindows registry call "ProxyEnable" = some ⟨"REG_DWORD", "0"⟩ := by
  obtain ⟨mode, pacUrl, listen⟩ := call
  obtain rfl : mode = .disable := final
  simp only [applyWindows]
  constructor
  · split <;> split <;> simp [regDelete]
  · split <;> split <;> simp [regDelete, regAdd]

theorem applyWindows_others (registry : Registry) (call : Call) {name : String}
    (other : name ∉ ["ProxyEnable", "ProxyServer", "ProxyOverride", "AutoConfigURL"]) :
    applyWindows registry call name = registry name := by
  obtain ⟨mode, pacUrl, listen⟩ := call
  simp only [List.mem_cons, List.not_mem_nil, or_false, not_or] at other
  obtain ⟨enable, server, bypass, autoConfig⟩ := other
  cases mode with
  | disable =>
      simp only [applyWindows]
      split <;> split <;> simp [regDelete, regAdd, enable, server, bypass, autoConfig]
  | pac => simp [applyWindows, regAdd, enable, autoConfig]
  | global => simp [applyWindows, regAdd, regDelete, enable, server, bypass, autoConfig]

/-! ## Runs -/

section Cell

variable {name : String} {text : Call → String}

/-- Without a Global call the value stays until a Disable call takes it for its own. -/
theorem foldl_settle {calls : List Call} (foreign : ∀ call ∈ calls, call.mode ≠ .global)
    (cell : Option RegValue) :
    ((∃ call ∈ calls, call.mode = .disable ∧ cell.bind (shown name) = some (text call)) →
      calls.foldl (settle name text) cell = none) ∧
    ((¬∃ call ∈ calls, call.mode = .disable ∧ cell.bind (shown name) = some (text call)) →
      calls.foldl (settle name text) cell = cell) := by
  induction calls generalizing cell with
  | nil => exact ⟨fun ⟨_, member, _⟩ => absurd member List.not_mem_nil, fun _ => rfl⟩
  | cons call rest inductionHypothesis =>
      obtain ⟨here, later⟩ := List.forall_mem_cons.mp foreign
      have empty : rest.foldl (settle name text) none = none := by
        refine (inductionHypothesis later none).2 ?_
        rintro ⟨other, _, _, taken⟩
        cases taken
      by_cases taken : call.mode = .disable ∧ cell.bind (shown name) = some (text call)
      · have gone : settle name text cell call = none := by
          rw [settle, taken.1]
          exact if_pos taken.2
        rw [List.foldl_cons, gone, empty]
        exact ⟨fun _ => rfl, fun none => absurd ⟨call, List.mem_cons_self, taken⟩ none⟩
      · have stays : settle name text cell call = cell := by
          unfold settle
          split
          next global => exact absurd global here
          next => rfl
          next disable => exact if_neg fun same => taken ⟨disable, same⟩
        rw [List.foldl_cons, stays]
        constructor
        · rintro ⟨other, member, matching⟩
          rcases List.mem_cons.mp member with rfl | behind
          · exact absurd matching taken
          · exact (inductionHypothesis later cell).1 ⟨other, behind, matching⟩
        · intro none
          refine (inductionHypothesis later cell).2 ?_
          rintro ⟨other, behind, matching⟩
          exact none ⟨other, List.mem_cons_of_mem _ behind, matching⟩

end Cell

/-- The last Global call of a sequence. -/
theorem exists_last_global {calls : List Call} (some : ∃ call ∈ calls, call.mode = .global) :
    ∃ before call later, calls = before ++ call :: later ∧ call.mode = .global ∧
      ∀ other ∈ later, other.mode ≠ .global := by
  induction calls with
  | nil =>
      obtain ⟨call, member, _⟩ := some
      cases member
  | cons first rest inductionHypothesis =>
      by_cases behind : ∃ call ∈ rest, call.mode = .global
      · obtain ⟨before, call, later, rfl, global, last⟩ := inductionHypothesis behind
        exact ⟨first :: before, call, later, rfl, global, last⟩
      · obtain ⟨call, member, global⟩ := some
        rcases List.mem_cons.mp member with rfl | inRest
        · exact ⟨[], call, rest, rfl, global, fun other listed mode => behind ⟨other, listed, mode⟩⟩
        · exact absurd ⟨call, inRest, global⟩ behind

theorem run_server (start : Registry) (calls : List Call) :
    run start calls "ProxyServer" =
      calls.foldl (settle "ProxyServer" Call.listen) (start "ProxyServer") := by
  induction calls generalizing start with
  | nil => rfl
  | cons call rest inductionHypothesis =>
      rw [List.foldl_cons, ← applyWindows_server, ← inductionHypothesis]
      rfl

theorem run_override (start : Registry) (calls : List Call) :
    run start calls "ProxyOverride" =
      calls.foldl (settle "ProxyOverride" fun _ => windowsBypass) (start "ProxyOverride") := by
  induction calls generalizing start with
  | nil => rfl
  | cons call rest inductionHypothesis =>
      rw [List.foldl_cons, ← applyWindows_override, ← inductionHypothesis]
      rfl

theorem run_others (start : Registry) (calls : List Call) {name : String}
    (other : name ∉ ["ProxyEnable", "ProxyServer", "ProxyOverride", "AutoConfigURL"]) :
    run start calls name = start name := by
  induction calls generalizing start with
  | nil => rfl
  | cons call rest inductionHypothesis =>
      exact (inductionHypothesis (applyWindows start call)).trans
        (applyWindows_others start call other)

theorem run_snoc (start : Registry) (earlier : List Call) (final : Call) :
    run start (earlier ++ [final]) = applyWindows (run start earlier) final :=
  List.foldl_concat _ _ _ _

/-- A text without white space. -/
def inked (text : String) : Bool := text.toList.all (!isWhitespace ·)

theorem inked_intercalate {between : String} {parts : List String} (apart : inked between = true)
    (every : parts.all inked = true) : inked (between.intercalate parts) = true := by
  induction parts with
  | nil => rfl
  | cons part rest inductionHypothesis =>
      rw [List.all_cons, Bool.and_eq_true] at every
      have joined := inductionHypothesis every.2
      cases rest with
      | nil =>
          rw [String.intercalate_singleton]
          exact every.1
      | cons next more =>
          rw [inked] at apart joined ⊢
          rw [String.intercalate_cons_cons, String.toList_append, String.toList_append,
            List.all_append, List.all_append, apart, joined, Bool.and_true, Bool.and_true]
          exact every.1

/-- The list of the bypassed hosts is printed as it is. -/
theorem shown_windowsBypass :
    shown "ProxyOverride" ⟨"REG_SZ", windowsBypass⟩ = some windowsBypass := by
  have every : inked windowsBypass = true := inked_intercalate (by decide) (by decide +kernel)
  have plain : ∀ char ∈ windowsBypass.toList, isWhitespace char = false := by
    intro char member
    exact Bool.not_eq_true' _ ▸ List.all_eq_true.mp every char member
  have oneLine : '\n' ∉ windowsBypass.toList := fun member => absurd (plain _ member) (by decide)
  have trimmed := trim_plain plain
  rw [String.ofList_toList] at trimmed
  rw [shown_sz (by decide) oneLine, trimmed]

/-- A Disable call leaves no list of hosts that Global mode wrote. -/
theorem run_override_ne (start : Registry) (earlier : List Call) {final : Call}
    (disable : final.mode = .disable) :
    run start (earlier ++ [final]) "ProxyOverride" ≠ some ⟨"REG_SZ", windowsBypass⟩ := by
  intro left
  rw [run_snoc, applyWindows_override, settle, disable] at left
  dsimp only at left
  split at left
  next => cases left
  next kept =>
    rw [left, Option.bind_some] at kept
    exact kept shown_windowsBypass

-- what is printed of a value is not computed below
attribute [local irreducible] shown windowsBypass

section Main

variable {start : Registry} {earlier : List Call} {final : Call}

theorem forall_snoc_ne_global (disable : final.mode = .disable) {calls : List Call}
    (foreign : ∀ call ∈ calls, call.mode ≠ .global) :
    ∀ call ∈ calls ++ [final], call.mode ≠ .global := by
  intro call member
  rcases List.mem_append.mp member with inside | last
  · exact foreign call inside
  · rw [List.mem_singleton.mp last, disable]
    exact nofun

/-- Behind the last Global call the address it wrote stays until a Disable call meets it. -/
theorem run_server_of_global (start : Registry) (before : List Call)
    (disable : final.mode = .disable) {later : List Call} {call : Call}
    (global : call.mode = .global) (last : ∀ other ∈ later, other.mode ≠ .global) :
    ((∃ other ∈ later ++ [final], other.mode = .disable ∧
        shown "ProxyServer" ⟨"REG_SZ", call.listen⟩ = some other.listen) →
      run start ((before ++ call :: later) ++ [final]) "ProxyServer" = none) ∧
    ((¬∃ other ∈ later ++ [final], other.mode = .disable ∧
        shown "ProxyServer" ⟨"REG_SZ", call.listen⟩ = some other.listen) →
      run start ((before ++ call :: later) ++ [final]) "ProxyServer" =
        some ⟨"REG_SZ", call.listen⟩) := by
  have written : ∀ cell, settle "ProxyServer" Call.listen cell call =
      some ⟨"REG_SZ", call.listen⟩ := by
    intro cell
    rw [settle, global]
  rw [run_server, List.append_assoc, List.cons_append, List.foldl_append, List.foldl_cons, written]
  exact foldl_settle (forall_snoc_ne_global disable last) (some ⟨"REG_SZ", call.listen⟩)

theorem recognised_of_cleanedUp (disable : final.mode = .disable)
    (cleaned : CleanedUp start earlier final) : Recognised start earlier final where
  server := by
    rintro before call later rfl global last
    by_contra missed
    have left := (run_server_of_global start before disable global last).2 missed
    refine cleaned.removed "ProxyServer" (by decide) _ left call (by simp) ?_
    rw [Call.writes, global]
    exact List.mem_cons_self
  foreignServer := by
    intro foreign value stored other member disables printed
    by_contra own
    have kept := cleaned.kept "ProxyServer" (by decide) value stored foreign (by
      intro call listed taken
      rcases List.mem_cons.mp taken with same | override
      · exact own ⟨call, listed, (Prod.mk.inj same).2⟩
      · have names := (Prod.mk.inj (List.mem_singleton.mp override)).1
        exact absurd names (by decide))
    rw [run_server, (foldl_settle (forall_snoc_ne_global disable foreign) _).1
      ⟨other, member, disables, by rw [stored]; exact printed⟩] at kept
    cases kept
  foreignOverride := by
    intro foreign value stored printed
    by_contra own
    have kept := cleaned.kept "ProxyOverride" (by decide) value stored foreign (by
      intro call listed taken
      rcases List.mem_cons.mp taken with server | same
      · exact absurd (Prod.mk.inj server).1 (by decide)
      · exact own (Prod.mk.inj (List.mem_singleton.mp same)).2)
    rw [run_override, (foldl_settle (forall_snoc_ne_global disable foreign) _).1
      ⟨final, List.mem_append_right _ List.mem_cons_self, disable, by
        rw [stored]
        exact printed⟩] at kept
    cases kept

theorem cleanedUp_of_recognised (disable : final.mode = .disable)
    (recognised : Recognised start earlier final) : CleanedUp start earlier final where
  removed := by
    intro name named value left call member written
    cases mode : call.mode with
    | disable => simp [Call.writes, mode] at written
    | pac =>
        have target : name = "AutoConfigURL" := by
          rw [Call.writes, mode] at written
          exact (Prod.mk.inj (List.mem_singleton.mp written)).1
        rw [target, run_snoc, (applyWindows_autoConfig _ disable).1] at left
        cases left
    | global =>
        rw [Call.writes, mode] at written
        rcases List.mem_cons.mp written with server | override
        · obtain ⟨rfl, _⟩ := Prod.mk.inj server
          obtain ⟨before, last, later, rfl, global, behind⟩ :=
            exists_last_global ⟨call, member, mode⟩
          have gone := (run_server_of_global start before disable global behind).1
            (recognised.server before last later rfl global behind)
          rw [gone] at left
          cases left
        · obtain ⟨rfl, rfl⟩ := Prod.mk.inj (List.mem_singleton.mp override)
          exact run_override_ne start earlier disable left
  disabled := by
    rw [run_snoc]
    exact (applyWindows_autoConfig _ disable).2
  kept := by
    intro name named value stored foreign own
    have calm := forall_snoc_ne_global disable foreign
    rcases List.mem_cons.mp named with rfl | override
    · rw [run_server, stored]
      refine (foldl_settle calm (some value)).2 ?_
      rintro ⟨other, member, disables, printed⟩
      obtain ⟨call, listed, rfl⟩ :=
        recognised.foreignServer foreign value stored other member disables printed
      exact own call listed List.mem_cons_self
    · obtain rfl := List.mem_singleton.mp override
      rw [run_override, stored]
      refine (foldl_settle calm (some value)).2 ?_
      rintro ⟨other, member, disables, printed⟩
      obtain rfl := recognised.foreignOverride foreign value stored printed
      exact own final (List.mem_append_right _ List.mem_cons_self)
        (List.mem_cons_of_mem _ List.mem_cons_self)
  others := fun name other => run_others start _ other

end Main

/-- Disabling the proxy cleans up after any sequence of calls exactly when the program's address
is recognised. -/
theorem cleanedUp_iff_recognised (start : Registry) (earlier : List Call) (pacUrl listen : String) :
    CleanedUp start earlier ⟨.disable, pacUrl, listen⟩ ↔
      Recognised start earlier ⟨.disable, pacUrl, listen⟩ :=
  ⟨recognised_of_cleanedUp rfl, cleanedUp_of_recognised rfl⟩

/-- With addresses of one line without white space around them, and no proxy of the user's, the
last address that Global mode wrote has to be that of a Disable call behind it. -/
theorem cleanedUp_iff_sameListen {start : Registry} {earlier : List Call} (pacUrl listen : String)
    (plain : ∀ call ∈ earlier, '\n' ∉ call.listen.toList ∧ trim call.listen = call.listen)
    (noServer : start "ProxyServer" = none) (noOverride : start "ProxyOverride" = none) :
    CleanedUp start earlier ⟨.disable, pacUrl, listen⟩ ↔
      ∀ before call later, earlier = before ++ call :: later → call.mode = .global →
        (∀ other ∈ later, other.mode ≠ .global) →
          ∃ other ∈ later ++ [⟨.disable, pacUrl, listen⟩],
            other.mode = .disable ∧ other.listen = call.listen := by
  have printed : ∀ call ∈ earlier,
      shown "ProxyServer" ⟨"REG_SZ", call.listen⟩ = some call.listen := by
    intro call member
    rw [shown_sz (by decide) (plain call member).1, (plain call member).2]
  constructor
  · intro cleaned before call later shape global last
    have recognised := recognised_of_cleanedUp rfl cleaned
    obtain ⟨other, member, disable, same⟩ := recognised.server before call later shape global last
    rw [printed call (by rw [shape]; simp)] at same
    exact ⟨other, member, disable, (Option.some.inj same).symm⟩
  · intro met
    refine cleanedUp_of_recognised rfl ⟨fun before call later shape global last => ?_,
      fun _ value stored => ?_, fun _ value stored => ?_⟩
    · obtain ⟨other, member, disable, same⟩ := met before call later shape global last
      refine ⟨other, member, disable, ?_⟩
      rw [printed call (by rw [shape]; simp), same]
    · rw [noServer] at stored
      cases stored
    · rw [noOverride] at stored
      cases stored

/-- The port is changed between the call that wrote it and the one that cleans up. -/
theorem moved_port_stays :
    run (fun _ => none) [⟨.global, "", "127.0.0.1:1080"⟩, ⟨.disable, "", "127.0.0.1:2080"⟩]
        "ProxyServer" = some ⟨"REG_SZ", "127.0.0.1:1080"⟩ ∧
      ¬CleanedUp (fun _ => none) [⟨.global, "", "127.0.0.1:1080"⟩]
        ⟨.disable, "", "127.0.0.1:2080"⟩ := by
  have printed : shown "ProxyServer" ⟨"REG_SZ", "127.0.0.1:1080"⟩ = some "127.0.0.1:1080" := by
    have trimmed : trim "127.0.0.1:1080" = "127.0.0.1:1080" := by decide +kernel
    rw [shown_sz (by decide) (by decide), trimmed]
  have left := (run_server_of_global (fun _ => none) []
    (rfl : (⟨.disable, "", "127.0.0.1:2080"⟩ : Call).mode = .disable)
    (rfl : (⟨.global, "", "127.0.0.1:1080"⟩ : Call).mode = .global)
    (List.forall_mem_nil _)).2 (by
      rintro ⟨other, member, _, same⟩
      rw [List.mem_singleton.mp member, printed] at same
      exact absurd (Option.some.inj same) (by decide))
  exact ⟨left, fun cleaned => cleaned.removed "ProxyServer" (by decide) _ left
    ⟨.global, "", "127.0.0.1:1080"⟩ List.mem_cons_self List.mem_cons_self⟩

end Juicity.Gui.SystemProxy

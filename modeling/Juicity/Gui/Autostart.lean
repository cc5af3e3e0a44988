import Juicity.Common.Text
import Juicity.Machine.Escape

/-!
Owns the autostart entry of `gui/src/desktop/autostart.rs`: the entry that is
written for a program, and how the Desktop Entry specification reads its `Exec`
value. A path is its lossy text.

Contract: the string escapes are undone, the value is split into its quoted and
unquoted arguments, and `%` with a character is a field code unless it is `%%`.
-/

namespace Juicity.Gui.Autostart

open Juicity.Common Juicity.Machine

/-! ## The writer -/

/-- `RESERVED`. -/
def reserved : List Char :=
  [' ', '\t', '\n', '"', '\'', '\\', '>', '<', '~', '|', '&', ';', '$', '*', '?', '#', '(', ')',
    '`']

/-- The characters that are escaped inside the quotes. -/
def isQuoteSpecial (char : Char) : Bool :=
  char == '"' || char == '`' || char == '$' || char == '\\'

def quoted (arg : List Char) : List Char :=
  if arg.any (reserved.contains ·) then
    '"' :: arg.flatMap (fun char => if isQuoteSpecial char then ['\\', char] else [char]) ++ ['"']
  else arg

/-- A character of the value: `%` is doubled, and the string escapes are applied. -/
def valueOf : Char → List Char
  | '%' => ['%', '%']
  | '\\' => ['\\', '\\']
  | '\n' => ['\\', 'n']
  | '\t' => ['\\', 't']
  | '\r' => ['\\', 'r']
  | char => [char]

def execArgument (arg : String) : String := String.ofList ((quoted arg.toList).flatMap valueOf)

/-- What stands in front of the value, and behind it. -/
def entryHead : String :=
  "[Desktop Entry]\nType=Application\nName=Juicity GUI\nComment=Juicity GUI Client\nExec="

def entryTail : String :=
  "\nIcon=io.juicity.gui\nTerminal=false\nCategories=Network;\nX-GNOME-Autostart-enabled=true\n"

def desktopEntry (exe : String) : String := entryHead ++ execArgument exe ++ entryTail

example : execArgument "/opt/My Apps/juicity 100%/juicity-gui" =
    "\"/opt/My Apps/juicity 100%%/juicity-gui\"" := by decide +kernel

/-! ## The reader -/

/-- The codes of the string escapes that are written. -/
def stringCode : Char → Option Char
  | '\\' => some '\\'
  | '\n' => some 'n'
  | '\t' => some 't'
  | '\r' => some 'r'
  | _ => none

def stringMeaning : Char → Option Char
  | 's' => some ' '
  | 'n' => some '\n'
  | 't' => some '\t'
  | 'r' => some '\r'
  | '\\' => some '\\'
  | _ => none

theorem stringMeaning_stringCode {char code : Char} (coded : stringCode char = some code) :
    stringMeaning code = some char := by
  unfold stringCode at coded
  split at coded
  all_goals cases coded
  all_goals rfl

def stringEscape : Escape Char where
  marker := '\\'
  codeOf := stringCode
  marked := by decide

def quoteEscape : Escape Char := .behind '\\' isQuoteSpecial rfl

def percentEscape : Escape Char := .behind '%' (· == '%') rfl

/-- What an argument is made of: a field code stands for files that are opened. -/
inductive Piece where
  | char (char : Char)
  | fieldCode (code : Char)
  deriving DecidableEq

def stringUnescape : Unescape stringEscape Char where
  meaning := stringMeaning
  shown := id
  stops _ := false
  meaning_codeOf _ _ := stringMeaning_stringCode
  codeOf_of_stops _ stops := by cases stops

/-- The quoted text ends at a character that should stand behind a backslash. -/
def quoteUnescape : Unescape quoteEscape Char where
  meaning := Option.guard isQuoteSpecial
  shown := id
  stops := isQuoteSpecial
  meaning_codeOf _ _ coded := by
    obtain ⟨rfl, special⟩ := Escape.codeOf_behind.mp coded
    exact Option.guard_eq_some_iff.mpr ⟨rfl, special⟩
  codeOf_of_stops _ stops unwritten := by
    rw [Escape.codeOf_behind_none.mp unwritten] at stops
    cases stops

def pieceOf (code : Char) : Piece := if code = '%' then .char '%' else .fieldCode code

def fieldCodes : Unescape percentEscape Piece where
  meaning code := some (pieceOf code)
  shown := .char
  stops _ := false
  meaning_codeOf _ _ coded := by
    obtain ⟨rfl, percent⟩ := Escape.codeOf_behind.mp coded
    rw [eq_of_beq percent]
    rfl
  codeOf_of_stops _ stops := by cases stops

/-- The first argument, quoted as a whole or without a reserved character, and the rest. -/
def readWord : List Char → Option (List Char × List Char)
  | [] => none
  | char :: text =>
      if char = '"' then
        match quoteUnescape.read text with
        | some (word, '"' :: rest) => some (word, rest)
        | _ => none
      else
        let word := (char :: text).takeWhile (· ≠ ' ')
        if word.any (reserved.contains ·) then none
        else some (word, (char :: text).dropWhile (· ≠ ' '))

/-- Arguments are separated by spaces. -/
def separated (rest : List Char) : Bool := rest.head?.all (· = ' ')

theorem length_readWord {text word rest : List Char} (found : readWord text = some (word, rest))
    (start : text.head? ≠ some ' ') : rest.length < text.length := by
  cases text with
  | nil => cases found
  | cons char later =>
      rw [readWord] at found
      by_cases quote : char = '"'
      · rw [if_pos quote] at found
        split at found
        · cases found
          have shorter := Unescape.length_readFrom (by assumption)
          rw [List.length_cons] at shorter ⊢
          omega
        · cases found
      · rw [if_neg quote] at found
        have other : char ≠ ' ' := fun same => start (congrArg some same)
        dsimp only at found
        split at found
        · cases found
        · cases found
          rw [List.dropWhile_cons_of_pos (by exact decide_eq_true other), List.length_cons]
          exact Nat.lt_succ_of_le (List.dropWhile_sublist _).length_le

theorem length_rest {text later word rest : List Char} {char : Char}
    (spaces : text.dropWhile (· = ' ') = char :: later)
    (found : readWord (char :: later) = some (word, rest)) : rest.length < text.length := by
  have start : (char :: later).head? ≠ some ' ' := by
    intro space
    have stops := List.head?_dropWhile_not (· = ' ') text
    rw [spaces, space] at stops
    cases stops
  refine Nat.lt_of_lt_of_le (length_readWord found start) ?_
  rw [← spaces]
  exact (List.dropWhile_sublist _).length_le

/-- The arguments of a command line, without what quotes them. -/
def readWords (text : List Char) : Option (List (List Char)) :=
  match spaces : text.dropWhile (· = ' ') with
  | [] => some []
  | char :: later =>
      match found : readWord (char :: later) with
      | none => none
      | some (word, rest) =>
          have := length_rest spaces found
          if separated rest then (readWords rest).map (word :: ·) else none
  termination_by text.length

/-- The arguments of an `Exec` value. -/
def readExec (value : String) : Option (List (List Piece)) := do
  let text ← stringUnescape.read value.toList
  let words ← readWords text.1
  let arguments ← words.mapM fun word => fieldCodes.read word
  return arguments.map Prod.fst

/-! ## Round trip -/

theorem valueOf_eq (char : Char) :
    valueOf char = stringEscape.write (percentEscape.writeOne char) := by
  unfold valueOf
  split
  case h_6 noPercent noBackslash noFeed noTab noReturn =>
    have plain : percentEscape.codeOf char = none :=
      Escape.codeOf_behind_none.mpr (beq_eq_false_iff_ne.mpr noPercent)
    have shown : stringEscape.codeOf char = none := by
      change stringCode char = none
      unfold stringCode
      split
      · exact absurd rfl noBackslash
      · exact absurd rfl noFeed
      · exact absurd rfl noTab
      · exact absurd rfl noReturn
      · rfl
    rw [Escape.writeOne_plain _ plain, Escape.write_cons, Escape.writeOne_plain _ shown]
    rfl
  all_goals rfl

theorem flatMap_valueOf (text : List Char) :
    text.flatMap valueOf = stringEscape.write (percentEscape.write text) := by
  induction text with
  | nil => rfl
  | cons char rest inductionHypothesis =>
      rw [List.flatMap_cons, valueOf_eq, inductionHypothesis, Escape.write_cons,
        Escape.write_append]

theorem quoted_eq (arg : List Char) :
    quoted arg = if arg.any (reserved.contains ·) then '"' :: (quoteEscape.write arg ++ ['"'])
      else arg := by
  have special (char : Char) :
      (if isQuoteSpecial char then ['\\', char] else [char]) = quoteEscape.writeOne char :=
    (Escape.writeOne_behind char).symm
  unfold quoted
  rw [funext special]
  rfl

/-- Doubling the percent signs leaves the quotes alone. -/
theorem percent_write_quote (arg : List Char) :
    percentEscape.write ('"' :: (quoteEscape.write arg ++ ['"'])) =
      '"' :: (quoteEscape.write (percentEscape.write arg) ++ ['"']) := by
  have quoteSpares : quoteEscape.Spares percentEscape := by
    refine Escape.behind_spares fun char special => beq_eq_false_iff_ne.mpr ?_
    rintro rfl
    cases special
  have percentSpares : percentEscape.Spares quoteEscape := by
    refine Escape.behind_spares fun char percent => ?_
    rw [eq_of_beq percent]
    rfl
  rw [Escape.write_cons, Escape.write_append, quoteSpares.write_comm percentSpares]
  rfl

/-- The escapes of a quoted argument end at its closing quote. -/
theorem readWord_quoted (word : List Char) :
    readWord ('"' :: (quoteEscape.write word ++ ['"'])) = some (word, []) := by
  have ends : quoteUnescape.Ends ['"'] := by
    rintro char ⟨⟩
    exact ⟨by decide, rfl⟩
  rw [readWord, if_pos rfl, Unescape.read_write word ends, show quoteUnescape.shown = id from rfl,
    List.map_id]
  rfl

/-- Where nothing is reserved nothing is quoted. -/
theorem readWord_bare {word : List Char} (nonempty : word ≠ [])
    (plain : ∀ char ∈ word, char ∉ reserved) : readWord word = some (word, []) := by
  obtain ⟨first, rest, rfl⟩ := List.exists_cons_of_ne_nil nonempty
  have noQuote : first ≠ '"' := by
    rintro rfl
    exact plain '"' List.mem_cons_self (by decide)
  have noSpace : ∀ char ∈ first :: rest, decide (char ≠ ' ') = true := by
    intro char member
    refine decide_eq_true ?_
    rintro rfl
    exact plain ' ' member (by decide)
  have nothing : ¬(first :: rest).any (reserved.contains ·) = true := by
    intro needed
    obtain ⟨char, member, found⟩ := List.any_eq_true.mp needed
    exact plain char member (List.contains_iff_mem.mp found)
  rw [readWord, if_neg noQuote, List.takeWhile_eq_self_iff.mpr noSpace,
    List.dropWhile_eq_nil_iff.mpr noSpace]
  exact if_neg nothing

theorem readWords_nil : readWords [] = some [] := by
  rw [readWords]
  rfl

theorem readWords_one {word rest : List Char} {first : Char} (noSpace : first ≠ ' ')
    (found : readWord (first :: rest) = some (word, [])) :
    readWords (first :: rest) = some [word] := by
  have noSpaces : (first :: rest).dropWhile (· = ' ') = first :: rest :=
    List.dropWhile_cons_of_neg (by simpa using noSpace)
  rw [readWords]
  split
  case h_1 empty =>
    rw [noSpaces] at empty
    cases empty
  case h_2 char later spaces =>
    rw [noSpaces] at spaces
    cases spaces
    split
    case h_1 missing =>
      rw [found] at missing
      cases missing
    case h_2 next behind same =>
      rw [found] at same
      cases same
      change Option.map _ (readWords []) = _
      rw [readWords_nil]
      rfl

/-- A command line of one written argument is that argument, its percent signs doubled. -/
theorem readWords_quoted {arg : List Char} (nonempty : arg ≠ []) :
    readWords (percentEscape.write (quoted arg)) = some [percentEscape.write arg] := by
  rw [quoted_eq]
  by_cases needed : arg.any (reserved.contains ·) = true
  · rw [if_pos needed, percent_write_quote]
    exact readWords_one (by decide) (readWord_quoted _)
  · rw [if_neg needed]
    have plain : ∀ char ∈ percentEscape.write arg, char ∉ reserved := by
      intro char written isReserved
      rcases percentEscape.mem_write written with ⟨member, _⟩ | rfl | ⟨symbol, _, coded⟩
      · exact needed (List.any_eq_true.mpr ⟨char, member, List.contains_iff_mem.mpr isReserved⟩)
      · exact absurd isReserved (by decide)
      · obtain ⟨rfl, percent⟩ := Escape.codeOf_behind.mp coded
        rw [eq_of_beq percent] at isReserved
        exact absurd isReserved (by decide)
    have written : percentEscape.write arg ≠ [] := percentEscape.write_ne_nil nonempty
    have found := readWord_bare written plain
    obtain ⟨first, rest, shape⟩ := List.exists_cons_of_ne_nil written
    rw [shape] at plain found ⊢
    refine readWords_one ?_ found
    rintro rfl
    exact plain ' ' List.mem_cons_self (by decide)

theorem readExec_quoted {arg : List Char} (filled : arg ≠ []) :
    readExec (String.ofList ((quoted arg).flatMap valueOf)) = some [arg.map .char] := by
  have value : stringUnescape.read ((quoted arg).flatMap valueOf) =
      some (percentEscape.write (quoted arg), []) := by
    rw [flatMap_valueOf, Unescape.read_write_all, show stringUnescape.shown = id from rfl,
      List.map_id]
  have argument : fieldCodes.read (percentEscape.write arg) = some (arg.map .char, []) :=
    Unescape.read_write_all arg
  unfold readExec
  simp only [String.toList_ofList, value, Option.bind_eq_bind, Option.bind_some,
    readWords_quoted filled, List.mapM_cons, List.mapM_nil, argument, Option.pure_def,
    List.map_cons, List.map_nil]

/-- What is written for a program is read as one argument, which is the program. -/
theorem readExec_execArgument (arg : String) (nonempty : arg ≠ "") :
    readExec (execArgument arg) = some [arg.toList.map .char] :=
  readExec_quoted (mt String.toList_eq_nil_iff.mp nonempty)

theorem readExec_execArgument_mixed :
    "a\\ %f\n\"$" ≠ "" ∧
      readExec (execArgument "a\\ %f\n\"$") = some ["a\\ %f\n\"$".toList.map .char] :=
  ⟨by decide, readExec_execArgument _ (by decide)⟩

/-! ## The entry -/

/-- The value of the first `Exec` line. -/
def findExec (entry : List Char) : Option (List Char) :=
  (entry.splitOn '\n').findSome? (·.dropPrefix? "Exec=".toList)

/-- What an entry starts. -/
def readEntry (entry : String) : Option (List (List Piece)) :=
  (findExec entry.toList).bind fun value => readExec (String.ofList value)

theorem findExec_skip {line : List Char} (free : '\n' ∉ line)
    (other : line.dropPrefix? "Exec=".toList = none) (rest : List Char) :
    findExec (line ++ '\n' :: rest) = findExec rest := by
  unfold findExec
  rw [List.splitOn_append_cons_self_of_not_mem free, List.findSome?_cons, other]

theorem findExec_found {value : List Char} (free : '\n' ∉ value) (rest : List Char) :
    findExec ("Exec=".toList ++ value ++ '\n' :: rest) = some value := by
  have inside : '\n' ∉ "Exec=".toList ++ value := by
    rw [List.mem_append, not_or]
    exact ⟨by decide, free⟩
  unfold findExec
  rw [List.splitOn_append_cons_self_of_not_mem inside, List.findSome?_cons, dropPrefix?_append]

/-- The value stays on its line. -/
theorem newline_notMem (arg : String) : '\n' ∉ (execArgument arg).toList := by
  rw [execArgument, String.toList_ofList, flatMap_valueOf]
  intro written
  rcases stringEscape.mem_write written with ⟨_, plain⟩ | marker | ⟨symbol, _, coded⟩
  · cases plain
  · exact absurd marker (by decide)
  · change stringCode symbol = some '\n' at coded
    have meant := stringMeaning_stringCode coded
    cases meant

/-- The entry of a program starts the program. -/
theorem readEntry_desktopEntry {exe : String} (nonempty : exe ≠ "") :
    readEntry (desktopEntry exe) = some [exe.toList.map .char] := by
  have before : entryHead.toList =
      "[Desktop Entry]".toList ++ '\n' :: ("Type=Application".toList ++ '\n' ::
        ("Name=Juicity GUI".toList ++ '\n' :: ("Comment=Juicity GUI Client".toList ++ '\n' ::
          "Exec=".toList))) := by decide +kernel
  have behind : entryTail.toList = '\n' :: entryTail.toList.tail := by decide +kernel
  have found : findExec (desktopEntry exe).toList = some (execArgument exe).toList := by
    unfold desktopEntry
    rw [String.toList_append, String.toList_append, before, behind]
    simp only [List.append_assoc, List.cons_append]
    rw [findExec_skip (by decide) (by decide), findExec_skip (by decide) (by decide),
      findExec_skip (by decide) (by decide), findExec_skip (by decide) (by decide),
      ← List.append_assoc, findExec_found (newline_notMem exe)]
  rw [readEntry, found, Option.bind_some, String.ofList_toList]
  exact readExec_quoted (mt String.toList_eq_nil_iff.mp nonempty)

end Juicity.Gui.Autostart

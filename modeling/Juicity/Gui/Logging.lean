import Juicity.Machine.Widths
import Mathlib.Data.List.Induction

/-!
Owns the captured log message of `gui/src/logging.rs`: `EventVisitor::append`
joins the pieces of an event by spaces, up to `MAX_LINE_LEN` bytes. The piece that
goes past the limit is cut at a character boundary and marked by an ellipsis, and
nothing is appended after it. Pieces that fill the limit exactly leave no mark
when more of them follow: the early return drops those. So a message is honest
about what it leaves out exactly when no part of the pieces fills the limit.
-/

namespace Juicity.Gui.Logging

open Juicity.Machine.Widths

/-! ## The visitor -/

/-- `MAX_LINE_LEN`. -/
def maxLineLen : Nat := 2048

structure EventVisitor where
  message : String
deriving DecidableEq

/-- `EventVisitor::default`. -/
def EventVisitor.default : EventVisitor := ⟨""⟩

/-- A `-` of `usize`. -/
def checkedSub (left right : Nat) : Option Nat :=
  if right ≤ left then some (left - right) else none

/-- The loop over `is_char_boundary`. -/
def truncationEnd (text : String) (room : Nat) : Nat := lastBoundary Char.utf8Size text.toList room

/-- `&text[..end]`. -/
def upTo (text : String) (stop : Nat) : Option String :=
  (sliceTo Char.utf8Size text.toList stop).map String.ofList

/-- The message with the space in front of a further piece. -/
def separated (message : String) : String := if message.isEmpty then message else message.push ' '

/-- `EventVisitor::append`, none if it panics. -/
def append (visitor : EventVisitor) (text : String) : Option EventVisitor :=
  if maxLineLen ≤ visitor.message.utf8ByteSize then some visitor
  else do
    let message := separated visitor.message
    let room ← checkedSub maxLineLen message.utf8ByteSize
    if text.utf8ByteSize ≤ room then some ⟨message ++ text⟩
    else do
      let kept ← upTo text (truncationEnd text room)
      some ⟨(message ++ kept).push '…'⟩

/-- The visitor after its calls of `append`. -/
def capture (pieces : List String) : Option EventVisitor := pieces.foldlM append .default

/-- The pieces with single spaces between them and without the empty ones in front. -/
def render (pieces : List String) : String := " ".intercalate (pieces.dropWhile String.isEmpty)

/-! ## What a message owes -/

/-- A message shows a text whole, or a beginning of it and the mark. -/
inductive Shows (text message : String) : Prop
  | whole (same : message = text) (fits : text.utf8ByteSize ≤ maxLineLen)
  | cut (kept back : String) (begins : kept ++ back = text)
      (fits : kept.utf8ByteSize ≤ maxLineLen) (marked : message = kept.push '…')

/-- Capturing neither underflows nor splits a character, the message shows the rendering,
and once a part of the pieces is past the limit the others change nothing. -/
structure HonestlyTruncated (pieces : List String) : Prop where
  shown : ∃ visitor, capture pieces = some visitor ∧ Shows (render pieces) visitor.message
  closed : ∀ played rest, pieces = played ++ rest →
    maxLineLen < (render played).utf8ByteSize → capture pieces = capture played

/-- No part in front of further pieces fills the limit, unless an ellipsis of its own ends it. -/
def NeverFilled (pieces : List String) : Prop :=
  ∀ played rest, pieces = played ++ rest → rest ≠ [] →
    (render played).utf8ByteSize = maxLineLen → ∃ kept : String, render played = kept.push '…'

/-! ## Bytes of a text -/

theorem size_toList (text : String) : size Char.utf8Size text.toList = text.utf8ByteSize := by
  suffices bytes : ∀ chars : List Char,
      (String.ofList chars).utf8ByteSize = size Char.utf8Size chars by
    rw [← bytes, String.ofList_toList]
  intro chars
  induction chars with
  | nil => rfl
  | cons char rest inductionHypothesis =>
      rw [← List.singleton_append, String.ofList_append, String.utf8ByteSize_append,
        inductionHypothesis, List.singleton_append, size_cons, ← String.singleton_eq_ofList,
        String.utf8ByteSize_singleton]

/-- A piece that is too long is cut to a beginning of it that leaves less than a character's
room. -/
theorem upTo_truncationEnd {text : String} {room : Nat} (long : room < text.utf8ByteSize) :
    ∃ kept back, upTo text (truncationEnd text room) = some kept ∧ kept ++ back = text ∧
      kept.utf8ByteSize ≤ room ∧ room < kept.utf8ByteSize + 4 := by
  rw [← size_toList] at long
  obtain ⟨front, cut, ⟨back, begins⟩, fits, near⟩ :=
    sliceTo_lastBoundary Char.utf8Size_le_four long
  have bytes : (String.ofList front).utf8ByteSize = size Char.utf8Size front := by
    rw [← size_toList, String.toList_ofList]
  refine ⟨String.ofList front, String.ofList back, ?_, ?_, ?_, ?_⟩
  · rw [upTo, truncationEnd, cut]
    rfl
  · rw [← String.ofList_append, begins, String.ofList_toList]
  · rwa [bytes]
  · rwa [bytes]

/-! ## The rendering -/

theorem utf8ByteSize_separated {message : String} (shown : message ≠ "") :
    (separated message).utf8ByteSize = message.utf8ByteSize + 1 := by
  rw [separated, if_neg (mt String.isEmpty_iff.mp shown), String.utf8ByteSize_push]
  rfl

theorem separated_begins (message : String) : ∃ back, separated message = message ++ back := by
  unfold separated
  split
  · exact ⟨"", (String.append_empty).symm⟩
  · exact ⟨String.singleton ' ', String.push_eq_append ' '⟩

theorem render_ne_empty {pieces : List String} (shown : pieces.dropWhile String.isEmpty ≠ []) :
    render pieces ≠ "" := by
  have named : ((pieces.dropWhile String.isEmpty).head shown).isEmpty = false :=
    List.head_dropWhile_not String.isEmpty shown
  unfold render
  generalize pieces.dropWhile String.isEmpty = kept at shown named
  cases kept with
  | nil => exact absurd rfl shown
  | cons first rest =>
      rw [List.head_cons] at named
      intro nothing
      cases rest with
      | nil =>
          rw [String.intercalate_singleton] at nothing
          rw [nothing] at named
          cases named
      | cons next more =>
          rw [String.intercalate_cons_cons, String.append_eq_empty_iff,
            String.append_eq_empty_iff] at nothing
          exact absurd nothing.1.2 (by decide)

/-- The rendering is the one that `append` would build without a limit. -/
theorem render_snoc (pieces : List String) (text : String) :
    render (pieces ++ [text]) = separated (render pieces) ++ text := by
  by_cases nothing : pieces.dropWhile String.isEmpty = []
  · have before : render pieces = "" := by rw [render, nothing, String.intercalate_nil]
    rw [before, render, List.dropWhile_append, nothing, separated]
    cases empty : text.isEmpty with
    | true =>
        rw [String.isEmpty_iff] at empty
        subst empty
        rfl
    | false => simp [List.dropWhile, empty]
  · have before : render pieces ≠ "" := render_ne_empty nothing
    rw [separated, if_neg (mt String.isEmpty_iff.mp before), render, List.dropWhile_append,
      if_neg (mt List.isEmpty_iff.mp nothing),
      String.intercalate_append_of_ne_nil nothing (List.cons_ne_nil text []),
      String.intercalate_singleton, String.push_eq_append]
    rfl

theorem render_begins (played rest : List String) :
    ∃ back, render (played ++ rest) = render played ++ back := by
  induction rest using List.reverseRecOn with
  | nil => exact ⟨"", by rw [List.append_nil, String.append_empty]⟩
  | append_singleton earlier text inductionHypothesis =>
      obtain ⟨back, begins⟩ := inductionHypothesis
      obtain ⟨space, parted⟩ := separated_begins (render (played ++ earlier))
      refine ⟨back ++ space ++ text, ?_⟩
      rw [← List.append_assoc, render_snoc, parted, begins]
      simp only [String.append_assoc]

theorem utf8ByteSize_render_le (played rest : List String) :
    (render played).utf8ByteSize ≤ (render (played ++ rest)).utf8ByteSize := by
  obtain ⟨back, begins⟩ := render_begins played rest
  rw [begins, String.utf8ByteSize_append]
  exact Nat.le_add_right _ _

/-- A further piece makes a rendering that shows something longer, by the space at least. -/
theorem utf8ByteSize_render_lt {played rest : List String} (shown : render played ≠ "")
    (more : rest ≠ []) :
    (render played).utf8ByteSize < (render (played ++ rest)).utf8ByteSize := by
  cases rest with
  | nil => exact absurd rfl more
  | cons text rest =>
      have longer := utf8ByteSize_render_le (played ++ [text]) rest
      rw [render_snoc, String.utf8ByteSize_append, utf8ByteSize_separated shown,
        List.append_assoc, List.singleton_append] at longer
      omega

/-! ## One piece -/

theorem append_full {visitor : EventVisitor} (text : String)
    (full : maxLineLen ≤ visitor.message.utf8ByteSize) : append visitor text = some visitor :=
  if_pos full

/-- In front of the limit there is room for the space. -/
theorem utf8ByteSize_separated_le {message : String} (short : message.utf8ByteSize < maxLineLen) :
    (separated message).utf8ByteSize ≤ maxLineLen := by
  by_cases shown : message = ""
  · subst shown
    decide
  · rw [utf8ByteSize_separated shown]
    exact short

theorem append_room {visitor : EventVisitor} (text : String)
    (short : visitor.message.utf8ByteSize < maxLineLen) :
    append visitor text =
      let message := separated visitor.message
      if (message ++ text).utf8ByteSize ≤ maxLineLen then some ⟨message ++ text⟩
      else (upTo text (truncationEnd text (maxLineLen - message.utf8ByteSize))).map
        fun kept => ⟨(message ++ kept).push '…'⟩ := by
  have fits := utf8ByteSize_separated_le short
  have room : text.utf8ByteSize ≤ maxLineLen - (separated visitor.message).utf8ByteSize ↔
      (separated visitor.message ++ text).utf8ByteSize ≤ maxLineLen := by
    rw [String.utf8ByteSize_append]
    omega
  rw [append, if_neg (Nat.not_le_of_lt short)]
  simp only [checkedSub, if_pos fits, Option.bind_eq_bind, Option.bind_some, room]
  congr 1
  rw [Option.map_eq_bind]
  rfl

theorem append_fits {visitor : EventVisitor} {text : String}
    (short : visitor.message.utf8ByteSize < maxLineLen)
    (fits : (separated visitor.message ++ text).utf8ByteSize ≤ maxLineLen) :
    append visitor text = some ⟨separated visitor.message ++ text⟩ := by
  rw [append_room text short]
  exact if_pos fits

/-- The piece that goes past the limit is cut, and the mark ends the room for any other. -/
theorem append_cut {visitor : EventVisitor} {text : String}
    (short : visitor.message.utf8ByteSize < maxLineLen)
    (past : maxLineLen < (separated visitor.message ++ text).utf8ByteSize) :
    ∃ kept back : String, append visitor text = some ⟨kept.push '…'⟩ ∧
      kept ++ back = separated visitor.message ++ text ∧ kept.utf8ByteSize ≤ maxLineLen ∧
      maxLineLen ≤ (kept.push '…').utf8ByteSize := by
  have before := utf8ByteSize_separated_le short
  have sum := String.utf8ByteSize_append (s := separated visitor.message) (t := text)
  have long : maxLineLen - (separated visitor.message).utf8ByteSize < text.utf8ByteSize := by
    omega
  obtain ⟨kept, back, cut, begins, fits, near⟩ := upTo_truncationEnd long
  refine ⟨separated visitor.message ++ kept, back, ?_, ?_, ?_, ?_⟩
  · rw [append_room text short]
    simp only [if_neg (Nat.not_le_of_lt past), cut, Option.map_some]
  · rw [String.append_assoc, begins]
  · rw [String.utf8ByteSize_append]
    omega
  · have mark : '…'.utf8Size = 3 := rfl
    rw [String.utf8ByteSize_push, String.utf8ByteSize_append, mark]
    omega

/-! ## All pieces -/

theorem capture_snoc (pieces : List String) (text : String) :
    capture (pieces ++ [text]) = (capture pieces).bind (append · text) := by
  rw [capture, List.foldlM_append]
  simp only [List.foldlM_cons, List.foldlM_nil, bind_pure]
  rfl

/-- Up to the limit the message is the rendering. -/
theorem capture_fits {pieces : List String} (fits : (render pieces).utf8ByteSize ≤ maxLineLen) :
    capture pieces = some ⟨render pieces⟩ := by
  induction pieces using List.reverseRecOn with
  | nil => rfl
  | append_singleton earlier text inductionHypothesis =>
      have before := Nat.le_trans (utf8ByteSize_render_le earlier [text]) fits
      have short : (render earlier).utf8ByteSize < maxLineLen := by
        by_cases shown : render earlier = ""
        · rw [shown]
          decide
        · exact Nat.lt_of_lt_of_le
            (utf8ByteSize_render_lt shown (List.cons_ne_nil text [])) fits
      rw [capture_snoc, inductionHypothesis before, render_snoc]
      rw [render_snoc] at fits
      exact append_fits short fits

/-- A full message stays. -/
theorem capture_full {played : List String} {visitor : EventVisitor} (rest : List String)
    (taken : capture played = some visitor) (full : maxLineLen ≤ visitor.message.utf8ByteSize) :
    capture (played ++ rest) = some visitor := by
  induction rest using List.reverseRecOn with
  | nil => rw [List.append_nil, taken]
  | append_singleton earlier text inductionHypothesis =>
      rw [← List.append_assoc, capture_snoc, inductionHypothesis, Option.bind_some]
      exact append_full text full

/-- Some piece takes a rendering that is too long past the limit. -/
theorem exists_past {pieces : List String} (past : maxLineLen < (render pieces).utf8ByteSize) :
    ∃ played text rest, pieces = played ++ text :: rest ∧
      (render played).utf8ByteSize ≤ maxLineLen ∧
      maxLineLen < (render (played ++ [text])).utf8ByteSize := by
  induction pieces using List.reverseRecOn with
  | nil => cases past
  | append_singleton earlier text inductionHypothesis =>
      by_cases before : maxLineLen < (render earlier).utf8ByteSize
      · obtain ⟨played, piece, rest, rfl, within, crosses⟩ := inductionHypothesis before
        exact ⟨played, piece, rest ++ [text], by simp, within, crosses⟩
      · exact ⟨earlier, text, [], rfl, Nat.le_of_not_lt before, past⟩

/-- Pieces that fill the limit hide all that follow. -/
theorem capture_filled {played : List String} (rest : List String)
    (filled : (render played).utf8ByteSize = maxLineLen) :
    capture (played ++ rest) = some ⟨render played⟩ :=
  capture_full rest (capture_fits (Nat.le_of_eq filled)) (Nat.le_of_eq filled.symm)

/-- Where a piece goes past the limit the message is a beginning of the rendering and the mark. -/
theorem capture_cut {played : List String} {text : String} (rest : List String)
    (short : (render played).utf8ByteSize < maxLineLen)
    (past : maxLineLen < (render (played ++ [text])).utf8ByteSize) :
    ∃ kept back : String, capture (played ++ text :: rest) = some ⟨kept.push '…'⟩ ∧
      kept ++ back = render (played ++ text :: rest) ∧ kept.utf8ByteSize ≤ maxLineLen ∧
      maxLineLen ≤ (kept.push '…').utf8ByteSize := by
  rw [render_snoc] at past
  have cutting := @append_cut ⟨render played⟩ text short past
  obtain ⟨kept, back, cut, begins, fits, full⟩ := cutting
  have taken : capture (played ++ [text]) = some ⟨kept.push '…'⟩ := by
    rw [capture_snoc, capture_fits (Nat.le_of_lt short), Option.bind_some, cut]
  obtain ⟨more, longer⟩ := render_begins (played ++ [text]) rest
  rw [List.append_assoc, List.singleton_append] at longer
  refine ⟨kept, back ++ more, ?_, ?_, fits, full⟩
  · have stays := capture_full rest taken full
    rwa [List.append_assoc, List.singleton_append] at stays
  · rw [longer, render_snoc, ← begins, String.append_assoc]

/-- Past the limit the message is full, and it is longer than the limit by the mark at most. -/
theorem capture_past {pieces : List String} (past : maxLineLen < (render pieces).utf8ByteSize) :
    ∃ visitor, capture pieces = some visitor ∧ maxLineLen ≤ visitor.message.utf8ByteSize ∧
      visitor.message.utf8ByteSize ≤ maxLineLen + '…'.utf8Size := by
  obtain ⟨played, text, rest, rfl, within, crosses⟩ := exists_past past
  cases Nat.lt_or_eq_of_le within with
  | inl short =>
      obtain ⟨kept, back, cut, begins, fits, full⟩ := capture_cut rest short crosses
      refine ⟨_, cut, full, ?_⟩
      rw [String.utf8ByteSize_push]
      exact Nat.add_le_add_right fits _
  | inr filled =>
      refine ⟨_, capture_filled (text :: rest) filled, ?_, ?_⟩
      · exact Nat.le_of_eq filled.symm
      · rw [filled]
        exact Nat.le_add_right _ _

/-- Capturing never panics, and a message exceeds the limit by the mark at most. -/
theorem capture_bounded (pieces : List String) :
    ∃ visitor, capture pieces = some visitor ∧
      visitor.message.utf8ByteSize ≤ maxLineLen + '…'.utf8Size := by
  by_cases past : maxLineLen < (render pieces).utf8ByteSize
  · obtain ⟨visitor, taken, _, bounded⟩ := capture_past past
    exact ⟨visitor, taken, bounded⟩
  · have fits := Nat.le_of_not_lt past
    exact ⟨_, capture_fits fits, Nat.le_trans fits (Nat.le_add_right _ _)⟩

theorem capture_closed {played : List String} (rest : List String)
    (past : maxLineLen < (render played).utf8ByteSize) :
    capture (played ++ rest) = capture played := by
  obtain ⟨visitor, taken, full, _⟩ := capture_past past
  rw [taken, capture_full rest taken full]

/-! ## Honest messages -/

/-- Where a part of the pieces fills the limit, an honest message ends in an ellipsis of its
own. -/
theorem ellipsis_of_shows {played rest : List String} (more : rest ≠ [])
    (filled : (render played).utf8ByteSize = maxLineLen)
    (shown : ∃ visitor, capture (played ++ rest) = some visitor ∧
      Shows (render (played ++ rest)) visitor.message) :
    ∃ kept : String, render played = kept.push '…' := by
  obtain ⟨visitor, taken, honest⟩ := shown
  obtain rfl : (⟨render played⟩ : EventVisitor) = visitor :=
    Option.some.inj ((capture_filled rest filled).symm.trans taken)
  cases honest with
  | cut kept back begins fits marked => exact ⟨kept, marked⟩
  | whole same fits =>
      have named : render played ≠ "" := by
        intro nothing
        rw [nothing] at filled
        cases filled
      have longer := utf8ByteSize_render_lt named more
      rw [← same] at longer
      exact absurd longer (Nat.lt_irrefl _)

theorem shows_capture {pieces : List String} (unfilled : NeverFilled pieces) :
    ∃ visitor, capture pieces = some visitor ∧ Shows (render pieces) visitor.message := by
  by_cases past : maxLineLen < (render pieces).utf8ByteSize
  · obtain ⟨played, text, rest, rfl, within, crosses⟩ := exists_past past
    cases Nat.lt_or_eq_of_le within with
    | inl short =>
        obtain ⟨kept, back, cut, begins, fits, _⟩ := capture_cut rest short crosses
        exact ⟨_, cut, .cut kept back begins fits rfl⟩
    | inr filled =>
        obtain ⟨kept, marked⟩ :=
          unfilled played (text :: rest) rfl (List.cons_ne_nil text rest) filled
        obtain ⟨more, longer⟩ := render_begins played (text :: rest)
        refine ⟨_, capture_filled (text :: rest) filled,
          .cut kept (String.singleton '…' ++ more) ?_ ?_ marked⟩
        · rw [longer, marked, String.push_eq_append, String.append_assoc]
        · rw [← filled, marked, String.utf8ByteSize_push]
          exact Nat.le_add_right _ _
  · have fits := Nat.le_of_not_lt past
    exact ⟨_, capture_fits fits, .whole rfl fits⟩

/-- A captured message is honest about what it leaves out exactly when no part of the pieces
fills the limit in front of others. -/
theorem honestlyTruncated_iff_neverFilled (pieces : List String) :
    HonestlyTruncated pieces ↔ NeverFilled pieces := by
  constructor
  · intro honest played rest parts more filled
    subst parts
    exact ellipsis_of_shows more filled honest.shown
  · intro unfilled
    refine ⟨shows_capture unfilled, ?_⟩
    rintro played rest rfl past
    exact capture_closed rest past

/-! ## A message that fills the limit -/

/-- A text of as many bytes as the limit. -/
def fillingText : String := String.ofList (List.replicate maxLineLen 'x')

theorem utf8ByteSize_fillingText : fillingText.utf8ByteSize = maxLineLen := by
  rw [← size_toList, fillingText, String.toList_ofList, size_replicate]
  rfl

theorem fillingText_ne_push (kept : String) : fillingText ≠ kept.push '…' := by
  intro same
  have chars := congrArg String.toList same
  rw [fillingText, String.toList_ofList, String.toList_push] at chars
  have last : '…' ∈ List.replicate maxLineLen 'x' := by simp [chars]
  exact absurd (List.eq_of_mem_replicate last) (by decide)

theorem render_fillingText : render [fillingText] = fillingText :=
  (render_snoc [] fillingText).trans String.empty_append

/-- Behind a message that fills the limit a field is dropped without the mark. -/
theorem fillingText_hides :
    capture [fillingText, "port=443"] = some ⟨fillingText⟩ ∧
      ¬HonestlyTruncated [fillingText, "port=443"] := by
  have filled : (render [fillingText]).utf8ByteSize = maxLineLen := by
    rw [render_fillingText, utf8ByteSize_fillingText]
  constructor
  · have hidden := capture_filled ["port=443"] filled
    rwa [render_fillingText] at hidden
  · intro honest
    obtain ⟨kept, marked⟩ := ellipsis_of_shows (List.cons_ne_nil _ _) filled honest.shown
    rw [render_fillingText] at marked
    exact fillingText_ne_push kept marked

end Juicity.Gui.Logging

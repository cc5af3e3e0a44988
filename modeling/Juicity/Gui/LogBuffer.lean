import Juicity.Gui.Logging
import Juicity.Machine.Window

/-!
Owns the log buffer of `gui/src/logging.rs`: an event is rendered by the visitor
and becomes a line, `push` keeps the last `MAX_LINES` of them and counts the
others, and `clear` starts again. After any calls the lines are the newest since
the last `clear`, and no line is lost that is not counted.
-/

namespace Juicity.Gui.Logging

open Juicity.Machine.Window

/-! ## Events -/

inductive Level
  | error
  | warn
  | info
  | debug
  | trace
deriving DecidableEq

/-- A field as the subscriber visits it: a text, or what `Debug` prints. -/
inductive Field
  | str (name value : String)
  | debug (name printed : String)

/-- An event with the parts of its metadata that are read. -/
structure Event where
  level : Level
  target : String
  name : String
  fields : List Field

/-- The piece that a field adds. -/
def piece (name value : String) : String :=
  if name = "message" then value else name ++ "=" ++ value

/-- `EventVisitor::record_str`. -/
def recordStr (visitor : EventVisitor) (name value : String) : Option EventVisitor :=
  append visitor (piece name value)

/-- `EventVisitor::record_debug`. -/
def recordDebug (visitor : EventVisitor) (name printed : String) : Option EventVisitor :=
  append visitor (piece name printed)

/-- `Event::record` calls the visitor for the fields in their order. -/
def record (visitor : EventVisitor) : Field → Option EventVisitor
  | .str name value => recordStr visitor name value
  | .debug name printed => recordDebug visitor name printed

/-- The message that `on_event` pushes. -/
def eventMessage (event : Event) : Option String := do
  let visitor ← event.fields.foldlM record .default
  some (if visitor.message.isEmpty then event.name else visitor.message)

/-! ## The buffer -/

/-- A number with two digits at least. -/
def padded (number : Nat) : String :=
  if number < 10 then "0" ++ toString number else toString number

/-- `elapsed`, of the seconds since the start. -/
def elapsed (secs : Nat) : String :=
  padded (secs / 3600) ++ ":" ++ padded (secs / 60 % 60) ++ ":" ++ padded (secs % 60)

/-- `MAX_LINES`. -/
def maxLines : Nat := 2000

structure LogLine where
  time : String
  level : Level
  target : String
  message : String
deriving DecidableEq

structure Buffer where
  lines : List LogLine
  dropped : Nat
deriving DecidableEq

/-- The buffer of `LogBuffer::new`. -/
def Buffer.empty : Buffer := ⟨[], 0⟩

/-- What `LogBuffer::push` does under the lock. -/
def Buffer.push (buffer : Buffer) (line : LogLine) : Buffer :=
  let full := buffer.lines.length = maxLines
  { lines := (if full then buffer.lines.tail else buffer.lines) ++ [line]
    dropped := if full then buffer.dropped + 1 else buffer.dropped }

/-- What `LogBuffer::clear` does under the lock. -/
def Buffer.clear (_ : Buffer) : Buffer := ⟨[], 0⟩

inductive BufferCall
  | push (line : LogLine)
  | clear

def Buffer.apply (buffer : Buffer) : BufferCall → Buffer
  | .push line => buffer.push line
  | .clear => buffer.clear

/-- The lines that were pushed since the last `clear`. -/
def sinceClear (calls : List BufferCall) : List LogLine :=
  calls.foldl (fun lines call =>
    match call with
    | .push line => lines ++ [line]
    | .clear => []) []

/-- The line that `on_event` pushes, some seconds after the start. -/
def onEvent (secs : Nat) (event : Event) : Option LogLine := do
  let message ← eventMessage event
  some ⟨elapsed secs, event.level, event.target, message⟩

/-! ## Lines of events -/

/-- The pieces of an event, as its fields are visited. -/
def eventPieces (event : Event) : List String :=
  event.fields.map fun
    | .str name value => piece name value
    | .debug name printed => piece name printed

theorem foldlM_record (event : Event) :
    event.fields.foldlM record .default = capture (eventPieces event) := by
  rw [capture, eventPieces, List.foldlM_map]
  congr 1
  funext visitor field
  cases field <;> rfl

theorem eventMessage_of_capture {event : Event} {visitor : EventVisitor}
    (taken : capture (eventPieces event) = some visitor) :
    eventMessage event =
      some (if visitor.message.isEmpty then event.name else visitor.message) := by
  rw [eventMessage, foldlM_record, taken]
  rfl

/-- Every event has a message, its name or one that exceeds the limit by the mark at most. -/
theorem eventMessage_bounded (event : Event) :
    ∃ message, eventMessage event = some message ∧
      (message = event.name ∨ message.utf8ByteSize ≤ maxLineLen + '…'.utf8Size) := by
  obtain ⟨visitor, taken, bounded⟩ := capture_bounded (eventPieces event)
  refine ⟨_, eventMessage_of_capture taken, ?_⟩
  split
  · exact .inl rfl
  · exact .inr bounded

/-- The message of an event whose fields show something shows them, if no part of them fills
the limit. -/
theorem eventMessage_shows {event : Event} (unfilled : NeverFilled (eventPieces event))
    (named : render (eventPieces event) ≠ "") :
    ∃ message, eventMessage event = some message ∧
      Shows (render (eventPieces event)) message := by
  obtain ⟨visitor, taken, shown⟩ := shows_capture unfilled
  have something : visitor.message ≠ "" := by
    intro nothing
    cases shown with
    | whole same fits => exact named (same.symm.trans nothing)
    | cut kept back begins fits marked => exact String.push_ne_empty (marked.symm.trans nothing)
  refine ⟨visitor.message, ?_, shown⟩
  rw [eventMessage_of_capture taken, if_neg (mt String.isEmpty_iff.mp something)]

/-! ## The lines that are kept -/

theorem push_eq_slide (buffer : Buffer) (line : LogLine) :
    buffer.push line =
      { lines := slide maxLines buffer.lines line
        dropped :=
          if buffer.lines.length = maxLines then buffer.dropped + 1 else buffer.dropped } := rfl

theorem push_window (lines : List LogLine) (line : LogLine) :
    Buffer.push ⟨lines.rtake maxLines, lines.length - maxLines⟩ line =
      ⟨(lines ++ [line]).rtake maxLines, (lines ++ [line]).length - maxLines⟩ := by
  have counted :
      (if (lines.rtake maxLines).length = maxLines then lines.length - maxLines + 1
        else lines.length - maxLines) = (lines ++ [line]).length - maxLines := by
    rw [length_rtake, List.length_append, List.length_singleton]
    split
    all_goals omega
  rw [push_eq_slide, slide_rtake (by decide), counted]

theorem sinceClear_snoc (calls : List BufferCall) (line : LogLine) :
    sinceClear (calls ++ [.push line]) = sinceClear calls ++ [line] := by
  rw [sinceClear, List.foldl_append]
  rfl

theorem sinceClear_clear (calls : List BufferCall) : sinceClear (calls ++ [.clear]) = [] := by
  rw [sinceClear, List.foldl_append]
  rfl

/-- The buffer holds the newest lines since the last `clear`, and counts the others. -/
theorem foldl_apply (calls : List BufferCall) :
    calls.foldl Buffer.apply .empty =
      ⟨(sinceClear calls).rtake maxLines, (sinceClear calls).length - maxLines⟩ := by
  induction calls using List.reverseRecOn with
  | nil => rfl
  | append_singleton earlier call inductionHypothesis =>
      rw [List.foldl_append, inductionHypothesis]
      cases call with
      | clear =>
          rw [sinceClear_clear]
          rfl
      | push line =>
          rw [sinceClear_snoc]
          exact push_window (sinceClear earlier) line

end Juicity.Gui.Logging

import Juicity.Machine.Run
import Mathlib.Data.List.Basic
import Mathlib.Tactic.Common

/-!
Contract: buffered reading of a stream that arrives in pieces.

A source delivers a list of pieces, one for each read, none of them empty before
the stream ends; a read takes no more than it has room for. The module owns
reading up to a separator through a length limit, and copying to a writer that
takes any part of what it is offered. What a reader still gives is the same for
every cut into pieces, so nothing that is proved here speaks of the pieces.
-/

namespace Juicity.Machine

universe u

/-- A buffer in front of a source, and the reads that the source still delivers. -/
structure BufReader (Item : Type u) where
  capacity : Nat
  buffer : List Item
  source : List (List Item)

namespace BufReader

variable {Item : Type u}

/-- All that the reader still gives. -/
def pending (reader : BufReader Item) : List Item := reader.buffer ++ reader.source.flatten

/-- A read with room for something, of a source whose reads deliver something until the end. -/
structure Sound (reader : BufReader Item) : Prop where
  room : 0 < reader.capacity
  delivers : [] ∉ reader.source

/-- One read: what it delivers, and what is left to deliver. -/
def read (capacity : Nat) : List (List Item) → List Item × List (List Item)
  | [] => ([], [])
  | piece :: later =>
      (piece.take capacity,
        if piece.length ≤ capacity then later else piece.drop capacity :: later)

/-- The buffer is filled when it is empty; it stays empty at the end only. -/
def fillBuf (reader : BufReader Item) : BufReader Item :=
  match reader.buffer with
  | [] =>
      { reader with
        buffer := (read reader.capacity reader.source).1
        source := (read reader.capacity reader.source).2 }
  | _ :: _ => reader

def consume (reader : BufReader Item) (count : Nat) : BufReader Item :=
  { reader with buffer := reader.buffer.drop count }

theorem read_flatten (capacity : Nat) (source : List (List Item)) :
    (read capacity source).1 ++ (read capacity source).2.flatten = source.flatten := by
  cases source with
  | nil => rfl
  | cons piece later =>
      simp only [read, List.flatten_cons]
      split
      · rename_i fits
        rw [List.take_of_length_le fits]
      · rw [List.flatten_cons, ← List.append_assoc, List.take_append_drop]

theorem read_delivers {capacity : Nat} {source : List (List Item)} (delivers : [] ∉ source) :
    [] ∉ (read capacity source).2 := by
  cases source with
  | nil => exact delivers
  | cons piece later =>
      rw [List.mem_cons, not_or] at delivers
      simp only [read]
      split
      · exact delivers.2
      · rename_i large
        rw [List.mem_cons, not_or]
        refine ⟨fun empty => ?_, delivers.2⟩
        have short := List.drop_eq_nil_iff.mp empty.symm
        exact large short

@[simp] theorem capacity_fillBuf (reader : BufReader Item) :
    reader.fillBuf.capacity = reader.capacity := by
  unfold fillBuf
  split
  · rfl
  · rfl

@[simp] theorem pending_fillBuf (reader : BufReader Item) :
    reader.fillBuf.pending = reader.pending := by
  unfold fillBuf
  split
  · rename_i empty
    rw [pending, read_flatten, pending, empty, List.nil_append]
  · rfl

theorem Sound.fillBuf {reader : BufReader Item} (sound : reader.Sound) : reader.fillBuf.Sound := by
  refine ⟨by rw [capacity_fillBuf]; exact sound.room, ?_⟩
  unfold BufReader.fillBuf
  split
  · exact read_delivers sound.delivers
  · exact sound.delivers

theorem Sound.consume {reader : BufReader Item} (sound : reader.Sound) (count : Nat) :
    (reader.consume count).Sound :=
  ⟨sound.room, sound.delivers⟩

/-- The buffer is empty after it was filled only when nothing is left. -/
theorem Sound.fillBuf_ne_nil {reader : BufReader Item} (sound : reader.Sound)
    (more : reader.pending ≠ []) : reader.fillBuf.buffer ≠ [] := by
  unfold BufReader.fillBuf
  split
  · rename_i empty
    rw [pending, empty, List.nil_append] at more
    cases delivered : reader.source with
    | nil => exact absurd (by rw [delivered, List.flatten_nil]) more
    | cons piece later =>
        intro nothing
        have filled : piece ≠ [] := by
          rintro rfl
          exact sound.delivers (by rw [delivered]; exact List.mem_cons_self)
        have room := sound.room
        rcases List.take_eq_nil_iff.mp nothing with none | none
        · omega
        · exact filled none
  · rename_i first rest filled
    rw [filled]
    exact List.cons_ne_nil _ _

theorem pending_consume (reader : BufReader Item) (count : Nat) :
    reader.buffer.take count ++ (reader.consume count).pending = reader.pending := by
  rw [pending, pending, consume, ← List.append_assoc, List.take_append_drop]

/-! ## Up to a separator -/

/-- A part without the separator stands in front of it. -/
theorem front_of_notMem {separator : Item} {part behind front rest : List Item}
    (cut : part ++ behind = front ++ separator :: rest) (outside : separator ∉ part) :
    ∃ extra, front = part ++ extra := by
  rcases List.append_eq_append_iff.mp cut with ⟨extra, shape, _⟩ | ⟨extra, shape, tail⟩
  · exact ⟨extra, shape⟩
  · cases extra with
    | nil => exact ⟨[], by rw [List.append_nil, shape, List.append_nil]⟩
    | cons first extra =>
        obtain ⟨rfl, _⟩ := List.cons.inj tail
        rw [shape] at outside
        exact absurd (List.mem_append_right _ List.mem_cons_self) outside

theorem take_of_short {limit : Nat} {items : List Item} (short : (items.take limit).length < limit) :
    items.take limit = items := by
  apply List.take_of_length_le
  rw [List.length_take] at short
  omega

section Separator

variable [DecidableEq Item]

/-- Read up to the separator and with it, or up to the limit. -/
def readUntil (separator : Item) (limit : Nat) (reader : BufReader Item) :
    List Item × BufReader Item :=
  if limit = 0 then ([], reader)
  else
    let filled := reader.fillBuf
    let available := filled.buffer.take limit
    if available = [] then ([], filled)
    else if separator ∈ available then
      let used := (available.takeWhile (· ≠ separator)).length + 1
      (available.take used, filled.consume used)
    else
      let later := readUntil separator (limit - available.length)
        (filled.consume available.length)
      (available ++ later.1, later.2)
termination_by limit
decreasing_by
  exact Nat.sub_lt (Nat.pos_of_ne_zero ‹¬limit = 0›) (List.length_pos_iff.mpr ‹¬available = []›)

theorem readUntil_eq {separator : Item} {limit : Nat} {reader : BufReader Item}
    (some : limit ≠ 0) (filled : reader.fillBuf.buffer.take limit ≠ []) :
    readUntil separator limit reader =
      if separator ∈ reader.fillBuf.buffer.take limit then
        ((reader.fillBuf.buffer.take limit).take
            (((reader.fillBuf.buffer.take limit).takeWhile (· ≠ separator)).length + 1),
          reader.fillBuf.consume
            (((reader.fillBuf.buffer.take limit).takeWhile (· ≠ separator)).length + 1))
      else
        (reader.fillBuf.buffer.take limit ++ (readUntil separator
            (limit - (reader.fillBuf.buffer.take limit).length)
            (reader.fillBuf.consume (reader.fillBuf.buffer.take limit).length)).1,
          (readUntil separator (limit - (reader.fillBuf.buffer.take limit).length)
            (reader.fillBuf.consume (reader.fillBuf.buffer.take limit).length)).2) := by
  rw [readUntil, if_neg some]
  dsimp only
  rw [if_neg filled]

/-- The front of a list up to the first separator, when the separator is in a part of it. -/
theorem takeWhile_of_front {separator : Item} {part behind front rest : List Item}
    (whole : part ++ behind = front ++ separator :: rest) (free : separator ∉ front)
    (inside : separator ∈ part) :
    part.takeWhile (· ≠ separator) = front ∧ part.take (front.length + 1) = front ++ [separator] ∧
      part.drop (front.length + 1) ++ behind = rest := by
  rcases List.append_eq_append_iff.mp whole with ⟨extra, rfl, _⟩ | ⟨extra, rfl, tail⟩
  · exact absurd (List.mem_append_left _ inside) free
  · cases extra with
    | nil =>
        rw [List.append_nil] at inside
        exact absurd inside free
    | cons first extra =>
        obtain ⟨rfl, rfl⟩ := List.cons.inj tail
        have passes : ∀ item ∈ front, decide (item ≠ separator) = true := by
          intro item member
          exact decide_eq_true fun same => free (same ▸ member)
        refine ⟨?_, ?_, ?_⟩
        · rw [List.takeWhile_append_of_pos passes, List.takeWhile_cons_of_neg (by simp),
            List.append_nil]
        · rw [← List.singleton_append, ← List.append_assoc,
            List.take_left' (by rw [List.length_append, List.length_singleton])]
        · rw [← List.singleton_append, ← List.append_assoc,
            List.drop_left' (by rw [List.length_append, List.length_singleton])]
          rfl

/-- Text up to a separator within the limit is read whole, however it arrives. -/
theorem readUntil_line {separator : Item} {limit : Nat} {reader : BufReader Item}
    (sound : reader.Sound) {front rest : List Item}
    (more : reader.pending = front ++ separator :: rest) (free : separator ∉ front)
    (fits : front.length < limit) :
    ∃ after, readUntil separator limit reader = (front ++ [separator], after) ∧
      after.pending = rest ∧ after.Sound ∧ after.capacity = reader.capacity := by
  induction limit using Nat.strongRecOn generalizing reader front with
  | ind limit inductionHypothesis =>
      have nonempty : reader.pending ≠ [] := by simp [more]
      have filled := sound.fillBuf_ne_nil nonempty
      have whole : reader.fillBuf.buffer ++ reader.fillBuf.source.flatten =
          front ++ separator :: rest := (pending_fillBuf reader).trans more
      have some : limit ≠ 0 := by omega
      have available : reader.fillBuf.buffer.take limit ≠ [] := by
        intro nothing
        rcases List.take_eq_nil_iff.mp nothing with none | none
        · exact some none
        · exact filled none
      have cut : reader.fillBuf.buffer.take limit ++
          (reader.fillBuf.buffer.drop limit ++ reader.fillBuf.source.flatten) =
            front ++ separator :: rest := by
        rw [← List.append_assoc, List.take_append_drop, whole]
      rw [readUntil_eq some available]
      split
      · rename_i inside
        obtain ⟨before, taken, left⟩ := takeWhile_of_front cut free inside
        rw [before, taken]
        refine ⟨_, rfl, ?_, sound.fillBuf.consume _, capacity_fillBuf reader⟩
        have buffered : separator ∈ reader.fillBuf.buffer := List.mem_of_mem_take inside
        exact (takeWhile_of_front whole free buffered).2.2
      · rename_i outside
        -- the whole buffer stands in front of the separator
        obtain ⟨extra, rfl⟩ := front_of_notMem cut outside
        rw [List.length_append] at fits
        have all : reader.fillBuf.buffer.take limit = reader.fillBuf.buffer :=
          take_of_short (Nat.lt_of_le_of_lt (Nat.le_add_right _ _) fits)
        rw [all] at fits free available whole ⊢
        have positive := List.length_pos_iff.mpr filled
        have left : (reader.fillBuf.consume reader.fillBuf.buffer.length).pending =
            extra ++ separator :: rest := by
          rw [List.append_assoc] at whole
          rw [pending, consume, List.drop_length, List.nil_append]
          exact List.append_cancel_left whole
        obtain ⟨after, later, remaining, still, same⟩ := inductionHypothesis
          (limit - reader.fillBuf.buffer.length) (by omega) (sound.fillBuf.consume _) left
          (fun member => free (List.mem_append_right _ member)) (by omega)
        refine ⟨after, ?_, remaining, still, same.trans (capacity_fillBuf reader)⟩
        rw [later, List.append_assoc]

end Separator

end BufReader

/-! ## Copying -/

/-- A copy from a reader to a writer, with all that the writer has received. -/
structure BufCopy (Item : Type u) where
  reader : BufReader Item
  received : List Item
  finished : Bool

namespace BufCopy

variable {Item : Type u}

/-- The writer takes some of what is buffered; at the end of the source the copy is done. -/
def step (copy : BufCopy Item) (taken : Nat) : Option (BufCopy Item) :=
  if copy.finished then none
  else if copy.reader.fillBuf.buffer.isEmpty then
    some { copy with reader := copy.reader.fillBuf, finished := true }
  else if 0 < taken ∧ taken ≤ copy.reader.fillBuf.buffer.length then
    some { copy with
      reader := copy.reader.fillBuf.consume taken
      received := copy.received ++ copy.reader.fillBuf.buffer.take taken }
  else none

/-- What the writer has and what is still to come are the whole. -/
structure Passes (whole : List Item) (copy : BufCopy Item) : Prop where
  whole : copy.received ++ copy.reader.pending = whole
  sound : copy.reader.Sound
  ended : copy.finished = true → copy.reader.pending = []

variable {whole : List Item} {copy after : BufCopy Item} {taken : Nat}

/-- One step: the end is reached, or some of what was to come is received. -/
theorem step_cases (moves : copy.step taken = some after) :
    copy.finished = false ∧
      (copy.reader.fillBuf.buffer = [] ∧
          after = { copy with reader := copy.reader.fillBuf, finished := true } ∨
        0 < taken ∧ taken ≤ copy.reader.fillBuf.buffer.length ∧
          after = { copy with
            reader := copy.reader.fillBuf.consume taken
            received := copy.received ++ copy.reader.fillBuf.buffer.take taken }) := by
  unfold step at moves
  split at moves
  · cases moves
  · rename_i running
    refine ⟨Bool.eq_false_iff.mpr running, ?_⟩
    split at moves
    · rename_i empty
      exact .inl ⟨List.isEmpty_iff.mp empty, (Option.some.inj moves).symm⟩
    · split at moves
      · rename_i some
        exact .inr ⟨some.1, some.2, (Option.some.inj moves).symm⟩
      · cases moves

theorem Passes.preserved (passes : Passes whole copy) (moves : copy.step taken = some after) :
    Passes whole after := by
  obtain ⟨_, ⟨empty, rfl⟩ | ⟨_, _, rfl⟩⟩ := step_cases moves
  · have done : copy.reader.pending = [] := by
      by_contra more
      exact passes.sound.fillBuf_ne_nil more empty
    refine ⟨?_, passes.sound.fillBuf, fun _ => ?_⟩
    · rw [BufReader.pending_fillBuf]
      exact passes.whole
    · rw [BufReader.pending_fillBuf]
      exact done
  · refine ⟨?_, passes.sound.fillBuf.consume taken, fun finished => ?_⟩
    · rw [List.append_assoc, BufReader.pending_consume, BufReader.pending_fillBuf]
      exact passes.whole
    · have nothing := passes.ended finished
      have filled : copy.reader.fillBuf.buffer ++ copy.reader.fillBuf.source.flatten = [] :=
        (BufReader.pending_fillBuf copy.reader).trans nothing
      obtain ⟨empty, drained⟩ := List.append_eq_nil_iff.mp filled
      rw [BufReader.pending, BufReader.consume, empty, drained, List.drop_nil]
      rfl

/-- A copy that is not done can go on. -/
theorem enabled_of_running (running : copy.finished = false) :
    ∃ taken, (copy.step taken).isSome = true := by
  by_cases empty : copy.reader.fillBuf.buffer = []
  · exact ⟨0, by simp [step, running, empty]⟩
  · have positive := List.length_pos_iff.mpr empty
    refine ⟨1, ?_⟩
    have one : 0 < 1 ∧ 1 ≤ copy.reader.fillBuf.buffer.length := ⟨Nat.one_pos, positive⟩
    simp [step, running, empty, one]

/-- How many steps a copy still has at most. -/
def remaining (copy : BufCopy Item) : Nat :=
  copy.reader.pending.length + if copy.finished then 0 else 1

theorem remaining_of_step (moves : copy.step taken = some after) :
    after.remaining < copy.remaining := by
  obtain ⟨running, ⟨_, rfl⟩ | ⟨positive, fits, rfl⟩⟩ := step_cases moves
  · simp [remaining, running]
  · have cut := congrArg List.length (BufReader.pending_consume copy.reader.fillBuf taken)
    rw [List.length_append, List.length_take, BufReader.pending_fillBuf] at cut
    simp only [remaining, running]
    omega

/-- In every run of a copy the writer has received a front part of the whole; a run has at
most one step for each item and one for the end, and one that cannot go on has passed on
everything. -/
theorem Passes.run {history : List (BufCopy Item × Nat)} {final : BufCopy Item}
    (passes : Passes whole copy) (run : Run step copy history final) :
    Passes whole final ∧ history.length + final.remaining ≤ copy.remaining ∧
      ((∀ taken, step final taken = none) → final.received = whole) := by
  have last : Passes whole final :=
    Reachable.invariant passes (fun _ _ _ passes moves => passes.preserved moves) ⟨history, run⟩
  refine ⟨last, ?_, fun stuck => ?_⟩
  · induction run with
    | start => simp
    | next before moves inductionHypothesis =>
        have earlier := inductionHypothesis
          (Reachable.invariant passes (fun _ _ _ passes moves => passes.preserved moves)
            ⟨_, before⟩)
        have less := remaining_of_step moves
        rw [List.length_append, List.length_singleton]
        omega
  · have finished : final.finished = true := by
      by_contra running
      obtain ⟨taken, moves⟩ := enabled_of_running (Bool.eq_false_iff.mpr running)
      rw [stuck taken] at moves
      cases moves
    rw [← last.whole, last.ended finished, List.append_nil]

end BufCopy

end Juicity.Machine

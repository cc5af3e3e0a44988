import Mathlib.Data.List.Basic
import Mathlib.Data.List.Forall2
import Mathlib.Tactic.Common

/-!
Contract: readers of framed data.

A reader takes a value off the front of a token list or fails. A frame of a
value is exactly what the reader needs for it: followed by anything, it gives
the value and leaves what follows; cut short anywhere, the reader fails. The
module owns the rules that build frames of compound readers from frames of
their parts, and the loop that reads frames until one is missing: on a
concatenation of frames it returns their values and leaves nothing, and on a
truncation it returns the first of these values.
-/

namespace Juicity.Machine

universe u

variable {Token Error α β : Type u}

/-- What a compound reader gives, its parts give. -/
theorem parts_of_bind {read : StateT (List Token) (Except Error) α}
    {next : α → StateT (List Token) (Except Error) β} {input rest : List Token} {result : β}
    (taken : (read >>= next) input = .ok (result, rest)) :
    ∃ value middle, read input = .ok (value, middle) ∧ next value middle = .ok (result, rest) := by
  change Except.bind (read input) _ = _ at taken
  cases first : read input with
  | error error =>
      rw [first] at taken
      cases taken
  | ok pair =>
      rw [first] at taken
      exact ⟨pair.1, pair.2, rfl, taken⟩

/-- A list cut off before the end of `first ++ second` ends within `first` or
reaches into `second`. -/
theorem prefix_append_cases {front first second : List Token} (before : front <+: first ++ second) :
    (front <+: first ∧ front ≠ first) ∨ ∃ later, later <+: second ∧ front = first ++ later := by
  rcases List.prefix_or_prefix_of_prefix before (List.prefix_append first second) with
    within | ⟨later, reaches⟩
  · by_cases same : front = first
    · exact .inr ⟨[], List.nil_prefix, by rw [same, List.append_nil]⟩
    · exact .inl ⟨within, same⟩
  · rw [← reaches] at before
    exact .inr ⟨later, (List.prefix_append_right_inj first).mp before, reaches.symm⟩

/-- The tokens are exactly what the reader needs for the value. -/
structure Frames (read : StateT (List Token) (Except Error) α) (tokens : List Token) (value : α) :
    Prop where
  whole : ∀ rest, read (tokens ++ rest) = .ok (value, rest)
  short : ∀ front, front <+: tokens → front ≠ tokens → ∃ error, read front = .error error

namespace Frames

theorem pure (value : α) :
    Frames (Pure.pure value : StateT (List Token) (Except Error) α) [] value where
  whole := fun _ => rfl
  short := fun _ before strict => absurd (List.prefix_nil.mp before) strict

theorem bind {read : StateT (List Token) (Except Error) α}
    {next : α → StateT (List Token) (Except Error) β} {first second : List Token} {value : α}
    {result : β} (head : Frames read first value) (tail : Frames (next value) second result) :
    Frames (read >>= next) (first ++ second) result where
  whole := by
    intro rest
    have reads := head.whole (second ++ rest)
    have continues := tail.whole rest
    show Except.bind (read (first ++ second ++ rest)) _ = _
    rw [List.append_assoc, reads]
    exact continues
  short := by
    intro front before strict
    show ∃ error, Except.bind (read front) _ = .error error
    rcases prefix_append_cases before with ⟨within, notAll⟩ | ⟨later, inner, rfl⟩
    · obtain ⟨error, failed⟩ := head.short front within notAll
      rw [failed]
      exact ⟨error, rfl⟩
    · obtain ⟨error, failed⟩ := tail.short later inner (fun same => strict (by rw [same]))
      rw [head.whole later]
      exact ⟨error, failed⟩

/-- A compound reader fails where its second part does. -/
theorem bind_error {read : StateT (List Token) (Except Error) α}
    {next : α → StateT (List Token) (Except Error) β} {first : List Token} {value : α}
    (head : Frames read first value) {rest : List Token} {error : Error}
    (failed : next value rest = .error error) : (read >>= next) (first ++ rest) = .error error := by
  show Except.bind (read (first ++ rest)) _ = _
  rw [head.whole]
  exact failed

/-- A frame followed by a computation on its value. -/
theorem map {read : StateT (List Token) (Except Error) α} {tokens : List Token} {value : α}
    (head : Frames read tokens value) (function : α → β) :
    Frames (read >>= fun value => Pure.pure (function value)) tokens (function value) := by
  rw [← List.append_nil tokens]
  exact head.bind (pure (function value))

end Frames

/-- Whenever the reader succeeds it has consumed at least `least` tokens. -/
def Consumes (read : StateT (List Token) (Except Error) α) (least : Nat) : Prop :=
  ∀ input value rest, read input = .ok (value, rest) → rest.length + least ≤ input.length

namespace Consumes

theorem pure (value : α) :
    Consumes (Pure.pure value : StateT (List Token) (Except Error) α) 0 := by
  intro input returned rest taken
  obtain ⟨-, rfl⟩ := Prod.mk.inj (Except.ok.inj taken)
  exact Nat.le_refl _

theorem throw (error : Error) (least : Nat) :
    Consumes (MonadExcept.throw error : StateT (List Token) (Except Error) α) least := by
  intro input value rest taken
  cases taken

theorem bind {read : StateT (List Token) (Except Error) α}
    {next : α → StateT (List Token) (Except Error) β} {first second : Nat}
    (head : Consumes read first) (tail : ∀ value, Consumes (next value) second) :
    Consumes (read >>= next) (first + second) := by
  intro input result rest taken
  obtain ⟨value, middle, first, second⟩ := parts_of_bind taken
  have fewer := head input value middle first
  have fewest := tail value middle result rest second
  omega

theorem mono {read : StateT (List Token) (Except Error) α} {least fewer : Nat}
    (head : Consumes read least) (weaker : fewer ≤ least) : Consumes read fewer := by
  intro input value rest taken
  have held := head input value rest taken
  omega

end Consumes

/-- A reader that consumes whenever it succeeds. -/
structure FrameReader (Token Error α : Type u) where
  read : StateT (List Token) (Except Error) α
  consumes : Consumes read 1

namespace FrameReader

theorem shrinks (reader : FrameReader Token Error α) {input : List Token} {value : α}
    {rest : List Token} (taken : reader.read input = .ok (value, rest)) :
    rest.length < input.length :=
  reader.consumes input value rest taken

/-- Read until a read fails: the values, and what the failing read met. -/
def readAll (reader : FrameReader Token Error α) (input : List Token) : List α × List Token :=
  match taken : reader.read input with
  | .ok (value, rest) =>
      have : rest.length < input.length := reader.shrinks taken
      (value :: (readAll reader rest).1, (readAll reader rest).2)
  | .error _ => ([], input)
termination_by input.length

variable {reader : FrameReader Token Error α} {input : List Token}

theorem readAll_of_ok {value : α} {rest : List Token}
    (taken : reader.read input = .ok (value, rest)) :
    reader.readAll input = (value :: (reader.readAll rest).1, (reader.readAll rest).2) := by
  rw [readAll]
  split
  · rename_i otherValue otherRest alsoTaken
    obtain ⟨rfl, rfl⟩ := Prod.mk.inj (Except.ok.inj (taken.symm.trans alsoTaken))
    rfl
  · rename_i failed
    cases taken.symm.trans failed

theorem readAll_of_error {error : Error} (failed : reader.read input = .error error) :
    reader.readAll input = ([], input) := by
  rw [readAll]
  split
  · rename_i taken
    cases failed.symm.trans taken
  · rfl

theorem read_nil (reader : FrameReader Token Error α) : ∃ error, reader.read [] = .error error := by
  cases result : reader.read [] with
  | error error => exact ⟨error, rfl⟩
  | ok pair =>
      have fewer := reader.shrinks result
      simp at fewer

/-- A concatenation of frames is read completely. -/
theorem readAll_frames {frames : List (List Token)} {values : List α}
    (framed : List.Forall₂ (Frames reader.read) frames values) :
    reader.readAll frames.flatten = (values, []) := by
  induction framed with
  | nil =>
      obtain ⟨error, failed⟩ := reader.read_nil
      exact readAll_of_error failed
  | @cons frame value frames values head tail inductionHypothesis =>
      rw [List.flatten_cons, readAll_of_ok (head.whole _), inductionHypothesis]

/-- A truncation of a concatenation of frames is read up to the last complete frame. -/
theorem readAll_front {frames : List (List Token)} {values : List α}
    (framed : List.Forall₂ (Frames reader.read) frames values) :
    ∀ front, front <+: frames.flatten → (reader.readAll front).1 <+: values := by
  induction framed with
  | nil =>
      intro front before
      obtain rfl := List.prefix_nil.mp before
      obtain ⟨error, failed⟩ := reader.read_nil
      have stopped : (reader.readAll []).1 = [] := congrArg Prod.fst (readAll_of_error failed)
      exact stopped.symm ▸ List.nil_prefix
  | @cons frame value frames values head tail inductionHypothesis =>
      intro front before
      rw [List.flatten_cons] at before
      rcases prefix_append_cases before with ⟨within, notAll⟩ | ⟨later, inner, rfl⟩
      · obtain ⟨error, failed⟩ := head.short front within notAll
        rw [readAll_of_error failed]
        exact List.nil_prefix
      · rw [readAll_of_ok (head.whole later)]
        exact (List.prefix_cons_inj value).mpr (inductionHypothesis later inner)

end FrameReader

/-- When each item is written as a frame of its value, so are all of them in order. -/
theorem mapM_frames {Item Failure : Type u} {read : StateT (List Token) (Except Error) α}
    {write : Item → Except Failure (List Token)} {expected : Item → α} {items : List Item}
    (each : ∀ item ∈ items, ∃ tokens, write item = .ok tokens ∧
      Frames read tokens (expected item)) :
    ∃ frames, items.mapM write = .ok frames ∧
      List.Forall₂ (Frames read) frames (items.map expected) := by
  induction items with
  | nil => exact ⟨[], rfl, .nil⟩
  | cons item items inductionHypothesis =>
      obtain ⟨tokens, written, framed⟩ := each item List.mem_cons_self
      obtain ⟨frames, allWritten, allFramed⟩ :=
        inductionHypothesis fun other member => each other (List.mem_cons_of_mem item member)
      refine ⟨tokens :: frames, ?_, .cons framed allFramed⟩
      rw [List.mapM_cons, written, allWritten]
      rfl

theorem mapM_cons_ok {Item Failure : Type u} {Value : Type u} {write : Item → Except Failure Value}
    {item : Item} {items : List Item} {values : List Value}
    (written : (item :: items).mapM write = .ok values) :
    ∃ value later, write item = .ok value ∧ items.mapM write = .ok later ∧
      values = value :: later := by
  rw [List.mapM_cons] at written
  cases head : write item with
  | error error =>
      rw [head] at written
      cases written
  | ok value =>
      cases tail : items.mapM write with
      | error error =>
          rw [head, tail] at written
          cases written
      | ok later =>
          rw [head, tail] at written
          exact ⟨value, later, rfl, rfl, (Except.ok.inj written).symm⟩

/-- When every written item is a frame of its value, the frames of a written list are in order. -/
theorem frames_of_mapM {Item Failure : Type u} {read : StateT (List Token) (Except Error) α}
    {write : Item → Except Failure (List Token)} {expected : Item → α} {items : List Item} :
    ∀ {frames}, items.mapM write = .ok frames →
      (∀ item ∈ items, ∀ tokens, write item = .ok tokens → Frames read tokens (expected item)) →
        List.Forall₂ (Frames read) frames (items.map expected) := by
  induction items with
  | nil =>
      intro frames written each
      obtain rfl := Except.ok.inj written
      exact .nil
  | cons item items inductionHypothesis =>
      intro frames written each
      obtain ⟨frame, later, first, rest, rfl⟩ := mapM_cons_ok written
      have tail := inductionHypothesis rest fun other member =>
        each other (List.mem_cons_of_mem item member)
      exact .cons (each item List.mem_cons_self frame first) tail

end Juicity.Machine

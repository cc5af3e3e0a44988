import Juicity.Machine.Framing

/-!
Contract: readers of data that arrives in pieces.

An incremental reader decides nothing that more data could overturn: a value it
gives stays the value, and an error other than the end of the data stays the
error. Owns the rules that build such readers, what a reader meets on a part of
a frame, and the values that have been read of a stream so far.
-/

namespace Juicity.Machine

universe u

variable {Token Error α β : Type u}

/-- A reader leaves an end of the data, and more data changes neither a value nor an error
other than `eof`. -/
structure Incremental (eof : Error) (read : StateT (List Token) (Except Error) α) : Prop where
  leaves : ∀ input value rest, read input = .ok (value, rest) → rest <:+ input
  grows : ∀ input value rest more, read input = .ok (value, rest) →
    read (input ++ more) = .ok (value, rest ++ more)
  settles : ∀ input error more, read input = .error error → error ≠ eof →
    read (input ++ more) = .error error

namespace Incremental

variable {eof : Error}

theorem pure (value : α) :
    Incremental eof (Pure.pure value : StateT (List Token) (Except Error) α) where
  leaves := by
    intro input given rest taken
    obtain ⟨-, rfl⟩ := Prod.mk.inj (Except.ok.inj taken)
    exact List.suffix_rfl
  grows := by
    intro input given rest more taken
    obtain ⟨rfl, rfl⟩ := Prod.mk.inj (Except.ok.inj taken)
    rfl
  settles := by
    intro input error more failed
    cases failed

theorem throw (error : Error) :
    Incremental eof (MonadExcept.throw error : StateT (List Token) (Except Error) α) where
  leaves := by
    intro input value rest taken
    cases taken
  grows := by
    intro input value rest more taken
    cases taken
  settles := by
    intro input other more failed _
    obtain rfl := Except.error.inj failed
    rfl

theorem bind {read : StateT (List Token) (Except Error) α}
    {next : α → StateT (List Token) (Except Error) β} (head : Incremental eof read)
    (tail : ∀ value, Incremental eof (next value)) : Incremental eof (read >>= next) where
  leaves := by
    intro input result rest taken
    obtain ⟨value, middle, first, second⟩ := parts_of_bind taken
    exact ((tail value).leaves middle result rest second).trans (head.leaves input value middle first)
  grows := by
    intro input result rest more taken
    obtain ⟨value, middle, first, second⟩ := parts_of_bind taken
    have grown := head.grows input value middle more first
    have continues := (tail value).grows middle result rest more second
    show Except.bind (read (input ++ more)) _ = _
    rw [grown]
    exact continues
  settles := by
    intro input error more failed final
    show Except.bind (read (input ++ more)) _ = _
    change Except.bind (read input) _ = _ at failed
    cases first : read input with
    | error reason =>
        rw [first] at failed
        obtain rfl := Except.error.inj failed
        rw [head.settles input reason more first final]
        rfl
    | ok pair =>
        rw [first] at failed
        rw [head.grows input pair.1 pair.2 more first]
        exact (tail pair.1).settles pair.2 error more failed final

/-- On a part of what it reads, a reader meets the end of the data. -/
theorem eof_of_part {read : StateT (List Token) (Except Error) α} (incremental : Incremental eof read)
    {part whole rest : List Token} {value : α} (front : part <+: whole)
    (taken : read whole = .ok (value, rest)) {error : Error} (failed : read part = .error error) :
    error = eof := by
  by_contra final
  obtain ⟨more, rfl⟩ := front
  rw [incremental.settles part error more failed final] at taken
  cases taken

end Incremental

namespace FrameReader

variable {eof : Error} {reader : FrameReader Token Error α}

/-- The reader has taken these values off the front of the data, and left the rest. -/
inductive Took (reader : FrameReader Token Error α) : List Token → List α → List Token → Prop where
  | start (input : List Token) : Took reader input [] input
  | next {input middle rest : List Token} {values : List α} {value : α}
      (before : Took reader input values middle) (taken : reader.read middle = .ok (value, rest)) :
      Took reader input (values ++ [value]) rest

namespace Took

variable {input rest : List Token} {values : List α}

/-- More data arrives behind the rest. -/
theorem append (took : Took reader input values rest) (incremental : Incremental eof reader.read)
    (more : List Token) : Took reader (input ++ more) values (rest ++ more) := by
  induction took with
  | start => exact .start _
  | next before taken inductionHypothesis =>
      exact inductionHypothesis.next (incremental.grows _ _ _ more taken)

/-- What was taken is what would be read first. -/
theorem readAll_eq (took : Took reader input values rest) :
    reader.readAll input = (values ++ (reader.readAll rest).1, (reader.readAll rest).2) := by
  induction took with
  | start => rfl
  | next before taken inductionHypothesis =>
      rw [inductionHypothesis, readAll_of_ok taken, List.append_assoc]
      rfl

theorem values_prefix (took : Took reader input values rest) :
    values <+: (reader.readAll input).1 := by
  rw [took.readAll_eq]
  exact List.prefix_append _ _

end Took

end FrameReader

end Juicity.Machine

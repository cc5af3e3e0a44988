import Juicity.Machine.Form
import Juicity.Machine.Numeral

/-!
Contract: messages with a head of lines, a blank line, and a body of the length
that the head states. A reader takes lines to their line feed; it gets the body
of a whole message and nothing from a message that was cut short.
-/

namespace Juicity.Machine.Message

/-- The lines before the first blank one, with their carriage returns, and what follows it; `line`
is what has been read of a line. -/
def readHead (line : List UInt8) : List UInt8 → Option (List (List UInt8) × List UInt8)
  | [] => none
  | byte :: rest =>
      if byte = 10 then
        if line = [13] then some ([], rest)
        else (readHead [] rest).map fun (lines, body) => (line :: lines, body)
      else readHead (line ++ [byte]) rest

def writeHead (lines : List (List UInt8)) : List UInt8 :=
  lines.flatMap (· ++ [13, 10]) ++ [13, 10]

/-- The value of the first line with the name. -/
def field (name : List UInt8) (lines : List (List UInt8)) : Option (List UInt8) :=
  lines.findSome? fun line =>
    if name.isPrefixOf line then some ((line.drop name.length).takeWhile (· ≠ 13)) else none

/-- A decimal number in bytes. -/
def number (digits : List UInt8) : Nat :=
  numeral 10 (digits.map fun byte => Char.ofNat byte.toNat)

/-- The first line and the body, as long as the head says. -/
def read (lengthName : List UInt8) (input : List UInt8) : Option (List UInt8 × List UInt8) := do
  let (lines, body) ← readHead [] input
  let status ← lines.head?
  let length ← field lengthName lines
  if number length ≤ body.length then some (status, body.take (number length)) else none

section Head

variable {line rest front : List UInt8} {lines : List (List UInt8)} {body : List UInt8}

theorem readHead_plain (plain : 10 ∉ line) (front rest : List UInt8) :
    readHead front (line ++ rest) = readHead (front ++ line) rest := by
  induction line generalizing front with
  | nil => rw [List.nil_append, List.append_nil]
  | cons byte line inductionHypothesis =>
      rw [List.mem_cons, not_or] at plain
      rw [List.cons_append, readHead, if_neg (Ne.symm plain.1), inductionHypothesis plain.2,
        List.append_assoc, List.singleton_append]

theorem readHead_line (plain : 10 ∉ line) (notEmpty : line ≠ []) (rest : List UInt8) :
    readHead [] (line ++ ([13, 10] ++ rest)) =
      (readHead [] rest).map fun (lines, body) => ((line ++ [13]) :: lines, body) := by
  have notBlank : line ++ [13] ≠ [13] := by
    intro blank
    exact notEmpty (List.append_left_eq_self.mp blank)
  rw [readHead_plain plain, List.nil_append]
  show readHead line (13 :: 10 :: rest) = _
  rw [readHead, if_neg (by decide), readHead, if_pos rfl, if_neg notBlank]

/-- The lines of a head come back, each with its carriage return. -/
theorem readHead_writeHead (plain : ∀ line ∈ lines, 10 ∉ line ∧ line ≠ []) (body : List UInt8) :
    readHead [] (writeHead lines ++ body) = some (lines.map (· ++ [13]), body) := by
  induction lines with
  | nil => rfl
  | cons line lines inductionHypothesis =>
      obtain ⟨free, notEmpty⟩ := plain line List.mem_cons_self
      have rest := inductionHypothesis fun other member => plain other (List.mem_cons_of_mem _ member)
      have shape : writeHead (line :: lines) ++ body =
          line ++ ([13, 10] ++ (writeHead lines ++ body)) := by
        simp only [writeHead, List.flatMap_cons, List.append_assoc]
      rw [shape, readHead_line free notEmpty, rest]
      rfl

/-- A head that was read is read the same when more follows. -/
theorem readHead_append (taken : readHead front rest = some (lines, body)) (more : List UInt8) :
    readHead front (rest ++ more) = some (lines, body ++ more) := by
  induction rest generalizing front lines with
  | nil => cases taken
  | cons byte rest inductionHypothesis =>
      rw [readHead] at taken
      rw [List.cons_append, readHead]
      split at taken
      · rename_i feed
        rw [if_pos feed]
        split at taken
        · rename_i blank
          obtain ⟨rfl, rfl⟩ := Prod.mk.inj (Option.some.inj taken)
          rw [if_pos blank]
        · rename_i line
          obtain ⟨⟨later, behind⟩, found, same⟩ := Option.map_eq_some_iff.mp taken
          obtain ⟨rfl, rfl⟩ := Prod.mk.inj same
          rw [if_neg line, inductionHypothesis found]
          rfl
      · rename_i other
        rw [if_neg other]
        exact inductionHypothesis taken

end Head

/-- The bytes of a decimal number. -/
def digits (value : Nat) : List UInt8 := utf8Bytes (Nat.toDigits 10 value)

theorem byte_of_digit {char : Char} (digit : isDigitOf 10 char = true) :
    String.utf8EncodeChar char = [UInt8.ofNat char.toNat] ∧
      (UInt8.ofNat char.toNat).toNat = char.toNat := by
  obtain ⟨_, top⟩ := code_of_isDigitOf_ten digit
  refine ⟨utf8EncodeChar_ascii (by omega), ?_⟩
  rw [UInt8.toNat_ofNat']
  omega

theorem bytes_of_digits {text : List Char} (decimal : ∀ char ∈ text, isDigitOf 10 char = true) :
    (utf8Bytes text).map (fun byte => Char.ofNat byte.toNat) = text ∧
      ∀ byte ∈ utf8Bytes text, 48 ≤ byte.toNat ∧ byte.toNat ≤ 57 := by
  induction text with
  | nil => exact ⟨rfl, fun _ member => by cases member⟩
  | cons char text inductionHypothesis =>
      have digit := decimal char List.mem_cons_self
      obtain ⟨encoded, value⟩ := byte_of_digit digit
      obtain ⟨back, range⟩ := inductionHypothesis fun other member =>
        decimal other (List.mem_cons_of_mem _ member)
      have shape : utf8Bytes (char :: text) = UInt8.ofNat char.toNat :: utf8Bytes text := by
        rw [utf8Bytes, List.flatMap_cons, encoded]
        rfl
      rw [shape]
      refine ⟨?_, fun byte member => ?_⟩
      · rw [List.map_cons, back, value, Char.ofNat_toNat]
      · rcases List.mem_cons.mp member with rfl | later
        · rw [value]
          exact code_of_isDigitOf_ten digit
        · exact range byte later

theorem decimal_toDigits (value : Nat) :
    ∀ char ∈ Nat.toDigits 10 value, isDigitOf 10 char = true :=
  isDigitOf_of_mem_toDigits (by omega) (by omega) value

theorem number_digits (value : Nat) : number (digits value) = value := by
  rw [number, digits, (bytes_of_digits (decimal_toDigits value)).1,
    numeral_toDigits (by omega) (by omega)]

theorem range_of_mem_digits {value : Nat} {byte : UInt8} (member : byte ∈ digits value) :
    48 ≤ byte.toNat ∧ byte.toNat ≤ 57 :=
  (bytes_of_digits (decimal_toDigits value)).2 byte member

theorem field_other {name line : List UInt8} (other : name.isPrefixOf line = false)
    (lines : List (List UInt8)) : field name (line :: lines) = field name lines := by
  rw [field, List.findSome?_cons, other]
  rfl

theorem field_named {value : List UInt8} (plain : 13 ∉ value) (name : List UInt8)
    (lines : List (List UInt8)) : field name ((name ++ value ++ [13]) :: lines) = some value := by
  have named : name.isPrefixOf (name ++ value ++ [13]) = true := by
    rw [List.isPrefixOf_iff_prefix, List.append_assoc]
    exact List.prefix_append _ _
  have passes : ∀ byte ∈ value, decide (byte ≠ 13) = true := by
    intro byte member
    exact decide_eq_true fun same => plain (same ▸ member)
  rw [field, List.findSome?_cons, named, if_pos rfl, List.append_assoc, List.drop_left,
    List.takeWhile_append_of_pos passes]
  simp

/-- A message that states the length of its body is read when it is whole, and not before. -/
theorem read_take {lengthName status body : List UInt8} {lines : List (List UInt8)}
    (plain : ∀ line ∈ status :: lines, 10 ∉ line ∧ line ≠ [])
    (states : field lengthName ((status :: lines).map (· ++ [13])) = some (digits body.length))
    (count : Nat) :
    read lengthName ((writeHead (status :: lines) ++ body).take count) =
      if (writeHead (status :: lines) ++ body).length ≤ count then some (status ++ [13], body)
      else none := by
  have whole := readHead_writeHead plain body
  generalize writeHead (status :: lines) ++ body = message at whole ⊢
  cases cut : readHead [] (message.take count) with
  | none =>
      have short : ¬message.length ≤ count := by
        intro enough
        rw [List.take_of_length_le enough, whole] at cut
        cases cut
      rw [if_neg short, read, cut]
      rfl
  | some parts =>
      obtain ⟨found, behind⟩ := parts
      have same := readHead_append cut (message.drop count)
      rw [List.take_append_drop, whole] at same
      obtain ⟨rfl, shape⟩ := Prod.mk.inj (Option.some.inj same)
      have unfolded : read lengthName (message.take count) =
          if body.length ≤ behind.length then
            some (status ++ [13], behind.take body.length) else none := by
        rw [read, cut]
        show ((field lengthName ((status :: lines).map (· ++ [13]))).bind fun length =>
          if number length ≤ behind.length then
            some (status ++ [13], behind.take (number length)) else none) = _
        rw [states, Option.bind_some, number_digits]
      have lengths := congrArg List.length shape
      rw [List.length_append, List.length_drop] at lengths
      rw [unfolded]
      by_cases enough : message.length ≤ count
      · rw [List.drop_of_length_le enough, List.append_nil] at shape
        rw [if_pos enough, if_pos (Nat.le_of_eq (congrArg List.length shape)), shape,
          List.take_length]
      · rw [if_neg enough, if_neg (by omega)]

end Juicity.Machine.Message

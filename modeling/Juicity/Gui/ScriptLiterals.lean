import Juicity.Gui.Script

/-!
Owns which texts are string literals: the grammar of the characters and escapes
between two quotes, and that the reader of `Script` accepts exactly these.

Contract: what the rules are read as when they are written into the object of a
script, and which rules stay inside of their literals.
-/

namespace Juicity.Gui.Script

open Juicity.Common
open Juicity.Machine

/-! ## Texts with escapes -/

/-- The largest code of a character. -/
def maxCode : Nat := 0x10ffff

/-- A text of characters, none of which breaks the line, and of whole escapes. -/
inductive Escaped : List Char → Prop
  | nil : Escaped []
  | char {char : Char} {rest : List Char} (noEscape : char ≠ '\\') (noFeed : char ≠ '\n')
      (noReturn : char ≠ '\r') (later : Escaped rest) : Escaped (char :: rest)
  | single {char : Char} {rest : List Char} (noHex : char ≠ 'x') (noUnicode : char ≠ 'u')
      (later : Escaped rest) : Escaped ('\\' :: char :: rest)
  | lineBreak {rest : List Char} (later : Escaped rest) : Escaped ('\\' :: '\r' :: '\n' :: rest)
  | hex {first second : Char} {rest : List Char} (firstDigit : isDigitOf 16 first = true)
      (secondDigit : isDigitOf 16 second = true) (later : Escaped rest) :
      Escaped ('\\' :: 'x' :: first :: second :: rest)
  | unicode {first second third fourth : Char} {rest : List Char}
      (firstDigit : isDigitOf 16 first = true) (secondDigit : isDigitOf 16 second = true)
      (thirdDigit : isDigitOf 16 third = true) (fourthDigit : isDigitOf 16 fourth = true)
      (later : Escaped rest) :
      Escaped ('\\' :: 'u' :: first :: second :: third :: fourth :: rest)
  | braced {digits rest : List Char} (nonempty : digits ≠ [])
      (hexadecimal : ∀ digit ∈ digits, isDigitOf 16 digit = true)
      (small : numeral 16 digits ≤ maxCode) (later : Escaped rest) :
      Escaped ('\\' :: 'u' :: '\x7b' :: (digits ++ '\x7d' :: rest))

/-- The literal that is read ends at the quote behind the text. -/
def Ends (lex : Lex) (text : List Char) : Prop := literal lex (text ++ ['"']) ≠ none

section Ends

variable {lex : Lex} {char : Char} {text : List Char}

theorem ends_nil : Ends lex [] ↔ ∃ value, move lex '"' = .stop value := by
  rw [Ends, List.nil_append, literal]
  cases move lex '"' with
  | stop value => exact ⟨fun _ => ⟨value, rfl⟩, fun _ impossible => by cases impossible⟩
  | go value next =>
      refine ⟨fun some => absurd rfl some, ?_⟩
      rintro ⟨value, impossible⟩
      cases impossible
  | bad =>
      refine ⟨fun some => absurd rfl some, ?_⟩
      rintro ⟨value, impossible⟩
      cases impossible

/-- Behind a character other than the quote the literal goes on. -/
theorem ends_cons (other : char ≠ '"') :
    Ends lex (char :: text) ↔ ∃ value next, move lex char = .go value next ∧ Ends next text := by
  rw [Ends, List.cons_append, literal]
  cases moved : move lex char with
  | stop value => exact absurd moved (move_ne_stop lex char other value)
  | go value next =>
      change Option.map _ _ ≠ none ↔ _
      rw [Ne, Option.map_eq_none_iff]
      constructor
      · exact fun ends => ⟨value, next, rfl, ends⟩
      · rintro ⟨_, _, same, ends⟩
        cases same
        exact ends
  | bad =>
      refine ⟨fun some => absurd rfl some, ?_⟩
      rintro ⟨_, _, impossible, _⟩
      cases impossible

theorem ends_go (other : char ≠ '"') {value : List Char} {next : Lex}
    (moved : move lex char = .go value next) : Ends lex (char :: text) ↔ Ends next text := by
  rw [ends_cons other]
  constructor
  · rintro ⟨_, _, same, ends⟩
    rw [moved] at same
    cases same
    exact ends
  · exact fun ends => ⟨value, next, moved, ends⟩

theorem not_ends_bad (other : char ≠ '"') (moved : move lex char = .bad) :
    ¬Ends lex (char :: text) := by
  rw [ends_cons other]
  rintro ⟨_, _, same, _⟩
  rw [moved] at same
  cases same

/-- The value of an escape does not matter for where the literal goes on. -/
theorem ends_behind (other : char ≠ '"') {value : List Char}
    (moved : move lex char = (plainMove char).behind value) :
    Ends lex (char :: text) ↔ Ends .plain (char :: text) := by
  cases plain : move .plain char with
  | stop last => exact absurd plain (plainMove_ne_stop char other last)
  | go last next =>
      rw [show plainMove char = _ from plain] at moved
      rw [ends_go other moved, ends_go other plain]
  | bad =>
      rw [show plainMove char = _ from plain] at moved
      exact ⟨fun ends => absurd ends (not_ends_bad other moved),
        fun ends => absurd ends (not_ends_bad other plain)⟩

/-- A digit is none of the characters that mean something in a literal. -/
theorem ne_of_isDigitOf {base : Nat} (digit : isDigitOf base char = true) {other : Char}
    (outside : other ∈ ['"', '\\', '\n', '\r', '\x7b', '\x7d']) : char ≠ other := by
  rintro rfl
  have codes := code_of_isDigitOf digit
  simp only [List.mem_cons, List.not_mem_nil, or_false] at outside
  rcases outside with rfl | rfl | rfl | rfl | rfl | rfl
  all_goals revert codes; decide

theorem move_plain_digit {base : Nat} (digit : isDigitOf base char = true) :
    move .plain char = .go [char] .plain := by
  have noBreak : ¬(char = '\n' ∨ char = '\r') := by
    rintro (same | same)
    · exact ne_of_isDigitOf digit (by decide) same
    · exact ne_of_isDigitOf digit (by decide) same
  change plainMove char = _
  rw [plainMove, if_neg (ne_of_isDigitOf digit (by decide)),
    if_neg (ne_of_isDigitOf digit (by decide)), if_neg noBreak]

theorem ends_plain_escape : Ends .plain ('\\' :: text) ↔ Ends .escape text :=
  ends_go (by decide) rfl

theorem ends_plain_char (other : char ≠ '"') (noEscape : char ≠ '\\') :
    Ends .plain (char :: text) ↔ (char ≠ '\n' ∧ char ≠ '\r') ∧ Ends .plain text := by
  have moved :
          move .plain char = if char = '\n' ∨ char = '\r' then .bad else .go [char] .plain := by
    change plainMove char = _
    rw [plainMove, if_neg other, if_neg noEscape]
  by_cases lineBreak : char = '\n' ∨ char = '\r'
  · rw [if_pos lineBreak] at moved
    refine ⟨fun ends => absurd ends (not_ends_bad other moved), ?_⟩
    rintro ⟨⟨noFeed, noReturn⟩, _⟩
    exact absurd lineBreak (not_or_intro noFeed noReturn)
  · rw [if_neg lineBreak] at moved
    rw [ends_go other moved]
    exact (and_iff_right (not_or.mp lineBreak)).symm

/-- Digits that may belong to an escape leave the literal as they would behind it. -/
theorem ends_octal (plain : '"' ∉ text) (left code : Nat) :
    Ends (.octal left code) text ↔ Ends .plain text := by
  induction text generalizing left code with
  | nil => exact ⟨fun _ => ends_nil.mpr ⟨_, rfl⟩, fun _ => ends_nil.mpr ⟨_, rfl⟩⟩
  | cons char text inductionHypothesis =>
      rw [List.mem_cons, not_or] at plain
      have other := Ne.symm plain.1
      have moved : move (.octal left code) char = octalMove left code char := rfl
      unfold octalMove at moved
      cases read : digitValue 8 char with
      | none =>
          rw [read] at moved
          exact ends_behind other moved
      | some digit =>
          rw [read] at moved
          by_cases last : left = 0
          · exact ends_behind other (moved.trans (if_pos last))
          · have octal : isDigitOf 8 char = true := by rw [isDigitOf, read]; rfl
            rw [ends_go other (moved.trans (if_neg last)),
              ends_go other (move_plain_digit octal)]
            exact inductionHypothesis plain.2 _ _

/-- Behind an escaped carriage return one line feed belongs to the same line break. -/
theorem ends_lineEnd (plain : '"' ∉ text) :
    Ends .lineEnd text ↔ Ends .plain text ∨ ∃ rest, text = '\n' :: rest ∧ Ends .plain rest := by
  cases text with
  | nil => exact ⟨fun _ => .inl (ends_nil.mpr ⟨_, rfl⟩), fun _ => ends_nil.mpr ⟨_, rfl⟩⟩
  | cons char text =>
      rw [List.mem_cons, not_or] at plain
      have other := Ne.symm plain.1
      by_cases feed : char = '\n'
      · subst feed
        rw [ends_go other (show move .lineEnd '\n' = .go [] .plain from rfl)]
        constructor
        · exact fun ends => .inr ⟨text, rfl, ends⟩
        · rintro (ends | ⟨rest, same, ends⟩)
          · exact absurd ends (not_ends_bad other rfl)
          · obtain rfl := (List.cons.inj same).2
            exact ends
      · have moved : move .lineEnd char = move .plain char := if_neg feed
        rw [ends_cons other, ends_cons other, moved]
        constructor
        · exact .inl
        · rintro (ends | ⟨rest, same, _⟩)
          · exact ends
          · exact absurd (List.cons.inj same).1 feed

/-- Where a literal is read with some digits of an escape to come. -/
def Lex.digits (left code : Nat) : Lex := if left = 0 then .plain else .hex left code

theorem ends_hex_cons (other : char ≠ '"') {left code : Nat} :
    Ends (.hex (left + 1) code) (char :: text) ↔ isDigitOf 16 char = true ∧
      Ends (.digits left (code * 16 + (digitValue 16 char).getD 0)) text := by
  have moved : move (.hex (left + 1) code) char = hexMove (left + 1) code char := rfl
  unfold hexMove at moved
  rw [isDigitOf]
  cases read : digitValue 16 char with
  | none =>
      rw [read] at moved
      refine ⟨fun ends => absurd ends (not_ends_bad other moved), ?_⟩
      rintro ⟨impossible, _⟩
      cases impossible
  | some digit =>
      rw [read] at moved
      refine Iff.trans ?_ (and_iff_right rfl).symm
      cases left with
      | zero => exact ends_go other moved
      | succ left => exact ends_go other moved

/-- An escape with some digits to come is read to its last digit. -/
theorem ends_digits (plain : '"' ∉ text) (left code : Nat) :
    Ends (.digits left code) text ↔ ∃ digits rest, text = digits ++ rest ∧
      digits.length = left ∧ (∀ digit ∈ digits, isDigitOf 16 digit = true) ∧
        Ends .plain rest := by
  induction left generalizing text code with
  | zero =>
      constructor
      · exact fun ends => ⟨[], text, rfl, rfl, List.forall_mem_nil _, ends⟩
      · rintro ⟨digits, rest, rfl, empty, _, ends⟩
        rw [List.eq_nil_of_length_eq_zero empty]
        exact ends
  | succ left inductionHypothesis =>
      cases text with
      | nil =>
          constructor
          · intro ends
            obtain ⟨value, impossible⟩ := ends_nil.mp ends
            cases impossible
          · rintro ⟨digits, rest, shape, length, _⟩
            rw [(List.append_eq_nil_iff.mp shape.symm).1] at length
            cases length
      | cons char text =>
          rw [List.mem_cons, not_or] at plain
          change Ends (.hex (left + 1) code) (char :: text) ↔ _
          rw [ends_hex_cons (Ne.symm plain.1)]
          constructor
          · rintro ⟨first, ends⟩
            obtain ⟨digits, rest, rfl, length, all, later⟩ :=
              (inductionHypothesis plain.2 _).mp ends
            exact ⟨char :: digits, rest, rfl, by rw [List.length_cons, length],
              List.forall_mem_cons.mpr ⟨first, all⟩, later⟩
          · rintro ⟨digits, rest, shape, length, all, later⟩
            cases digits with
            | nil => cases length
            | cons first digits =>
                obtain ⟨rfl, rfl⟩ := List.cons.inj shape
                rw [List.forall_mem_cons] at all
                exact ⟨all.1, (inductionHypothesis plain.2 _).mpr
                  ⟨digits, rest, rfl, Nat.succ.inj length, all.2, later⟩⟩

/-- The value of some digits behind others. -/
def numeralFrom (value : Nat) (digits : List Char) : Nat :=
  digits.foldl (fun value char => value * 16 + (digitValue 16 char).getD 0) value

theorem le_numeralFrom (value : Nat) (digits : List Char) : value ≤ numeralFrom value digits := by
  induction digits generalizing value with
  | nil => exact Nat.le_refl _
  | cons digit digits inductionHypothesis =>
      have step := inductionHypothesis (value * 16 + (digitValue 16 digit).getD 0)
      change value ≤ numeralFrom (value * 16 + (digitValue 16 digit).getD 0) digits
      omega

theorem ends_braced_cons (other : char ≠ '"') (inside : char ≠ '\x7d') {code : Option Nat} :
    Ends (.braced code) (char :: text) ↔ isDigitOf 16 char = true ∧
      numeralFrom (code.getD 0) [char] ≤ maxCode ∧
        Ends (.braced (some (numeralFrom (code.getD 0) [char]))) text := by
  have moved : move (.braced code) char = bracedMove code char := rfl
  unfold bracedMove at moved
  rw [if_neg inside] at moved
  rw [isDigitOf, numeralFrom, List.foldl_cons, List.foldl_nil]
  cases read : digitValue 16 char with
  | none =>
      rw [read] at moved
      refine ⟨fun ends => absurd ends (not_ends_bad other moved), ?_⟩
      rintro ⟨impossible, _⟩
      cases impossible
  | some digit =>
      rw [read] at moved
      refine Iff.trans ?_ (and_iff_right rfl).symm
      by_cases small : code.getD 0 * 16 + digit ≤ maxCode
      · exact (ends_go other (moved.trans (if_pos small))).trans (and_iff_right small).symm
      · refine ⟨fun ends => absurd ends (not_ends_bad other (moved.trans (if_neg small))), ?_⟩
        exact fun bounded => absurd bounded.1 small

/-- An escape in braces is read to its closing brace. -/
theorem ends_braced (plain : '"' ∉ text) (code : Option Nat) (bounded : code.getD 0 ≤ maxCode) :
    Ends (.braced code) text ↔ ∃ digits rest, text = digits ++ '\x7d' :: rest ∧
      (digits = [] → code.isSome = true) ∧ (∀ digit ∈ digits, isDigitOf 16 digit = true) ∧
        numeralFrom (code.getD 0) digits ≤ maxCode ∧ Ends .plain rest := by
  induction text generalizing code with
  | nil =>
      constructor
      · intro ends
        obtain ⟨value, impossible⟩ := ends_nil.mp ends
        cases impossible
      · rintro ⟨digits, rest, shape, _⟩
        exact absurd (List.append_eq_nil_iff.mp shape.symm).2 (List.cons_ne_nil _ _)
  | cons char text inductionHypothesis =>
      rw [List.mem_cons, not_or] at plain
      have other := Ne.symm plain.1
      by_cases closing : char = '\x7d'
      · subst closing
        cases code with
        | none =>
            refine ⟨fun ends => absurd ends (not_ends_bad other rfl), ?_⟩
            rintro ⟨digits, rest, shape, filled, all, _⟩
            cases digits with
            | nil => exact absurd (filled rfl) Bool.false_ne_true
            | cons first digits =>
                have digit := all first List.mem_cons_self
                rw [← (List.cons.inj shape).1] at digit
                exact absurd digit (by decide)
        | some code =>
            rw [ends_go other (show move (.braced (some code)) '\x7d' = _ from rfl)]
            constructor
            · exact fun ends =>
                ⟨[], text, rfl, fun _ => rfl, List.forall_mem_nil _, bounded, ends⟩
            · rintro ⟨digits, rest, shape, _, all, _, ends⟩
              cases digits with
              | nil =>
                  obtain rfl := (List.cons.inj shape).2
                  exact ends
              | cons first digits =>
                  have digit := all first List.mem_cons_self
                  rw [← (List.cons.inj shape).1] at digit
                  exact absurd digit (by decide)
      · rw [ends_braced_cons other closing]
        constructor
        · rintro ⟨first, small, ends⟩
          obtain ⟨digits, rest, rfl, _, all, later⟩ :=
            (inductionHypothesis plain.2 (some _) small).mp ends
          exact ⟨char :: digits, rest, rfl,
            fun impossible => (List.cons_ne_nil _ _ impossible).elim,
            List.forall_mem_cons.mpr ⟨first, all⟩, later⟩
        · rintro ⟨digits, rest, shape, _, all, small, later⟩
          cases digits with
          | nil => exact absurd (List.cons.inj shape).1 closing
          | cons first digits =>
              obtain ⟨rfl, rfl⟩ := List.cons.inj shape
              rw [List.forall_mem_cons] at all
              have within := Nat.le_trans (le_numeralFrom _ digits) small
              exact ⟨all.1, within, (inductionHypothesis plain.2 (some _) within).mpr
                ⟨digits, rest, rfl, fun _ => rfl, all.2, small, later⟩⟩

theorem ends_unicode (plain : '"' ∉ text) :
    Ends .unicode text ↔
      (∃ rest, text = '\x7b' :: rest ∧ Ends (.braced none) rest) ∨
        ∃ digits rest, text = digits ++ rest ∧ digits.length = 4 ∧
          (∀ digit ∈ digits, isDigitOf 16 digit = true) ∧ Ends .plain rest := by
  cases text with
  | nil =>
      constructor
      · intro ends
        obtain ⟨value, impossible⟩ := ends_nil.mp ends
        cases impossible
      · rintro (⟨rest, impossible, _⟩ | ⟨digits, rest, shape, length, _⟩)
        · cases impossible
        · rw [(List.append_eq_nil_iff.mp shape.symm).1] at length
          cases length
  | cons char text =>
      have other : char ≠ '"' := fun same => plain (same ▸ List.mem_cons_self)
      by_cases brace : char = '\x7b'
      · subst brace
        rw [ends_go other (show move .unicode '\x7b' = .go [] (.braced none) from rfl)]
        constructor
        · exact fun ends => .inl ⟨text, rfl, ends⟩
        · rintro (⟨rest, same, ends⟩ | ⟨digits, rest, shape, length, all, _⟩)
          · obtain rfl := (List.cons.inj same).2
            exact ends
          · cases digits with
            | nil => cases length
            | cons first digits =>
                have digit := all first List.mem_cons_self
                rw [← (List.cons.inj shape).1] at digit
                exact absurd digit (by decide)
      · have moved : move .unicode char = move (.hex 4 0) char := if_neg brace
        have digits := ends_digits plain 4 0
        rw [ends_cons other, moved, ← ends_cons other]
        change Ends (.hex 4 0) (char :: text) ↔ _ at digits
        rw [digits]
        constructor
        · exact .inr
        · rintro (⟨rest, same, _⟩ | found)
          · exact absurd (List.cons.inj same).1 brace
          · exact found

theorem ends_escape_hex : Ends .escape ('x' :: text) ↔ Ends (.digits 2 0) text :=
  ends_go (by decide) rfl

theorem ends_escape_unicode : Ends .escape ('u' :: text) ↔ Ends .unicode text :=
  ends_go (by decide) rfl

theorem ends_escape_return : Ends .escape ('\r' :: text) ↔ Ends .lineEnd text :=
  ends_go (by decide) rfl

/-- Every other character is an escape of its own. -/
theorem ends_escape_single (other : char ≠ '"') (plain : '"' ∉ text) (noHex : char ≠ 'x')
    (noUnicode : char ≠ 'u') (noReturn : char ≠ '\r') :
    Ends .escape (char :: text) ↔ Ends .plain text := by
  have moved : move .escape char = escapeMove char := rfl
  unfold escapeMove at moved
  cases read : digitValue 8 char with
  | some digit =>
      rw [read] at moved
      rw [ends_go other moved]
      exact ends_octal plain _ digit
  | none =>
      rw [read, if_neg noHex, if_neg noUnicode, if_neg noReturn] at moved
      by_cases lineEnd : isLineEnd char = true
      · exact ends_go other (moved.trans (if_pos lineEnd))
      · exact ends_go other (moved.trans (if_neg lineEnd))

end Ends

/-! ## The grammar -/

/-- The reader accepts what the grammar derives. -/
theorem Escaped.ends {text : List Char} (escaped : Escaped text) (plain : '"' ∉ text) :
    Ends .plain text := by
  induction escaped with
  | nil => exact ends_nil.mpr ⟨[], rfl⟩
  | char noEscape noFeed noReturn later inductionHypothesis =>
      rw [List.mem_cons, not_or] at plain
      rw [ends_plain_char (Ne.symm plain.1) noEscape]
      exact ⟨⟨noFeed, noReturn⟩, inductionHypothesis plain.2⟩
  | @single char rest noHex noUnicode later inductionHypothesis =>
      simp only [List.mem_cons, not_or] at plain
      obtain ⟨_, other, plain⟩ := plain
      have ends := inductionHypothesis plain
      rw [ends_plain_escape]
      by_cases lineBreak : char = '\r'
      · rw [lineBreak, ends_escape_return, ends_lineEnd plain]
        exact .inl ends
      · rwa [ends_escape_single (Ne.symm other) plain noHex noUnicode lineBreak]
  | @lineBreak rest later inductionHypothesis =>
      simp only [List.mem_cons, not_or] at plain
      rw [ends_plain_escape, ends_escape_return, ends_lineEnd (by simp [plain.2.2.2])]
      exact .inr ⟨rest, rfl, inductionHypothesis plain.2.2.2⟩
  | @hex first second rest firstDigit secondDigit later inductionHypothesis =>
      simp only [List.mem_cons, not_or] at plain
      obtain ⟨_, _, firstPlain, secondPlain, plain⟩ := plain
      rw [ends_plain_escape, ends_escape_hex,
        ends_digits (by simp [firstPlain, secondPlain, plain])]
      exact ⟨[first, second], rest, rfl, rfl, by simp [firstDigit, secondDigit],
        inductionHypothesis plain⟩
  | @unicode first second third fourth rest firstDigit secondDigit thirdDigit fourthDigit later
      inductionHypothesis =>
      simp only [List.mem_cons, not_or] at plain
      obtain ⟨_, _, firstPlain, secondPlain, thirdPlain, fourthPlain, plain⟩ := plain
      rw [ends_plain_escape, ends_escape_unicode,
        ends_unicode (by simp [firstPlain, secondPlain, thirdPlain, fourthPlain, plain])]
      exact .inr ⟨[first, second, third, fourth], rest, rfl, rfl,
        by simp [firstDigit, secondDigit, thirdDigit, fourthDigit], inductionHypothesis plain⟩
  | @braced digits rest nonempty hexadecimal small later inductionHypothesis =>
      simp only [List.mem_cons, List.mem_append, not_or] at plain
      obtain ⟨_, _, _, digitsPlain, _, plain⟩ := plain
      have inside : '"' ∉ digits ++ '\x7d' :: rest := by simp [digitsPlain, plain]
      rw [ends_plain_escape, ends_escape_unicode, ends_unicode (by simp [digitsPlain, plain])]
      refine .inl ⟨_, rfl, (ends_braced inside none (Nat.zero_le _)).mpr ?_⟩
      exact ⟨digits, rest, rfl, fun empty => absurd empty nonempty, hexadecimal, small,
        inductionHypothesis plain⟩

/-- The grammar derives an escape when it derives what stands behind each front of it. -/
theorem Escaped.of_escape {text : List Char} (plain : '"' ∉ text) (ends : Ends .escape text)
    (derived : ∀ front rest : List Char, text = front ++ rest → front ≠ [] →
      Ends .plain rest → Escaped rest) : Escaped ('\\' :: text) := by
  cases text with
  | nil =>
      obtain ⟨value, impossible⟩ := ends_nil.mp ends
      cases impossible
  | cons char rest =>
      rw [List.mem_cons, not_or] at plain
      by_cases hexadecimal : char = 'x'
      · subst hexadecimal
        rw [ends_escape_hex, ends_digits plain.2] at ends
        obtain ⟨digits, rest, rfl, length, all, whole⟩ := ends
        obtain ⟨first, second, rfl⟩ := List.length_eq_two.mp length
        have later := derived ['x', first, second] rest rfl (List.cons_ne_nil _ _) whole
        simp only [List.forall_mem_cons] at all
        exact .hex all.1 all.2.1 later
      · by_cases unicode : char = 'u'
        · subst unicode
          rw [ends_escape_unicode, ends_unicode plain.2] at ends
          rcases ends with ⟨rest, rfl, ends⟩ | ⟨digits, rest, rfl, length, all, whole⟩
          · simp only [List.mem_cons, not_or] at plain
            obtain ⟨digits, rest, rfl, filled, all, small, whole⟩ :=
              (ends_braced plain.2.2 none (Nat.zero_le _)).mp ends
            have later := derived ('u' :: '\x7b' :: (digits ++ ['\x7d'])) rest (by simp)
              (List.cons_ne_nil _ _) whole
            exact .braced (fun empty => Bool.false_ne_true (filled empty)) all small later
          · obtain ⟨first, second, third, fourth, rfl⟩ := List.length_eq_four.mp length
            have later := derived ['u', first, second, third, fourth] rest rfl
              (List.cons_ne_nil _ _) whole
            simp only [List.forall_mem_cons] at all
            exact .unicode all.1 all.2.1 all.2.2.1 all.2.2.2.1 later
        · by_cases lineBreak : char = '\r'
          · subst lineBreak
            rw [ends_escape_return, ends_lineEnd plain.2] at ends
            rcases ends with whole | ⟨rest, rfl, whole⟩
            · exact .single hexadecimal unicode
                (derived ['\r'] rest rfl (List.cons_ne_nil _ _) whole)
            · exact .lineBreak (derived ['\r', '\n'] rest rfl (List.cons_ne_nil _ _) whole)
          · rw [ends_escape_single (Ne.symm plain.1) plain.2 hexadecimal unicode lineBreak] at ends
            exact .single hexadecimal unicode
              (derived [char] rest rfl (List.cons_ne_nil _ _) ends)

/-- The grammar derives what the reader accepts. -/
theorem Escaped.of_ends {text : List Char} (plain : '"' ∉ text) (ends : Ends .plain text) :
    Escaped text := by
  induction measured : text.length using Nat.strongRecOn generalizing text with
  | ind size inductionHypothesis =>
      have derived : ∀ front rest : List Char, text = front ++ rest → front ≠ [] →
          Ends .plain rest → Escaped rest := by
        rintro front rest rfl nonempty whole
        have positive := List.length_pos_iff.mpr nonempty
        rw [List.length_append] at measured
        exact inductionHypothesis rest.length (by omega)
          (fun inside => plain (List.mem_append_right _ inside)) whole rfl
      cases text with
      | nil => exact .nil
      | cons char rest =>
          rw [List.mem_cons, not_or] at plain
          by_cases escape : char = '\\'
          · subst escape
            rw [ends_plain_escape] at ends
            refine .of_escape plain.2 ends fun front back shape _ whole => ?_
            exact derived ('\\' :: front) back (by rw [shape]; rfl) (List.cons_ne_nil _ _) whole
          · rw [ends_plain_char (Ne.symm plain.1) escape] at ends
            exact .char escape ends.1.1 ends.1.2
              (derived [char] rest rfl (List.cons_ne_nil _ _) ends.2)

/-- A text without quotes is read as a literal exactly when it is one. -/
theorem literalValue_ne_none_iff {text : List Char} (plain : '"' ∉ text) :
    literalValue text ≠ none ↔ Escaped text :=
  ⟨Escaped.of_ends plain, fun escaped => escaped.ends plain⟩

end Juicity.Gui.Script

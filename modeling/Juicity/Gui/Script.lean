import Juicity.Gui.Pac
import Juicity.Machine.Collect
import Juicity.Machine.Labels

/-!
Owns what a generated PAC file means as a script: its string literals, the object
literal with the rules, and `FindProxyForURL`. The script is read character by
character; a text that is not of the generated form has no meaning here.

A string literal is whole when it ends at the quote behind it. The object of the
rules is read exactly when the literal of each rule is whole.
-/

namespace Juicity.Gui.Script

open Juicity.Common
open Juicity.Machine

/-! ## String literals -/

/-- The character of a code; no host has one of the surrogates, which stand as U+FFFD. -/
def charOf (code : Nat) : Char := if code.isValidChar then Char.ofNat code else '\uFFFD'

/-- Where a string literal is read: in it, behind a backslash, or in an escape with digits. -/
inductive Lex where
  | plain
  | escape
  | hex (left code : Nat)
  | unicode
  | braced (code : Option Nat)
  | octal (left code : Nat)
  | lineEnd
deriving DecidableEq

/-- What a character does: it ends the literal or adds to its value, or nothing can follow. -/
inductive Move where
  | stop (value : List Char)
  | go (value : List Char) (next : Lex)
  | bad

/-- A character that is not in an escape. -/
def plainMove (char : Char) : Move :=
  if char = '"' then .stop []
  else if char = '\\' then .go [] .escape
  else if char = '\n' ∨ char = '\r' then .bad
  else .go [char] .plain

def isLineEnd (char : Char) : Bool :=
  char = '\n' || char = '\u2028' || char = '\u2029'

/-- The value of a single escaped character. -/
def escaped (char : Char) : Char :=
  if char = 'b' then '\x08'
  else if char = 't' then '\t'
  else if char = 'n' then '\n'
  else if char = 'v' then '\x0b'
  else if char = 'f' then '\x0c'
  else if char = 'r' then '\r'
  else char

def escapeMove (char : Char) : Move :=
  match digitValue 8 char with
  | some digit => .go [] (.octal (if digit ≤ 3 then 2 else 1) digit)
  | none =>
      if char = 'x' then .go [] (.hex 2 0)
      else if char = 'u' then .go [] .unicode
      else if char = '\r' then .go [] .lineEnd
      else if isLineEnd char then .go [] .plain
      else .go [escaped char] .plain

/-- A digit of an escape with a number of digits that is given. -/
def hexMove (left code : Nat) (char : Char) : Move :=
  match digitValue 16 char with
  | some digit =>
      if left = 1 then .go [charOf (code * 16 + digit)] .plain
      else .go [] (.hex (left - 1) (code * 16 + digit))
  | none => .bad

def bracedMove (code : Option Nat) (char : Char) : Move :=
  if char = '\x7d' then
    match code with
    | some code => .go [charOf code] .plain
    | none => .bad
  else
    match digitValue 16 char with
    | some digit =>
        let code := code.getD 0 * 16 + digit
        if code ≤ 0x10ffff then .go [] (.braced (some code)) else .bad
    | none => .bad

/-- The value of an escape, in front of what the character behind it does. -/
def Move.behind (value : List Char) : Move → Move
  | .stop more => .stop (value ++ more)
  | .go more next => .go (value ++ more) next
  | .bad => .bad

/-- An escape of up to three octal digits ends in front of a character that is none. -/
def octalMove (left code : Nat) (char : Char) : Move :=
  match digitValue 8 char with
  | some digit =>
      if left = 0 then (plainMove char).behind [charOf code]
      else .go [] (.octal (left - 1) (code * 8 + digit))
  | none => (plainMove char).behind [charOf code]

def move : Lex → Char → Move
  | .plain, char => plainMove char
  | .escape, char => escapeMove char
  | .hex left code, char => hexMove left code char
  | .unicode, char => if char = '\x7b' then .go [] (.braced none) else hexMove 4 0 char
  | .braced code, char => bracedMove code char
  | .octal left code, char => octalMove left code char
  | .lineEnd, char => if char = '\n' then .go [] .plain else plainMove char

/-! ## The object of the rules -/

/-- Where an object literal is read. -/
inductive Place where
  | start
  | first
  | key (lex : Lex) (read : List Char)
  | named (key : List Char)
  | colon (key : List Char)
  | valued
  | more
  | closed
deriving DecidableEq

/-- The keys that are read, and the place. -/
structure Reading where
  keys : List (List Char)
  place : Place
deriving DecidableEq

/-- An object literal of string literals that are each set to one. -/
def readChar (reading : Reading) (char : Char) : Option Reading :=
  match reading.place with
  | .start => if char = '\x7b' then some { reading with place := .first } else none
  | .first | .more =>
      if char = '"' then some { reading with place := .key .plain [] }
      else if char = '\x7d' then some { reading with place := .closed }
      else none
  | .key lex read =>
      match move lex char with
      | .stop value => some { reading with place := .named (read ++ value) }
      | .go value next => some { reading with place := .key next (read ++ value) }
      | .bad => none
  | .named key => if char = ':' then some { reading with place := .colon key } else none
  | .colon key => if char = '1' then some ⟨reading.keys ++ [key], .valued⟩ else none
  | .valued =>
      if char = ',' then some { reading with place := .more }
      else if char = '\x7d' then some { reading with place := .closed }
      else none
  | .closed => none

def readAll (reading : Reading) (text : List Char) : Option Reading := text.foldlM readChar reading

/-- The keys that were read when the object is at its end. -/
def finished : Option Reading → Option (List (List Char))
  | some ⟨keys, .closed⟩ => some keys
  | _ => none

/-- The property with which an object literal sets what the object inherits. -/
def protoName : List Char := "__proto__".toList

/-- The keys of an object literal, which may set what the object inherits once. -/
def readTable (text : List Char) : Option (List (List Char)) :=
  (finished (readAll ⟨[], .start⟩ text)).filter fun keys => keys.count protoName ≤ 1

/-- The value of a literal that ends with the text. -/
def literal (lex : Lex) : List Char → Option (List Char)
  | [] => none
  | char :: rest =>
      match move lex char with
      | .stop value => if rest = [] then some value else none
      | .go value next => (literal next rest).map (value ++ ·)
      | .bad => none

/-- The value of the string literal with a text between its quotes. -/
def literalValue (text : List Char) : Option (List Char) := literal .plain (text ++ ['"'])

example : literalValue "a\\.\\x62\\u\x7b63\x7d\\u0064\\145\\\rf".toList =
    some "a.bcdef".toList := by
  decide +kernel

example : readTable "\x7b\"a.b\":1,\"c\":1\x7d".toList = some ["a.b".toList, ['c']] := by
  decide +kernel

/-! ## The script -/

/-- What every object inherits. -/
def objectPrototype : List String :=
  ["constructor", "hasOwnProperty", "isPrototypeOf", "propertyIsEnumerable", "toLocaleString",
    "toString", "valueOf", "__proto__", "__defineGetter__", "__defineSetter__",
    "__lookupGetter__", "__lookupSetter__"]

/-- `table[name]` is truthy: a property that is set to one, or one that is inherited. -/
def truthy (keys : List (List Char)) (name : List Char) : Bool :=
  -- `__proto__` set to a number is no property, and what is inherited stays
  (name ∈ keys && name ≠ protoName) || objectPrototype.any fun known => known.toList = name

/-- The loop of `FindProxyForURL`, which ends in front of the last label. -/
def found (keys : List (List Char)) (host : String) : Bool :=
  let host := (toAsciiLowercase host).toList
  (Labels.walk '.' host).any (truthy keys)

/-- What the script returns in front of the address, and behind it. -/
def proxyAnswer (mixedAddr : String) : String :=
  "SOCKS5 " ++ mixedAddr ++ "; PROXY " ++ mixedAddr ++ "; DIRECT"

/-- The text of a script in front of its object. -/
def scriptHead : PacRuleMode → String
  | .bypassChina =>
      "/* PAC – Bypass China (generated by juicity-gui) */\n" ++ "var directDomains = "
  | .proxyGfw => "/* PAC – GFW List Only (generated by juicity-gui) */\n" ++ "var proxyDomains = "

/-- The text of a script behind its object. -/
def scriptTail (mode : PacRuleMode) (mixedAddr : String) : String :=
  ";\n" ++
  "function FindProxyForURL(url, host) \x7b\n" ++
  "    host = host.toLowerCase();\n" ++
  "    var parts = host.split('.');\n" ++
  "    for (var i = 0; i < parts.length - 1; i++) \x7b\n" ++
  "        var d = parts.slice(i).join('.');\n" ++
  match mode with
  | .bypassChina =>
      "        if (directDomains[d]) return \"DIRECT\";\n" ++
      "    \x7d\n" ++
      "    return \"SOCKS5 " ++ mixedAddr ++ "; PROXY " ++ mixedAddr ++ "; DIRECT\";\n" ++
      "\x7d"
  | .proxyGfw =>
      "        if (proxyDomains[d]) return \"SOCKS5 " ++ mixedAddr ++ "; PROXY " ++ mixedAddr ++
        "; DIRECT\";\n" ++
      "    \x7d\n" ++
      "    return \"DIRECT\";\n" ++
      "\x7d"

/-- What stands between two texts. -/
def between (front back text : List Char) : Option (List Char) :=
  let middle := (text.drop front.length).take (text.length - front.length - back.length)
  if text = front ++ (middle ++ back) then some middle else none

/-- What the script returns, with the value of the literal that names the proxy. -/
def scriptAnswer (mode : PacRuleMode) (proxied : List Char) (listed : Bool) : String :=
  match mode with
  | .bypassChina => if listed then "DIRECT" else String.ofList proxied
  | .proxyGfw => if listed then String.ofList proxied else "DIRECT"

/-- What `FindProxyForURL` returns for a host, when the script is one. -/
def findProxy (mode : PacRuleMode) (mixedAddr pac host : String) : Option String := do
  let object ← between (scriptHead mode).toList (scriptTail mode mixedAddr).toList pac.toList
  let keys ← readTable object
  let proxied ← literalValue (proxyAnswer mixedAddr).toList
  return scriptAnswer mode proxied (found keys host)

/-! ## Reading literals -/

section Literals

variable {lex next : Lex} {char : Char} {value read text rest : List Char}
  {keys : List (List Char)}

theorem readAll_cons (reading : Reading) (char : Char) (rest : List Char) :
    readAll reading (char :: rest) = (readChar reading char).bind (readAll · rest) := rfl

theorem readAll_key (keys : List (List Char)) (lex : Lex) (read : List Char) (char : Char)
    (rest : List Char) :
    readAll ⟨keys, .key lex read⟩ (char :: rest) =
      match move lex char with
      | .stop value => readAll ⟨keys, .named (read ++ value)⟩ rest
      | .go value next => readAll ⟨keys, .key next (read ++ value)⟩ rest
      | .bad => none := by
  rw [readAll_cons]
  simp only [readChar]
  cases move lex char with
  | stop value => rfl
  | go value next => rfl
  | bad => rfl

/-- Behind a quote a literal either ends, or goes on outside of escapes. -/
theorem move_quote (lex : Lex) :
    (∃ value, move lex '"' = .stop value) ∨ move lex '"' = .go ['"'] .plain ∨
      move lex '"' = .bad := by
  cases lex with
  | plain => exact .inl ⟨[], rfl⟩
  | escape => exact .inr (.inl rfl)
  | hex left code => exact .inr (.inr rfl)
  | unicode => exact .inr (.inr rfl)
  | braced code => exact .inr (.inr rfl)
  | octal left code => exact .inl ⟨[charOf code], rfl⟩
  | lineEnd => exact .inl ⟨[], rfl⟩

theorem plainMove_ne_stop (char : Char) (other : char ≠ '"') (value : List Char) :
    plainMove char ≠ .stop value := by
  unfold plainMove
  rw [if_neg other]
  split
  · exact fun same => nomatch same
  · split
    · exact fun same => nomatch same
    · exact fun same => nomatch same

theorem behind_ne_stop {move : Move} (other : ∀ value, move ≠ .stop value)
    (value more : List Char) : move.behind value ≠ .stop more := by
  cases move with
  | stop last => exact absurd rfl (other last)
  | go last next => exact fun same => nomatch same
  | bad => exact fun same => nomatch same

theorem hexMove_ne_stop (left code : Nat) (char : Char) (value : List Char) :
    hexMove left code char ≠ .stop value := by
  fun_cases hexMove left code char with
  | _ => exact fun same => nomatch same

theorem escapeMove_ne_stop (char : Char) (value : List Char) : escapeMove char ≠ .stop value := by
  fun_cases escapeMove char with
  | _ => exact fun same => nomatch same

theorem bracedMove_ne_stop (code : Option Nat) (char : Char) (value : List Char) :
    bracedMove code char ≠ .stop value := by
  fun_cases bracedMove code char with
  | _ => exact fun same => nomatch same

theorem octalMove_ne_stop (left code : Nat) (char : Char) (other : char ≠ '"')
    (value : List Char) : octalMove left code char ≠ .stop value := by
  have behind := behind_ne_stop (plainMove_ne_stop char other) [charOf code] value
  unfold octalMove
  cases digitValue 8 char with
  | none => exact behind
  | some digit =>
      change (if left = 0 then _ else _) ≠ _
      split
      · exact behind
      · exact fun same => nomatch same

/-- Only a quote ends a literal. -/
theorem move_ne_stop (lex : Lex) (char : Char) (other : char ≠ '"') (value : List Char) :
    move lex char ≠ .stop value := by
  cases lex with
  | plain => exact plainMove_ne_stop char other value
  | escape => exact escapeMove_ne_stop char value
  | hex left code => exact hexMove_ne_stop left code char value
  | unicode =>
      change (if char = '\x7b' then _ else _) ≠ _
      split
      · exact fun same => nomatch same
      · exact hexMove_ne_stop 4 0 char value
  | braced code => exact bracedMove_ne_stop code char value
  | octal left code => exact octalMove_ne_stop left code char other value
  | lineEnd =>
      change (if char = '\n' then _ else _) ≠ _
      split
      · exact fun same => nomatch same
      · exact plainMove_ne_stop char other value

/-- Characters that stand for themselves in a literal. -/
theorem literalValue_append {front : List Char}
    (plain : ∀ char ∈ front, char ≠ '"' ∧ char ≠ '\\' ∧ char ≠ '\n' ∧ char ≠ '\r')
    (text : List Char) :
    literalValue (front ++ text) = (literalValue text).map (front ++ ·) := by
  induction front with
  | nil => exact Option.map_id'.symm
  | cons char front inductionHypothesis =>
      rw [List.forall_mem_cons] at plain
      obtain ⟨⟨noQuote, noEscape, noFeed, noReturn⟩, plain⟩ := plain
      have moved : move .plain char = .go [char] .plain := by
        change plainMove char = _
        rw [plainMove, if_neg noQuote, if_neg noEscape, if_neg (not_or_intro noFeed noReturn)]
      have rest := inductionHypothesis plain
      rw [literalValue] at rest
      rw [literalValue, List.cons_append, List.cons_append, literal, moved]
      change Option.map _ (literal .plain (front ++ text ++ ['"'])) = _
      rw [rest, Option.map_map]
      rfl

theorem literalValue_plain {text : List Char}
    (plain : ∀ char ∈ text, char ≠ '"' ∧ char ≠ '\\' ∧ char ≠ '\n' ∧ char ≠ '\r') :
    literalValue text = some text := by
  have whole := literalValue_append plain []
  rw [List.append_nil] at whole
  exact whole.trans (congrArg some (List.append_nil text))

/-- The reader behind a literal that is whole. -/
theorem readAll_whole (plain : '"' ∉ text) (whole : literal lex (text ++ ['"']) = some value)
    (read rest : List Char) :
    readAll ⟨keys, .key lex read⟩ (text ++ '"' :: rest) =
      readAll ⟨keys, .named (read ++ value)⟩ rest := by
  induction text generalizing lex read value with
  | nil =>
      rw [List.nil_append, readAll_key]
      rw [List.nil_append, literal] at whole
      cases moved : move lex '"' with
      | stop last =>
          rw [moved] at whole
          obtain rfl : last = value := Option.some.inj whole
          rfl
      | go last next =>
          rw [moved] at whole
          exact absurd whole (fun same => nomatch same)
      | bad =>
          rw [moved] at whole
          exact absurd whole (fun same => nomatch same)
  | cons char text inductionHypothesis =>
      rw [List.mem_cons, not_or] at plain
      rw [List.cons_append, readAll_key]
      rw [List.cons_append, literal] at whole
      cases moved : move lex char with
      | stop last => exact absurd moved (move_ne_stop lex char (Ne.symm plain.1) last)
      | go last next =>
          rw [moved] at whole
          obtain ⟨more, wholeNext, rfl⟩ := Option.map_eq_some_iff.mp whole
          change readAll ⟨keys, .key next (read ++ last)⟩ (text ++ '"' :: rest) = _
          rw [inductionHypothesis plain.2 wholeNext (read ++ last), List.append_assoc]
      | bad =>
          rw [moved] at whole
          exact absurd whole (fun same => nomatch same)

/-- The reader behind a literal that is not whole is in the literal still. -/
theorem readAll_open (plain : '"' ∉ text) (opened : literal lex (text ++ ['"']) = none)
    (read rest : List Char) :
    readAll ⟨keys, .key lex read⟩ (text ++ '"' :: rest) = none ∨
      ∃ more, readAll ⟨keys, .key lex read⟩ (text ++ '"' :: rest) =
        readAll ⟨keys, .key .plain more⟩ rest := by
  induction text generalizing lex read with
  | nil =>
      rw [List.nil_append, readAll_key]
      rw [List.nil_append, literal] at opened
      rcases move_quote lex with ⟨last, moved⟩ | moved | moved
      · rw [moved] at opened
        exact absurd opened (fun same => nomatch same)
      · rw [moved]
        exact .inr ⟨read ++ ['"'], rfl⟩
      · rw [moved]
        exact .inl rfl
  | cons char text inductionHypothesis =>
      rw [List.mem_cons, not_or] at plain
      rw [List.cons_append, readAll_key]
      rw [List.cons_append, literal] at opened
      cases moved : move lex char with
      | stop last => exact absurd moved (move_ne_stop lex char (Ne.symm plain.1) last)
      | go last next =>
          rw [moved] at opened
          exact inductionHypothesis plain.2 (Option.map_eq_none_iff.mp opened) (read ++ last)
      | bad => exact .inl rfl

end Literals

/-! ## Reading the object -/

section Objects

variable {keys : List (List Char)} {place : Place} {text : List Char}

/-- What stands behind a rule of the object, for the rules that follow. -/
def tailText : List (List Char) → List Char
  | [] => ['\x7d']
  | safe :: more => ',' :: '"' :: (safe ++ '"' :: ':' :: '1' :: tailText more)

/-- An object with a literal for each text. -/
def objectText : List (List Char) → List Char
  | [] => ['\x7b', '\x7d']
  | safe :: more => '\x7b' :: '"' :: (safe ++ '"' :: ':' :: '1' :: tailText more)

/-- The places behind a key, none of which is in a literal. -/
def Place.Outside : Place → Prop
  | .start | .first | .key _ _ => False
  | .named _ | .colon _ | .valued | .more | .closed => True

/-- Outside of the literals a quote leads into one, or nothing can follow. -/
theorem readChar_outside_quote (outside : place.Outside) :
    readChar ⟨keys, place⟩ '"' = none ∨
      readChar ⟨keys, place⟩ '"' = some ⟨keys, .key .plain []⟩ := by
  cases place with
  | start | first | key => exact outside.elim
  | named | colon | valued | closed => exact .inl rfl
  | more => exact .inr rfl

/-- Only a quote leads into a literal. -/
theorem readChar_outside (outside : place.Outside) {char : Char} (other : char ≠ '"') :
    readChar ⟨keys, place⟩ char = none ∨
      ∃ more next, readChar ⟨keys, place⟩ char = some ⟨more, next⟩ ∧ next.Outside := by
  cases place with
  | start | first | key => exact outside.elim
  | named key =>
      by_cases known : char = ':'
      · exact .inr ⟨_, _, if_pos known, trivial⟩
      · exact .inl (if_neg known)
  | colon key =>
      by_cases known : char = '1'
      · exact .inr ⟨_, _, if_pos known, trivial⟩
      · exact .inl (if_neg known)
  | valued =>
      by_cases comma : char = ','
      · exact .inr ⟨_, _, if_pos comma, trivial⟩
      · by_cases closing : char = '\x7d'
        · exact .inr ⟨_, _, (if_neg comma).trans (if_pos closing), trivial⟩
        · exact .inl ((if_neg comma).trans (if_neg closing))
  | more =>
      by_cases closing : char = '\x7d'
      · exact .inr ⟨_, _, (if_neg other).trans (if_pos closing), trivial⟩
      · exact .inl ((if_neg other).trans (if_neg closing))
  | closed => exact .inl rfl

/-- A rule that is read outside of the literals leads into one, or nothing can follow. -/
theorem readAll_outside (outside : place.Outside) (plain : '"' ∉ text) (rest : List Char) :
    readAll ⟨keys, place⟩ (text ++ '"' :: rest) = none ∨
      ∃ more, readAll ⟨keys, place⟩ (text ++ '"' :: rest) =
        readAll ⟨more, .key .plain []⟩ rest := by
  induction text generalizing keys place with
  | nil =>
      rw [List.nil_append, readAll_cons]
      rcases readChar_outside_quote outside with failed | into
      · rw [failed]
        exact .inl rfl
      · rw [into]
        exact .inr ⟨keys, rfl⟩
  | cons char text inductionHypothesis =>
      rw [List.mem_cons, not_or] at plain
      rw [List.cons_append, readAll_cons]
      rcases readChar_outside outside (Ne.symm plain.1) with failed | ⟨more, next, moved, stays⟩
      · rw [failed]
        exact .inl rfl
      · rw [moved]
        exact inductionHypothesis stays plain.2

/-- From inside of a literal, the characters between two rules are read as text. -/
theorem finished_inside (safes : List (List Char)) (plain : ∀ safe ∈ safes, '"' ∉ safe)
    (read : List Char) :
    finished (readAll ⟨keys, .key .plain read⟩ (':' :: '1' :: tailText safes)) = none := by
  induction safes generalizing keys read with
  | nil => rfl
  | cons safe safes inductionHypothesis =>
      rw [List.forall_mem_cons] at plain
      have outside : (Place.named (read ++ [':'] ++ ['1'] ++ [','] ++ [])).Outside := trivial
      change finished (readAll ⟨keys, .named _⟩ (safe ++ '"' :: ':' :: '1' :: tailText safes)) = _
      rcases readAll_outside outside plain.1 _ with failed | ⟨more, into⟩
      · rw [failed]
        rfl
      · rw [into]
        exact inductionHypothesis plain.2 []

/-- A rule is read when its literal is whole. -/
theorem finished_rule {safe rest : List Char} (plain : '"' ∉ safe)
    (inside : ∀ read, finished (readAll ⟨keys, .key .plain read⟩ rest) = none) :
    finished (readAll ⟨keys, .key .plain []⟩ (safe ++ '"' :: rest)) =
      (literalValue safe).bind fun key => finished (readAll ⟨keys, .named key⟩ rest) := by
  cases whole : literalValue safe with
  | none =>
      rcases readAll_open plain whole [] rest with failed | ⟨more, into⟩
      · rw [failed]
        rfl
      · rw [into]
        exact inside more
  | some value =>
      rw [readAll_whole plain whole [] rest]
      rfl

theorem finished_tail (safes : List (List Char)) (plain : ∀ safe ∈ safes, '"' ∉ safe) :
    finished (readAll ⟨keys, .valued⟩ (tailText safes)) =
      (safes.mapM literalValue).map (keys ++ ·) := by
  induction safes generalizing keys with
  | nil => simp [tailText, readAll, readChar, finished]
  | cons safe safes inductionHypothesis =>
      rw [List.forall_mem_cons] at plain
      change finished (readAll ⟨keys, .key .plain []⟩
        (safe ++ '"' :: ':' :: '1' :: tailText safes)) = _
      rw [finished_rule plain.1 (finished_inside safes plain.2), List.mapM_cons]
      cases literalValue safe with
      | none => rfl
      | some value =>
          change finished (readAll ⟨keys ++ [value], .valued⟩ (tailText safes)) = _
          rw [inductionHypothesis plain.2]
          cases safes.mapM literalValue with
          | none => rfl
          | some values => exact congrArg some (List.append_cons keys value values).symm

theorem finished_object (safes : List (List Char)) (plain : ∀ safe ∈ safes, '"' ∉ safe) :
    finished (readAll ⟨[], .start⟩ (objectText safes)) = safes.mapM literalValue := by
  cases safes with
  | nil => rfl
  | cons safe safes =>
      rw [List.forall_mem_cons] at plain
      change finished (readAll ⟨[], .key .plain []⟩
        (safe ++ '"' :: ':' :: '1' :: tailText safes)) = _
      rw [finished_rule plain.1 (finished_inside safes plain.2), List.mapM_cons]
      cases literalValue safe with
      | none => rfl
      | some value =>
          change finished (readAll ⟨[value], .valued⟩ (tailText safes)) = _
          rw [finished_tail safes plain.2]
          cases safes.mapM literalValue with
          | none => rfl
          | some values => rfl

/-- The object of the rules is read when the literal of each rule is whole. -/
theorem readTable_object (safes : List (List Char)) (plain : ∀ safe ∈ safes, '"' ∉ safe) :
    readTable (objectText safes) =
      (safes.mapM literalValue).filter fun keys => keys.count protoName ≤ 1 :=
  congrArg (Option.filter _) (finished_object safes plain)

end Objects

/-! ## Scripts of rules -/

/-- A rule between the quotes of its literal. -/
def sanitise (domain : String) : List Char := domain.toList.filter (· ≠ '"')

theorem quote_notMem_sanitise (domain : String) : '"' ∉ sanitise domain := by
  intro inside
  exact of_decide_eq_true (List.mem_filter.mp inside).2 rfl

theorem quote_notMem_map_sanitise (domains : List String) :
    ∀ safe ∈ domains.map sanitise, '"' ∉ safe :=
  List.forall_mem_map.mpr fun domain _ => quote_notMem_sanitise domain

theorem intercalate_entries (safe : List Char) (more : List (List Char)) :
    [','].intercalate (('"' :: (safe ++ '"' :: ':' :: ['1'])) ::
        more.map fun safe => '"' :: (safe ++ '"' :: ':' :: ['1'])) ++ ['\x7d'] =
      '"' :: (safe ++ '"' :: ':' :: '1' :: tailText more) := by
  induction more generalizing safe with
  | nil => simp [tailText]
  | cons next more inductionHypothesis =>
      have later := inductionHypothesis next
      rw [List.map_cons, List.intercalate_cons_cons, List.append_assoc, later]
      simp [tailText]

/-- The object of the script is one literal for each domain. -/
theorem toList_domainsToJsObject (domains : List String) :
    (domainsToJsObject domains).toList = objectText (domains.map sanitise) := by
  cases domains with
  | nil => rfl
  | cons domain domains =>
      have entries := intercalate_entries (sanitise domain) (domains.map sanitise)
      simp only [domainsToJsObject, String.toList_append, String.toList_intercalate, List.map_cons,
        List.map_map]
      rw [objectText, ← entries]
      simp [Function.comp_def, sanitise]

/-- The rules that a script is generated from. -/
def scriptRules (mode : PacRuleMode) (direct proxy : List String) : List String :=
  match mode with
  | .bypassChina => direct
  | .proxyGfw => proxy

theorem generatePac_eq (mode : PacRuleMode) (mixedAddr : String) (direct proxy : List String) :
    generatePac mode mixedAddr direct proxy =
      scriptHead mode ++ (domainsToJsObject (scriptRules mode direct proxy) ++
        scriptTail mode mixedAddr) := by
  cases mode with
  | bypassChina =>
      change generateBypassChinaPac mixedAddr direct = _
      unfold generateBypassChinaPac scriptHead scriptTail scriptRules
      simp only [String.append_assoc, -String.reduceAppend]
  | proxyGfw =>
      change generateProxyGfwPac mixedAddr proxy = _
      unfold generateProxyGfwPac scriptHead scriptTail scriptRules
      simp only [String.append_assoc, -String.reduceAppend]

theorem between_append (front middle back : List Char) :
    between front back (front ++ (middle ++ back)) = some middle := by
  have cut : ((front ++ (middle ++ back)).drop front.length).take
      ((front ++ (middle ++ back)).length - front.length - back.length) = middle := by
    rw [List.drop_left, List.length_append, List.length_append, Nat.add_sub_cancel_left,
      Nat.add_sub_cancel, List.take_left]
  rw [between, cut]
  exact if_pos rfl

/-- The table of a script has the value of the literal of each rule. -/
def tableOf (domains : List String) : Option (List (List Char)) :=
  (domains.mapM fun domain => literalValue (sanitise domain)).filter fun keys =>
    keys.count protoName ≤ 1

/-- What a generated script returns. -/
theorem findProxy_generatePac (mode : PacRuleMode) (mixedAddr host : String)
    (direct proxy : List String) :
    findProxy mode mixedAddr (generatePac mode mixedAddr direct proxy) host = do
      let keys ← tableOf (scriptRules mode direct proxy)
      let proxied ← literalValue (proxyAnswer mixedAddr).toList
      return scriptAnswer mode proxied (found keys host) := by
  have table : readTable (domainsToJsObject (scriptRules mode direct proxy)).toList =
      tableOf (scriptRules mode direct proxy) := by
    rw [toList_domainsToJsObject, readTable_object _ (quote_notMem_map_sanitise _), List.mapM_map]
    rfl
  rw [findProxy, generatePac_eq, String.toList_append, String.toList_append, between_append,
    Option.bind_eq_bind, Option.bind_some, table]

/-! ## Looking up a host -/

/-- No property with a dot in its name is inherited. -/
theorem truthy_iff {keys : List (List Char)} {name : List Char} (dotted : '.' ∈ name) :
    truthy keys name = true ↔ name ∈ keys := by
  have noProto : name ≠ protoName := by
    rintro rfl
    exact absurd dotted (by decide)
  have own : (objectPrototype.any fun known => known.toList = name) = false := by
    rw [List.any_eq_false]
    intro known member same
    have plain : ∀ known ∈ objectPrototype, '.' ∉ known.toList := by decide
    rw [← of_decide_eq_true same] at dotted
    exact plain known member dotted
  rw [truthy, own, Bool.or_false, Bool.and_eq_true, decide_eq_true_eq, decide_eq_true_eq]
  exact and_iff_left noProto

/-- The loop finds a key with a dot that the host is under. -/
theorem found_iff {keys : List (List Char)} {host : String} :
    found keys host = true ↔
      ∃ key ∈ keys, Labels.Under '.' (toAsciiLowercase host).toList key ∧ '.' ∈ key := by
  rw [found, List.any_eq_true]
  constructor
  · rintro ⟨key, walked, known⟩
    obtain ⟨under, dotted⟩ := Labels.mem_walk.mp walked
    exact ⟨key, (truthy_iff dotted).mp known, under, dotted⟩
  · rintro ⟨key, member, under, dotted⟩
    exact ⟨key, Labels.mem_walk.mpr ⟨under, dotted⟩, (truthy_iff dotted).mpr member⟩

end Juicity.Gui.Script

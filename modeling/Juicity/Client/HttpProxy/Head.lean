import Juicity.Client.HttpProxy.Rewrite
import Juicity.Common.UrlCrate
import Juicity.Machine.BufRead
import Mathlib.Data.Bool.AllAny

/-!
Owns `read_http_line`, `handle_http_proxy`, `handle_http_connect` and
`handle_http_forward` of `client/src/local.rs`, up to the copy to the upstream
stream, for a head that arrives before its deadline and a stream that opens.

A head and the bytes behind it come apart at the same place for every cut of the
stream into reads: the head is what its lines say, and what the upstream stream
has received and what the client's reader still gives are the bytes for the
server.
-/

namespace Juicity.Client.HttpProxy

open Juicity.Common
open Juicity.Machine

def maxHttpLineLen : Nat := 8 * 1024
def maxHttpHeaders : Nat := 100

/-- How a request ends that is not relayed: what the client is answered, and the error. -/
structure Refusal where
  answer : String
  error : String
deriving DecidableEq

def badRequest (error : String) : Refusal :=
  ⟨"HTTP/1.1 400 Bad Request\r\nConnection: close\r\n\r\n", error⟩

/-- A line goes up to its line feed, or to one byte more than a line may have. -/
def readHttpLine (reader : BufReader UInt8) : Except Refusal (String × BufReader UInt8) :=
  let (bytes, after) := reader.readUntil 10 (maxHttpLineLen + 1)
  match fromUtf8 bytes with
  | none => .error ⟨"", "stream did not contain valid UTF-8"⟩
  | some line =>
      if ¬bytes.length ≤ maxHttpLineLen then .error ⟨"", "HTTP header line too long"⟩
      else if line.toList.getLast? ≠ some '\n' then
        .error ⟨"", "incomplete HTTP request head"⟩
      else .ok (line, after)

/-- The next of `split_whitespace()`, and what is behind it. -/
def nextWord (text : List Char) : Option (String × List Char) :=
  let text := text.dropWhile isWhitespace
  if text = [] then none
  else
    some (String.ofList (text.takeWhile (!isWhitespace ·)), text.dropWhile (!isWhitespace ·))

/-- The method, the target and the version of a request line. -/
def requestWords (line : String) : Option (String × String × String) := do
  let (method, rest) ← nextWord line.toList
  let (target, rest) ← nextWord rest
  let (version, _) ← nextWord rest
  return (method, target, version)

/-- The header lines up to the blank one, when there may be some more of them. -/
def readHeaders (room : Nat) (reader : BufReader UInt8) :
    Except Refusal (List String × BufReader UInt8) := do
  let (line, after) ← readHttpLine reader
  if trim line = "" then
    return ([], after)
  match room with
  | 0 => .error ⟨"", "too many HTTP headers"⟩
  | room + 1 =>
      let (headers, last) ← readHeaders room after
      return (line :: headers, last)

structure RequestHead where
  method : String
  target : String
  version : String
  headers : List String
deriving DecidableEq

def readRequestHead (reader : BufReader UInt8) :
    Except Refusal (RequestHead × BufReader UInt8) := do
  let (requestLine, after) ← readHttpLine reader
  match requestWords requestLine with
  | none => .error (badRequest ("invalid HTTP request line: " ++ trim requestLine))
  | some (method, target, version) =>
      let (headers, last) ← readHeaders maxHttpHeaders after
      return (⟨method, target, version, headers⟩, last)

/-- A request whose upstream stream is open: where to, what the client is answered first, and
the copy of what the client sends, with what was written to the stream before. -/
structure Relay where
  host : String
  port : UInt16
  answer : String
  uplink : BufCopy UInt8

/-- The buffer is written by hand, and the copy goes on behind it with a buffer of its own. -/
def handleHttpConnect (reader : BufReader UInt8) (target : String) : Relay :=
  let (host, port) :=
    match Link.parseHostPort target with
    | .ok parsed => parsed
    | .error _ => (target, 443)
  let leftover := reader.buffer
  { host, port
    answer := "HTTP/1.1 200 Connection Established\r\n\r\n"
    uplink := ⟨⟨16 * 1024, [], reader.source⟩, leftover, false⟩ }

/-- The rewritten request is written, and the copy goes on with the reader of the head. -/
def handleHttpForward (reader : BufReader UInt8) (head : RequestHead) : Except Refusal Relay :=
  match splitProxyTarget head.target head.headers with
  | none => .error (badRequest ("unsupported HTTP request target: " ++ head.target))
  | some (host, port, path) =>
      let request := buildOriginRequest head.method path head.version head.headers host port
      .ok { host, port, answer := "", uplink := ⟨reader, utf8 request, false⟩ }

def handleHttpProxy (source : List Bytes) : Except Refusal Relay := do
  let (head, reader) ← readRequestHead ⟨8 * 1024, [], source⟩
  if head.method = "CONNECT" then
    return handleHttpConnect reader head.target
  handleHttpForward reader head

/-! ## Requests -/

/-- A line of a head: one line feed, at its end, and no more bytes than are read. -/
structure Line where
  text : String
  ended : ∃ front, text.toList = front ++ ['\n'] ∧ '\n' ∉ front
  fits : (utf8 text).length ≤ maxHttpLineLen

/-- A text that starts with some words, with white space between them. -/
inductive Worded : List Char → List String → Prop
  | any (text : List Char) : Worded text []
  | word (gap word : List Char) {rest : List Char} {words : List String}
      (white : ∀ char ∈ gap, isWhitespace char = true) (filled : word ≠ [])
      (plain : ∀ char ∈ word, isWhitespace char = false)
      (apart : ∀ char ∈ rest.head?, isWhitespace char = true) (later : Worded rest words) :
      Worded (gap ++ (word ++ rest)) (String.ofList word :: words)

/-- A request line, header lines and a blank line. -/
structure Request where
  method : String
  target : String
  version : String
  requestLine : Line
  headers : List Line
  blank : Line
  worded : Worded requestLine.text.toList [method, target, version]
  few : headers.length ≤ maxHttpHeaders
  filled : ∀ header ∈ headers, trim header.text ≠ ""
  ends : trim blank.text = ""

namespace Request

def headerTexts (request : Request) : List String := request.headers.map Line.text

def bytes (request : Request) : Bytes :=
  utf8 request.requestLine.text ++
    (request.headerTexts.flatMap utf8 ++ utf8 request.blank.text)

/-- What is to be read of a request. -/
def head (request : Request) : RequestHead :=
  ⟨request.method, request.target, request.version, request.headerTexts⟩

end Request

/-- What the upstream stream receives before the bytes behind the head: nothing through a
tunnel, else the rewritten request, if there is a server to send it to. -/
def RequestHead.upstreamFront (head : RequestHead) : Option Bytes :=
  if head.method = "CONNECT" then some []
  else
    (splitProxyTarget head.target head.headers).map fun (host, port, path) =>
      utf8 (buildOriginRequest head.method path head.version head.headers host port)

/-! ## Reading a head -/

/-- The bytes of a line have their line feed at the end only. -/
theorem Line.bytes (line : Line) : ∃ front, utf8 line.text = front ++ [10] ∧ 10 ∉ front := by
  obtain ⟨front, shape, free⟩ := line.ended
  refine ⟨utf8Bytes front, ?_, fun member => ?_⟩
  · rw [utf8_eq_utf8Bytes, shape, utf8Bytes_append]
    rfl
  · obtain ⟨char, listed, encoded⟩ := List.mem_flatMap.mp member
    obtain ⟨ascii, byte⟩ := ascii_of_mem_utf8EncodeChar encoded (by decide)
    have code : char.toNat = 10 := by
      have values := congrArg UInt8.toNat byte
      rw [UInt8.toNat_ofNat'] at values
      have ten : (10 : UInt8).toNat = 10 := rfl
      omega
    have feed : char = '\n' := Char.ext (UInt32.toNat_inj.mp code)
    exact free (feed ▸ listed)

/-- A line is read whole, and what is behind it is left. -/
theorem readHttpLine_line {reader : BufReader UInt8} (sound : reader.Sound) (line : Line)
    {rest : Bytes} (more : reader.pending = utf8 line.text ++ rest) :
    ∃ after, readHttpLine reader = .ok (line.text, after) ∧ after.pending = rest ∧
      after.Sound := by
  obtain ⟨front, shape, free⟩ := line.bytes
  obtain ⟨text, ended, _⟩ := line.ended
  have fits := line.fits
  rw [shape, List.length_append, List.length_singleton] at fits
  rw [shape, List.append_assoc, List.singleton_append] at more
  have within : front.length < maxHttpLineLen + 1 := by omega
  obtain ⟨after, found, left, still, _⟩ := BufReader.readUntil_line sound more free within
  refine ⟨after, ?_, left, still⟩
  have decoded : fromUtf8 (front ++ [10]) = some line.text :=
    fromUtf8_eq_some_iff.mpr shape
  have short : ¬¬(front ++ [10]).length ≤ maxHttpLineLen := by
    rw [not_not, List.length_append, List.length_singleton]
    exact fits
  have feed : ¬line.text.toList.getLast? ≠ some '\n' := by
    rw [not_not, ended, List.getLast?_concat]
  rw [readHttpLine, found]
  dsimp only
  rw [decoded]
  dsimp only
  rw [if_neg short, if_neg feed]

/-- A word between white space is the next one. -/
theorem nextWord_word {gap word rest : List Char} (white : ∀ char ∈ gap, isWhitespace char = true)
    (filled : word ≠ []) (plain : ∀ char ∈ word, isWhitespace char = false)
    (apart : ∀ char ∈ rest.head?, isWhitespace char = true) :
    nextWord (gap ++ (word ++ rest)) = some (String.ofList word, rest) := by
  obtain ⟨first, tail, rfl⟩ := List.exists_cons_of_ne_nil filled
  have start : (gap ++ (first :: tail ++ rest)).dropWhile isWhitespace = first :: tail ++ rest := by
    rw [List.dropWhile_append_of_pos white, List.cons_append]
    exact List.dropWhile_cons_of_neg (Bool.eq_false_iff.mp (plain first List.mem_cons_self))
  have passes : ∀ char ∈ first :: tail, (!isWhitespace char) = true := by
    intro char member
    rw [plain char member]
    rfl
  have stops : ∀ char ∈ rest.head?, (!isWhitespace char) = false := by
    intro char front
    rw [apart char front]
    rfl
  have before : rest.takeWhile (!isWhitespace ·) = [] := by
    cases rest with
    | nil => rfl
    | cons char rest => exact List.takeWhile_cons_of_neg (Bool.eq_false_iff.mp (stops char rfl))
  have behind : rest.dropWhile (!isWhitespace ·) = rest := by
    cases rest with
    | nil => rfl
    | cons char rest => exact List.dropWhile_cons_of_neg (Bool.eq_false_iff.mp (stops char rfl))
  have some : first :: tail ++ rest ≠ [] := List.cons_ne_nil _ _
  unfold nextWord
  rw [start]
  dsimp only
  rw [if_neg some, List.takeWhile_append_of_pos passes,
    List.dropWhile_append_of_pos passes, before, behind, List.append_nil]

/-- The words of a text are read one by one. -/
theorem nextWord_worded {text : List Char} {word : String} {words : List String}
    (worded : Worded text (word :: words)) :
    ∃ rest, nextWord text = some (word, rest) ∧ Worded rest words := by
  cases worded with
  | word _ _ white filled plain apart later =>
      exact ⟨_, nextWord_word white filled plain apart, later⟩

theorem requestWords_worded {line : String} {method target version : String}
    (worded : Worded line.toList [method, target, version]) :
    requestWords line = some (method, target, version) := by
  obtain ⟨behindMethod, first, worded⟩ := nextWord_worded worded
  obtain ⟨behindTarget, second, worded⟩ := nextWord_worded worded
  obtain ⟨behindVersion, third, _⟩ := nextWord_worded worded
  simp only [requestWords, first, second, third, Option.bind_eq_bind, Option.bind_some]
  rfl

theorem readHeaders_blank {room : Nat} {reader after : BufReader UInt8} {line : String}
    (found : readHttpLine reader = .ok (line, after)) (ends : trim line = "") :
    readHeaders room reader = .ok ([], after) := by
  unfold readHeaders
  rw [found]
  simp only [bind, Except.bind, if_pos ends]
  rfl

theorem readHeaders_header {room : Nat} {reader after : BufReader UInt8} {line : String}
    (found : readHttpLine reader = .ok (line, after)) (filled : trim line ≠ "") :
    readHeaders (room + 1) reader =
      (readHeaders room after).map fun (headers, last) => (line :: headers, last) := by
  rw [readHeaders, found]
  simp only [bind, Except.bind, if_neg filled]
  cases readHeaders room after with
  | ok read => rfl
  | error refusal => rfl

/-- Header lines and a blank line are read whole, when there is room for the headers. -/
theorem readHeaders_lines {room : Nat} {reader : BufReader UInt8} (sound : reader.Sound)
    {headers : List Line} {blank : Line} {rest : Bytes}
    (more : reader.pending =
      (headers.map Line.text).flatMap utf8 ++ (utf8 blank.text ++ rest))
    (few : headers.length ≤ room) (filled : ∀ header ∈ headers, trim header.text ≠ "")
    (ends : trim blank.text = "") :
    ∃ after, readHeaders room reader = .ok (headers.map Line.text, after) ∧
      after.pending = rest ∧ after.Sound := by
  induction headers generalizing room reader with
  | nil =>
      obtain ⟨after, found, left, still⟩ := readHttpLine_line sound blank more
      exact ⟨after, readHeaders_blank found ends, left, still⟩
  | cons header headers inductionHypothesis =>
      rw [List.length_cons] at few
      obtain ⟨room, rfl⟩ : ∃ smaller, room = smaller + 1 := ⟨room - 1, by omega⟩
      rw [List.map_cons, List.flatMap_cons, List.append_assoc] at more
      obtain ⟨next, found, left, still⟩ := readHttpLine_line sound header more
      have fewer : headers.length ≤ room := by omega
      obtain ⟨after, later, remains, last⟩ := inductionHypothesis still left fewer
        fun other member => filled other (List.mem_cons_of_mem _ member)
      refine ⟨after, ?_, remains, last⟩
      rw [readHeaders_header found (filled header List.mem_cons_self), later]
      rfl

/-- The head of a request is what its lines say, and the bytes behind it are left. -/
theorem readRequestHead_request {reader : BufReader UInt8} (sound : reader.Sound)
    (request : Request) {body : Bytes} (more : reader.pending = request.bytes ++ body) :
    ∃ after, readRequestHead reader = .ok (request.head, after) ∧ after.pending = body ∧
      after.Sound := by
  rw [Request.bytes, List.append_assoc, List.append_assoc] at more
  obtain ⟨next, found, left, still⟩ := readHttpLine_line sound request.requestLine more
  obtain ⟨after, headers, remains, last⟩ :=
    readHeaders_lines still left request.few request.filled request.ends
  refine ⟨after, ?_, remains, last⟩
  rw [readRequestHead, found]
  show (match requestWords request.requestLine.text with
    | none => _
    | some (method, target, version) => _) = _
  rw [requestWords_worded request.worded]
  show (readHeaders maxHttpHeaders next >>= _) = _
  rw [headers]
  rfl

/-- The headers that are read are lines that the rewriting is for. -/
theorem Request.headerLine (request : Request) :
    ∀ header ∈ request.head.headers, HeaderLine header := by
  intro header member
  obtain ⟨line, listed, rfl⟩ := List.mem_map.mp member
  exact ⟨line.ended, request.filled line listed⟩

/-! ## Handing the reader on -/

/-- The copy of a relay starts with the front, and the bytes behind the head are to come. -/
theorem handleHttpProxy_request {source : List Bytes} {head : RequestHead}
    {after : BufReader UInt8} {front body : Bytes}
    (found : readRequestHead ⟨8 * 1024, [], source⟩ = .ok (head, after))
    (left : after.pending = body) (sound : after.Sound)
    (upstream : head.upstreamFront = some front) :
    ∃ relay, handleHttpProxy source = .ok relay ∧ relay.uplink.Passes (front ++ body) ∧
      relay.uplink.remaining ≤ body.length + 1 := by
  have start : handleHttpProxy source =
      if head.method = "CONNECT" then .ok (handleHttpConnect after head.target)
      else handleHttpForward after head := by
    rw [handleHttpProxy, found]
    rfl
  rw [start]
  unfold RequestHead.upstreamFront at upstream
  by_cases tunnel : head.method = "CONNECT"
  · rw [if_pos tunnel] at upstream ⊢
    have room : 0 < 16 * 1024 := by decide
    refine ⟨_, rfl, ⟨?_, ⟨room, sound.delivers⟩, fun finished => by cases finished⟩, ?_⟩
    · rw [← Option.some.inj upstream, List.nil_append, ← left]
      rfl
    · have lengths := congrArg List.length left
      rw [BufReader.pending, List.length_append] at lengths
      show after.source.flatten.length + 1 ≤ body.length + 1
      omega
  · rw [if_neg tunnel] at upstream ⊢
    obtain ⟨⟨host, port, path⟩, target, rfl⟩ := Option.map_eq_some_iff.mp upstream
    unfold handleHttpForward
    rw [target]
    refine ⟨_, rfl, ⟨?_, sound, fun finished => by cases finished⟩, ?_⟩
    · rw [left]
    · rw [BufCopy.remaining, left]
      exact Nat.le_refl _

/-- For every cut of a request and the bytes behind it into reads, the head is what its lines
say. The relay, if there is a server to relay to, writes to the upstream stream what comes
before the body and then the body: at each moment of each run it has written a front part of
that, the rest is to come, and when the run cannot go on it has written all of it, within one
step for each byte and one for the end. -/
theorem handOver (request : Request) (body : Bytes) (source : List Bytes)
    (delivers : [] ∉ source) (arrives : source.flatten = request.bytes ++ body) :
    ∃ reader, readRequestHead ⟨8 * 1024, [], source⟩ = .ok (request.head, reader) ∧
      reader.pending = body ∧
      ∀ front, request.head.upstreamFront = some front →
        ∃ relay, handleHttpProxy source = .ok relay ∧
          ∀ history final, Run BufCopy.step relay.uplink history final →
            final.received ++ final.reader.pending = front ++ body ∧
              history.length ≤ body.length + 1 ∧
              ((∀ taken, final.step taken = none) → final.received = front ++ body) := by
  have room : 0 < 8 * 1024 := by decide
  have sound : BufReader.Sound (⟨8 * 1024, [], source⟩ : BufReader UInt8) := ⟨room, delivers⟩
  obtain ⟨reader, found, left, still⟩ := readRequestHead_request sound request arrives
  refine ⟨reader, found, left, fun front upstream => ?_⟩
  obtain ⟨relay, opened, passes, bounded⟩ := handleHttpProxy_request found left still upstream
  refine ⟨relay, opened, fun history final run => ?_⟩
  obtain ⟨last, short, whole⟩ := passes.run run
  refine ⟨last.whole, ?_, whole⟩
  omega

/-- A line by its characters. -/
def lineOf (front : List Char) (free : '\n' ∉ front)
    (fits : (utf8 (String.ofList (front ++ ['\n']))).length ≤ maxHttpLineLen) : Line :=
  ⟨String.ofList (front ++ ['\n']), ⟨front, String.toList_ofList, free⟩, fits⟩

/-- A request for a tunnel, with one header line. -/
def tunnelRequest : Request where
  method := "CONNECT"
  target := "a:1"
  version := "H"
  requestLine := lineOf "CONNECT a:1  H\r".toList (by decide) (by decide +kernel)
  headers := [lineOf "A: b\r".toList (by decide) (by decide +kernel)]
  blank := lineOf ['\r'] (by decide) (by decide +kernel)
  worded := by
    have version : Worded "  H\r\n".toList ["H"] :=
      .word [' ', ' '] ['H'] (by exact List.all_eq_true.mp (by decide)) (by decide)
        (by exact List.all_iff_forall_prop.mp (by decide)) (by rintro char ⟨⟩; rfl)
        (.any ['\r', '\n'])
    have target : Worded " a:1  H\r\n".toList ["a:1", "H"] :=
      .word [' '] ['a', ':', '1'] (List.all_eq_true.mp (by decide)) (by decide)
        (List.all_iff_forall_prop.mp (by decide)) (by rintro char ⟨⟩; rfl) version
    exact .word [] "CONNECT".toList (List.forall_mem_nil _) (by decide)
      (List.all_iff_forall_prop.mp (by decide)) (by rintro char ⟨⟩; rfl) target
  few := by decide
  filled := by decide +kernel
  ends := by decide +kernel

/-- The request and three bytes behind it, in five reads. -/
def tunnelReads : List Bytes :=
  [utf8 "CONNECT a", utf8 ":1  H", utf8 "\r\nA: b\r\n\r", utf8 "\n\x16\x03", utf8 "\x01"]

theorem handOver_tunnel :
    ∃ reader, readRequestHead ⟨8 * 1024, [], tunnelReads⟩ =
        .ok (⟨"CONNECT", "a:1", "H", ["A: b\r\n"]⟩, reader) ∧
      reader.pending = [0x16, 3, 1] ∧
      ∃ relay, handleHttpProxy tunnelReads = .ok relay ∧
        ∀ history final, Run BufCopy.step relay.uplink history final →
          final.received ++ final.reader.pending = [0x16, 3, 1] ∧ history.length ≤ 4 ∧
            ((∀ taken, final.step taken = none) → final.received = [0x16, 3, 1]) := by
  obtain ⟨reader, found, left, relayed⟩ :=
    handOver tunnelRequest [0x16, 3, 1] tunnelReads (by decide +kernel) (by decide +kernel)
  exact ⟨reader, found, left, relayed [] (by decide +kernel)⟩

end Juicity.Client.HttpProxy

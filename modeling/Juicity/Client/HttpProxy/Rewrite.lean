import Juicity.Client.HttpProxy.Target
import Juicity.Machine.Fields

/-!
Owns `build_origin_request` of `client/src/local.rs`, and reading a request head
back: lines up to the empty one, gathered into fields by the white space that a
continuation line starts with.

The rewriting drops lines and not fields, and takes every line for the first one
of a field.
-/

namespace Juicity.Client.HttpProxy

open Juicity.Common
open Juicity.Machine

def isLineEnd (char : Char) : Bool := char = '\r' || char = '\n'

/-- `trim_end_matches(['\r', '\n'])`. -/
def trimLineEnd (header : String) : String :=
  String.ofList (header.toList.rdropWhile isLineEnd)

/-- `header.split(':').next().unwrap_or_default().trim()`. -/
def headerName (header : String) : String :=
  trim (String.ofList (header.toList.takeWhile (· ≠ ':')))

/-- The names of the headers that are not passed on. -/
def isDropped (name : String) : Bool :=
  eqIgnoreAsciiCase name "proxy-connection" || eqIgnoreAsciiCase name "proxy-authorization" ||
    eqIgnoreAsciiCase name "connection"

/-- The request and `has_host`, header by header. -/
structure Draft where
  request : String
  hasHost : Bool

def Draft.push (draft : Draft) (header : String) : Draft :=
  if isDropped (headerName header) then draft
  else
    { request := draft.request ++ trimLineEnd header ++ "\r\n"
      hasHost := draft.hasHost || eqIgnoreAsciiCase (headerName header) "host" }

/-- `host:port`, with brackets around a host that has a colon. -/
def authority (host : String) (port : UInt16) : String :=
  let port := String.ofList (Nat.toDigits 10 port.toNat)
  if containsColon host then "[" ++ host ++ "]:" ++ port else host ++ ":" ++ port

def buildOriginRequest (method path version : String) (headers : List String) (host : String)
    (port : UInt16) : String :=
  let draft := headers.foldl Draft.push
    ⟨method ++ " " ++ path ++ " " ++ version ++ "\r\n", false⟩
  let request :=
    if draft.hasHost then draft.request
    else draft.request ++ "Host: " ++ authority host port ++ "\r\n"
  request ++ "Connection: close\r\n\r\n"

/-! ## Reading a head -/

/-- A line that continues the field before it. -/
def isContinuation (line : String) : Bool :=
  line.toList.head? = some ' ' || line.toList.head? = some '\t'

structure Head where
  requestLine : String
  fields : List (FieldLines String)
deriving DecidableEq

/-- A head that ends with its empty line, and nothing behind it. -/
def parseHead (text : String) : Option Head :=
  match (lines text).takeWhile (· ≠ "") with
  | requestLine :: headers =>
      if (lines text).dropWhile (· ≠ "") = [""] then
        some ⟨requestLine, FieldLines.gather isContinuation headers⟩
      else none
  | [] => none

/-- The fields of the headers of a request. -/
def inputFields (headers : List String) : List (FieldLines String) :=
  FieldLines.gather isContinuation (headers.map trimLineEnd)

def hasHostField (headers : List String) : Bool :=
  (inputFields headers).any fun field => eqIgnoreAsciiCase (headerName field.first) "host"

/-- The fields that are to be passed on: those that are not dropped, the host if there is
none, and the end of the connection. -/
def originFields (headers : List String) (host : String) (port : UInt16) :
    List (FieldLines String) :=
  FieldLines.keptFields (fun line => !isDropped (headerName line)) (inputFields headers) ++
    (if hasHostField headers then [] else [⟨"Host: " ++ authority host port, []⟩]) ++
    [⟨"Connection: close", []⟩]

/-- A header line as it is read: it ends with the only line feed, and is not blank. -/
def HeaderLine (header : String) : Prop :=
  (∃ front, header.toList = front ++ ['\n'] ∧ '\n' ∉ front) ∧ trim header ≠ ""

/-- What the words of a request and its host have none of. -/
def OneLine (text : String) : Prop := '\n' ∉ text.toList

/-! ## Lines that are written and read -/

/-- Lines with the line ends that a request has. -/
def writeLines (texts : List String) : String :=
  String.ofList (texts.flatMap fun text => text.toList ++ ['\r', '\n'])

theorem toList_writeLines (texts : List String) :
    (writeLines texts).toList = texts.flatMap fun text => text.toList ++ ['\r', '\n'] :=
  String.toList_ofList

theorem splitOn_writeLines {texts : List String} (plain : ∀ text ∈ texts, OneLine text) :
    (writeLines texts).toList.splitOn '\n' =
      (texts.map fun text => text.toList ++ ['\r']) ++ [[]] := by
  rw [toList_writeLines]
  induction texts with
  | nil => rfl
  | cons text texts inductionHypothesis =>
      obtain ⟨here, later⟩ := List.forall_mem_cons.mp plain
      have free : '\n' ∉ text.toList ++ ['\r'] := by
        rw [List.mem_append, not_or]
        exact ⟨here, by decide⟩
      have shape : ((text :: texts).flatMap fun text => text.toList ++ ['\r', '\n']) =
          (text.toList ++ ['\r']) ++ '\n' ::
            (texts.flatMap fun text => text.toList ++ ['\r', '\n']) := by
        simp
      rw [shape, List.splitOn_append_cons_self, List.splitOn_eq_singleton free,
        inductionHypothesis later]
      rfl

/-- Lines without line feeds are read as they were written. -/
theorem lines_writeLines {texts : List String} (plain : ∀ text ∈ texts, OneLine text) :
    lines (writeLines texts) = texts := by
  unfold lines
  rw [splitOn_writeLines plain]
  dsimp only
  rw [List.dropLast_concat, List.getLast?_concat, List.map_map]
  simp only [Function.comp_def, stripCarriageReturn_concat]
  simp

/-- A request line and headers that are not empty, up to the empty line. -/
theorem parseHead_writeLines {requestLine : String} {headers : List String}
    (filled : ∀ text ∈ requestLine :: headers, text ≠ "")
    (plain : ∀ text ∈ requestLine :: headers, OneLine text) :
    parseHead (writeLines (requestLine :: headers ++ [""])) =
      some ⟨requestLine, FieldLines.gather isContinuation headers⟩ := by
  have every : ∀ text ∈ requestLine :: headers ++ [""], OneLine text := by
    intro text member
    rcases List.mem_append.mp member with front | last
    · exact plain text front
    · rw [List.mem_singleton.mp last]
      exact List.not_mem_nil
  have passes : ∀ text ∈ requestLine :: headers, decide (text ≠ "") = true :=
    fun text member => decide_eq_true (filled text member)
  have front : (requestLine :: headers ++ [""]).takeWhile (· ≠ "") = requestLine :: headers := by
    rw [List.takeWhile_append_of_pos passes]
    simp
  have back : (requestLine :: headers ++ [""]).dropWhile (· ≠ "") = [""] := by
    rw [List.dropWhile_append_of_pos passes]
    rfl
  rw [parseHead, lines_writeLines every, front, back]
  exact if_pos rfl

/-! ## Header lines -/

theorem isWhitespace_lineEnd {char : Char} (lineEnd : isLineEnd char = true) :
    isWhitespace char = true := by
  simp only [isLineEnd, Bool.or_eq_true, decide_eq_true_eq] at lineEnd
  rcases lineEnd with rfl | rfl
  · rfl
  · rfl

/-- The line, and the line ends behind it. -/
theorem eq_trimLineEnd_append (header : String) :
    ∃ ends, header.toList = (trimLineEnd header).toList ++ ends ∧
      ∀ char ∈ ends, isLineEnd char = true := by
  refine ⟨header.toList.rtakeWhile isLineEnd, ?_, fun _ => List.mem_rtakeWhile_imp⟩
  rw [trimLineEnd, String.toList_ofList, List.rdropWhile_append_rtakeWhile]

/-- White space behind a text is trimmed. -/
theorem trim_append_whitespace {text ends : List Char}
    (white : ∀ char ∈ ends, isWhitespace char = true) :
    trim (String.ofList (text ++ ends)) = trim (String.ofList text) := by
  have back : ∀ front : List Char,
      (front ++ ends).rdropWhile isWhitespace = front.rdropWhile isWhitespace := by
    intro front
    unfold List.rdropWhile
    rw [List.reverse_append, List.dropWhile_append_of_pos]
    intro char member
    exact white char (List.mem_reverse.mp member)
  unfold trim
  rw [String.toList_ofList, String.toList_ofList, List.dropWhile_append]
  split
  · rename_i blank
    rw [List.isEmpty_iff.mp blank, List.dropWhile_eq_nil_iff.mpr white]
  · rw [back]

/-- The name in front of the colon does not depend on the line end. -/
theorem headerName_trimLineEnd (header : String) :
    headerName (trimLineEnd header) = headerName header := by
  obtain ⟨ends, shape, lineEnds⟩ := eq_trimLineEnd_append header
  have noColon : ∀ char ∈ ends, decide (char ≠ ':') = true := by
    intro char member
    refine decide_eq_true ?_
    rintro rfl
    cases lineEnds ':' member
  unfold headerName
  rw [shape, List.takeWhile_append]
  split
  · rename_i whole
    have all : (trimLineEnd header).toList.takeWhile (· ≠ ':') = (trimLineEnd header).toList :=
      (List.takeWhile_prefix _).eq_of_length whole
    rw [all, List.takeWhile_eq_self_iff.mpr noColon]
    exact (trim_append_whitespace fun char member =>
      isWhitespace_lineEnd (lineEnds char member)).symm
  · rfl

/-- A line that is not blank is not empty without its line end, and has no line feed. -/
theorem HeaderLine.trimmed {header : String} (line : HeaderLine header) :
    trimLineEnd header ≠ "" ∧ OneLine (trimLineEnd header) := by
  obtain ⟨⟨front, shape, free⟩, notBlank⟩ := line
  obtain ⟨ends, whole, lineEnds⟩ := eq_trimLineEnd_append header
  constructor
  · intro empty
    apply notBlank
    rw [empty] at whole
    have blank : trim (String.ofList ([] ++ ends)) = trim (String.ofList []) :=
      trim_append_whitespace fun char member => isWhitespace_lineEnd (lineEnds char member)
    have same : header = String.ofList ([] ++ ends) := by
      rw [← String.ofList_toList (s := header), whole]
      rfl
    rw [same, blank]
    rfl
  · have cut : trimLineEnd header = String.ofList (front.rdropWhile isLineEnd) := by
      rw [trimLineEnd, shape, List.rdropWhile_concat_pos _ _ _ (by decide)]
    rw [OneLine, cut, String.toList_ofList]
    exact fun member => free ((List.rdropWhile_prefix isLineEnd front).subset member)

/-! ## The request as lines -/

/-- A line that the rewriting keeps. -/
def isKept (line : String) : Bool := !isDropped (headerName line)

/-- A line that the rewriting takes for a host. -/
def isHostLine (line : String) : Bool := eqIgnoreAsciiCase (headerName line) "host"

/-- The header lines that are passed on. -/
def keptLines (headers : List String) : List String := (headers.map trimLineEnd).filter isKept

/-- The line for a host that is missing. -/
def hostLines (present : Bool) (host : String) (port : UInt16) : List String :=
  if present then [] else ["Host: " ++ authority host port]

theorem writeLines_cons (text : String) (texts : List String) :
    writeLines (text :: texts) = text ++ "\r\n" ++ writeLines texts := by
  apply String.toList_injective
  simp [toList_writeLines]

theorem writeLines_append (front back : List String) :
    writeLines (front ++ back) = writeLines front ++ writeLines back := by
  apply String.toList_injective
  simp [toList_writeLines]

theorem isKept_of_isHostLine {line : String} (host : isHostLine line = true) :
    isKept line = true := by
  have name : toAsciiLowercase (headerName line) = "host" :=
    (beq_iff_eq.mp host).trans (by decide)
  rw [isKept, isDropped, eqIgnoreAsciiCase, eqIgnoreAsciiCase, eqIgnoreAsciiCase, name]
  decide

theorem push_kept {draft : Draft} {header : String}
    (kept : isKept (trimLineEnd header) = true) :
    draft.push header =
      ⟨draft.request ++ trimLineEnd header ++ "\r\n",
        draft.hasHost || isHostLine (trimLineEnd header)⟩ := by
  rw [isKept, headerName_trimLineEnd, Bool.not_eq_true'] at kept
  rw [Draft.push, kept, isHostLine, headerName_trimLineEnd]
  rfl

theorem push_dropped {draft : Draft} {header : String}
    (dropped : isKept (trimLineEnd header) = false) : draft.push header = draft := by
  rw [isKept, headerName_trimLineEnd, Bool.not_eq_false'] at dropped
  exact if_pos dropped

/-- The loop over the headers writes the lines that are kept. -/
theorem foldl_push (headers : List String) (draft : Draft) :
    headers.foldl Draft.push draft =
      ⟨draft.request ++ writeLines (keptLines headers),
        draft.hasHost || (keptLines headers).any isHostLine⟩ := by
  induction headers generalizing draft with
  | nil =>
      show draft = ⟨draft.request ++ "", draft.hasHost || false⟩
      rw [String.append_empty, Bool.or_false]
  | cons header headers inductionHypothesis =>
      rw [List.foldl_cons, inductionHypothesis]
      cases kept : isKept (trimLineEnd header) with
      | true =>
          have lines : keptLines (header :: headers) =
              trimLineEnd header :: keptLines headers := by
            rw [keptLines, List.map_cons, List.filter_cons_of_pos kept]
            rfl
          rw [push_kept kept, lines, writeLines_cons, List.any_cons, Bool.or_assoc]
          simp only [String.append_assoc]
      | false =>
          have lines : keptLines (header :: headers) = keptLines headers := by
            rw [keptLines, List.map_cons, List.filter_cons_of_neg (Bool.eq_false_iff.mp kept)]
            rfl
          rw [push_dropped kept, lines]

/-- Every line named host is kept. -/
theorem any_keptLines (headers : List String) :
    (keptLines headers).any isHostLine = (headers.map trimLineEnd).any isHostLine := by
  have same : (fun line => isKept line && isHostLine line) = isHostLine := by
    funext line
    cases host : isHostLine line with
    | true => rw [isKept_of_isHostLine host, Bool.and_true]
    | false => rw [Bool.and_false]
  rw [keptLines, List.any_filter, same]

/-- The request is the request line, the kept lines, the host if no line is named so, and
the end of the connection. -/
theorem buildOriginRequest_eq (method path version : String) (headers : List String)
    (host : String) (port : UInt16) :
    buildOriginRequest method path version headers host port =
      writeLines ((method ++ " " ++ path ++ " " ++ version) ::
        (keptLines headers ++
          hostLines ((headers.map trimLineEnd).any isHostLine) host port ++
            ["Connection: close"]) ++ [""]) := by
  have last : writeLines ["Connection: close", ""] = "Connection: close\r\n\r\n" := by
    decide
  unfold buildOriginRequest
  rw [foldl_push, any_keptLines]
  simp only [Bool.false_or, List.cons_append, List.append_assoc, List.nil_append]
  rw [writeLines_cons, writeLines_append, writeLines_append, last]
  cases (headers.map trimLineEnd).any isHostLine with
  | true =>
      rw [if_pos rfl, hostLines, if_pos rfl]
      simp only [String.append_assoc]
      rfl
  | false =>
      rw [if_neg Bool.false_ne_true, hostLines, if_neg Bool.false_ne_true, writeLines_cons]
      simp only [String.append_assoc]
      rfl

/-! ## What is read back -/

section ReadBack

variable {headers : List String} {host : String} {port : UInt16}

theorem toList_hostLine (host : String) (port : UInt16) :
    ("Host: " ++ authority host port).toList =
      'H' :: 'o' :: 's' :: 't' :: ':' :: ' ' :: (authority host port).toList := by
  rw [String.toList_append]
  rfl

theorem isHostLine_hostLine (host : String) (port : UInt16) :
    isHostLine ("Host: " ++ authority host port) = true := by
  have name : ("Host: " ++ authority host port).toList.takeWhile (· ≠ ':') =
      ['H', 'o', 's', 't'] := by
    rw [toList_hostLine]
    simp
  rw [isHostLine, headerName, name]
  decide

theorem isContinuation_hostLine (host : String) (port : UInt16) :
    isContinuation ("Host: " ++ authority host port) = false := by
  rw [isContinuation, toList_hostLine]
  rfl

theorem oneLine_authority (plain : OneLine host) (port : UInt16) :
    OneLine (authority host port) := by
  have digits : '\n' ∉ Nat.toDigits 10 port.toNat := by
    intro member
    have digit := isDigitOf_of_mem_toDigits (by decide) (by decide) _ '\n' member
    cases digit
  have free : '\n' ∉ host.toList := plain
  have bracket : '\n' ∉ "[".toList := by decide
  have closing : '\n' ∉ "]:".toList := by decide
  have colon : '\n' ∉ ":".toList := by decide
  unfold OneLine authority
  dsimp only
  split
  · simp only [String.toList_append, String.toList_ofList, List.mem_append, bracket, free, closing,
      digits, or_self, not_false_eq_true]
  · simp only [String.toList_append, String.toList_ofList, List.mem_append, free, colon, digits,
      or_self, not_false_eq_true]

theorem mem_hostLines {present : Bool} {line : String}
    (member : line ∈ hostLines present host port) :
    line = "Host: " ++ authority host port := by
  unfold hostLines at member
  split at member
  · cases member
  · exact List.mem_singleton.mp member

/-- The fields that are to be passed on are told apart. -/
theorem separate_originFields (headers : List String) (host : String) (port : UInt16) :
    FieldLines.Separate isContinuation (originFields headers host port) := by
  have kept : FieldLines.Separate isContinuation
      (FieldLines.keptFields (fun line => !isDropped (headerName line)) (inputFields headers)) :=
    (FieldLines.separate_gather _).filter _
  unfold originFields
  refine FieldLines.Separate.append (kept.append ?_ ?_) ?_ ?_
  · intro field member
    split at member
    · cases member
    · rw [List.mem_singleton.mp member]
      exact fun _ inside => nomatch inside
  · intro field member
    split at member
    · cases member
    · rw [List.mem_singleton.mp member]
      exact isContinuation_hostLine host port
  · intro field member
    rw [List.mem_singleton.mp member]
    exact fun _ inside => nomatch inside
  · intro field member
    rw [List.mem_singleton.mp member]
    decide

theorem write_originFields (headers : List String) (host : String) (port : UInt16) :
    FieldLines.write (originFields headers host port) =
      FieldLines.write (FieldLines.keptFields isKept (inputFields headers)) ++
        hostLines (hasHostField headers) host port ++ ["Connection: close"] := by
  unfold originFields
  rw [FieldLines.write_append, FieldLines.write_append]
  congr 2
  unfold hostLines
  split
  · rfl
  · rfl

/-- The lines of a request are neither empty nor more than one line. -/
theorem oneLine_originLines (port : UInt16) {requestLine : String} (plain : OneLine requestLine)
    (nonempty : requestLine ≠ "") (hostPlain : OneLine host)
    (read : ∀ header ∈ headers, HeaderLine header) (present : Bool) :
    ∀ line ∈ requestLine :: (keptLines headers ++ hostLines present host port ++
      ["Connection: close"]), line ≠ "" ∧ OneLine line := by
  intro line member
  rcases List.mem_cons.mp member with rfl | member
  · exact ⟨nonempty, plain⟩
  rcases List.mem_append.mp member with member | last
  · rcases List.mem_append.mp member with front | back
    · obtain ⟨header, listed, rfl⟩ := List.mem_map.mp (List.mem_filter.mp front).1
      exact (read header listed).trimmed
    · rw [mem_hostLines back]
      refine ⟨fun empty => ?_, ?_⟩
      · have chars := congrArg String.toList empty
        rw [toList_hostLine] at chars
        cases chars
      · rw [OneLine, toList_hostLine]
        have free := oneLine_authority hostPlain port
        simpa [OneLine] using free
  · rw [List.mem_singleton.mp last]
    exact ⟨by decide, by unfold OneLine; decide⟩

/-- The request is read back as the fields that are to be passed on exactly when its lines
are theirs. -/
theorem parseHead_buildOriginRequest_iff {method path version : String}
    (plain : OneLine (method ++ " " ++ path ++ " " ++ version)) (hostPlain : OneLine host)
    (read : ∀ header ∈ headers, HeaderLine header) :
    parseHead (buildOriginRequest method path version headers host port) =
        some ⟨method ++ " " ++ path ++ " " ++ version, originFields headers host port⟩ ↔
      keptLines headers ++ hostLines ((headers.map trimLineEnd).any isHostLine) host port =
        FieldLines.write (FieldLines.keptFields isKept (inputFields headers)) ++
          hostLines (hasHostField headers) host port := by
  have nonempty : method ++ " " ++ path ++ " " ++ version ≠ "" := by
    intro empty
    have length := congrArg (fun text => text.toList.length) empty
    simp at length
  have every := oneLine_originLines port plain nonempty hostPlain read
    ((headers.map trimLineEnd).any isHostLine)
  rw [buildOriginRequest_eq, parseHead_writeLines (fun line member => (every line member).1)
    (fun line member => (every line member).2)]
  constructor
  · intro same
    have fields := congrArg Head.fields (Option.some.inj same)
    have lines := congrArg FieldLines.write fields
    rw [FieldLines.write_gather, write_originFields] at lines
    exact List.append_cancel_right lines
  · intro same
    rw [same, ← write_originFields, FieldLines.gather_write (separate_originFields _ _ _)]

/-- A line is in the fields of the headers when it is one of the headers. -/
theorem mem_inputFields {line : String} :
    line ∈ headers.map trimLineEnd ↔
      ∃ field ∈ inputFields headers, line = field.first ∨ line ∈ field.more := by
  rw [← FieldLines.mem_write, inputFields, FieldLines.write_gather]

theorem hasHostField_iff :
    hasHostField headers = true ↔ ∃ field ∈ inputFields headers, isHostLine field.first = true :=
  List.any_eq_true

/-- A host field has a line that is named host. -/
theorem any_of_hasHostField (present : hasHostField headers = true) :
    (headers.map trimLineEnd).any isHostLine = true := by
  obtain ⟨field, member, named⟩ := hasHostField_iff.mp present
  exact List.any_eq_true.mpr ⟨field.first, mem_inputFields.mpr ⟨field, member, .inl rfl⟩, named⟩

/-- The host that is written for a missing one is none of the lines. -/
theorem hostLine_notMem (absent : hasHostField headers = false) :
    "Host: " ++ authority host port ∉ headers.map trimLineEnd := by
  intro member
  obtain ⟨field, listed, first | more⟩ := mem_inputFields.mp member
  · have present : hasHostField headers = true :=
      hasHostField_iff.mpr ⟨field, listed, by rw [← first]; exact isHostLine_hostLine host port⟩
    rw [absent] at present
    cases present
  · have continued := (FieldLines.separate_gather _).more field listed _ more
    rw [isContinuation_hostLine] at continued
    cases continued

/-- The lines name a host that no field does when a continuation is taken for one. -/
theorem any_eq_hasHostField_iff (headers : List String) :
    (headers.map trimLineEnd).any isHostLine = hasHostField headers ↔
      ∀ field ∈ inputFields headers, ∀ line ∈ field.more,
        isHostLine line = true → hasHostField headers = true := by
  constructor
  · intro hosts field member line inside named
    rw [← hosts]
    exact List.any_eq_true.mpr ⟨line, mem_inputFields.mpr ⟨field, member, .inr inside⟩, named⟩
  · intro taken
    cases present : hasHostField headers with
    | true => exact any_of_hasHostField present
    | false =>
        by_contra named
        rw [Bool.not_eq_false] at named
        obtain ⟨line, listed, host⟩ := List.any_eq_true.mp named
        have found : hasHostField headers = true := by
          obtain ⟨field, member, rfl | more⟩ := mem_inputFields.mp listed
          · exact hasHostField_iff.mpr ⟨field, member, host⟩
          · exact taken field member line more host
        rw [present] at found
        cases found

/-- The lines are those of the fields exactly when every continuation is kept with its field
and dropped with its field, and none is taken for a host that is missing. -/
theorem keptLines_iff (headers : List String) (host : String) (port : UInt16) :
    keptLines headers ++ hostLines ((headers.map trimLineEnd).any isHostLine) host port =
        FieldLines.write (FieldLines.keptFields isKept (inputFields headers)) ++
          hostLines (hasHostField headers) host port ↔
      ∀ field ∈ inputFields headers, ∀ line ∈ field.more,
        isKept line = isKept field.first ∧
          (isHostLine line = true → hasHostField headers = true) := by
  have kept : keptLines headers = (FieldLines.write (inputFields headers)).filter isKept := by
    rw [keptLines, inputFields, FieldLines.write_gather]
  constructor
  · intro same
    have hosts : (headers.map trimLineEnd).any isHostLine = hasHostField headers := by
      cases present : hasHostField headers with
      | true => exact any_of_hasHostField present
      | false =>
          by_contra named
          rw [Bool.not_eq_false] at named
          rw [named, present, hostLines, hostLines, if_pos rfl, if_neg Bool.false_ne_true,
            List.append_nil] at same
          have member : "Host: " ++ authority host port ∈ keptLines headers := by
            rw [same]
            exact List.mem_append_right _ (List.mem_singleton_self _)
          exact hostLine_notMem present (List.mem_filter.mp member).1
    rw [hosts, kept] at same
    have together := FieldLines.filter_write_iff _ |>.mp (List.append_cancel_right same)
    have taken := (any_eq_hasHostField_iff headers).mp hosts
    exact fun field member line inside =>
      ⟨together field member line inside, taken field member line inside⟩
  · intro together
    have hosts := (any_eq_hasHostField_iff headers).mpr fun field member line inside =>
      (together field member line inside).2
    rw [hosts, kept, FieldLines.filter_write_iff _ |>.mpr fun field member line inside =>
      (together field member line inside).1]

end ReadBack

/-- The request is read back with its request line and exactly the fields that are to be passed
on, and so without a byte of the others, exactly when every continuation line is named, in
front of its first colon, like a field that is dropped just in case its field is, and none is
named host unless a field is. -/
theorem originRequest_iff (method path version host : String) (headers : List String)
    (port : UInt16) (plain : OneLine (method ++ " " ++ path ++ " " ++ version))
    (hostPlain : OneLine host) (read : ∀ header ∈ headers, HeaderLine header) :
    parseHead (buildOriginRequest method path version headers host port) =
        some ⟨method ++ " " ++ path ++ " " ++ version, originFields headers host port⟩ ↔
      ∀ field ∈ inputFields headers, ∀ line ∈ field.more,
        (isDropped (headerName line) = isDropped (headerName field.first)) ∧
          (isHostLine line = true → hasHostField headers = true) := by
  rw [parseHead_buildOriginRequest_iff plain hostPlain read, keptLines_iff]
  have same : ∀ line first : String, isKept line = isKept first ↔
      isDropped (headerName line) = isDropped (headerName first) := by
    intro line first
    rw [isKept, isKept, Bool.not_inj_iff]
  simp only [same]

/-! ## Folded headers -/

/-- A header line by its last character. -/
theorem headerLine_of_last {header : String} (last : header.toList.getLast? = some '\n')
    (free : '\n' ∉ header.toList.dropLast) (filled : trim header ≠ "") : HeaderLine header :=
  ⟨⟨header.toList.dropLast, (List.dropLast_append_getLast? '\n' last).symm, free⟩, filled⟩

theorem headerLine_of_lines {headers : List String}
    (lines : ∀ header ∈ headers, header.toList.getLast? = some '\n' ∧
      '\n' ∉ header.toList.dropLast ∧ trim header ≠ "") :
    ∀ header ∈ headers, HeaderLine header := by
  intro header member
  obtain ⟨last, free, filled⟩ := lines header member
  exact headerLine_of_last last free filled

/-- Credentials that are folded. -/
def foldedHeaders : List String :=
  ["Accept: */*\r\n", "Proxy-Authorization: Basic\r\n", " Zm9vOmJhcg==\r\n"]

theorem headerLine_folded : ∀ header ∈ foldedHeaders, HeaderLine header :=
  headerLine_of_lines (by decide +kernel)

theorem folded_leaks :
    (∀ header ∈ foldedHeaders, HeaderLine header) ∧
      buildOriginRequest "GET" "/" "HTTP/1.1" foldedHeaders "example.org" 80 =
        "GET / HTTP/1.1\r\nAccept: */*\r\n Zm9vOmJhcg==\r\nHost: example.org:80\r\n" ++
          "Connection: close\r\n\r\n" ∧
      parseHead (buildOriginRequest "GET" "/" "HTTP/1.1" foldedHeaders "example.org" 80) =
        some ⟨"GET / HTTP/1.1", [⟨"Accept: */*", [" Zm9vOmJhcg=="]⟩,
          ⟨"Host: example.org:80", []⟩, ⟨"Connection: close", []⟩]⟩ ∧
      originFields foldedHeaders "example.org" 80 =
        [⟨"Accept: */*", []⟩, ⟨"Host: example.org:80", []⟩, ⟨"Connection: close", []⟩] ∧
      parseHead (buildOriginRequest "GET" "/" "HTTP/1.1" foldedHeaders "example.org" 80) ≠
        some ⟨"GET / HTTP/1.1", originFields foldedHeaders "example.org" 80⟩ := by
  have fields : originFields foldedHeaders "example.org" 80 =
      [⟨"Accept: */*", []⟩, ⟨"Host: example.org:80", []⟩, ⟨"Connection: close", []⟩] := by
    decide +kernel
  have read : parseHead (buildOriginRequest "GET" "/" "HTTP/1.1" foldedHeaders "example.org" 80) =
      some ⟨"GET / HTTP/1.1", [⟨"Accept: */*", [" Zm9vOmJhcg=="]⟩,
        ⟨"Host: example.org:80", []⟩, ⟨"Connection: close", []⟩]⟩ := by
    decide +kernel
  refine ⟨headerLine_folded, by decide +kernel, read, fields, ?_⟩
  rw [read, fields]
  decide

/-- A folded header that is passed on. -/
def passedHeaders : List String :=
  ["Host: example.org\r\n", "X-Note: one\r\n", "\ttwo\r\n", "Connection: keep-alive\r\n"]

theorem headerLine_passed : ∀ header ∈ passedHeaders, HeaderLine header :=
  headerLine_of_lines (by decide +kernel)

theorem originRequest_iff_passed :
    parseHead (buildOriginRequest "GET" "/" "HTTP/1.1" passedHeaders "example.org" 80) =
      some ⟨"GET / HTTP/1.1", originFields passedHeaders "example.org" 80⟩ :=
  (originRequest_iff "GET" "/" "HTTP/1.1" "example.org" passedHeaders 80
    (by unfold OneLine; decide) (by unfold OneLine; decide) headerLine_passed).mpr
      (by decide +kernel)

end Juicity.Client.HttpProxy

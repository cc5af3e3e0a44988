import Juicity.Machine.Form

/-!
Contract: links of a scheme that is not special, by the URL standard.

What follows `scheme://` is cut into credentials, host, port, query and
fragment; each is percent-encoded by its own set. The text is one without C0
controls, spaces and backslashes. A link that is put together from characters
no set encodes is cut into what it was put together from.
-/

namespace Juicity.Machine.Url

/-! ## Percent-encode sets -/

/-- The C0 control percent-encode set. -/
def isControlSet (char : Char) : Bool := decide (char.toNat < 32 ∨ 126 < char.toNat)

def isFragmentSet (char : Char) : Bool :=
  isControlSet char || decide (char ∈ [' ', '"', '<', '>', '\x60'])

def isQuerySet (char : Char) : Bool :=
  isControlSet char || decide (char ∈ [' ', '"', '#', '<', '>'])

def isUserinfoSet (char : Char) : Bool :=
  isControlSet char || decide (char ∈ [' ', '"', '#', '<', '>', '?', '^', '\x60', '\x7b', '\x7d',
    '/', ':', ';', '=', '@', '[', '\\', ']', '|'])

/-- A forbidden host code point. -/
def isForbiddenHost (char : Char) : Bool :=
  decide (char ∈ ['\x00', '\t', '\n', '\r', ' ', '#', '/', ':', '<', '>', '?', '@', '[', '\\', ']',
    '^', '|'])

def percentEncodeChar (inSet : Char → Bool) (char : Char) : List Char :=
  if inSet char then (String.utf8EncodeChar char).flatMap fun byte => '%' :: Hex.digits true byte
  else [char]

def percentEncode (inSet : Char → Bool) (text : List Char) : List Char :=
  text.flatMap (percentEncodeChar inSet)

/-- A text without characters of the set stays as it is. -/
theorem percentEncode_plain {inSet : Char → Bool} {text : List Char}
    (plain : ∀ char ∈ text, inSet char = false) : percentEncode inSet text = text := by
  induction text with
  | nil => rfl
  | cons char rest hypothesis =>
    have same : percentEncodeChar inSet char = [char] :=
      if_neg (Bool.eq_false_iff.mp (plain char List.mem_cons_self))
    rw [percentEncode, List.flatMap_cons, same]
    exact congrArg _ (hypothesis fun later member => plain later (List.mem_cons_of_mem _ member))

theorem length_utf8EncodeChar_pos (char : Char) : 0 < (String.utf8EncodeChar char).length := by
  rw [String.length_utf8EncodeChar]
  exact Char.utf8Size_pos char

/-- Encoding lengthens a text. -/
theorem length_le_percentEncode (inSet : Char → Bool) (text : List Char) :
    text.length ≤ (percentEncode inSet text).length := by
  induction text with
  | nil => exact Nat.le_refl 0
  | cons char rest hypothesis =>
    have one : 1 ≤ (percentEncodeChar inSet char).length := by
      unfold percentEncodeChar
      split
      · obtain ⟨byte, later, bytes⟩ := List.exists_cons_of_length_pos (length_utf8EncodeChar_pos char)
        rw [bytes, List.flatMap_cons, List.length_append, List.length_cons]
        omega
      · exact Nat.le_refl 1
    rw [percentEncode, List.flatMap_cons, List.length_append, List.length_cons]
    have later : rest.length ≤ (rest.flatMap (percentEncodeChar inSet)).length := hypothesis
    omega

/-- A text that stays as it is has no character of the set. -/
theorem plain_of_percentEncode_eq {inSet : Char → Bool} {text : List Char}
    (same : percentEncode inSet text = text) : ∀ char ∈ text, inSet char = false := by
  induction text with
  | nil => exact fun char member => nomatch member
  | cons char rest hypothesis =>
    rw [percentEncode, List.flatMap_cons] at same
    have later := length_le_percentEncode inSet rest
    have lengths := congrArg List.length same
    rw [List.length_append, List.length_cons, ← percentEncode] at lengths
    have plain : inSet char = false := by
      by_contra inTheSet
      have encoded : percentEncodeChar inSet char = (String.utf8EncodeChar char).flatMap
          fun byte => '%' :: Hex.digits true byte := if_pos (Bool.eq_true_of_not_eq_false inTheSet)
      obtain ⟨byte, others, bytes⟩ := List.exists_cons_of_length_pos (length_utf8EncodeChar_pos char)
      have long : 3 ≤ (percentEncodeChar inSet char).length := by
        rw [encoded, bytes, List.flatMap_cons, List.length_append, List.length_cons, Hex.digits,
          List.length_cons, List.length_singleton]
        omega
      omega
    have single : percentEncodeChar inSet char = [char] := if_neg (by rw [plain]; decide)
    rw [single, List.singleton_append, List.cons.injEq] at same
    exact List.forall_mem_cons.mpr ⟨plain, hypothesis same.2⟩

/-! ## The parser -/

/-- A parsed link, its parts as the accessors give them. -/
structure Parts where
  username : List Char
  password : Option (List Char)
  host : List Char
  port : Option Nat
  query : Option (List Char)
  fragment : Option (List Char)
deriving DecidableEq

def endsAuthority (char : Char) : Bool := char = '/' || char = '?' || char = '#'

/-- The text before the last separator, and the text after it. -/
def cutLast (separator : Char) : List Char → Option (List Char × List Char)
  | [] => none
  | char :: rest =>
      match cutLast separator rest with
      | some (front, back) => some (char :: front, back)
      | none => if char = separator then some ([], rest) else none

/-- The host ends at the first colon outside brackets. -/
def cutHost (insideBrackets : Bool) : List Char → List Char × List Char
  | [] => ([], [])
  | char :: rest =>
      if char = ':' ∧ insideBrackets = false then ([], char :: rest)
      else
        let inside := if char = '[' then true else if char = ']' then false else insideBrackets
        let (host, back) := cutHost inside rest
        (char :: host, back)

/-- The username, and the password if it is not empty. -/
def parseUserinfo (userinfo : List Char) : List Char × Option (List Char) :=
  let (username, password) := cut ':' userinfo
  (percentEncode isUserinfoSet username,
    match password with
    | none => none
    | some [] => none
    | some (char :: rest) => some (percentEncode isUserinfoSet (char :: rest)))

/-- An IPv6 host stands in brackets; any other host is opaque. -/
def parseHost (ipv6 : List Char → Option (List Char)) (host : List Char) : Option (List Char) :=
  if host.head? = some '[' then
    if host.getLast? = some ']' then
      (ipv6 (host.tail.dropLast)).map fun text => '[' :: (text ++ [']'])
    else none
  else if host.any isForbiddenHost then none
  else some (percentEncode isControlSet host)

/-- A port is decimal digits; no digits are no port. -/
def parsePort (port : List Char) : Option (Option Nat) :=
  if port = [] then some none
  else if port.all (isDigitOf 10) ∧ numeral 10 port ≤ 65535 then some (some (numeral 10 port))
  else none

/-- The credentials, and the host with its port. -/
def splitAuthority (authority : List Char) : List Char × List Char :=
  match cutLast '@' authority with
  | some (userinfo, hostPort) => (userinfo, hostPort)
  | none => ([], authority)

/-- A link as the standard describes it below: no C0 control, space or backslash
in it, and something after its credentials. -/
structure Regular (link : List Char) : Prop where
  printable : ∀ char ∈ link, 32 < char.toNat ∧ char ≠ '\\'
  hosted : (splitAuthority (link.takeWhile (!endsAuthority ·))).2 ≠ []

/-- What follows `scheme://`. -/
def parse (ipv6 : List Char → Option (List Char)) (link : List Char) : Option Parts := do
  let authority := link.takeWhile (!endsAuthority ·)
  let (beforeFragment, fragment) := cut '#' (link.dropWhile (!endsAuthority ·))
  let (_, query) := cut '?' beforeFragment
  let (userinfo, hostPort) := splitAuthority authority
  let (username, password) := parseUserinfo userinfo
  let (hostText, portText) := cutHost false hostPort
  if hostText = [] then none
  else do
    let host ← parseHost ipv6 hostText
    let port ← parsePort (portText.drop 1)
    return ⟨username, password, host, port, query.map (percentEncode isQuerySet),
      fragment.map (percentEncode isFragmentSet)⟩

/-! ## Cutting -/

theorem cutLast_of_notMem {separator : Char} {text : List Char} (free : separator ∉ text) :
    cutLast separator text = none := by
  induction text with
  | nil => rfl
  | cons char rest hypothesis =>
    rw [List.mem_cons, not_or] at free
    have last := hypothesis free.2
    simp only [cutLast, last]
    exact if_neg (Ne.symm free.1)

/-- The last separator cuts. -/
theorem cutLast_append {separator : Char} (front : List Char) {back : List Char}
    (free : separator ∉ back) :
    cutLast separator (front ++ separator :: back) = some (front, back) := by
  induction front with
  | nil =>
    have last := cutLast_of_notMem free
    simp only [List.nil_append, cutLast, last, if_true]
  | cons char rest hypothesis =>
    simp only [List.cons_append, cutLast, hypothesis]

theorem notMem_of_cutLast {separator : Char} {text : List Char}
    (uncut : cutLast separator text = none) : separator ∉ text := by
  intro member
  obtain ⟨before, after, same, free⟩ := List.eq_append_cons_of_mem (List.mem_reverse.mpr member)
  have mirrored := congrArg List.reverse same
  rw [List.reverse_reverse, List.reverse_append, List.reverse_cons, List.append_assoc,
    List.singleton_append] at mirrored
  rw [mirrored, cutLast_append _ (fun inside => free (List.mem_reverse.mp inside))] at uncut
  cases uncut

/-- What the last separator cuts. -/
theorem cutLast_eq_some {separator : Char} {text front back : List Char}
    (found : cutLast separator text = some (front, back)) :
    text = front ++ separator :: back ∧ separator ∉ back := by
  induction text generalizing front with
  | nil => cases found
  | cons char rest hypothesis =>
    rw [cutLast] at found
    cases later : cutLast separator rest with
    | some parts =>
        rw [later] at found
        cases found
        obtain ⟨shape, free⟩ := hypothesis later
        exact ⟨congrArg (char :: ·) shape, free⟩
    | none =>
        rw [later] at found
        by_cases same : char = separator
        · cases (if_pos same).symm.trans found
          exact ⟨congrArg (· :: back) same, notMem_of_cutLast later⟩
        · cases (if_neg same).symm.trans found

/-- A host without brackets ends at its first colon. -/
theorem cutHost_append {host : List Char} (noColon : ':' ∉ host) (noBracket : '[' ∉ host)
    (back : List Char) : cutHost false (host ++ ':' :: back) = (host, ':' :: back) := by
  induction host with
  | nil => rfl
  | cons char rest hypothesis =>
    rw [List.mem_cons, not_or] at noColon noBracket
    have inside : (if char = '[' then true else if char = ']' then false else false) = false := by
      rw [if_neg (Ne.symm noBracket.1), ite_self]
    have later := hypothesis noColon.2 noBracket.2
    simp only [List.cons_append, cutHost, inside, later]
    rw [if_neg (fun colon => noColon.1 colon.1.symm)]

/-- The query and the fragment, each with its mark. -/
def tail (query fragment : Option (List Char)) : List Char :=
  (match query with
    | none => []
    | some query => '?' :: query) ++
  (match fragment with
    | none => []
    | some fragment => '#' :: fragment)

theorem tail_append (query fragment : Option (List Char)) :
    tail query none ++ tail none fragment = tail query fragment := by
  simp [tail]

/-- The authority ends where the query or the fragment begins. -/
theorem takeWhile_tail {authority : List Char}
    (inside : ∀ char ∈ authority, endsAuthority char = false) (query fragment : Option (List Char)) :
    (authority ++ tail query fragment).takeWhile (!endsAuthority ·) = authority ∧
      (authority ++ tail query fragment).dropWhile (!endsAuthority ·) = tail query fragment := by
  have passes : ∀ char ∈ authority, (!endsAuthority char) = true := by
    intro char member
    rw [inside char member]
    rfl
  have ends : (tail query fragment).takeWhile (!endsAuthority ·) = [] ∧
      (tail query fragment).dropWhile (!endsAuthority ·) = tail query fragment := by
    cases query with
    | some query => exact ⟨rfl, rfl⟩
    | none =>
      cases fragment with
      | some fragment => exact ⟨rfl, rfl⟩
      | none => exact ⟨rfl, rfl⟩
  rw [List.takeWhile_append_of_pos passes, List.dropWhile_append_of_pos passes, ends.1, ends.2,
    List.append_nil]
  exact ⟨rfl, rfl⟩

theorem mem_tail {query fragment : Option (List Char)} {char : Char}
    (member : char ∈ tail query fragment) :
    char = '?' ∨ char = '#' ∨ (∃ text ∈ query, char ∈ text) ∨ ∃ text ∈ fragment, char ∈ text := by
  rcases List.mem_append.mp member with inQuery | inFragment
  · cases query with
    | none => cases inQuery
    | some text =>
      rcases List.mem_cons.mp inQuery with mark | inside
      · exact .inl mark
      · exact .inr (.inr (.inl ⟨text, rfl, inside⟩))
  · cases fragment with
    | none => cases inFragment
    | some text =>
      rcases List.mem_cons.mp inFragment with mark | inside
      · exact .inr (.inl mark)
      · exact .inr (.inr (.inr ⟨text, rfl, inside⟩))

/-- The query and the fragment are cut apart. -/
theorem cut_tail (query fragment : Option (List Char))
    (queryFree : ∀ text ∈ query, '#' ∉ text) :
    ∃ path, cut '#' (tail query fragment) = (path, fragment) ∧ (cut '?' path).2 = query := by
  refine ⟨tail query none, ?_, ?_⟩
  · have front : '#' ∉ tail query none := by
      cases query with
      | none => simp [tail]
      | some query => simpa [tail] using queryFree query rfl
    cases fragment with
    | none => exact cut_of_notMem front
    | some fragment =>
      have joined : tail query (some fragment) = tail query none ++ '#' :: fragment := by
        simp [tail]
      rw [joined, cut_append front]
  · cases query with
    | none => rfl
    | some query =>
      rw [tail, List.append_nil]
      exact congrArg Prod.snd (cut_append (List.not_mem_nil) query)

/-! ## Whole links -/

/-- A host the standard accepts as opaque. -/
structure OpaqueHost (host : List Char) : Prop where
  notEmpty : host ≠ []
  allowed : ∀ char ∈ host, isForbiddenHost char = false

theorem OpaqueHost.notMem {host : List Char} (opaqueHost : OpaqueHost host) {char : Char}
    (forbidden : isForbiddenHost char = true) : char ∉ host := by
  intro member
  rw [opaqueHost.allowed char member] at forbidden
  cases forbidden

theorem parseHost_allowed {ipv6 : List Char → Option (List Char)} {host : List Char}
    (opaqueHost : OpaqueHost host) : parseHost ipv6 host = some (percentEncode isControlSet host) := by
  have noBracket : ¬host.head? = some '[' := by
    intro bracket
    exact opaqueHost.notMem (by decide) (List.mem_of_mem_head? bracket)
  have allowed : ¬host.any isForbiddenHost = true := by
    intro any
    obtain ⟨char, member, forbidden⟩ := List.any_eq_true.mp any
    exact opaqueHost.notMem forbidden member
  rw [parseHost, if_neg noBracket, if_neg allowed]

theorem parsePort_toDigits {port : Nat} (small : port ≤ 65535) :
    parsePort (Nat.toDigits 10 port) = some (some port) := by
  have digits : (Nat.toDigits 10 port).all (isDigitOf 10) = true :=
    List.all_eq_true.mpr (isDigitOf_of_mem_toDigits (by omega) (by omega) port)
  have value : numeral 10 (Nat.toDigits 10 port) = port :=
    numeral_toDigits (by omega) (by omega) port
  rw [parsePort, if_neg Nat.toDigits_ne_nil, value, if_pos ⟨digits, small⟩]

/-- A port with a character that is not a digit is refused. -/
theorem parsePort_none {port : List Char} {char : Char} (member : char ∈ port)
    (notDigit : isDigitOf 10 char = false) : parsePort port = none := by
  have notAll : ¬port.all (isDigitOf 10) = true := by
    intro all
    rw [List.all_eq_true.mp all char member] at notDigit
    cases notDigit
  rw [parsePort, if_neg (List.ne_nil_of_mem member), if_neg (fun both => notAll both.1)]

/-- Credentials that no character ends early. -/
def PlainUserinfo (userinfo : List Char) : Prop :=
  ∀ char ∈ userinfo, endsAuthority char = false

/-- A query and a fragment of characters their sets do not encode. -/
structure PlainTail (query fragment : Option (List Char)) : Prop where
  query : ∀ text ∈ query, ∀ char ∈ text, isQuerySet char = false
  fragment : ∀ text ∈ fragment, ∀ char ∈ text, isFragmentSet char = false

theorem map_percentEncode_plain {inSet : Char → Bool} {text : Option (List Char)}
    (plain : ∀ chars ∈ text, ∀ char ∈ chars, inSet char = false) :
    text.map (percentEncode inSet) = text := by
  cases text with
  | none => rfl
  | some chars => rw [Option.map_some, percentEncode_plain (plain chars rfl)]

theorem endsAuthority_of_mem_toDigits {port : Nat} :
    ∀ char ∈ Nat.toDigits 10 port, endsAuthority char = false := by
  intro char member
  have digit := isDigitOf_of_mem_toDigits (by omega) (by omega) port char member
  rw [← Bool.not_eq_true]
  intro ends
  simp only [endsAuthority, Bool.or_eq_true, decide_eq_true_eq] at ends
  rcases ends with (rfl | rfl) | rfl
  · cases digit
  · cases digit
  · cases digit

theorem splitAuthority_append (userinfo : List Char) {hostPort : List Char}
    (noAt : '@' ∉ hostPort) : splitAuthority (userinfo ++ '@' :: hostPort) = (userinfo, hostPort) := by
  rw [splitAuthority, cutLast_append userinfo noAt]

/-- The authority of a link. -/
theorem takeWhile_link {userinfo hostPort : List Char} (plain : PlainUserinfo userinfo)
    (inside : ∀ char ∈ hostPort, endsAuthority char = false) (query fragment : Option (List Char)) :
    (userinfo ++ '@' :: (hostPort ++ tail query fragment)).takeWhile (!endsAuthority ·) =
        userinfo ++ '@' :: hostPort ∧
      (userinfo ++ '@' :: (hostPort ++ tail query fragment)).dropWhile (!endsAuthority ·) =
        tail query fragment := by
  have authority : ∀ char ∈ userinfo ++ '@' :: hostPort, endsAuthority char = false := by
    intro char member
    rcases List.mem_append.mp member with left | right
    · exact plain char left
    · rcases List.mem_cons.mp right with rfl | later
      · rfl
      · exact inside char later
  have regrouped : userinfo ++ '@' :: (hostPort ++ tail query fragment) =
      (userinfo ++ '@' :: hostPort) ++ tail query fragment := by simp
  rw [regrouped]
  exact takeWhile_tail authority query fragment

/-- Something follows the credentials of a link with a host. -/
theorem hosted_link {userinfo hostPort : List Char} (plain : PlainUserinfo userinfo)
    (inside : ∀ char ∈ hostPort, endsAuthority char = false) (noAt : '@' ∉ hostPort)
    (notEmpty : hostPort ≠ []) (query fragment : Option (List Char)) :
    (splitAuthority ((userinfo ++ '@' :: (hostPort ++ tail query fragment)).takeWhile
      (!endsAuthority ·))).2 ≠ [] := by
  rw [(takeWhile_link plain inside query fragment).1, splitAuthority_append userinfo noAt]
  exact notEmpty

/-- The authority is cut at its last `@`. -/
theorem parse_authority {ipv6 : List Char → Option (List Char)} {userinfo hostPort : List Char}
    {query fragment : Option (List Char)} (plain : PlainUserinfo userinfo)
    (inside : ∀ char ∈ hostPort, endsAuthority char = false) (noAt : '@' ∉ hostPort)
    (plainTail : PlainTail query fragment) :
    parse ipv6 (userinfo ++ '@' :: (hostPort ++ tail query fragment)) =
      (if (cutHost false hostPort).1 = [] then none
      else do
        let host ← parseHost ipv6 (cutHost false hostPort).1
        let port ← parsePort ((cutHost false hostPort).2.drop 1)
        return ⟨(parseUserinfo userinfo).1, (parseUserinfo userinfo).2, host, port, query,
          fragment⟩) := by
  have queryFree : ∀ text ∈ query, '#' ∉ text := by
    intro text chosen member
    cases plainTail.query text chosen '#' member
  obtain ⟨taken, dropped⟩ := takeWhile_link plain inside query fragment
  obtain ⟨path, tailCut, queryCut⟩ := cut_tail query fragment queryFree
  have encodedQuery := map_percentEncode_plain plainTail.query
  have encodedFragment := map_percentEncode_plain plainTail.fragment
  unfold parse
  rw [taken, dropped]
  simp only [tailCut, queryCut, splitAuthority_append userinfo noAt, encodedQuery, encodedFragment]

/-- A host and its port stay inside the authority. -/
theorem endsAuthority_hostPort {host : List Char}
    (inside : ∀ char ∈ host, endsAuthority char = false) (port : Nat) :
    ∀ char ∈ host ++ ':' :: Nat.toDigits 10 port, endsAuthority char = false := by
  intro char member
  rcases List.mem_append.mp member with left | right
  · exact inside char left
  · rcases List.mem_cons.mp right with rfl | later
    · rfl
    · exact endsAuthority_of_mem_toDigits char later

theorem at_notMem_hostPort {host : List Char} (noAt : '@' ∉ host) (port : Nat) :
    '@' ∉ host ++ ':' :: Nat.toDigits 10 port := by
  intro member
  rcases List.mem_append.mp member with left | right
  · exact noAt left
  · rcases List.mem_cons.mp right with colon | later
    · cases colon
    · cases isDigitOf_of_mem_toDigits (by omega) (by omega) port '@' later

theorem OpaqueHost.inside {host : List Char} (opaqueHost : OpaqueHost host) :
    ∀ char ∈ host, endsAuthority char = false := by
  intro char member
  rw [← Bool.not_eq_true]
  intro ends
  simp only [endsAuthority, Bool.or_eq_true, decide_eq_true_eq] at ends
  rcases ends with (rfl | rfl) | rfl
  · exact opaqueHost.notMem (by decide) member
  · exact opaqueHost.notMem (by decide) member
  · exact opaqueHost.notMem (by decide) member

/-- A link with an opaque host is cut into its parts. -/
theorem parse_link {ipv6 : List Char → Option (List Char)} {userinfo host : List Char} {port : Nat}
    {query fragment : Option (List Char)} (plain : PlainUserinfo userinfo)
    (opaqueHost : OpaqueHost host) (small : port ≤ 65535) (plainTail : PlainTail query fragment) :
    parse ipv6 (userinfo ++ '@' :: ((host ++ ':' :: Nat.toDigits 10 port) ++ tail query fragment)) =
      some ⟨(parseUserinfo userinfo).1, (parseUserinfo userinfo).2,
        percentEncode isControlSet host, some port, query, fragment⟩ := by
  have hostCut := cutHost_append (opaqueHost.notMem (by decide))
    (opaqueHost.notMem (by decide)) (Nat.toDigits 10 port)
  rw [parse_authority plain (endsAuthority_hostPort opaqueHost.inside port)
    (at_notMem_hostPort (opaqueHost.notMem (by decide)) port) plainTail, hostCut,
    if_neg opaqueHost.notEmpty]
  simp only [parseHost_allowed opaqueHost, List.drop_one, List.tail_cons, parsePort_toDigits small]
  rfl

/-- A second colon outside brackets stands in the port, which refuses it. -/
theorem parse_colons_none {ipv6 : List Char → Option (List Char)} {userinfo front back : List Char}
    {query fragment : Option (List Char)} (plain : PlainUserinfo userinfo)
    (inside : ∀ char ∈ front ++ ':' :: back, endsAuthority char = false)
    (noAt : '@' ∉ front ++ ':' :: back) (noColon : ':' ∉ front) (noBracket : '[' ∉ front)
    (colon : ':' ∈ back) (plainTail : PlainTail query fragment) :
    parse ipv6 (userinfo ++ '@' :: ((front ++ ':' :: back) ++ tail query fragment)) = none := by
  rw [parse_authority plain inside noAt plainTail, cutHost_append noColon noBracket]
  split
  · rfl
  · simp only [List.drop_one, List.tail_cons, parsePort_none colon (by decide)]
    cases parseHost ipv6 front with
    | none => rfl
    | some host => rfl

end Juicity.Machine.Url

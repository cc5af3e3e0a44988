import Juicity.Common.HostPort
import Juicity.Common.IpText
import Mathlib.Data.Bool.AllAny

/-!
Owns `split_proxy_target` of `client/src/local.rs`, and the absolute-form targets
it is for. The parts of a target are characters between the delimiters of a URL;
which characters a part is made of beyond that does not matter.

The authority ends at the first slash only, and a text that is no `host:port`
text is taken as the host: a query behind an authority and a bracketed host
without a port are not split.
-/

namespace Juicity.Client.HttpProxy

open Juicity.Common
open Juicity.Machine

/-- `str::eq_ignore_ascii_case`. -/
def eqIgnoreAsciiCase (left right : String) : Bool :=
  toAsciiLowercase left == toAsciiLowercase right

/-- `parse_host_port(..).unwrap_or_else(|_| (authority, 80))`. -/
def hostPortOr80 (authority : String) : String × UInt16 :=
  match Link.parseHostPort authority with
  | .ok parsed => parsed
  | .error _ => (authority, 80)

/-- The value of the first `Host` header. -/
def hostHeader (headers : List String) : Option String :=
  headers.findSome? fun header =>
    match splitOnce ':' header with
    | some (name, value) => if eqIgnoreAsciiCase (trim name) "host" then some (trim value) else none
    | none => none

/-- `rsplit(at).next()`. -/
def behindLast (separator : Char) (text : List Char) : List Char :=
  match Machine.Url.cutLast separator text with
  | some (_, back) => back
  | none => text

/-- The part of an absolute-form target behind the scheme. -/
def splitAbsolute (rest : List Char) : Option (String × UInt16 × String) :=
  let authority := rest.takeWhile (· ≠ '/')
  let path := rest.dropWhile (· ≠ '/')
  let path := if path = [] then ['/'] else path
  let authority := behindLast '@' authority
  if authority = [] then none
  else
    let (host, port) := hostPortOr80 (String.ofList authority)
    some (host, port, String.ofList path)

/-- `"http://"`. -/
def scheme : List Char := ['h', 't', 't', 'p', ':', '/', '/']

def splitProxyTarget (target : String) (headers : List String) :
    Option (String × UInt16 × String) :=
  if scheme.isPrefixOf target.toList then
    splitAbsolute (target.toList.drop scheme.length)
  else
    match hostHeader headers with
    | some authority =>
        if authority = "" then none
        else
          let (host, port) := hostPortOr80 authority
          some (host, port, target)
    | none => none

/-! ## Absolute-form targets -/

/-- A character that ends the authority of a URL. -/
def isDelimiter (char : Char) : Bool := char = '/' || char = '?' || char = '#'

/-- The host of a target: a registered name or an IPv4 address as it is, an IPv6 address in
brackets. -/
inductive Host where
  | name (text : List Char) (nonempty : text ≠ [])
      (plain : ∀ char ∈ text,
        isDelimiter char = false ∧ char ≠ '@' ∧ char ≠ ':' ∧ char ≠ '[' ∧ char ≠ ']')
  | ipv6 (text : String) (octets : Octets 16) (parsed : IpText.parseIp text = some (.v6 octets))

/-- The host without brackets. -/
def Host.bare : Host → List Char
  | .name text _ _ => text
  | .ipv6 text _ _ => text.toList

/-- The host as it stands in a target. -/
def Host.text : Host → List Char
  | .name text _ _ => text
  | .ipv6 text _ _ => '[' :: (text.toList ++ [']'])

def Host.bracketed : Host → Bool
  | .name .. => false
  | .ipv6 .. => true

/-- A port in decimal digits. -/
structure PortText where
  digits : List Char
  nonempty : digits ≠ []
  decimal : ∀ digit ∈ digits, isDigitOf 10 digit = true
  small : numeral 10 digits ≤ 65535

def PortText.value (port : PortText) : UInt16 := UInt16.ofNat (numeral 10 port.digits)

/-- `http://[userinfo@]host[:port][path][?query]`. -/
structure AbsoluteTarget where
  userinfo : Option (List Char)
  host : Host
  port : Option PortText
  path : List Char
  query : Option (List Char)
  userinfoPlain : ∀ text ∈ userinfo, ∀ char ∈ text, isDelimiter char = false
  pathRooted : path ≠ [] → path.head? = some '/'
  pathPlain : ∀ char ∈ path, char ≠ '?' ∧ char ≠ '#'
  queryPlain : ∀ text ∈ query, '#' ∉ text

namespace AbsoluteTarget

/-- `userinfo@`. -/
def credentials (target : AbsoluteTarget) : List Char :=
  match target.userinfo with
  | some userinfo => userinfo ++ ['@']
  | none => []

/-- `host[:port]`. -/
def hostPort (target : AbsoluteTarget) : List Char :=
  target.host.text ++
    match target.port with
    | some port => ':' :: port.digits
    | none => []

/-- `[?query]`. -/
def queryText (target : AbsoluteTarget) : List Char :=
  match target.query with
  | some query => '?' :: query
  | none => []

def text (target : AbsoluteTarget) : String :=
  String.ofList
    (scheme ++ (target.credentials ++ target.hostPort ++ (target.path ++ target.queryText)))

/-- The path and the query as written, with a slash for an empty path. -/
def originForm (target : AbsoluteTarget) : List Char :=
  (if target.path = [] then ['/'] else target.path) ++ target.queryText

/-- What a target is to be split into. -/
def parts (target : AbsoluteTarget) : String × UInt16 × String :=
  (String.ofList target.host.bare,
    match target.port with
    | some port => port.value
    | none => 80,
    String.ofList target.originForm)

end AbsoluteTarget

/-! ## The authority -/

section Authority

variable {host : Host}

/-- The text of a host has neither a slash nor an at sign. -/
theorem Host.text_plain (host : Host) : ∀ char ∈ host.text, char ≠ '/' ∧ char ≠ '@' := by
  cases host with
  | name text nonempty plain =>
      intro char member
      obtain ⟨delimits, at_, _⟩ := plain char member
      refine ⟨?_, at_⟩
      rintro rfl
      cases delimits
  | ipv6 text octets parsed =>
      intro char member
      have address := IpText.isAddressChar_of_ipv6 parsed
      rcases List.mem_cons.mp member with rfl | member
      · decide
      rcases List.mem_append.mp member with inside | closing
      · have plain := address char inside
        constructor
        · rintro rfl
          cases plain
        · rintro rfl
          cases plain
      · rw [List.mem_singleton.mp closing]
        decide

theorem PortText.plain (port : PortText) :
    ∀ char ∈ port.digits, char ≠ '/' ∧ char ≠ '@' ∧ char ≠ ':' := by
  intro char member
  have digit := port.decimal char member
  refine ⟨?_, ?_, ?_⟩
  · rintro rfl
    cases digit
  · rintro rfl
    cases digit
  · rintro rfl
    cases digit

theorem AbsoluteTarget.hostPort_plain (target : AbsoluteTarget) :
    ∀ char ∈ target.hostPort, char ≠ '/' ∧ char ≠ '@' := by
  intro char member
  unfold AbsoluteTarget.hostPort at member
  rcases List.mem_append.mp member with inHost | inPort
  · exact target.host.text_plain char inHost
  · cases written : target.port with
    | none =>
        rw [written] at inPort
        cases inPort
    | some port =>
        rw [written] at inPort
        rcases List.mem_cons.mp inPort with rfl | digit
        · decide
        · obtain ⟨slash, at_, _⟩ := port.plain char digit
          exact ⟨slash, at_⟩

theorem AbsoluteTarget.authority_noSlash (target : AbsoluteTarget) :
    ∀ char ∈ target.credentials ++ target.hostPort, decide (char ≠ '/') = true := by
  intro char member
  rcases List.mem_append.mp member with inUserinfo | inHost
  · unfold AbsoluteTarget.credentials at inUserinfo
    split at inUserinfo
    · rename_i userinfo given
      rcases List.mem_append.mp inUserinfo with inside | closing
      · have plain := target.userinfoPlain userinfo given char inside
        refine decide_eq_true ?_
        rintro rfl
        cases plain
      · rw [List.mem_singleton.mp closing]
        rfl
    · cases inUserinfo
  · exact decide_eq_true (target.hostPort_plain char inHost).1

/-- The user is in front of the last at sign. -/
theorem AbsoluteTarget.behindLast_authority (target : AbsoluteTarget) :
    behindLast '@' (target.credentials ++ target.hostPort) = target.hostPort := by
  have free : '@' ∉ target.hostPort := fun member => (target.hostPort_plain '@' member).2 rfl
  cases given : target.userinfo with
  | some userinfo =>
      have authority : target.credentials ++ target.hostPort =
          userinfo ++ '@' :: target.hostPort := by
        simp only [AbsoluteTarget.credentials, given, List.append_assoc, List.singleton_append]
      rw [authority, behindLast, Machine.Url.cutLast_append userinfo free]
  | none =>
      have authority : target.credentials ++ target.hostPort = target.hostPort := by
        simp only [AbsoluteTarget.credentials, given, List.nil_append]
      rw [authority, behindLast, Machine.Url.cutLast_of_notMem free]

theorem PortText.isPort (port : PortText) : IsPort port.digits port.value where
  nonempty := port.nonempty
  decimal := port.decimal
  value := by
    have small := port.small
    rw [PortText.value, UInt16.toNat_ofNat']
    omega

/-- A text without a bracket in front is split at its last colon. -/
theorem parseHostPort_plain {front : List Char} {port : PortText} (nonempty : front ≠ [])
    (noBracket : '[' ∉ front) :
    Link.parseHostPort (String.ofList (front ++ ':' :: port.digits)) =
      .ok (String.ofList front, port.value) := by
  obtain ⟨first, rest, rfl⟩ := List.exists_cons_of_ne_nil nonempty
  have bare : (String.ofList (first :: rest ++ ':' :: port.digits)).toList.head? ≠ some '[' := by
    rw [String.toList_ofList]
    intro bracket
    exact noBracket (Option.some.inj bracket ▸ List.mem_cons_self)
  refine (Link.parseHostPort_bare bare).mpr ⟨port.digits, ?_, port.isPort⟩
  rw [String.toList_ofList, String.toList_ofList]

/-- A bracketed text is split behind the bracket. -/
theorem parseHostPort_bracketed {front : List Char} {port : PortText} (free : ']' ∉ front) :
    Link.parseHostPort (String.ofList ('[' :: (front ++ ']' :: ':' :: port.digits))) =
      .ok (String.ofList front, port.value) := by
  have parsed := parseU16_eq_some_iff.mpr (.inl port.isPort)
  refine (Link.parseHostPort_bracket String.toList_ofList).mpr ⟨port.digits, ?_, ?_, parsed⟩
  · rw [String.toList_ofList]
  · rw [String.toList_ofList]
    exact free

/-- A host with a port is split at the colon in front of the port. -/
theorem hostPortOr80_port (host : Host) (port : PortText) :
    hostPortOr80 (String.ofList (host.text ++ ':' :: port.digits)) =
      (String.ofList host.bare, port.value) := by
  unfold hostPortOr80
  cases host with
  | name text nonempty plain =>
      have noBracket : '[' ∉ text := fun member => (plain '[' member).2.2.2.1 rfl
      rw [Host.text, parseHostPort_plain nonempty noBracket]
      rfl
  | ipv6 text octets parsed =>
      rw [Host.text, List.cons_append, List.append_assoc, List.singleton_append,
        parseHostPort_bracketed (IpText.closing_notMem parsed)]
      rfl

/-- A name without a port gets the port of the scheme. -/
theorem hostPortOr80_name {text : List Char} (noColon : ':' ∉ text) (noBracket : '[' ∉ text) :
    hostPortOr80 (String.ofList text) = (String.ofList text, 80) := by
  have bare : ¬(String.ofList text).toList.head? = some '[' := by
    rw [String.toList_ofList]
    exact fun bracket => noBracket (List.mem_of_head? bracket)
  unfold hostPortOr80 Link.parseHostPort
  rw [if_neg bare, String.toList_ofList, Machine.Url.cutLast_of_notMem noColon]

/-- A bracketed host without a port keeps its brackets. -/
theorem hostPortOr80_bracketed {text : String} {octets : Octets 16}
    (parsed : IpText.parseIp text = some (.v6 octets)) :
    hostPortOr80 (String.ofList ('[' :: (text.toList ++ [']']))) =
      (String.ofList ('[' :: (text.toList ++ [']'])), 80) := by
  unfold hostPortOr80 Link.parseHostPort
  rw [String.toList_ofList, List.head?_cons, if_pos rfl, List.tail_cons,
    cut_append (IpText.closing_notMem parsed)]

/-- The host and the port are split off unless the host is bracketed and has no port. -/
theorem hostPortOr80_iff (target : AbsoluteTarget) :
    hostPortOr80 (String.ofList target.hostPort) = (target.parts.1, target.parts.2.1) ↔
      target.host.bracketed = false ∨ target.port ≠ none := by
  cases given : target.port with
  | some port =>
      have text : target.hostPort = target.host.text ++ ':' :: port.digits := by
        rw [AbsoluteTarget.hostPort, given]
      have parts : (target.parts.1, target.parts.2.1) =
          (String.ofList target.host.bare, port.value) := by
        simp only [AbsoluteTarget.parts, given]
      rw [text, parts, hostPortOr80_port]
      simp
  | none =>
      have text : target.hostPort = target.host.text := by
        rw [AbsoluteTarget.hostPort, given, List.append_nil]
      have parts : (target.parts.1, target.parts.2.1) =
          (String.ofList target.host.bare, 80) := by
        simp only [AbsoluteTarget.parts, given]
      rw [text, parts]
      cases target.host with
      | name text nonempty plain =>
          have noColon : ':' ∉ text := fun member => (plain ':' member).2.2.1 rfl
          have noBracket : '[' ∉ text := fun member => (plain '[' member).2.2.2.1 rfl
          rw [Host.text, hostPortOr80_name noColon noBracket]
          exact ⟨fun _ => .inl rfl, fun _ => rfl⟩
      | ipv6 text octets parsed =>
          rw [Host.text, hostPortOr80_bracketed parsed]
          constructor
          · intro same
            have chars := congrArg (fun parts => parts.1.toList.length) same
            simp only [String.toList_ofList, Host.bare, List.length_cons, List.length_append,
              List.length_nil] at chars
            omega
          · rintro (impossible | impossible)
            · cases impossible
            · exact absurd rfl impossible

end Authority

/-! ## The path -/

/-- What `splitAbsolute` takes as the path of a target. -/
def splitPath (rest : List Char) : List Char :=
  if rest.dropWhile (· ≠ '/') = [] then ['/'] else rest.dropWhile (· ≠ '/')

/-- Neither a path nor a query stands before the authority's end, so the path is the rest. -/
theorem splitPath_authority {authority tail : List Char}
    (noSlash : ∀ char ∈ authority, decide (char ≠ '/') = true) :
    splitPath (authority ++ tail) = splitPath tail := by
  unfold splitPath
  rw [List.dropWhile_append_of_pos noSlash]

theorem splitPath_length (rest : List Char) : (splitPath rest).length ≤ rest.length + 1 := by
  have shorter := (List.dropWhile_sublist (· ≠ '/') (l := rest)).length_le
  unfold splitPath
  split
  · exact Nat.succ_le_succ (Nat.zero_le _)
  · exact Nat.le_succ_of_le shorter

namespace AbsoluteTarget

variable (target : AbsoluteTarget)

/-- The path comes out as written unless there is none in front of a query. -/
theorem splitPath_iff :
    splitPath (target.path ++ target.queryText) = target.originForm ↔
      target.path ≠ [] ∨ target.query = none := by
  by_cases empty : target.path = []
  · have origin : target.originForm = '/' :: target.queryText := by
      rw [originForm, if_pos empty, List.singleton_append]
    rw [origin, empty, List.nil_append]
    cases asked : target.query with
    | none =>
        have nothing : target.queryText = [] := by rw [queryText, asked]
        rw [nothing]
        exact ⟨fun _ => .inr rfl, fun _ => rfl⟩
    | some query =>
        have question : target.queryText = '?' :: query := by rw [queryText, asked]
        rw [question]
        constructor
        · intro same
          have passes : ∀ char ∈ ['?'], decide (char ≠ '/') = true :=
            List.forall_mem_singleton.mpr (by decide)
          have shorter := splitPath_length query
          rw [← splitPath_authority passes, List.singleton_append, same] at shorter
          simp only [List.length_cons] at shorter
          omega
        · rintro (impossible | impossible)
          · exact absurd rfl impossible
          · cases impossible
  · obtain ⟨rest, rooted⟩ := List.head?_eq_some_iff.mp (target.pathRooted empty)
    have stays : (target.path ++ target.queryText).dropWhile (· ≠ '/') =
        target.path ++ target.queryText := by
      rw [rooted]
      exact List.dropWhile_cons_of_neg (by decide)
    have filled : target.path ++ target.queryText ≠ [] := by
      rw [rooted]
      exact List.cons_ne_nil _ _
    rw [splitPath, stays, if_neg filled, originForm, if_neg empty]
    exact ⟨fun _ => .inl empty, fun _ => rfl⟩

theorem takeWhile_tail (split : target.path ≠ [] ∨ target.query = none) :
    (target.path ++ target.queryText).takeWhile (· ≠ '/') = [] := by
  by_cases empty : target.path = []
  · have unasked := split.resolve_left (fun filled => filled empty)
    have nothing : target.queryText = [] := by rw [queryText, unasked]
    rw [empty, nothing]
    rfl
  · obtain ⟨rest, rooted⟩ := List.head?_eq_some_iff.mp (target.pathRooted empty)
    rw [rooted]
    exact List.takeWhile_cons_of_neg (by decide)

theorem hostPort_ne_nil : target.hostPort ≠ [] := by
  intro nothing
  have noHost := (List.append_eq_nil_iff.mp nothing).1
  cases known : target.host with
  | name text nonempty plain =>
      rw [known] at noHost
      exact nonempty noHost
  | ipv6 text octets parsed =>
      rw [known] at noHost
      cases noHost

/-- The target without its scheme. -/
def rest : List Char :=
  target.credentials ++ target.hostPort ++ (target.path ++ target.queryText)

theorem splitProxyTarget_text (headers : List String) :
    splitProxyTarget target.text headers = splitAbsolute target.rest := by
  have front : scheme.isPrefixOf target.text.toList = true := by
    rw [text, String.toList_ofList]
    exact List.isPrefixOf_iff_prefix.mpr (List.prefix_append _ _)
  rw [splitProxyTarget, if_pos front, text, String.toList_ofList, List.drop_left]
  rfl

/-- The path that is split off. -/
theorem path_of_splitAbsolute {rest : List Char} {host path : String} {port : UInt16}
    (split : splitAbsolute rest = some (host, port, path)) :
    path = String.ofList (splitPath rest) := by
  unfold splitAbsolute at split
  dsimp only at split
  split at split
  · cases split
  · exact (congrArg (fun parts => parts.2.2) (Option.some.inj split)).symm

/-- With the path in its place the authority is read alone. -/
theorem splitAbsolute_rest (split : target.path ≠ [] ∨ target.query = none) :
    splitAbsolute target.rest =
      some ((hostPortOr80 (String.ofList target.hostPort)).1,
        (hostPortOr80 (String.ofList target.hostPort)).2, String.ofList target.originForm) := by
  have authority : target.rest.takeWhile (· ≠ '/') = target.credentials ++ target.hostPort := by
    rw [rest, List.takeWhile_append_of_pos target.authority_noSlash, takeWhile_tail target split,
      List.append_nil]
  have path : splitPath target.rest = target.originForm := by
    rw [rest, splitPath_authority target.authority_noSlash]
    exact target.splitPath_iff.mpr split
  rw [splitAbsolute, authority, target.behindLast_authority, if_neg target.hostPort_ne_nil, ← path]
  rfl

/-- The host that is split off can be sent. -/
theorem encodable_host (fits : (utf8 (String.ofList target.host.bare)).length ≤ 255) :
    Encodable IpText.std (String.ofList target.host.bare) := by
  cases known : target.host with
  | name text nonempty plain =>
      rw [known] at fits
      have noColon : ':' ∉ text := fun member => (plain ':' member).2.2.1 rfl
      refine ⟨?_, .inr ⟨?_, fits⟩⟩
      · intro empty
        have nothing := congrArg String.toList empty
        rw [String.toList_ofList] at nothing
        exact nonempty nothing
      · rw [String.toList_ofList]
        exact noColon
  | ipv6 text octets parsed =>
      have address : IpText.std.parseIp (String.ofList text.toList) = some (.v6 octets) := by
        rw [String.ofList_toList]
        exact parsed
      refine ⟨?_, .inl ⟨_, address⟩⟩
      intro empty
      have nothing : IpText.std.parseIp "" = some (.v6 octets) := by
        rw [← empty]
        exact address
      rw [IpText.std_laws.parseIp_empty] at nothing
      cases nothing

end AbsoluteTarget

/-- An absolute-form target is split into its host without user and brackets, its port or 80,
and its path and query, exactly when a query has a path in front and a bracketed host has a
port; a host of at most 255 bytes is one that can be sent. -/
theorem splitProxyTarget_iff (target : AbsoluteTarget) (headers : List String) :
    (splitProxyTarget target.text headers = some target.parts ↔
      (target.path ≠ [] ∨ target.query = none) ∧
        (target.host.bracketed = false ∨ target.port ≠ none)) ∧
    ((utf8 target.parts.1).length ≤ 255 → Encodable IpText.std target.parts.1) := by
  refine ⟨?_, target.encodable_host⟩
  rw [target.splitProxyTarget_text]
  constructor
  · intro split
    have path := AbsoluteTarget.path_of_splitAbsolute split
    rw [AbsoluteTarget.rest, splitPath_authority target.authority_noSlash] at path
    have inPlace := target.splitPath_iff.mp (String.ofList_injective path).symm
    rw [target.splitAbsolute_rest inPlace] at split
    have parts := Option.some.inj split
    refine ⟨inPlace, (hostPortOr80_iff target).mp ?_⟩
    rw [← parts]
  · rintro ⟨inPlace, ported⟩
    have hostPort := (hostPortOr80_iff target).mpr ported
    rw [target.splitAbsolute_rest inPlace, hostPort]
    rfl

/-- `http://user:pw@[::1]:8080/x`. -/
def portedTarget : AbsoluteTarget where
  userinfo := some "user:pw".toList
  host := .ipv6 "::1" ⟨[0, 0, 0, 0, 0, 0, 0, 0, 0, 0, 0, 0, 0, 0, 0, 1], rfl⟩ (by decide +kernel)
  port := some ⟨"8080".toList, by decide +kernel, List.all_eq_true.mp (by decide +kernel),
    by decide +kernel⟩
  path := ['/', 'x']
  query := none
  userinfoPlain := by
    rintro text ⟨⟩
    exact List.all_iff_forall_prop.mp (by decide +kernel)
  pathRooted := by simp
  pathPlain := List.all_iff_forall_prop.mp (by decide +kernel)
  queryPlain := by simp

theorem splitProxyTarget_iff_ported :
    splitProxyTarget portedTarget.text [] = some portedTarget.parts ∧
      Encodable IpText.std portedTarget.parts.1 :=
  ⟨(splitProxyTarget_iff portedTarget []).1.mpr ⟨.inl (by decide), .inr (by decide)⟩,
    (splitProxyTarget_iff portedTarget []).2 (by decide +kernel)⟩

/-! ## Targets that are not split -/

/-- `http://example.org?x`. -/
def queryTarget : AbsoluteTarget where
  userinfo := none
  host := .name "example.org".toList (by decide) (List.all_iff_forall_prop.mp (by decide +kernel))
  port := none
  path := []
  query := some ['x']
  userinfoPlain := by simp
  pathRooted := by simp
  pathPlain := by simp
  queryPlain := by simp

/-- `http://[::1]/`. -/
def bracketedTarget : AbsoluteTarget where
  userinfo := none
  host := .ipv6 "::1" ⟨[0, 0, 0, 0, 0, 0, 0, 0, 0, 0, 0, 0, 0, 0, 0, 1], rfl⟩ (by decide +kernel)
  port := none
  path := ['/']
  query := none
  userinfoPlain := by simp
  pathRooted := by simp
  pathPlain := by simp
  queryPlain := by simp

theorem target_missplit :
    queryTarget.text = "http://example.org?x" ∧
      queryTarget.parts = ("example.org", 80, "/?x") ∧
      splitProxyTarget queryTarget.text [] = some ("example.org?x", 80, "/") ∧
      bracketedTarget.text = "http://[::1]/" ∧
      bracketedTarget.parts = ("::1", 80, "/") ∧
      splitProxyTarget bracketedTarget.text [] = some ("[::1]", 80, "/") ∧
      (¬ ∀ (target : AbsoluteTarget) (headers : List String),
        splitProxyTarget target.text headers = some target.parts) := by
  have parts : queryTarget.parts = ("example.org", 80, "/?x") := by decide +kernel
  have split : splitProxyTarget queryTarget.text [] = some ("example.org?x", 80, "/") := by
    decide +kernel
  refine ⟨by decide +kernel, parts, split, by decide +kernel, by decide +kernel,
    by decide +kernel, ?_⟩
  intro always
  have same := always queryTarget []
  rw [split, parts] at same
  exact absurd same (by decide)

end Juicity.Client.HttpProxy

import Juicity.Common.Text
import Juicity.Common.UrlCrate

/-!
Owns links put together from form-encoded texts, as both programs write them:
such a link is regular, and the url crate reads its parts back. The host is the
only part that is written as it is.
-/

namespace Juicity.Common

open Juicity.Machine Juicity.Machine.Form Juicity.Machine.Url

/-! ## Characters of form-encoded texts -/

/-- A property of the form-encoded characters that is checked for each of them. -/
theorem forall_formChars {holds : Char → Prop}
    (checked : ∀ code : Fin 128, isFormChar (Char.ofNat code) = true → holds (Char.ofNat code))
    {char : Char} (formChar : isFormChar char = true) : holds char := by
  have ascii : char.toNat < 128 := by
    simp only [isFormChar, Bool.or_eq_true, Bool.and_eq_true, decide_eq_true_eq] at formChar
    rcases formChar with (rfl | rfl) | ⟨small, -⟩
    · decide
    · decide
    · exact small
  have instanceChecked := checked ⟨char.toNat, ascii⟩
  rw [Char.ofNat_toNat] at instanceChecked
  exact instanceChecked formChar

/-- A character that passes through every part of a URL. -/
structure Passes (char : Char) : Prop where
  printable : 32 < char.toNat ∧ char ≠ '\\'
  userinfo : isUserinfoSet char = false
  inQuery : isQuerySet char = false
  inFragment : isFragmentSet char = false
  whitespace : isWhitespace char = false
  authority : endsAuthority char = false

instance (char : Char) : Decidable (Passes char) :=
  decidable_of_iff ((32 < char.toNat ∧ char ≠ '\\') ∧ isUserinfoSet char = false ∧
      isQuerySet char = false ∧ isFragmentSet char = false ∧ isWhitespace char = false ∧
      endsAuthority char = false)
    ⟨fun all => ⟨all.1, all.2.1, all.2.2.1, all.2.2.2.1, all.2.2.2.2.1, all.2.2.2.2.2⟩,
      fun passes => ⟨passes.printable, passes.userinfo, passes.inQuery, passes.inFragment,
        passes.whitespace, passes.authority⟩⟩

theorem passes_of_isFormChar {char : Char} (formChar : isFormChar char = true) : Passes char :=
  forall_formChars (by decide +kernel) formChar

theorem passes_serialize (bytes : Bytes) : ∀ char ∈ serialize bytes, Passes char :=
  fun char member => passes_of_isFormChar (isFormChar_of_mem_serialize bytes char member)

/-! ## Parameters -/

/-- The parameters of a query, names and values. -/
def encodeParams (params : List (String × String)) : List Char :=
  ['&'].intercalate (params.map fun each => parameter each.1.toList (utf8 each.2))

def queryOf (params : List (String × String)) : Option (List Char) :=
  if params = [] then none else some (encodeParams params)

/-- What holds of the separator and in every piece holds in the joined text. -/
theorem forall_mem_intercalate {holds : Char → Prop} {separator : Char}
    (separates : holds separator) {pieces : List (List Char)}
    (each : ∀ piece ∈ pieces, ∀ char ∈ piece, holds char) :
    ∀ char ∈ [separator].intercalate pieces, holds char := by
  induction pieces with
  | nil => exact fun char member => nomatch member
  | cons piece rest hypothesis =>
    have later := hypothesis fun later member => each later (List.mem_cons_of_mem _ member)
    cases rest with
    | nil =>
      intro char member
      rw [List.intercalate_singleton] at member
      exact each piece List.mem_cons_self char member
    | cons next rest =>
      intro char member
      rw [List.intercalate_cons_cons, List.append_assoc, List.mem_append, List.mem_append,
        List.mem_singleton] at member
      rcases member with front | rfl | back
      · exact each piece List.mem_cons_self char front
      · exact separates
      · exact later char back

/-- A character of a query that is neither encoded nor trimmed. -/
def InQuery (char : Char) : Prop := char = '=' ∨ char = '&' ∨ isFormChar char = true

theorem inQuery_encodeParams {params : List (String × String)}
    (plain : ∀ each ∈ params, PlainName each.1.toList) :
    ∀ char ∈ encodeParams params, InQuery char := by
  have separates : InQuery '&' := .inr (.inl rfl)
  refine forall_mem_intercalate separates fun piece member char inside => ?_
  obtain ⟨each, listed, rfl⟩ := List.mem_map.mp member
  rcases List.mem_append.mp inside with inName | inValue
  · exact .inr (.inr (plain each listed char inName).1)
  · rcases List.mem_cons.mp inValue with rfl | written
    · exact .inl rfl
    · exact .inr (.inr (isFormChar_of_mem_serialize _ char written))

theorem InQuery.plain {char : Char} (inQuery : InQuery char) :
    (32 < char.toNat ∧ char ≠ '\\') ∧ isQuerySet char = false ∧ isWhitespace char = false := by
  rcases inQuery with rfl | rfl | formChar
  · decide
  · decide
  · have passes := passes_of_isFormChar formChar
    exact ⟨passes.printable, passes.inQuery, passes.whitespace⟩

/-- The pairs of a query are the parameters it was made of. -/
theorem readPairs_queryOf {lossy : Bytes → String} (lossy_utf8 : ∀ text, lossy (utf8 text) = text)
    {params : List (String × String)} (plain : ∀ each ∈ params, PlainName each.1.toList) :
    readPairs lossy (queryOf params) = params := by
  by_cases empty : params = []
  · rw [queryOf, if_pos empty, empty]
    rfl
  · have pieces : params.map (fun each => parameter each.1.toList (utf8 each.2)) =
        (params.map fun each => (each.1.toList, utf8 each.2)).map
          fun each => parameter each.1 each.2 := by rw [List.map_map]; rfl
    have names : ∀ each ∈ params.map fun each => (each.1.toList, utf8 each.2), PlainName each.1 := by
      intro each member
      obtain ⟨original, listed, rfl⟩ := List.mem_map.mp member
      exact plain original listed
    rw [queryOf, if_neg empty, readPairs, encodeParams, pieces, pairs_parameters _ names (by simpa using empty), List.map_map,
      List.map_map]
    conv_rhs => rw [← List.map_id params]
    apply List.map_congr_left
    intro each listed
    show (lossy (utf8Bytes each.1.toList), lossy (utf8 each.2)) = each
    rw [← utf8_eq_utf8Bytes, lossy_utf8, lossy_utf8]

/-! ## Links -/

/-- What follows `scheme://` in a link. -/
def linkChars (userinfo : List Char) (host : String) (port : UInt16)
    (params : List (String × String)) (fragment : Option String) : List Char :=
  userinfo ++ '@' :: ((host.toList ++ ':' :: Nat.toDigits 10 port.toNat) ++
    tail (queryOf params) (fragment.map fun name => serialize (utf8 name)))

/-- A text that stands in a URL as a host: no C0 control in it, and nothing the
standard forbids there. -/
structure HostText (host : String) : Prop where
  opaqueHost : OpaqueHost host.toList
  printable : ∀ char ∈ host.toList, 32 ≤ char.toNat

theorem hostText_of_all {host : String} (notEmpty : host.toList ≠ []) (checked :
    host.toList.all (fun char => !isForbiddenHost char && decide (32 ≤ char.toNat)) = true) :
    HostText host := by
  have each : ∀ char ∈ host.toList, isForbiddenHost char = false ∧ 32 ≤ char.toNat := by
    intro char member
    have plain := List.all_eq_true.mp checked char member
    rwa [Bool.and_eq_true, Bool.not_eq_true', decide_eq_true_eq] at plain
  exact ⟨⟨notEmpty, fun char member => (each char member).1⟩,
    fun char member => (each char member).2⟩

/-- Credentials of form-encoded texts. -/
def PassingUserinfo (userinfo : List Char) : Prop :=
  ∀ char ∈ userinfo, char = ':' ∨ Passes char

theorem PassingUserinfo.plain {userinfo : List Char} (passing : PassingUserinfo userinfo) :
    PlainUserinfo userinfo := by
  intro char member
  rcases passing char member with rfl | passes
  · rfl
  · exact passes.authority

theorem plainTail_queryOf {params : List (String × String)}
    (plain : ∀ each ∈ params, PlainName each.1.toList) (fragment : Option String) :
    PlainTail (queryOf params) (fragment.map fun name => serialize (utf8 name)) where
  query := by
    intro text chosen char member
    unfold queryOf at chosen
    split at chosen
    · cases chosen
    · obtain rfl := Option.some.inj chosen
      exact (inQuery_encodeParams plain char member).plain.2.1
  fragment := by
    intro text chosen char member
    obtain ⟨name, -, rfl⟩ := Option.map_eq_some_iff.mp chosen
    exact (passes_serialize _ char member).inFragment

/-- A decimal digit is written as it is. -/
theorem isFormChar_of_digit {char : Char} (digit : isDigitOf 10 char = true) :
    isFormChar char = true := by
  have range := code_of_isDigitOf_ten digit
  have small : char.toNat < 128 := by omega
  have code : (UInt8.ofNat char.toNat).toNat = char.toNat := by
    rw [UInt8.toNat_ofNat']
    omega
  simp only [isFormChar, isUnreserved, code, Bool.or_eq_true, Bool.and_eq_true, decide_eq_true_eq]
  exact .inr ⟨small, .inl range⟩

theorem passes_toDigits (number : Nat) : ∀ char ∈ Nat.toDigits 10 number, Passes char :=
  fun char member => passes_of_isFormChar (isFormChar_of_digit
    (isDigitOf_of_mem_toDigits (by omega) (by omega) number char member))

theorem HostText.printable_of_mem {host : String} (hostText : HostText host) :
    ∀ char ∈ host.toList, 32 < char.toNat ∧ char ≠ '\\' := by
  intro char member
  have atLeast := hostText.printable char member
  have notSpace : char.toNat ≠ 32 := by
    intro space
    have same : char = ' ' := by
      rw [← Char.ofNat_toNat char, space]
    have forbidden : isForbiddenHost char = true := by rw [same]; rfl
    exact hostText.opaqueHost.notMem forbidden member
  refine ⟨by omega, ?_⟩
  rintro rfl
  exact hostText.opaqueHost.notMem (by decide) member

/-- Such a link is one the standard describes. -/
theorem regular_linkChars {userinfo : List Char} (passing : PassingUserinfo userinfo)
    {host : String} (port : UInt16) {params : List (String × String)} {fragment : Option String}
    (printable : ∀ char ∈ host.toList, 32 < char.toNat ∧ char ≠ '\\')
    (inside : ∀ char ∈ host.toList, endsAuthority char = false) (noAt : '@' ∉ host.toList)
    (plain : ∀ each ∈ params, PlainName each.1.toList) :
    Regular (linkChars userinfo host port params fragment) := by
  have printableUserinfo : ∀ char ∈ userinfo, 32 < char.toNat ∧ char ≠ '\\' := by
    intro char member
    rcases passing char member with rfl | passes
    · decide
    · exact passes.printable
  have printableTail : ∀ char ∈ tail (queryOf params)
      (fragment.map fun name => serialize (utf8 name)), 32 < char.toNat ∧ char ≠ '\\' := by
    intro char member
    rcases mem_tail member with rfl | rfl | ⟨text, chosen, inQuery⟩ | ⟨text, chosen, inName⟩
    · decide
    · decide
    · unfold queryOf at chosen
      split at chosen
      · cases chosen
      · obtain rfl := Option.some.inj chosen
        exact (inQuery_encodeParams plain char inQuery).plain.1
    · obtain ⟨name, -, rfl⟩ := Option.map_eq_some_iff.mp chosen
      exact (passes_serialize _ char inName).printable
  constructor
  · intro char member
    rw [linkChars, List.mem_append, List.mem_cons, List.mem_append, List.mem_append,
      List.mem_cons] at member
    rcases member with user | rfl | (inHost | rfl | inPort) | inTail
    · exact printableUserinfo char user
    · decide
    · exact printable char inHost
    · decide
    · exact (passes_toDigits _ char inPort).printable
    · exact printableTail char inTail
  · exact hosted_link passing.plain (endsAuthority_hostPort inside _) (at_notMem_hostPort noAt _)
      (by simp) _ _

/-- The parts of a link with credentials and an opaque host, as the crate gives them. -/
theorem parse_linkChars {url : UrlCrate} {ipv6 : List Char → Option (List Char)}
    {lossy : Bytes → String} (standard : url.Standard ipv6 lossy) {scheme : String}
    (notSpecial : NotSpecial scheme) {userinfo : List Char} (passing : PassingUserinfo userinfo)
    {host : String} (hostText : HostText host) (port : UInt16) {params : List (String × String)}
    (plain : ∀ each ∈ params, PlainName each.1.toList) (fragment : Option String) :
    url.parse (scheme ++ "://" ++ String.ofList (linkChars userinfo host port params fragment)) =
      some {
        scheme := scheme
        username := String.ofList (parseUserinfo userinfo).1
        password := (parseUserinfo userinfo).2.map String.ofList
        hostStr := some (String.ofList (percentEncode isControlSet host.toList))
        port := some port
        queryPairs := params
        fragment := fragment.map fun name => String.ofList (serialize (utf8 name)) } := by
  have small : port.toNat ≤ 65535 := by
    have bound := port.toNat_lt
    omega
  have regular : Regular (linkChars userinfo host port params fragment) :=
    regular_linkChars passing port hostText.printable_of_mem hostText.opaqueHost.inside
      (hostText.opaqueHost.notMem (by decide)) plain
  rw [standard.parse scheme notSpecial _ regular, linkChars,
    parse_link passing.plain hostText.opaqueHost small (plainTail_queryOf plain fragment),
    Option.map_some, Url.ofParts]
  simp only [readPairs_queryOf standard.lossy_utf8 plain, Option.map_some, UInt16.ofNat_toNat,
    Option.map_map]
  rfl

/-- A second colon outside brackets makes a link no URL. -/
theorem parse_linkChars_none {url : UrlCrate} {ipv6 : List Char → Option (List Char)}
    {lossy : Bytes → String} (standard : url.Standard ipv6 lossy) {scheme : String}
    (notSpecial : NotSpecial scheme) {userinfo : List Char} (passing : PassingUserinfo userinfo)
    {host : String} (printable : ∀ char ∈ host.toList, 32 < char.toNat ∧ char ≠ '\\')
    (inside : ∀ char ∈ host.toList, endsAuthority char = false) (noAt : '@' ∉ host.toList)
    (noBracket : '[' ∉ host.toList) (colon : ':' ∈ host.toList) (port : UInt16)
    {params : List (String × String)} (plain : ∀ each ∈ params, PlainName each.1.toList)
    (fragment : Option String) :
    url.parse (scheme ++ "://" ++ String.ofList (linkChars userinfo host port params fragment)) =
      none := by
  obtain ⟨front, back, joined, first⟩ := List.eq_append_cons_of_mem colon
  have regrouped : host.toList ++ ':' :: Nat.toDigits 10 port.toNat =
      front ++ ':' :: (back ++ ':' :: Nat.toDigits 10 port.toNat) := by
    rw [joined, List.append_assoc, List.cons_append]
  have insideAll := endsAuthority_hostPort inside port.toNat
  have noAtAll := at_notMem_hostPort noAt port.toNat
  have noBracketFront : '[' ∉ front := fun member =>
    noBracket (joined ▸ List.mem_append_left _ member)
  rw [standard.parse scheme notSpecial _
    (regular_linkChars passing port printable inside noAt plain), linkChars]
  rw [regrouped] at insideAll noAtAll ⊢
  rw [parse_colons_none passing.plain insideAll noAtAll first noBracketFront (by simp)
    (plainTail_queryOf plain fragment)]
  rfl

end Juicity.Common

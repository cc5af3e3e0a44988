import Juicity.Common.IpText
import Juicity.Machine.Url

/-!
Owns the interface of the url crate: `form_urlencoded::byte_serialize` and
`Url::parse` with its accessors. The crate is a parameter; it is relied on to
follow the URL standard for links of a scheme that is not special.
-/

namespace Juicity.Common

open Juicity.Machine

/-- What the accessors of a `url::Url` return. -/
structure Url where
  scheme : String
  username : String
  password : Option String
  hostStr : Option String
  port : Option UInt16
  queryPairs : List (String × String)
  fragment : Option String
deriving DecidableEq

structure UrlCrate where
  byteSerialize : Bytes → String
  parse : String → Option Url

/-- The pairs of a query, decoded as UTF-8. -/
def readPairs (lossy : Bytes → String) : Option (List Char) → List (String × String)
  | none => []
  | some query => (Form.pairs query).map fun pair => (lossy pair.1, lossy pair.2)

/-- The accessors on the parts of a link. -/
def Url.ofParts (lossy : Bytes → String) (scheme : String) (parts : Machine.Url.Parts) : Url where
  scheme := scheme
  username := String.ofList parts.username
  password := parts.password.map String.ofList
  hostStr := some (String.ofList parts.host)
  port := parts.port.map UInt16.ofNat
  queryPairs := readPairs lossy parts.query
  fragment := parts.fragment.map String.ofList

def isLowerLetter (char : Char) : Bool := decide ('a' ≤ char ∧ char ≤ 'z')

/-- A scheme of lower-case letters that the standard does not list as special. -/
def NotSpecial (scheme : String) : Prop :=
  scheme ≠ "" ∧ scheme.toList.all isLowerLetter = true ∧
    scheme ∉ ["ftp", "file", "http", "https", "ws", "wss"]

instance (scheme : String) : Decidable (NotSpecial scheme) :=
  inferInstanceAs (Decidable (_ ∧ _ ∧ _))

/-- The crate follows the standard. -/
structure UrlCrate.Standard (url : UrlCrate) (ipv6 : List Char → Option (List Char))
    (lossy : Bytes → String) : Prop where
  lossy_utf8 : ∀ text, lossy (utf8 text) = text
  byteSerialize : ∀ bytes, url.byteSerialize bytes = String.ofList (Form.serialize bytes)
  parse : ∀ scheme, NotSpecial scheme → ∀ link, Machine.Url.Regular link →
    url.parse (scheme ++ "://" ++ String.ofList link) =
      (Machine.Url.parse ipv6 link).map (Url.ofParts lossy scheme)

/-! ## UTF-8 -/

theorem utf8_ofList (text : List Char) : utf8 (String.ofList text) = utf8Bytes text := by
  rw [utf8, String.toByteArray_ofList, List.utf8Encode]
  simp [utf8Bytes]

theorem utf8_eq_utf8Bytes (text : String) : utf8 text = utf8Bytes text.toList := by
  rw [← utf8_ofList, String.ofList_toList]

/-! ## An instance -/

/-- The text of an IPv6 host in its canonical form. -/
def ipv6HostText (text : List Char) : Option (List Char) :=
  match IpText.parseIp (String.ofList text) with
  | some (.v6 octets) => some (IpText.ipv6Chars octets)
  | _ => none

/-- The scheme, and what follows `://`. -/
def splitScheme (text : List Char) : Option (List Char × List Char) :=
  match text.dropWhile isLowerLetter with
  | ':' :: '/' :: '/' :: link => some (text.takeWhile isLowerLetter, link)
  | _ => none

theorem splitScheme_append {scheme : List Char}
    (letters : ∀ char ∈ scheme, isLowerLetter char = true) (link : List Char) :
    splitScheme (scheme ++ ':' :: '/' :: '/' :: link) = some (scheme, link) := by
  have colon : ¬isLowerLetter ':' = true := by decide
  rw [splitScheme, List.dropWhile_append_of_pos letters, List.takeWhile_append_of_pos letters,
    List.dropWhile_cons_of_neg colon, List.takeWhile_cons_of_neg colon, List.append_nil]
  rfl

/-- The standard, for links of a scheme that is not special. -/
def UrlCrate.std : UrlCrate where
  byteSerialize bytes := String.ofList (Form.serialize bytes)
  parse text := do
    let (scheme, link) ← splitScheme text.toList
    if NotSpecial (String.ofList scheme) then
      (Machine.Url.parse ipv6HostText link).map
        (Url.ofParts IpText.std.utf8Lossy (String.ofList scheme))
    else none

theorem UrlCrate.std_standard : UrlCrate.std.Standard ipv6HostText IpText.std.utf8Lossy where
  lossy_utf8 := IpText.std_laws.utf8Lossy_utf8
  byteSerialize := fun _ => rfl
  parse := by
    intro scheme notSpecial link _
    have letters := List.all_eq_true.mp notSpecial.2.1
    have chars : (scheme ++ "://" ++ String.ofList link).toList =
        scheme.toList ++ ':' :: '/' :: '/' :: link := by simp
    simp only [UrlCrate.std, chars, splitScheme_append letters, Option.bind_eq_bind,
      Option.bind_some, String.ofList_toList, if_pos notSpecial]

end Juicity.Common

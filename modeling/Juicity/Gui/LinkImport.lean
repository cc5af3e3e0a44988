import Juicity.Common.AddressCodec
import Juicity.Common.LinkText
import Juicity.Common.ShareLink
import Juicity.Gui.Link

/-!
Owns what the import makes of a Juicity link put together from form-encoded
texts. The percent decoder undoes everything the form encoding does but one: a
space comes back as `+`.
-/

namespace Juicity.Gui

open Juicity.Common Juicity.Machine Juicity.Machine.Form

/-! ## The percent decoder on form-encoded texts -/

def spaceToPlus (char : Char) : Char := if char = ' ' then '+' else char

/-- A text with `+` for its spaces. -/
def plusText (text : String) : String := String.ofList (text.toList.map spaceToPlus)

theorem map_eq_self_iff {α : Type} {f : α → α} {list : List α} :
    list.map f = list ↔ ∀ each ∈ list, f each = each := by
  have asId : list.map f = list ↔ list.map f = list.map id := by rw [List.map_id]
  rw [asId, List.map_inj_left]
  rfl

def spaceToPlusByte (byte : UInt8) : UInt8 := if byte = 32 then 43 else byte

theorem plusText_eq_iff (text : String) : plusText text = text ↔ ' ' ∉ text.toList := by
  have asList : plusText text = text ↔ text.toList.map spaceToPlus = text.toList := by
    rw [← String.toList_inj, plusText, String.toList_ofList]
  rw [asList]
  constructor
  · intro same member
    have fixed := map_eq_self_iff.mp same ' ' member
    cases fixed
  · intro free
    apply map_eq_self_iff.mpr
    intro char member
    have notSpace : char ≠ ' ' := fun space => free (space ▸ member)
    exact if_neg notSpace

theorem utf8EncodeChar_spaceToPlus (char : Char) :
    String.utf8EncodeChar (spaceToPlus char) =
      (String.utf8EncodeChar char).map spaceToPlusByte := by
  by_cases space : char = ' '
  · subst space
    rfl
  · have same : spaceToPlus char = char := if_neg space
    rw [same]
    symm
    apply map_eq_self_iff.mpr
    intro byte member
    refine if_neg (show ¬byte = 32 from fun spaceByte => space ?_)
    obtain ⟨ascii, code⟩ := ascii_of_mem_utf8EncodeChar member (by rw [spaceByte]; decide)
    have codeNat : char.toNat = 32 := by
      have values := congrArg UInt8.toNat (code.symm.trans spaceByte)
      rw [UInt8.toNat_ofNat'] at values
      have value : (32 : UInt8).toNat = 32 := rfl
      omega
    rw [← Char.ofNat_toNat char, codeNat]

theorem utf8_plusText (text : String) : utf8 (plusText text) = (utf8 text).map spaceToPlusByte := by
  rw [plusText, utf8_ofList, utf8_eq_utf8Bytes, utf8Bytes, utf8Bytes, List.flatMap_map,
    List.map_flatMap]
  exact congrArg text.toList.flatMap (funext utf8EncodeChar_spaceToPlus)

theorem percentDecodeBytes_plain {byte : UInt8} (plain : byte ≠ 37) (rest : Bytes) :
    percentDecodeBytes (byte :: rest) = byte :: percentDecodeBytes rest := by
  match rest with
  | [] => exact if_neg plain
  | [h1] => exact if_neg plain
  | h1 :: h2 :: later => exact if_neg plain

/-- A form-encoded byte is one byte that is not `%`, or `%` and its two digits. -/
theorem utf8Bytes_serializeByte (byte : UInt8) :
    (utf8Bytes (serializeByte byte) = [spaceToPlusByte byte] ∧ spaceToPlusByte byte ≠ 37) ∨
      (utf8Bytes (serializeByte byte) =
          [37, UInt8.ofNat (Hex.digitChar true (byte.toNat / 16)).toNat,
            UInt8.ofNat (Hex.digitChar true (byte.toNat % 16)).toNat] ∧
        fromStrRadix (UInt8.ofNat (Hex.digitChar true (byte.toNat / 16)).toNat)
          (UInt8.ofNat (Hex.digitChar true (byte.toNat % 16)).toNat) =
            some (spaceToPlusByte byte)) := by
  revert byte
  exact forall_bytes (by decide +kernel)

theorem percentDecodeBytes_serialize (bytes : Bytes) :
    percentDecodeBytes (utf8Bytes (serialize bytes)) = bytes.map spaceToPlusByte := by
  induction bytes with
  | nil => rfl
  | cons byte rest hypothesis =>
    have front : utf8Bytes (serialize (byte :: rest)) =
        utf8Bytes (serializeByte byte) ++ utf8Bytes (serialize rest) := utf8Bytes_append _ _
    rw [front, List.map_cons]
    rcases utf8Bytes_serializeByte byte with ⟨single, plain⟩ | ⟨triple, decoded⟩
    · rw [single, List.singleton_append, percentDecodeBytes_plain plain, hypothesis]
    · rw [triple]
      show (fromStrRadix _ _).getD 37 :: percentDecodeBytes (utf8Bytes (serialize rest)) = _
      rw [decoded, hypothesis, Option.getD_some]

/-- The percent decoder gives a form-encoded text back with `+` for its spaces. -/
theorem percentDecode_serialize (text : String) :
    percentDecode (String.ofList (serialize (utf8 text))) = plusText text := by
  rw [percentDecode, utf8_ofList, percentDecodeBytes_serialize, ← utf8_plusText,
    fromUtf8_eq_some_iff.mpr rfl, Option.getD_some]

/-! ## Import of a Juicity link -/

variable {url : UrlCrate} {base64 : Base64Crate} {ipv6 : List Char → Option (List Char)}
  {lossy : Bytes → String}

/-- The credentials of a Juicity link. -/
def juicityUserinfo (uuid password : String) : List Char :=
  serialize (utf8 uuid) ++ ':' :: serialize (utf8 password)

theorem passing_juicityUserinfo (uuid password : String) :
    PassingUserinfo (juicityUserinfo uuid password) := by
  intro char member
  rcases List.mem_append.mp member with inUuid | inPassword
  · exact .inr (passes_serialize _ char inUuid)
  · rcases List.mem_cons.mp inPassword with colon | later
    · exact .inl colon
    · exact .inr (passes_serialize _ char later)

theorem serialize_utf8_ne_nil {text : String} (notEmpty : text ≠ "") :
    serialize (utf8 text) ≠ [] :=
  serialize_ne_nil (List.ne_nil_of_length_pos (length_utf8_pos_iff.mpr notEmpty))

theorem parseUserinfo_juicityUserinfo (uuid : String) {password : String} (notEmpty : password ≠ "") :
    Machine.Url.parseUserinfo (juicityUserinfo uuid password) =
      (serialize (utf8 uuid), some (serialize (utf8 password))) := by
  have pieces : cut ':' (juicityUserinfo uuid password) =
      (serialize (utf8 uuid), some (serialize (utf8 password))) :=
    cut_append (notMem_serialize (by decide) _) _
  have plain : ∀ text : String, Machine.Url.percentEncode Machine.Url.isUserinfoSet
      (serialize (utf8 text)) = serialize (utf8 text) := fun text =>
    Machine.Url.percentEncode_plain fun char member => (passes_serialize _ char member).userinfo
  have passwordPlain := plain password
  obtain ⟨char, rest, written⟩ := List.exists_cons_of_ne_nil (serialize_utf8_ne_nil notEmpty)
  rw [Machine.Url.parseUserinfo, pieces]
  rw [written] at passwordPlain ⊢
  simp only [passwordPlain, plain uuid]

theorem whitespace_tail {params : List (String × String)}
    (plain : ∀ each ∈ params, PlainName each.1.toList) (fragment : Option String) :
    ∀ char ∈ Machine.Url.tail (queryOf params) (fragment.map fun name => serialize (utf8 name)),
      isWhitespace char = false := by
  intro char member
  rcases Machine.Url.mem_tail member with rfl | rfl | ⟨text, chosen, inQuery⟩ |
    ⟨text, chosen, inName⟩
  · decide
  · decide
  · unfold queryOf at chosen
    split at chosen
    · cases chosen
    · obtain rfl := Option.some.inj chosen
      exact (inQuery_encodeParams plain char inQuery).plain.2.2
  · obtain ⟨name, -, rfl⟩ := Option.map_eq_some_iff.mp chosen
    exact (passes_serialize _ char inName).whitespace

/-- A link has nothing to trim. -/
theorem trim_link {scheme : List Char} {first : Char} (begins : scheme.head? = some first)
    (firstPlain : isWhitespace first = false) (userinfo : List Char) (host : String)
    (port : UInt16) {params : List (String × String)}
    (plain : ∀ each ∈ params, PlainName each.1.toList) (fragment : Option String) :
    trim (String.ofList (scheme ++ linkChars userinfo host port params fragment)) =
      String.ofList (scheme ++ linkChars userinfo host port params fragment) := by
  have regrouped : scheme ++ linkChars userinfo host port params fragment =
      (scheme ++ (userinfo ++ '@' :: host.toList)) ++ (':' :: (Nat.toDigits 10 port.toNat ++
        Machine.Url.tail (queryOf params)
          (fragment.map fun name => serialize (utf8 name)))) := by
    simp [linkChars]
  have headFirst : (scheme ++ (userinfo ++ '@' :: host.toList)).head? = some first := by
    rw [List.head?_append, begins]
    rfl
  rw [regrouped]
  refine trim_append headFirst firstPlain (List.cons_ne_nil _ _) fun char member => ?_
  rcases List.mem_cons.mp member with rfl | later
  · decide
  · rcases List.mem_append.mp later with inPort | inTail
    · exact (passes_toDigits _ char inPort).whitespace
    · exact whitespace_tail plain fragment char inTail

/-- The host of a link, as its accessor gives it. -/
def keptHost (host : String) : String :=
  String.ofList (Machine.Url.percentEncode Machine.Url.isControlSet host.toList)

/-- What the import makes of a Juicity link. -/
def importedJuicity (uuid password host : String) (port : UInt16)
    (params : List (String × String)) (fragment : Option String) : ImportedShareLink :=
  let settings := params.foldl JuicityParams.read ⟨none, false, none, none⟩
  { protocol := .juicity
    name := linkName (fragment.map fun name => String.ofList (serialize (utf8 name)))
      (keptHost host) port
    server := keptHost host
    serverPort := port
    password := plusText password
    uuid := plusText uuid
    sni := settings.sni
    allowInsecure := settings.allowInsecure
    pinnedCertchainSha256 := settings.pinnedCertchainSha256
    congestionControl := settings.congestionControl
    method := ""
    plugin := none
    pluginOpts := none }

theorem ofList_ne_empty {text : List Char} (notNil : text ≠ []) : String.ofList text ≠ "" := by
  intro empty
  apply notNil
  have nil := congrArg String.toList empty
  rwa [String.toList_ofList] at nil

theorem parseJuicityLink_linkChars (standard : url.Standard ipv6 lossy) {uuid password : String}
    (uuidNotEmpty : uuid ≠ "") (passwordNotEmpty : password ≠ "") {host : String}
    (hostText : HostText host) (port : UInt16) {params : List (String × String)}
    (plain : ∀ each ∈ params, PlainName each.1.toList) (fragment : Option String) :
    parseJuicityLink url ("juicity" ++ "://" ++ String.ofList
        (linkChars (juicityUserinfo uuid password) host port params fragment)) =
      .ok (importedJuicity uuid password host port params fragment) := by
  have notSpecial : NotSpecial "juicity" := by decide
  have parsed := parse_linkChars standard notSpecial
    (passing_juicityUserinfo uuid password) hostText port plain fragment
  have uuidWritten := ofList_ne_empty (serialize_utf8_ne_nil uuidNotEmpty)
  have passwordWritten := ofList_ne_empty (serialize_utf8_ne_nil passwordNotEmpty)
  rw [parseUserinfo_juicityUserinfo uuid passwordNotEmpty] at parsed
  rw [parseJuicityLink, parsed, context_some_bind, juicityLinkOf, if_neg (not_not_intro rfl)]
  show (if String.ofList (serialize (utf8 uuid)) = "" then _
    else if String.ofList (serialize (utf8 password)) = "" then _ else _) = _
  rw [if_neg uuidWritten, if_neg passwordWritten, importedJuicity, ← percentDecode_serialize uuid,
    ← percentDecode_serialize password]
  rfl

/-- A link of the scheme is parsed as one. -/
theorem importShareLink_eq_parse (userinfo : List Char) (host : String) (port : UInt16)
    {params : List (String × String)} (plain : ∀ each ∈ params, PlainName each.1.toList)
    (fragment : Option String) :
    importShareLink url base64 ("juicity://" ++ String.ofList
        (linkChars userinfo host port params fragment)) =
      parseJuicityLink url ("juicity" ++ "://" ++ String.ofList
        (linkChars userinfo host port params fragment)) := by
  have asChars : "juicity://" ++ String.ofList (linkChars userinfo host port params fragment) =
      String.ofList ("juicity://".toList ++ linkChars userinfo host port params fragment) := by
    rw [String.ofList_append, String.ofList_toList]
  have begins : "juicity://".toList.head? = some 'j' := rfl
  have trimmed := trim_link begins (by decide) userinfo host port plain fragment
  have front : ("juicity://".toList ++ linkChars userinfo host port params fragment).take 10 =
      "juicity://".toList := List.take_left' rfl
  rw [importShareLink, asChars, trimmed]
  simp only [String.toList_ofList, front, if_true]
  rw [← asChars]
  rfl

theorem importShareLink_juicity (standard : url.Standard ipv6 lossy) {uuid password : String}
    (uuidNotEmpty : uuid ≠ "") (passwordNotEmpty : password ≠ "") {host : String}
    (hostText : HostText host) (port : UInt16) {params : List (String × String)}
    (plain : ∀ each ∈ params, PlainName each.1.toList) (fragment : Option String) :
    importShareLink url base64 ("juicity://" ++ String.ofList
        (linkChars (juicityUserinfo uuid password) host port params fragment)) =
      .ok (importedJuicity uuid password host port params fragment) := by
  rw [importShareLink_eq_parse _ _ _ plain]
  exact parseJuicityLink_linkChars standard uuidNotEmpty passwordNotEmpty hostText port plain
    fragment

end Juicity.Gui

import Juicity.Gui.LinkImport

/-!
Owns the way of a share link from the command line to the GUI. The import takes
back a link of `generate_share_link` exactly when the credentials have no space
and the host is plain ASCII and not an IPv6 literal, which the link leaves
without its brackets.
-/

namespace Juicity.Common

open Juicity.Machine Juicity.Machine.Form

variable {url : UrlCrate} {ipv6 : List Char → Option (List Char)} {lossy : Bytes → String}

/-! ## The link that is generated -/

theorem toList_toString (number : Nat) : (toString number).toList = Nat.toDigits 10 number := by
  show (Nat.repr number).toList = _
  rw [Nat.repr, String.toList_ofList]

theorem Link.appendPair_eq (standard : url.Standard ipv6 lossy) (value : String) :
    Link.appendPair url value = String.ofList ('=' :: serialize (utf8 value)) := by
  rw [Link.appendPair, standard.byteSerialize, standard.byteSerialize, ← String.toList_inj]
  simp [serialize, utf8]

theorem Link.stripEquals_appendPair (standard : url.Standard ipv6 lossy) (value : String) :
    Link.stripEquals (Link.appendPair url value) =
      some (String.ofList (serialize (utf8 value))) := by
  rw [Link.appendPair_eq standard, Link.stripEquals, String.toList_ofList]
  exact if_pos rfl

theorem Link.urlEncodeParam_eq (standard : url.Standard ipv6 lossy) (value : String) :
    Link.urlEncodeParam url value = String.ofList (serialize (utf8 value)) := by
  rw [Link.urlEncodeParam, Link.stripEquals_appendPair standard, Option.getD_some]

/-- The parameters of the link of a client. -/
def Link.clientParams (config : Config) (host : String) : List (String × String) :=
  [("sni", if config.sni ≠ "" then config.sni else host)] ++
  (if config.congestionControl ≠ "" then [("congestion_control", config.congestionControl)]
    else []) ++
  [("allow_insecure", if config.allowInsecure then "1" else "0")] ++
  (if config.pinnedCertchainSha256 ≠ "" then
    [("pinned_certchain_sha256", config.pinnedCertchainSha256)]
  else [])

/-- A parameter as it stands in a link. -/
def paramText (param : String × String) : String :=
  String.ofList (parameter param.1.toList (utf8 param.2))

theorem paramText_eq (key value : String) :
    paramText (key, value) = key ++ "=" ++ String.ofList (serialize (utf8 value)) := by
  rw [← String.toList_inj, paramText]
  simp [parameter]

theorem Link.queryParts_eq (standard : url.Standard ipv6 lossy) (config : Config) (host : String) :
    Link.queryParts url config host none none = (Link.clientParams config host).map paramText := by
  have sni : ((none : Option String).or
      (if config.sni ≠ "" then some config.sni else none)).getD host =
        if config.sni ≠ "" then config.sni else host := by
    split
    · rfl
    · rfl
  have congestion : (if config.congestionControl ≠ "" then
      ["congestion_control=" ++ Link.urlEncodeParam url config.congestionControl] else []) =
        (if config.congestionControl ≠ "" then [("congestion_control", config.congestionControl)]
          else []).map paramText := by
    split
    · rw [List.map_singleton, paramText_eq, Link.urlEncodeParam_eq standard]
      rfl
    · rfl
  have insecure : ["allow_insecure=" ++ if config.allowInsecure then "1" else "0"] =
      [("allow_insecure", if config.allowInsecure then "1" else "0")].map paramText := by
    cases config.allowInsecure with
    | false => decide +kernel
    | true => decide +kernel
  have pinned : (((none : Option String).filter (· ≠ "")).or
        (if config.pinnedCertchainSha256 ≠ "" then some config.pinnedCertchainSha256
          else none)).toList.map
            (fun sha256 => "pinned_certchain_sha256=" ++ Link.urlEncodeParam url sha256) =
        (if config.pinnedCertchainSha256 ≠ "" then
          [("pinned_certchain_sha256", config.pinnedCertchainSha256)] else []).map paramText := by
    by_cases empty : config.pinnedCertchainSha256 = ""
    · rw [if_neg (not_not_intro empty), if_neg (not_not_intro empty)]
      rfl
    · rw [if_pos empty, if_pos empty, List.map_singleton, paramText_eq,
        ← Link.urlEncodeParam_eq standard]
      rfl
  rw [Link.queryParts, Link.clientParams, List.map_append, List.map_append, List.map_append,
    ← congestion, ← insecure, ← pinned, List.map_singleton, paramText_eq,
    ← Link.urlEncodeParam_eq standard, ← sni]
  rfl

theorem toList_intercalate_paramText (params : List (String × String)) :
    (String.intercalate "&" (params.map paramText)).toList = encodeParams params := by
  rw [String.toList_intercalate, List.map_map, encodeParams]
  congr 1
  apply List.map_congr_left
  intro param _
  exact String.toList_ofList

theorem Link.generateShareLink_client (standard : url.Standard ipv6 lossy) {config : Config}
    (uuidNotEmpty : config.uuid ≠ "") (passwordNotEmpty : config.password ≠ "") {host : String}
    {port : UInt16} (parsed : Link.parseHostPort config.server = .ok (host, port)) :
    Link.generateShareLink url config none none none =
      .ok ("juicity://" ++ String.ofList (linkChars
        (serialize (utf8 config.uuid) ++ ':' :: serialize (utf8 config.password)) host port
        (Link.clientParams config host) none)) := by
  have serverNotEmpty : config.server ≠ "" := by
    intro empty
    rw [empty] at parsed
    cases parsed
  have credentials : Link.credentials config = .ok (config.uuid, config.password) :=
    if_pos ⟨uuidNotEmpty, passwordNotEmpty⟩
  rw [Link.generateShareLink, credentials]
  show (Link.parseHostPort (if config.server ≠ "" then _ else _) >>= _) = _
  rw [if_pos serverNotEmpty, parsed]
  show Except.ok _ = _
  rw [Link.stripEquals_appendPair standard, Link.stripEquals_appendPair standard]
  refine congrArg Except.ok ?_
  rw [← String.toList_inj]
  simp only [String.toList_append, Link.queryParts_eq standard, toList_intercalate_paramText]
  have written : queryOf (Link.clientParams config host) =
      some (encodeParams (Link.clientParams config host)) := if_neg (by simp [Link.clientParams])
  have marks : ":".toList = [':'] ∧ "@".toList = ['@'] ∧ "?".toList = ['?'] := by decide +kernel
  simp only [linkChars, written, Machine.Url.tail, Option.getD_some, Option.getD_none,
    Option.map_none, String.toList_ofList, toList_toString, marks.1, marks.2.1, marks.2.2,
    List.append_assoc, List.cons_append, List.nil_append, List.append_nil]

/-- The parameters of both programs have plain names. -/
theorem plainName_of_known {name : String} (known : name ∈ ["sni", "congestion_control",
    "allow_insecure", "allowInsecure", "pinned_certchain_sha256", "plugin"]) :
    PlainName name.toList := by
  have checked : ["sni", "congestion_control", "allow_insecure", "allowInsecure",
      "pinned_certchain_sha256", "plugin"].all (fun name => name.toList.all (fun char =>
        isFormChar char && decide (char ≠ '+') && decide (char ≠ '%'))) = true := by
    decide +kernel
  exact plainName_of_all (List.all_eq_true.mp checked name known)

theorem Link.plain_clientParams (config : Config) (host : String) :
    ∀ each ∈ Link.clientParams config host, PlainName each.1.toList := by
  intro each member
  simp only [Link.clientParams, List.mem_append, List.mem_singleton, List.mem_ite_nil_right] at member
  rcases member with ((rfl | ⟨-, rfl⟩) | rfl) | ⟨-, rfl⟩
  · exact (plainName_of_known (by decide) : PlainName "sni".toList)
  · exact (plainName_of_known (by decide) : PlainName "congestion_control".toList)
  · exact (plainName_of_known (by decide) : PlainName "allow_insecure".toList)
  · exact (plainName_of_known (by decide) : PlainName "pinned_certchain_sha256".toList)

end Juicity.Common

namespace Juicity.Gui

open Juicity.Common Juicity.Machine Juicity.Machine.Form

variable {url : UrlCrate} {base64 : Base64Crate} {ipv6 : List Char → Option (List Char)}
  {lossy : Bytes → String}

/-! ## What is imported -/

/-- The two hosts are one, or texts of one IPv6 address. -/
def SameHost (restored original : String) : Prop :=
  restored = original ∨ ∃ octets, IpText.parseIp restored = some (.v6 octets) ∧
    IpText.parseIp original = some (.v6 octets)

/-- The import restores a configuration with this host and port. -/
structure Restores (config : Config) (host : String) (port : UInt16)
    (imported : ImportedShareLink) : Prop where
  uuid : imported.uuid = config.uuid
  password : imported.password = config.password
  server : SameHost imported.server host
  serverPort : imported.serverPort = port
  sni : imported.sni = some (if config.sni ≠ "" then config.sni else host)
  allowInsecure : imported.allowInsecure = config.allowInsecure
  pinnedCertchainSha256 : imported.pinnedCertchainSha256 =
    if config.pinnedCertchainSha256 ≠ "" then some config.pinnedCertchainSha256 else none
  congestionControl : imported.congestionControl =
    normalizeCongestionControl config.congestionControl

/-- The link of the configuration is imported and restores it. -/
def ImportsBack (url : UrlCrate) (base64 : Base64Crate) (config : Config) (host : String)
    (port : UInt16) : Prop :=
  ∃ link imported, Link.generateShareLink url config none none none = .ok link ∧
    importShareLink url base64 link = .ok imported ∧ Restores config host port imported

/-- A host of an address: a text that can stand in a URL, or an IPv6 literal. -/
inductive ServerHost (host : String) : Prop where
  | name (hostText : HostText host)
  | ipv6 (octets : Octets 16) (literal : IpText.parseIp host = some (.v6 octets))

/-- What the two encodings of a link agree on. -/
structure Importable (config : Config) (host : String) : Prop where
  uuid : ' ' ∉ config.uuid.toList
  password : ' ' ∉ config.password.toList
  ascii : ∀ char ∈ host.toList, Machine.Url.isControlSet char = false
  noColon : ':' ∉ host.toList

theorem keptHost_eq_iff (host : String) :
    keptHost host = host ↔ ∀ char ∈ host.toList, Machine.Url.isControlSet char = false := by
  rw [← String.toList_inj, keptHost, String.toList_ofList]
  exact ⟨Machine.Url.plain_of_percentEncode_eq, Machine.Url.percentEncode_plain⟩

/-- A name has no other text. -/
theorem sameHost_iff_of_noColon {restored original : String} (noColon : ':' ∉ original.toList) :
    SameHost restored original ↔ restored = original := by
  constructor
  · rintro (same | ⟨octets, -, literal⟩)
    · exact same
    · exact (noColon (IpText.std_laws.ipv6_colon original octets literal)).elim
  · exact .inl

theorem JuicityParams.read_sni (params : JuicityParams) (value : String) :
    params.read ("sni", value) = { params with sni := some value } := rfl

theorem JuicityParams.read_congestionControl (params : JuicityParams) (value : String) :
    params.read ("congestion_control", value) =
      { params with congestionControl := normalizeCongestionControl value } := by
  simp [JuicityParams.read]

theorem JuicityParams.read_pinned (params : JuicityParams) {value : String} (notEmpty : value ≠ "") :
    params.read ("pinned_certchain_sha256", value) =
      { params with pinnedCertchainSha256 := some value } := by
  simp [JuicityParams.read, notEmpty]

theorem JuicityParams.read_allowInsecure (params : JuicityParams) (allowInsecure : Bool) :
    params.read ("allow_insecure", if allowInsecure then "1" else "0") =
      { params with allowInsecure := allowInsecure } := by
  have notTrue : ¬toAsciiLowercase "0" = "true" := by decide +kernel
  cases allowInsecure with
  | true => simp [JuicityParams.read]
  | false => simp [JuicityParams.read, notTrue]

/-- The loop over the parameters reads each as it was set. -/
theorem foldl_clientParams (config : Config) (host : String) :
    (Link.clientParams config host).foldl JuicityParams.read ⟨none, false, none, none⟩ =
      { sni := some (if config.sni ≠ "" then config.sni else host)
        allowInsecure := config.allowInsecure
        pinnedCertchainSha256 :=
          if config.pinnedCertchainSha256 ≠ "" then some config.pinnedCertchainSha256 else none
        congestionControl := normalizeCongestionControl config.congestionControl } := by
  have congestion : (if config.congestionControl ≠ "" then
      [("congestion_control", config.congestionControl)] else []).foldl JuicityParams.read
        ⟨some (if config.sni ≠ "" then config.sni else host), false, none, none⟩ =
      ⟨some (if config.sni ≠ "" then config.sni else host), false, none,
        normalizeCongestionControl config.congestionControl⟩ := by
    by_cases empty : config.congestionControl = ""
    · have nothing : normalizeCongestionControl "" = none := by decide +kernel
      rw [if_neg (not_not_intro empty), empty, nothing]
      rfl
    · rw [if_pos empty, List.foldl_cons, JuicityParams.read_congestionControl]
      rfl
  have pinned : ∀ params : JuicityParams, params.pinnedCertchainSha256 = none →
      (if config.pinnedCertchainSha256 ≠ "" then
        [("pinned_certchain_sha256", config.pinnedCertchainSha256)] else []).foldl
          JuicityParams.read params =
        { params with pinnedCertchainSha256 :=
            if config.pinnedCertchainSha256 ≠ "" then some config.pinnedCertchainSha256
            else none } := by
    intro params unset
    by_cases empty : config.pinnedCertchainSha256 = ""
    · rw [if_neg (not_not_intro empty), if_neg (not_not_intro empty), ← unset]
      rfl
    · rw [if_pos empty, if_pos empty, List.foldl_cons, JuicityParams.read_pinned _ empty]
      rfl
  have insecure : ∀ params : JuicityParams,
      [("allow_insecure", if config.allowInsecure then "1" else "0")].foldl JuicityParams.read
        params = { params with allowInsecure := config.allowInsecure } := fun params =>
    JuicityParams.read_allowInsecure params config.allowInsecure
  have sni : [("sni", if config.sni ≠ "" then config.sni else host)].foldl JuicityParams.read
      ⟨none, false, none, none⟩ =
        ⟨some (if config.sni ≠ "" then config.sni else host), false, none, none⟩ :=
    JuicityParams.read_sni _ _
  rw [Link.clientParams, List.foldl_append, List.foldl_append, List.foldl_append, sni, congestion,
    insecure, pinned _ rfl]

/-! ## The two directions -/

/-- The link of a client with a host text, as it is imported. -/
theorem importShareLink_client (standard : url.Standard ipv6 lossy) {config : Config}
    (uuidNotEmpty : config.uuid ≠ "") (passwordNotEmpty : config.password ≠ "") {host : String}
    (port : UInt16) (hostText : HostText host) :
    importShareLink url base64 ("juicity://" ++ String.ofList (linkChars
        (serialize (utf8 config.uuid) ++ ':' :: serialize (utf8 config.password)) host port
        (Link.clientParams config host) none)) =
      .ok {
        protocol := .juicity
        name := linkName none (keptHost host) port
        server := keptHost host
        serverPort := port
        password := plusText config.password
        uuid := plusText config.uuid
        sni := some (if config.sni ≠ "" then config.sni else host)
        allowInsecure := config.allowInsecure
        pinnedCertchainSha256 :=
          if config.pinnedCertchainSha256 ≠ "" then some config.pinnedCertchainSha256 else none
        congestionControl := normalizeCongestionControl config.congestionControl
        method := ""
        plugin := none
        pluginOpts := none } := by
  rw [← juicityUserinfo, importShareLink_juicity standard uuidNotEmpty passwordNotEmpty hostText
    port (Link.plain_clientParams config host) none]
  simp only [importedJuicity, foldl_clientParams, Option.map_none]

theorem importsBack_iff_of_hostText (standard : url.Standard ipv6 lossy) {config : Config}
    (uuidNotEmpty : config.uuid ≠ "") (passwordNotEmpty : config.password ≠ "") {host : String}
    {port : UInt16} (parsed : Link.parseHostPort config.server = .ok (host, port))
    (hostText : HostText host) :
    ImportsBack url base64 config host port ↔ Importable config host := by
  have noColon : ':' ∉ host.toList := hostText.opaqueHost.notMem (by decide)
  have generated := Link.generateShareLink_client standard uuidNotEmpty passwordNotEmpty parsed
  have imported : importShareLink url base64 _ = _ :=
    importShareLink_client standard uuidNotEmpty passwordNotEmpty port hostText
  constructor
  · rintro ⟨link, result, linked, read, restores⟩
    rw [generated] at linked
    obtain rfl := Except.ok.inj linked
    rw [imported] at read
    obtain rfl := Except.ok.inj read
    exact {
      uuid := (plusText_eq_iff _).mp restores.uuid
      password := (plusText_eq_iff _).mp restores.password
      ascii := (keptHost_eq_iff host).mp ((sameHost_iff_of_noColon noColon).mp restores.server)
      noColon := noColon }
  · intro importable
    refine ⟨_, _, generated, imported, ?_⟩
    exact {
      uuid := (plusText_eq_iff _).mpr importable.uuid
      password := (plusText_eq_iff _).mpr importable.password
      server := .inl ((keptHost_eq_iff host).mpr importable.ascii)
      serverPort := rfl
      sni := rfl
      allowInsecure := rfl
      pinnedCertchainSha256 := rfl
      congestionControl := by dsimp only }

/-- The text of an IPv6 address stands in the authority of a link. -/
theorem addressChar_plain {char : Char} (address : IpText.isAddressChar char = true) :
    (32 < char.toNat ∧ char ≠ '\\') ∧ Machine.Url.endsAuthority char = false := by
  have code : 32 < char.toNat := by
    simp only [IpText.isAddressChar, Bool.or_eq_true, decide_eq_true_eq] at address
    rcases address with (digit | rfl) | rfl
    · have ranges := code_of_isDigitOf digit
      omega
    · decide
    · decide
  refine ⟨⟨code, ?_⟩, ?_⟩
  · rintro rfl
    cases address
  · rw [← Bool.not_eq_true]
    intro ends
    simp only [Machine.Url.endsAuthority, Bool.or_eq_true, decide_eq_true_eq] at ends
    rcases ends with (rfl | rfl) | rfl
    · cases address
    · cases address
    · cases address

/-- Without its brackets an IPv6 literal makes the link no URL. -/
theorem not_importsBack_of_ipv6 (standard : url.Standard ipv6 lossy) {config : Config}
    (uuidNotEmpty : config.uuid ≠ "") (passwordNotEmpty : config.password ≠ "") {host : String}
    {port : UInt16} (parsed : Link.parseHostPort config.server = .ok (host, port))
    {octets : Octets 16} (literal : IpText.parseIp host = some (.v6 octets)) :
    ¬ImportsBack url base64 config host port := by
  rintro ⟨link, result, linked, read, -⟩
  rw [Link.generateShareLink_client standard uuidNotEmpty passwordNotEmpty parsed,
    ← juicityUserinfo] at linked
  obtain rfl := Except.ok.inj linked
  have chars := IpText.isAddressChar_of_ipv6 literal
  have free : ∀ char, IpText.isAddressChar char = false → char ∉ host.toList := by
    intro char notAddress member
    rw [chars char member] at notAddress
    cases notAddress
  have notSpecial : NotSpecial "juicity" := by decide
  have plain := Link.plain_clientParams config host
  have notUrl := parse_linkChars_none standard notSpecial
    (passing_juicityUserinfo config.uuid config.password)
    (fun char member => (addressChar_plain (chars char member)).1)
    (fun char member => (addressChar_plain (chars char member)).2) (free '@' (by decide))
    (free '[' (by decide)) (IpText.std_laws.ipv6_colon host octets literal) port plain none
  rw [importShareLink_eq_parse _ _ _ plain, parseJuicityLink, notUrl, context_none_bind] at read
  cases read

/-- The GUI takes back the link of a client exactly when the credentials have no
space and the host is plain ASCII and not an IPv6 literal. -/
theorem cliLink_importsBack_iff (url : UrlCrate) (base64 : Base64Crate)
    (ipv6 : List Char → Option (List Char)) (lossy : Bytes → String)
    (standard : url.Standard ipv6 lossy) (config : Config) (uuidNotEmpty : config.uuid ≠ "")
    (passwordNotEmpty : config.password ≠ "") (host : String) (port : UInt16)
    (parsed : Link.parseHostPort config.server = .ok (host, port)) (serverHost : ServerHost host) :
    ImportsBack url base64 config host port ↔ Importable config host := by
  cases serverHost with
  | name hostText =>
    exact importsBack_iff_of_hostText standard uuidNotEmpty passwordNotEmpty parsed hostText
  | ipv6 octets literal =>
    constructor
    · intro importsBack
      exact (not_importsBack_of_ipv6 standard uuidNotEmpty passwordNotEmpty parsed literal
        importsBack).elim
    · intro importable
      exact (importable.noColon (IpText.std_laws.ipv6_colon host octets literal)).elim

/-- A client of a server, with a password. -/
def exampleConfig (server password : String) : Config where
  server := server
  uuid := "9f6c"
  password := password
  sni := ""
  allowInsecure := false
  pinnedCertchainSha256 := ""
  users := []
  listen := ""
  congestionControl := "bbr"

def noBase64 : Base64Crate :=
  ⟨fun _ => "", fun _ => none, fun _ => none, fun _ => none⟩

theorem exampleHost_hostText : HostText "example.com" :=
  hostText_of_all (by decide +kernel) (by decide +kernel)

theorem exampleHost_ascii :
    ∀ char ∈ "example.com".toList, Machine.Url.isControlSet char = false := by
  have checked : "example.com".toList.all (!Machine.Url.isControlSet ·) = true := by decide +kernel
  intro char member
  have plain := List.all_eq_true.mp checked char member
  rwa [Bool.not_eq_true'] at plain

/-- An instance: a password with reserved characters is imported. -/
theorem cliLink_importsBack_reserved :
    ImportsBack UrlCrate.std noBase64 (exampleConfig "example.com:443" "p@ss:/w%rd+") "example.com"
      443 :=
  (cliLink_importsBack_iff UrlCrate.std noBase64 ipv6HostText IpText.std.utf8Lossy
    UrlCrate.std_standard (exampleConfig "example.com:443" "p@ss:/w%rd+") (by decide) (by decide)
    "example.com" 443 (by decide +kernel) (.name exampleHost_hostText)).mpr
    ⟨by decide, by decide, exampleHost_ascii, by decide⟩

/-- A password with a space is not imported, and neither is an IPv6 server. -/
theorem cliLink_not_importsBack :
    Link.parseHostPort "example.com:443" = .ok ("example.com", 443) ∧
      ¬ImportsBack UrlCrate.std noBase64 (exampleConfig "example.com:443" "pass word")
        "example.com" 443 ∧
      Link.parseHostPort "[::1]:443" = .ok ("::1", 443) ∧
      ¬ImportsBack UrlCrate.std noBase64 (exampleConfig "[::1]:443" "password") "::1" 443 := by
  have namedHost : Link.parseHostPort "example.com:443" = .ok ("example.com", 443) := by
    decide +kernel
  have ipv6Host : Link.parseHostPort "[::1]:443" = .ok ("::1", 443) := by decide +kernel
  have literal : IpText.parseIp "::1" =
      some (.v6 ⟨[0, 0, 0, 0, 0, 0, 0, 0, 0, 0, 0, 0, 0, 0, 0, 1], rfl⟩) := by decide +kernel
  refine ⟨namedHost, fun importsBack => ?_, ipv6Host, ?_⟩
  · have importable := (importsBack_iff_of_hostText UrlCrate.std_standard (by decide) (by decide)
      namedHost exampleHost_hostText).mp importsBack
    exact absurd importable.password (by decide)
  · exact not_importsBack_of_ipv6 UrlCrate.std_standard (by decide) (by decide) ipv6Host literal

end Juicity.Gui

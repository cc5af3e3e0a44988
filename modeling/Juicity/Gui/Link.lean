import Juicity.Common.UrlCrate
import Juicity.Gui.Util
import Juicity.Machine.Base64

/-!
Owns `gui/src/link.rs`, with `normalize_congestion_control` of
`gui/src/config.rs`: the share links of profiles in two formats, and the import
of both and of the legacy format. The url and base64 crates are parameters.
-/

namespace Juicity.Gui

open Juicity.Common Juicity.Machine

inductive ProxyProtocol where
  | juicity
  | shadowsocks
deriving DecidableEq

/-- A profile, without the fields links do not carry. -/
structure ProxyProfile where
  name : String
  protocol : ProxyProtocol
  server : String
  serverPort : UInt16
  password : String
  uuid : String
  sni : Option String
  allowInsecure : Bool
  pinnedCertchainSha256 : Option String
  congestionControl : Option String
  method : String
  plugin : Option String
  pluginOpts : Option String
deriving DecidableEq

def ProxyProfile.default : ProxyProfile where
  name := "New Server"
  protocol := .juicity
  server := ""
  serverPort := 443
  password := ""
  uuid := ""
  sni := none
  allowInsecure := false
  pinnedCertchainSha256 := none
  congestionControl := none
  method := "chacha20-ietf-poly1305"
  plugin := none
  pluginOpts := none

/-- All fields of an imported link. -/
structure ImportedShareLink where
  protocol : ProxyProtocol
  name : String
  server : String
  serverPort : UInt16
  password : String
  uuid : String
  sni : Option String
  allowInsecure : Bool
  pinnedCertchainSha256 : Option String
  congestionControl : Option String
  method : String
  plugin : Option String
  pluginOpts : Option String
deriving DecidableEq

/-- Fields the link does not set are preserved. -/
def ImportedShareLink.applyTo (link : ImportedShareLink) (profile : ProxyProfile) :
    ProxyProfile where
  name := if link.name ≠ "" ∧ link.name ≠ "New Server" then link.name else profile.name
  protocol := link.protocol
  server := link.server
  serverPort := link.serverPort
  password := link.password
  uuid := link.uuid
  sni := link.sni
  allowInsecure := link.allowInsecure
  pinnedCertchainSha256 := link.pinnedCertchainSha256
  congestionControl := link.congestionControl
  method := if link.method ≠ "" then link.method else profile.method
  plugin := link.plugin
  pluginOpts := link.pluginOpts

/-- How an import ends without a result. -/
inductive Failure where
  | bail (message : String)
  | panicked
deriving DecidableEq

/-- `Option::context`. -/
def context {α : Type} (message : String) : Option α → Except Failure α
  | some value => .ok value
  | none => .error (.bail message)

@[simp] theorem context_some_bind {α β : Type} (message : String) (value : α)
    (next : α → Except Failure β) : (context message (some value) >>= next) = next value := rfl

@[simp] theorem context_none_bind {α β : Type} (message : String) (next : α → Except Failure β) :
    (context message none >>= next) = .error (.bail message) := rfl

/-- The engines of the base64 crate. -/
structure Base64Crate where
  urlSafeNoPadEncode : Bytes → String
  urlSafeNoPadDecode : String → Option Bytes
  urlSafeDecode : String → Option Bytes
  standardDecode : String → Option Bytes

/-! ## Text -/

/-- The canonical name, of known values only. -/
def normalizeCongestionControl (value : String) : Option String :=
  let name := toAsciiLowercase (trim value)
  if name = "bbr" then some "bbr"
  else if name = "cubic" then some "cubic"
  else if name = "newreno" ∨ name = "new_reno" then some "new_reno"
  else none

/-- `u8::from_str_radix` of two characters, the first of which may be a sign. -/
def fromStrRadix (h1 h2 : UInt8) : Option UInt8 :=
  if h1 = 43 then (digitValue 16 (Char.ofNat h2.toNat)).map UInt8.ofNat
  else Hex.byteOf (Char.ofNat h1.toNat) (Char.ofNat h2.toNat)

/-- The loop of `percent_decode`: the end of the text supplies zeros, and what
follows `%` is lost where it is not a byte. -/
def percentDecodeBytes : Bytes → Bytes
  | [] => []
  | [b] => if b = 37 then [(fromStrRadix 48 48).getD b] else [b]
  | [b, h1] => if b = 37 then [(fromStrRadix h1 48).getD b] else b :: percentDecodeBytes [h1]
  | b :: h1 :: h2 :: rest =>
      if b = 37 then (fromStrRadix h1 h2).getD b :: percentDecodeBytes rest
      else b :: percentDecodeBytes (h1 :: h2 :: rest)

def percentDecode (input : String) : String :=
  (fromUtf8 (percentDecodeBytes (utf8 input))).getD input

/-- The engines in turn, the first that gives a text. -/
def decodeBase64Variants (base64 : Base64Crate) (input : String) : Option String :=
  let normalized := trim input
  ((base64.urlSafeNoPadDecode normalized).bind fromUtf8).or
    (((base64.urlSafeDecode normalized).bind fromUtf8).or
      ((base64.standardDecode normalized).bind fromUtf8))

/-! ## Export -/

variable (url : UrlCrate) (base64 : Base64Crate)

/-- `byte_serialize(text.as_bytes()).collect()`. -/
def serializeText (text : String) : String := url.byteSerialize (utf8 text)

/-- The remarks of a profile that has a name of its own. -/
def nameFragment (profile : ProxyProfile) : String :=
  if profile.name ≠ "" ∧ profile.name ≠ "New Server" then
    "#" ++ serializeText url profile.name
  else ""

/-- A text that is set and not empty. -/
def nonEmpty (text : Option String) : Option String := text.filter (· ≠ "")

/-- A parameter that is set and not empty. -/
def optionalParam (key : String) (value : Option String) : List String :=
  (nonEmpty value).toList.map fun value => key ++ "=" ++ serializeText url value

def juicityParams (profile : ProxyProfile) : List String :=
  optionalParam url "sni" profile.sni ++
  (if profile.allowInsecure then ["allowInsecure=1"] else []) ++
  optionalParam url "congestion_control" profile.congestionControl ++
  optionalParam url "pinned_certchain_sha256" profile.pinnedCertchainSha256

def exportJuicityLink (profile : ProxyProfile) : Except Failure String :=
  if profile.server = "" ∨ profile.uuid = "" ∨ profile.password = "" then
    .error (.bail "juicity profile is missing server/uuid/password")
  else
    let userinfo := serializeText url profile.uuid ++ ":" ++ serializeText url profile.password
    let params := juicityParams url profile
    .ok ("juicity://" ++ userinfo ++ "@" ++ formatHostPort profile.server profile.serverPort ++
      (if params ≠ [] then "?" ++ String.intercalate "&" params else "") ++
      nameFragment url profile)

/-- A plugin with its options. -/
def pluginText (plugin : String) (opts : Option String) : String :=
  plugin ++ ((nonEmpty opts).map (";" ++ ·)).getD ""

def pluginParam (profile : ProxyProfile) : String :=
  ((nonEmpty profile.plugin).map fun plugin =>
    "?plugin=" ++ serializeText url (pluginText plugin profile.pluginOpts)).getD ""

def exportSsLink (profile : ProxyProfile) : Except Failure String :=
  if profile.server = "" ∨ profile.password = "" then
    .error (.bail "shadowsocks profile is missing server/password")
  else
    let userinfo := profile.method ++ ":" ++ profile.password
    let b64 := base64.urlSafeNoPadEncode (utf8 userinfo)
    .ok ("ss://" ++ b64 ++ "@" ++ formatHostPort profile.server profile.serverPort ++
      pluginParam url profile ++ nameFragment url profile)

def exportShareLink (profile : ProxyProfile) : Except Failure String :=
  match profile.protocol with
  | .juicity => exportJuicityLink url profile
  | .shadowsocks => exportSsLink url base64 profile

/-! ## Import -/

/-- The parameters of a Juicity link, as they are read. -/
structure JuicityParams where
  sni : Option String
  allowInsecure : Bool
  pinnedCertchainSha256 : Option String
  congestionControl : Option String

/-- One turn of the loop over the pairs of the query. -/
def JuicityParams.read (params : JuicityParams) (pair : String × String) : JuicityParams :=
  let (k, v) := pair
  if k = "sni" then { params with sni := some v }
  else if k = "pinned_certchain_sha256" ∧ v ≠ "" then
    { params with pinnedCertchainSha256 := some v }
  else if k = "congestion_control" then
    { params with congestionControl := normalizeCongestionControl v }
  else if k = "allowInsecure" ∨ k = "allow_insecure" then
    -- only ASCII letters have an ASCII lower case in "true"
    { params with allowInsecure := v = "1" ∨ toAsciiLowercase v = "true" }
  else params

/-- The remarks of a link, or its address. -/
def linkName (fragment : Option String) (host : String) (port : UInt16) : String :=
  ((fragment.filter (trim · ≠ "")).map percentDecode).getD (host ++ ":" ++ toString port.toNat)

/-- The link of a parsed URL. -/
def juicityLinkOf (url : Url) : Except Failure ImportedShareLink :=
  if url.scheme ≠ "juicity" then .error (.bail "invalid juicity scheme")
  else
    let uuid := url.username
    if uuid = "" then .error (.bail "juicity link missing uuid in userinfo")
    else
      let password := url.password.getD ""
      if password = "" then .error (.bail "juicity link missing password in userinfo")
      else do
        let host ← context "juicity link missing host" url.hostStr
        let port ← context "juicity link missing port" url.port
        let params := url.queryPairs.foldl JuicityParams.read ⟨none, false, none, none⟩
        return {
          protocol := .juicity
          name := linkName url.fragment host port
          server := host
          serverPort := port
          password := percentDecode password
          uuid := percentDecode uuid
          sni := params.sni
          allowInsecure := params.allowInsecure
          pinnedCertchainSha256 := params.pinnedCertchainSha256
          congestionControl := params.congestionControl
          method := ""
          plugin := none
          pluginOpts := none }

def parseJuicityLink (raw : String) : Except Failure ImportedShareLink := do
  let url ← context "invalid juicity link" (url.parse raw)
  juicityLinkOf url

/-- One turn of the loop over the pairs of the query: plugin and options. -/
def readPlugin (plugin : Option String × Option String) (pair : String × String) :
    Option String × Option String :=
  if pair.1 = "plugin" then
    match splitOnce ';' pair.2 with
    | some (prog, opts) => (some prog, some opts)
    | none => (some pair.2, plugin.2)
  else plugin

/-- Plain credentials, or base64 of them as the username. -/
def ssCredentials (username : String) (password : Option String) :
    Except Failure (String × String) :=
  match password with
  | some plainPass => .ok (percentDecode username, percentDecode plainPass)
  | none => do
      let decoded ← context
        "ss link username must be plain method:password or base64(method:password)"
        (decodeBase64Variants base64 username)
      context "ss credentials missing method:password pair" (splitOnce ':' decoded)

/-- The link of a parsed URL. -/
def ssLinkOf (url : Url) : Except Failure ImportedShareLink :=
  if url.scheme ≠ "ss" then .error (.bail "invalid ss scheme")
  else do
    let host ← context "ss link missing host" url.hostStr
    let port ← context "ss link missing port" url.port
    if url.username = "" then .error (.bail "ss link missing user info")
    else do
      let (method, password) ← ssCredentials base64 url.username url.password
      let (plugin, pluginOpts) := url.queryPairs.foldl readPlugin (none, none)
      return {
        protocol := .shadowsocks
        name := linkName url.fragment host port
        server := host
        serverPort := port
        password := password
        uuid := ""
        sni := none
        allowInsecure := false
        pinnedCertchainSha256 := none
        congestionControl := none
        method := method
        plugin := plugin
        pluginOpts := pluginOpts }

def parseSsSip002 (raw : String) : Except Failure ImportedShareLink := do
  let url ← context "invalid ss link" (url.parse raw)
  ssLinkOf base64 url

def parseSsLegacy (raw : String) : Except Failure ImportedShareLink := do
  let (encoded, remark) := cut '#' (raw.toList.drop "ss://".toList.length)
  let decoded ← context "legacy ss link must be base64(method:password@host:port)"
    (decodeBase64Variants base64 (String.ofList encoded))
  let (creds, endpoint) ← context "legacy ss link decoded payload missing '@'"
    (Machine.Url.cutLast '@' decoded.toList)
  let (method, password) ← context "legacy ss credentials missing method:password pair"
    (splitOnce ':' (String.ofList creds))
  match splitHostPort (String.ofList endpoint) with
  | none => throw .panicked
  | some (host, port) =>
      return {
        protocol := .shadowsocks
        name := linkName (remark.map String.ofList) host port
        server := host
        serverPort := port
        password := password
        uuid := ""
        sni := none
        allowInsecure := false
        pinnedCertchainSha256 := none
        congestionControl := none
        method := method
        plugin := none
        pluginOpts := none }

def parseSsLink (raw : String) : Except Failure ImportedShareLink :=
  if '@' ∈ raw.toList.drop "ss://".toList.length then parseSsSip002 url base64 raw
  else parseSsLegacy base64 raw

def importShareLink (input : String) : Except Failure ImportedShareLink :=
  let raw := trim input
  if raw.toList.take 10 = "juicity://".toList then parseJuicityLink url raw
  else if raw.toList.take 5 = "ss://".toList then parseSsLink url base64 raw
  else .error (.bail "unsupported link scheme: only juicity:// and ss:// are accepted")

end Juicity.Gui

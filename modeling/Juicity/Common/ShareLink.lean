import Juicity.Common.Text
import Juicity.Common.UrlCrate

/-!
Owns `common/src/link.rs`: the share link of a configuration, its credentials
and parameters form-encoded, and the parser of `host:port` texts.
-/

namespace Juicity.Common

open Juicity.Machine

/-- What a share link is made of. -/
structure Config where
  server : String
  uuid : String
  password : String
  sni : String
  allowInsecure : Bool
  pinnedCertchainSha256 : String
  users : List (String × String)
  listen : String
  congestionControl : String
deriving DecidableEq

namespace Link

/-- The port of an address, which names the whole address where it is refused. -/
def portOf (addr : String) (port : List Char) : Except String UInt16 :=
  match parseU16 port with
  | some port => .ok port
  | none => .error ("Invalid port in address: " ++ addr)

def parseHostPort (addr : String) : Except String (String × UInt16) :=
  if addr.toList.head? = some '[' then
    match cut ']' addr.toList.tail with
    | (host, some (':' :: port)) => do
        let port ← portOf addr port
        return (String.ofList host, port)
    | _ => .error ("Invalid IPv6 address format: " ++ addr)
  else
    match Machine.Url.cutLast ':' addr.toList with
    | some (host, port) =>
        if port = [] ∨ ¬port.all (isDigitOf 10) then
          .error ("Invalid port in address: " ++ addr)
        else do
          let port ← portOf addr port
          return (String.ofList host, port)
    | none => .error ("Address must be in host:port format, got: " ++ addr)

/-- `Serializer::new(String::new()).append_pair("", value).finish()`. -/
def appendPair (url : UrlCrate) (value : String) : String :=
  url.byteSerialize (utf8 "") ++ "=" ++ url.byteSerialize (utf8 value)

/-- `strip_prefix('=')`. -/
def stripEquals (text : String) : Option String :=
  if text.toList.head? = some '=' then some (String.ofList text.toList.tail) else none

def urlEncodeParam (url : UrlCrate) (value : String) : String :=
  (stripEquals (appendPair url value)).getD ""

/-- The credentials of a client, or the first of the users of a server. -/
def credentials (config : Config) : Except String (String × String) :=
  if config.uuid ≠ "" ∧ config.password ≠ "" then .ok (config.uuid, config.password)
  else
    match config.users with
    | (uid, pw) :: _ => .ok (uid, pw)
    | [] => .error "No valid user credentials found in config"

/-- The parameters of a link. -/
def queryParts (url : UrlCrate) (config : Config) (host : String)
    (sniOverride certSha256Override : Option String) : List String :=
  let sni := (sniOverride.or (if config.sni ≠ "" then some config.sni else none)).getD host
  let certSha256 := (certSha256Override.filter (· ≠ "")).or
    (if config.pinnedCertchainSha256 ≠ "" then some config.pinnedCertchainSha256 else none)
  ["sni=" ++ urlEncodeParam url sni] ++
  (if config.congestionControl ≠ "" then
    ["congestion_control=" ++ urlEncodeParam url config.congestionControl]
  else []) ++
  ["allow_insecure=" ++ if config.allowInsecure then "1" else "0"] ++
  certSha256.toList.map fun sha256 => "pinned_certchain_sha256=" ++ urlEncodeParam url sha256

def generateShareLink (url : UrlCrate) (config : Config)
    (hostOverride sniOverride certSha256Override : Option String) : Except String String := do
  let (uuid, password) ← credentials config
  let serverAddr := if config.server ≠ "" then config.server else config.listen
  let (baseHost, port) ← parseHostPort serverAddr
  let host := hostOverride.getD baseHost
  let encodedUuid := (stripEquals (appendPair url uuid)).getD (appendPair url uuid)
  let encodedPassword := (stripEquals (appendPair url password)).getD (appendPair url password)
  let queryString :=
    String.intercalate "&" (queryParts url config host sniOverride certSha256Override)
  return "juicity://" ++ encodedUuid ++ ":" ++ encodedPassword ++ "@" ++ host ++ ":" ++
    toString port.toNat ++ "?" ++ queryString

end Link

end Juicity.Common

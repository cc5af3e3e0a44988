import Juicity.Gui.Config

/-!
Owns `gui/src/pac.rs`: the rule lists, the PAC text generated from them, and the
server that holds it. Binding the listener and answering requests happen outside
the model.
-/

namespace Juicity.Gui

open Juicity.Common

/-- The `pac_listen` value the server was started with, and the text it serves. -/
structure PacServer where
  listen : String
  content : String
deriving DecidableEq

def PacServer.update (server : PacServer) (content : String) : PacServer :=
  { server with content }

/-- URL that browsers and the system proxy are configured with. -/
def pacUrl (listenAddr : String) : String := "http://" ++ listenAddr ++ "/pac"

/-! ## Rule lists -/

/-- The domain of a line of a rule list; `regexp:` and `keyword:` rules are skipped. -/
def parseDomain (line : String) : Option String :=
  let text := line.toList
  if "regexp:".toList.isPrefixOf text ∨ "keyword:".toList.isPrefixOf text then none
  else
    match text.dropPrefix? "full:".toList with
    | some domain => some (String.ofList domain)
    | none =>
        match text.dropPrefix? "domain:".toList with
        | some domain => some (String.ofList domain)
        | none => if containsColon line then none else some line

def parseDomainList (content : String) : List String :=
  ((lines content).filter fun line => line ≠ "" ∧ line.toList.head? ≠ some '#').filterMap
    parseDomain

/-- `load_rules`: a missing file holds no rule. -/
def Storage.loadRules (storage : Storage) : List String × List String :=
  ((storage.chinaList.map parseDomainList).getD [], (storage.gfw.map parseDomainList).getD [])

/-! ## Generation -/

/-- An object literal with one property for each domain, quotes removed. -/
def domainsToJsObject (domains : List String) : String :=
  let entry (domain : String) : String :=
    "\"" ++ String.ofList (domain.toList.filter (· ≠ '"')) ++ "\":1"
  "\x7b" ++ ",".intercalate (domains.map entry) ++ "\x7d"

def generateBypassChinaPac (mixedAddr : String) (directDomains : List String) : String :=
  "/* PAC – Bypass China (generated by juicity-gui) */\n" ++
  "var directDomains = " ++ domainsToJsObject directDomains ++ ";\n" ++
  "function FindProxyForURL(url, host) \x7b\n" ++
  "    host = host.toLowerCase();\n" ++
  "    var parts = host.split('.');\n" ++
  "    for (var i = 0; i < parts.length - 1; i++) \x7b\n" ++
  "        var d = parts.slice(i).join('.');\n" ++
  "        if (directDomains[d]) return \"DIRECT\";\n" ++
  "    \x7d\n" ++
  "    return \"SOCKS5 " ++ mixedAddr ++ "; PROXY " ++ mixedAddr ++ "; DIRECT\";\n" ++
  "\x7d"

def generateProxyGfwPac (mixedAddr : String) (proxyDomains : List String) : String :=
  "/* PAC – GFW List Only (generated by juicity-gui) */\n" ++
  "var proxyDomains = " ++ domainsToJsObject proxyDomains ++ ";\n" ++
  "function FindProxyForURL(url, host) \x7b\n" ++
  "    host = host.toLowerCase();\n" ++
  "    var parts = host.split('.');\n" ++
  "    for (var i = 0; i < parts.length - 1; i++) \x7b\n" ++
  "        var d = parts.slice(i).join('.');\n" ++
  "        if (proxyDomains[d]) return \"SOCKS5 " ++ mixedAddr ++ "; PROXY " ++ mixedAddr ++
    "; DIRECT\";\n" ++
  "    \x7d\n" ++
  "    return \"DIRECT\";\n" ++
  "\x7d"

def generatePac (mode : PacRuleMode) (mixedAddr : String) (direct proxy : List String) : String :=
  match mode with
  | .bypassChina => generateBypassChinaPac mixedAddr direct
  | .proxyGfw => generateProxyGfwPac mixedAddr proxy

end Juicity.Gui

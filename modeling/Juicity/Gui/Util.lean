import Juicity.Common.CachedAddr
import Juicity.Common.Text
import Juicity.Machine.Url

/-!
Owns `gui/src/util.rs`: addresses as one text and as host and port.
-/

namespace Juicity.Gui

open Juicity.Common Juicity.Machine

/-- The text before the first `]:`, and the text after it. -/
def endOfBrackets : List Char → Option (List Char × List Char)
  | ']' :: ':' :: port => some ([], port)
  | char :: rest =>
      match endOfBrackets rest with
      | some (host, port) => some (char :: host, port)
      | none => none
  | [] => none

/-- `addr[1..addr.len() - 1]`, which panics where it ends before it begins or inside
a character. -/
def insideBrackets (addr : List Char) : Option (List Char) :=
  match addr.tail.getLast? with
  | some last => if last.toNat < 128 then some addr.tail.dropLast else none
  | none => none

/-- No result is a panic. -/
def splitHostPort (addr : String) : Option (String × UInt16) :=
  if addr.toList.head? = some '[' then
    match endOfBrackets addr.toList.tail with
    | some (host, port) => some (String.ofList host, (parseU16 port).getD 0)
    | none => (insideBrackets addr.toList).map fun host => (String.ofList host, 0)
  else
    match Machine.Url.cutLast ':' addr.toList with
    | some (host, port) => some (String.ofList host, (parseU16 port).getD 0)
    | none => some (addr, 0)

/-- Brackets stand around an IPv6 address. -/
def formatHostPort (host : String) (port : UInt16) : String :=
  if containsColon host then "[" ++ host ++ "]:" ++ toString port.toNat
  else host ++ ":" ++ toString port.toNat

end Juicity.Gui

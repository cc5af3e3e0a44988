import Juicity.Gui.PacServe.Model
import Mathlib.Data.List.Infix

/-!
Owns what is read of a request. A head that ends with its only blank line is read
to the end however it is cut up, and nothing behind it is waited for, so that
nothing of it is left unread when the answer is written.
-/

namespace Juicity.Gui.PacServe

open Juicity.Common
open Juicity.Machine

/-- A blank line stands somewhere. -/
def Blank (head : Bytes) : Prop := [10, 10] <:+: head ∨ [10, 13, 10] <:+: head

/-- A request head that fits and ends with its only blank line. -/
structure Request where
  bytes : Bytes
  fits : bytes.length ≤ maxHeadLen
  blank : Blank bytes
  only : ∀ front, front <+: bytes → front ≠ bytes → ¬Blank front

section Request

variable (request : Request)

end Request

end Juicity.Gui.PacServe

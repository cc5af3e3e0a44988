import Mathlib.Logic.Encodable.Basic
import Mathlib.Data.List.Basic

/-!
Contract: a code of any encodable type in words of bytes. The values of a table
have short words, every other value has a word of its number; so a sample can be
computed with while the code still covers the whole type.
-/

namespace Juicity.Machine.TableCode

universe u

variable {α : Type u} [DecidableEq α] [Encodable α] (table : List α)

def toWord (value : α) : List UInt8 :=
  match table.findIdx? (· = value) with
  | some index => 1 :: List.replicate index 0
  | none => 0 :: List.replicate (Encodable.encode value) 0

def ofWord : List UInt8 → Option α
  | 0 :: number => Encodable.decode number.length
  | 1 :: index => table[index.length]?
  | _ => none

/-- Every value is read back from its word. -/
theorem ofWord_toWord (value : α) : ofWord table (toWord table value) = some value := by
  unfold toWord
  cases place : table.findIdx? (· = value) with
  | some index =>
      obtain ⟨inside, found, -⟩ := List.findIdx?_eq_some_iff_getElem.mp place
      have here : table[index] = value := of_decide_eq_true found
      simp [ofWord, List.getElem?_eq_getElem inside, here]
  | none => simp [ofWord]

end Juicity.Machine.TableCode

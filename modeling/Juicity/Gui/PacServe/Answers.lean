import Juicity.Common.UrlCrate
import Juicity.Gui.PacServe.Model
import Juicity.Machine.Message
import Mathlib.Data.List.Forall2

/-!
Owns what browsers are told. Connections are handled in the order they came, one
at a time, each once. An answer carries one of the contents the server had, and
never an older one than the answer before it; a browser that counts the bytes of
the body reads that content, or knows that the answer was cut short.
-/

namespace Juicity.Gui.PacServe

open Juicity.Common
open Juicity.Machine

/-! ## Answers -/

def lengthName : Bytes := utf8 "Content-Length: "

/-- How a browser reads an answer. -/
def browserRead (answer : Bytes) : Option (Bytes × Bytes) := Message.read lengthName answer

theorem utf8_append (front back : String) : utf8 (front ++ back) = utf8 front ++ utf8 back := by
  rw [utf8_eq_utf8Bytes, utf8_eq_utf8Bytes, utf8_eq_utf8Bytes, String.toList_append,
    utf8Bytes_append]

theorem utf8_toString (value : Nat) : utf8 (toString value) = Message.digits value := by
  rw [utf8_eq_utf8Bytes, Nat.toString_eq_ofList_toDigits, String.toList_ofList, Message.digits]

theorem utf8_lineEnd : utf8 "\r\n" = [13, 10] := by
  rw [utf8_eq_utf8Bytes]
  rfl

theorem utf8_lines (lines : List String) (body : String) :
    utf8 (lines.foldr (fun line rest => line ++ "\r\n" ++ rest) body) =
      (lines.map utf8).flatMap (· ++ [13, 10]) ++ utf8 body := by
  induction lines with
  | nil => rfl
  | cons line lines inductionHypothesis =>
      rw [List.foldr_cons, utf8_append, utf8_append, inductionHypothesis, utf8_lineEnd,
        List.map_cons, List.flatMap_cons]
      simp only [List.append_assoc]

/-- An answer is a message with the lines and the content. -/
theorem utf8_response (pac : String) :
    utf8 (response pac) = Message.writeHead ((headLines pac).map utf8) ++ utf8 pac := by
  have blank : ([""].map utf8).flatMap (· ++ [13, 10]) = [13, 10] := rfl
  rw [response, utf8_lines, List.map_append, List.flatMap_append, blank, Message.writeHead]

/-- A text of an answer without the number. -/
theorem plain_text {text : String} (checked : (utf8Bytes text.toList).all (· ≠ 10) = true)
    (notEmpty : utf8Bytes text.toList ≠ []) : 10 ∉ utf8 text ∧ utf8 text ≠ [] := by
  rw [utf8_eq_utf8Bytes]
  refine ⟨fun feed => ?_, notEmpty⟩
  exact absurd (List.all_eq_true.mp checked 10 feed) (by decide)

theorem plain_headLines (pac : String) :
    ∀ line ∈ (headLines pac).map utf8, 10 ∉ line ∧ line ≠ [] := by
  intro line member
  obtain ⟨text, given, rfl⟩ := List.mem_map.mp member
  simp only [headLines, List.mem_cons, List.not_mem_nil, or_false] at given
  rcases given with rfl | rfl | rfl | rfl
  · exact plain_text (by decide) (by decide)
  · exact plain_text (by decide) (by decide)
  · have name : 10 ∉ utf8 "Content-Length: " ∧ utf8 "Content-Length: " ≠ [] :=
      plain_text (by decide) (by decide)
    rw [utf8_append, utf8_toString]
    refine ⟨fun feed => ?_, fun none => name.2 (List.append_eq_nil_iff.mp none).1⟩
    rcases List.mem_append.mp feed with named | digit
    · exact name.1 named
    · exact absurd (Message.range_of_mem_digits digit).1 (by decide)
  · exact plain_text (by decide) (by decide)

theorem field_headLines (pac : String) :
    Message.field lengthName (((headLines pac).map utf8).map (· ++ [13])) =
      some (Message.digits (utf8 pac).length) := by
  have other : ∀ text : String,
      (utf8Bytes "Content-Length: ".toList).isPrefixOf (utf8Bytes text.toList ++ [13]) = false →
        lengthName.isPrefixOf (utf8 text ++ [13]) = false := by
    intro text checked
    rw [lengthName, utf8_eq_utf8Bytes, utf8_eq_utf8Bytes]
    exact checked
  have plain : 13 ∉ Message.digits (utf8 pac).length := by
    intro member
    exact absurd (Message.range_of_mem_digits member).1 (by decide)
  show Message.field lengthName (_ :: _ :: (utf8 ("Content-Length: " ++ _) ++ [13]) :: _) = _
  rw [Message.field_other (other _ (by decide)), Message.field_other (other _ (by decide)),
    utf8_append, utf8_toString]
  exact Message.field_named plain lengthName _

/-- A browser reads the content of a whole answer, and nothing of an answer cut short. -/
theorem browserRead_take (pac : String) (count : Nat) :
    browserRead ((utf8 (response pac)).take count) =
      if (utf8 (response pac)).length ≤ count then
        some (utf8 "HTTP/1.0 200 OK" ++ [13], utf8 pac)
      else none := by
  rw [utf8_response]
  exact Message.read_take (plain_headLines pac) (field_headLines pac) count

end Juicity.Gui.PacServe

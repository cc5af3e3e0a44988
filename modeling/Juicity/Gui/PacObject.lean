import Juicity.Gui.ScriptLiterals

/-!
Owns what a downloaded rule can do to the object literal it is written into.

Contract: the object is one property for each rule, and every character of a rule
stands inside of the literal of that rule, exactly when each rule less its quotes
is the text of a literal.
-/

namespace Juicity.Gui.PacObject

open Juicity.Gui.Script Juicity.Machine

/-- Rules, each with what stands between it and the next one. -/
def rulesText (before : List (List Char)) : List Char :=
  before.flatMap fun safe => safe ++ ['"', ':', '1', ',', '"']

/-- The text of an object up to the first character of its next rule. -/
def textBefore (before : List (List Char)) : List Char := '\x7b' :: '"' :: rulesText before

/-- The object is one property for each rule, and no character of a rule is outside of the
literal that the rule is written into. -/
structure Contained (domains : List String) : Prop where
  properties : ∃ keys, finished (readAll ⟨[], .start⟩ (domainsToJsObject domains).toList) =
    some keys ∧ keys.length = domains.length
  inside : ∀ before domain after front back, domains = before ++ domain :: after →
    sanitise domain = front ++ back →
      ∃ keys lex read, readAll ⟨[], .start⟩ (textBefore (before.map sanitise) ++ front) =
        some ⟨keys, .key lex read⟩

theorem rulesText_cons (safe : List Char) (before : List (List Char)) :
    rulesText (safe :: before) = safe ++ '"' :: ':' :: '1' :: ',' :: '"' :: rulesText before := by
  rw [rulesText, List.flatMap_cons, List.append_assoc]
  rfl

theorem tailText_append (before : List (List Char)) (safe : List Char)
    (after : List (List Char)) :
    tailText (before ++ safe :: after) =
      ',' :: '"' :: (rulesText before ++ (safe ++ '"' :: ':' :: '1' :: tailText after)) := by
  induction before with
  | nil => rfl
  | cons first before inductionHypothesis =>
      rw [List.cons_append, tailText, inductionHypothesis, rulesText_cons]
      simp only [List.append_assoc, List.cons_append]

theorem objectText_append (before : List (List Char)) (safe : List Char)
    (after : List (List Char)) :
    objectText (before ++ safe :: after) =
      textBefore before ++ (safe ++ '"' :: ':' :: '1' :: tailText after) := by
  cases before with
  | nil => rfl
  | cons first before =>
      rw [List.cons_append, objectText, tailText_append, textBefore, rulesText_cons]
      simp only [List.append_assoc, List.cons_append]

/-- The text of an object around one of its rules. -/
theorem toList_domainsToJsObject_append (before : List String) (domain : String)
    (after : List String) :
    (domainsToJsObject (before ++ domain :: after)).toList =
      textBefore (before.map sanitise) ++
        (sanitise domain ++ '"' :: ':' :: '1' :: tailText (after.map sanitise)) := by
  rw [toList_domainsToJsObject, List.map_append, List.map_cons, objectText_append]

/-- The rules in front of a rule are read as keys. -/
theorem readAll_rulesText (keys : List (List Char)) {before values : List (List Char)}
    (rest : List Char)
    (plain : ∀ safe ∈ before, '"' ∉ safe) (whole : before.mapM literalValue = some values) :
    readAll ⟨keys, .key .plain []⟩ (rulesText before ++ rest) =
      readAll ⟨keys ++ values, .key .plain []⟩ rest := by
  rw [mapM_eq_some_iff] at whole
  induction before generalizing keys values with
  | nil =>
      rw [List.map_eq_nil_iff.mp whole.symm, List.append_nil]
      rfl
  | cons safe before inductionHypothesis =>
      rw [List.forall_mem_cons] at plain
      cases values with
      | nil => cases whole
      | cons value values =>
          obtain ⟨first, later⟩ := List.cons.inj whole
          rw [rulesText_cons, List.append_assoc, List.cons_append, readAll_whole plain.1 first]
          change readAll ⟨keys ++ [value], .key .plain []⟩ (rulesText before ++ rest) = _
          rw [inductionHypothesis (keys ++ [value]) plain.2 later, List.append_assoc,
        List.singleton_append]

/-- A front part of a literal is read inside of it. -/
theorem readAll_front {keys : List (List Char)} {lex : Lex} {front back : List Char}
    (plain : '"' ∉ front) (ends : Ends lex (front ++ back)) (read : List Char) :
    ∃ next more, readAll ⟨keys, .key lex read⟩ front = some ⟨keys, .key next more⟩ := by
  induction front generalizing lex read with
  | nil => exact ⟨lex, read, rfl⟩
  | cons char front inductionHypothesis =>
      rw [List.mem_cons, not_or] at plain
      obtain ⟨value, next, moved, later⟩ := (ends_cons (Ne.symm plain.1)).mp ends
      obtain ⟨last, more, stays⟩ := inductionHypothesis plain.2 later (read ++ value)
      exact ⟨last, more, by rw [readAll_key, moved]; exact stays⟩

/-- The rules are contained in their literals exactly when none of them breaks the line or
ends inside of an escape, and each of them has whole escapes. -/
theorem contained_iff (content : String) :
    Contained (parseDomainList content) ↔
      ∀ domain ∈ parseDomainList content, Escaped (sanitise domain) := by
  generalize parseDomainList content = domains
  have read := finished_object (domains.map sanitise) (quote_notMem_map_sanitise domains)
  rw [← toList_domainsToJsObject] at read
  constructor
  · intro contained domain member
    obtain ⟨keys, accepted, _⟩ := contained.properties
    rw [read, mapM_eq_some_iff] at accepted
    have whole := List.mem_map_of_mem (f := literalValue)
      (List.mem_map_of_mem (f := sanitise) member)
    rw [accepted] at whole
    obtain ⟨value, _, found⟩ := List.mem_map.mp whole
    rw [← literalValue_ne_none_iff (quote_notMem_sanitise domain), ← found]
    exact Option.some_ne_none value
  · intro escaped
    have whole : ∀ domain ∈ domains, literalValue (sanitise domain) ≠ none :=
      fun domain member =>
        (literalValue_ne_none_iff (quote_notMem_sanitise domain)).mpr (escaped domain member)
    constructor
    · obtain ⟨keys, mapped⟩ := exists_map_some whole
      have lengths := congrArg List.length mapped
      rw [List.length_map, List.length_map] at lengths
      refine ⟨keys, ?_, lengths.symm⟩
      rw [read, mapM_eq_some_iff, List.map_map]
      exact mapped
    · rintro before domain after front back rfl shape
      obtain ⟨keys, mapped⟩ := exists_map_some fun other member =>
        whole other (List.mem_append_left _ member)
      have first := readAll_rulesText [] front (quote_notMem_map_sanitise before)
        (mapM_eq_some_iff.mpr ((List.map_map).trans mapped))
      have inside := whole domain (List.mem_append_right _ List.mem_cons_self)
      have plain : '"' ∉ front := fun member =>
        quote_notMem_sanitise domain (shape ▸ List.mem_append_left _ member)
      rw [shape] at inside
      obtain ⟨next, more, stays⟩ := readAll_front plain inside []
      exact ⟨_, next, more, first.trans stays⟩

/-- A rule that ends in a backslash takes the quote behind it into its literal, and the next
rule continues the script. -/
theorem backslash_escapes :
    parseDomainList "a\\\ndomain::1\x7d;alert(1)//" = ["a\\", ":1\x7d;alert(1)//"] ∧
      readAll ⟨[], .start⟩ "\x7b\"a\\\":1,\":1\x7d".toList = some ⟨["a\":1,".toList], .closed⟩ ∧
      ¬Contained (parseDomainList "a\\\ndomain::1\x7d;alert(1)//") := by
  refine ⟨by decide +kernel, by decide +kernel, fun contained => ?_⟩
  obtain ⟨keys, accepted, _⟩ := contained.properties
  have refused : finished (readAll ⟨[], .start⟩
      (domainsToJsObject (parseDomainList "a\\\ndomain::1\x7d;alert(1)//")).toList) = none := by
    decide +kernel
  rw [refused] at accepted
  cases accepted

end Juicity.Gui.PacObject

import Juicity.Gui.Script
import Mathlib.Data.Bool.AllAny
import Mathlib.Data.List.Count

/-!
Owns what a rule list says of a host, and when the generated script says the same.

Contract: a rule that is bare or stands behind `domain:` is for a host and for what
is under it; one behind `full:` is for a host only. The script looks up each text
with a dot that the host ends in at a label, so the two agree exactly when the
entries with a dot and the rules cover each other.
-/

namespace Juicity.Gui.PacRouting

open Juicity.Common
open Juicity.Machine Juicity.Machine.Labels
open Juicity.Gui.Script

/-! ## Rules and hosts -/

/-- A rule that is bare or stands behind `domain:`, or one that stands behind `full:`. -/
inductive Rule where
  | domain (name : String)
  | full (name : String)
deriving DecidableEq

def Rule.name : Rule → String
  | .domain name | .full name => name

/-- The rule of a line; `regexp:` and `keyword:` rules and unknown prefixes are none. -/
def ruleOf (line : String) : Option Rule :=
  let text := line.toList
  if "regexp:".toList.isPrefixOf text ∨ "keyword:".toList.isPrefixOf text then none
  else
    match text.dropPrefix? "full:".toList with
    | some name => some (.full (String.ofList name))
    | none =>
        match text.dropPrefix? "domain:".toList with
        | some name => some (.domain (String.ofList name))
        | none => if containsColon line then none else some (.domain line)

/-- The rules of a list; empty lines and comments are none. -/
def rulesOf (content : String) : List Rule :=
  ((lines content).filter fun line => line ≠ "" ∧ line.toList.head? ≠ some '#').filterMap ruleOf

def IsAscii (text : List Char) : Prop := ∀ char ∈ text, char.toNat < 128

/-- A host name as a script is given it: names in other scripts are in their ASCII form. -/
structure HostName where
  text : String
  ascii : IsAscii text.toList

/-- A text in lower case. -/
def lowered (text : String) : List Char := (toAsciiLowercase text).toList

/-- Whether a rule is for a host in lower case. -/
def Rule.Matches : Rule → List Char → Prop
  | .domain name, host => Under '.' host (lowered name)
  | .full name, host => host = lowered name

def Listed (rules : List Rule) (host : HostName) : Prop :=
  ∃ rule ∈ rules, rule.Matches (lowered host.text)

/-- Whether an answer treats a host as listed: directly, or through the proxy. -/
def takenAsListed (mode : PacRuleMode) (answer : String) : Bool :=
  match mode with
  | .bypassChina => answer = "DIRECT"
  | .proxyGfw => "SOCKS5 ".toList.isPrefixOf answer.toList

/-- The script of a rule list; the other list has no part in it. -/
def pacOf (mode : PacRuleMode) (mixedAddr content : String) (others : List String) : String :=
  match mode with
  | .bypassChina => generatePac mode mixedAddr (parseDomainList content) others
  | .proxyGfw => generatePac mode mixedAddr others (parseDomainList content)

theorem parseDomain_eq (line : String) : parseDomain line = (ruleOf line).map Rule.name := by
  by_cases skipped :
      "regexp:".toList.isPrefixOf line.toList ∨ "keyword:".toList.isPrefixOf line.toList
  · rw [parseDomain, ruleOf, if_pos skipped, if_pos skipped]
    rfl
  · rw [parseDomain, ruleOf, if_neg skipped, if_neg skipped]
    cases line.toList.dropPrefix? "full:".toList with
    | some name => rfl
    | none =>
        cases line.toList.dropPrefix? "domain:".toList with
        | some name => rfl
        | none =>
            cases containsColon line with
            | true => rfl
            | false => rfl

theorem parseDomainList_eq (content : String) :
    parseDomainList content = (rulesOf content).map Rule.name := by
  rw [parseDomainList, rulesOf, List.map_filterMap]
  exact congrFun (congrArg List.filterMap (funext parseDomain_eq)) _

/-! ## Lower case -/

def lowerChar (char : Char) : Char :=
  if 65 ≤ char.toNat ∧ char.toNat ≤ 90 then Char.ofNat (char.toNat + 32) else char

theorem lowered_eq_map (text : String) : lowered text = text.toList.map lowerChar :=
  String.toList_ofList

theorem lowered_ofList (text : List Char) : lowered (String.ofList text) = text.map lowerChar := by
  rw [lowered_eq_map, String.toList_ofList]

/-- A capital is one of 26 characters. -/
theorem forall_char {holds : Char → Prop}
    (capital : ∀ offset : Fin 26, holds (Char.ofNat (65 + offset.val)))
    (other : ∀ char : Char, ¬(65 ≤ char.toNat ∧ char.toNat ≤ 90) → holds char) (char : Char) :
    holds char := by
  by_cases upper : 65 ≤ char.toNat ∧ char.toNat ≤ 90
  · have known := capital ⟨char.toNat - 65, by omega⟩
    rwa [Nat.add_sub_cancel' upper.1, Char.ofNat_toNat] at known
  · exact other char upper

theorem lowerChar_lowerChar (char : Char) : lowerChar (lowerChar char) = lowerChar char := by
  induction char using forall_char with
  | capital offset => revert offset; decide
  | other char plain => rw [lowerChar, lowerChar, if_neg plain, if_neg plain]

theorem lowerChar_lt (char : Char) : (lowerChar char).toNat < 128 ↔ char.toNat < 128 := by
  induction char using forall_char with
  | capital offset => revert offset; decide
  | other char plain => rw [lowerChar, if_neg plain]

theorem isAscii_map_lowerChar (text : List Char) : IsAscii (text.map lowerChar) ↔ IsAscii text := by
  rw [IsAscii, List.forall_mem_map]
  exact forall₂_congr fun char _ => lowerChar_lt char

theorem IsAscii.suffix {text back : List Char} (ascii : IsAscii text) (ends : back <:+ text) :
    IsAscii back := fun char member => ascii char (ends.subset member)

theorem lowered_lowered (text : String) : (lowered text).map lowerChar = lowered text := by
  rw [lowered_eq_map, List.map_map]
  exact List.map_congr_left fun char _ => lowerChar_lowerChar char

/-- What a text in lower case ends in is in lower case. -/
theorem map_lowerChar_suffix {text back : List Char} (lower : text.map lowerChar = text)
    (ends : back <:+ text) : back.map lowerChar = back := by
  obtain ⟨front, rfl⟩ := ends
  rw [List.map_append] at lower
  exact (List.append_inj lower (List.length_map _)).2

/-! ## The table and the rules -/

/-- A key that a host can be equal to and the script looks up. -/
def Tested (key : List Char) : Prop := '.' ∈ key ∧ IsAscii key ∧ key.map lowerChar = key

/-- The entries of a table and some rules cover each other. -/
structure Covers (keys : List (List Char)) (rules : List Rule) : Prop where
  entries : ∀ key ∈ keys, Tested key →
    ∃ name, .domain name ∈ rules ∧ Under '.' key (lowered name)
  rules : ∀ rule ∈ rules, IsAscii rule.name.toList →
    ∃ key ∈ keys, '.' ∈ key ∧ Under '.' (lowered rule.name) key

variable {keys : List (List Char)} {rules : List Rule}

theorem isAscii_lowered (host : HostName) : IsAscii (lowered host.text) := by
  rw [lowered_eq_map]
  exact (isAscii_map_lowerChar _).mpr host.ascii

/-- Only a rule in ASCII is for a host. -/
theorem isAscii_of_matches {rule : Rule} {host : HostName}
    (listed : rule.Matches (lowered host.text)) : IsAscii rule.name.toList := by
  rw [← isAscii_map_lowerChar, ← lowered_eq_map]
  cases rule with
  | domain name => exact (isAscii_lowered host).suffix (Under.suffix listed)
  | full name => exact listed ▸ isAscii_lowered host

theorem Rule.Matches.under {rule : Rule} {host : List Char} (listed : rule.Matches host) :
    Under '.' host (lowered rule.name) := by
  cases rule with
  | domain name => exact listed
  | full name => exact .inl listed

theorem Covers.found_iff_listed (covers : Covers keys rules) (host : HostName) :
    found keys host.text = true ↔ Listed rules host := by
  rw [found_iff]
  constructor
  · rintro ⟨key, member, under, dotted⟩
    have tested : Tested key := ⟨dotted, (isAscii_lowered host).suffix under.suffix,
      map_lowerChar_suffix (lowered_lowered host.text) under.suffix⟩
    obtain ⟨name, listed, covered⟩ := covers.entries key member tested
    exact ⟨.domain name, listed, under.trans covered⟩
  · rintro ⟨rule, member, listed⟩
    obtain ⟨key, known, dotted, under⟩ := covers.rules rule member (isAscii_of_matches listed)
    exact ⟨key, known, listed.under.trans under, dotted⟩

/-- A host whose first label is longer than all entries and rules. -/
def longHost (length : Nat) (text : List Char) (ascii : IsAscii text) : HostName where
  text := String.ofList (List.replicate length 'a' ++ '.' :: text)
  ascii := by
    rw [String.toList_ofList]
    intro char member
    rcases List.mem_append.mp member with first | rest
    · rw [List.eq_of_mem_replicate first]
      decide
    · rcases List.mem_cons.mp rest with rfl | rest
      · decide
      · exact ascii char rest

theorem lowered_longHost (length : Nat) (text : List Char) (ascii : IsAscii text) :
    lowered (longHost length text ascii).text =
      List.replicate length 'a' ++ '.' :: text.map lowerChar := by
  rw [longHost, lowered_ofList, List.map_append, List.map_replicate]
  rfl

theorem dot_notMem_replicate (length : Nat) : '.' ∉ List.replicate length 'a' := by
  intro inside
  exact absurd (List.eq_of_mem_replicate inside) (by decide)

/-- What a long host is under, its text is under. -/
theorem under_of_longHost {length : Nat} {text part : List Char} {ascii : IsAscii text}
    (short : part.length ≤ length)
    (under : Under '.' (lowered (longHost length text ascii).text) part) :
    Under '.' (text.map lowerChar) part := by
  rw [lowered_longHost] at under
  refine under_of_fresh (dot_notMem_replicate length) ?_ under
  rwa [List.length_replicate]

theorem longHost_under (length : Nat) (text : List Char) (ascii : IsAscii text) :
    Under '.' (lowered (longHost length text ascii).text) (text.map lowerChar) := by
  rw [lowered_longHost]
  exact under_label _ _

/-- An entry that is found for a host of its own is under a rule for what is under it. -/
theorem entry_of_found {length : Nat} {key : List Char} (ascii : IsAscii key)
    (lower : key.map lowerChar = key)
    (short : ∀ rule ∈ rules, (lowered rule.name).length ≤ length)
    (listed : Listed rules (longHost length key ascii)) :
    ∃ name, .domain name ∈ rules ∧ Under '.' key (lowered name) := by
  obtain ⟨rule, member, listed⟩ := listed
  have shortRule := short rule member
  cases rule with
  | domain name =>
      have under := under_of_longHost shortRule listed
      rw [lower] at under
      exact ⟨name, member, under⟩
  | full name =>
      have same : lowered (longHost length key ascii).text = lowered name := listed
      rw [lowered_longHost] at same
      have lengths := congrArg List.length same
      rw [List.length_append, List.length_replicate, List.length_cons] at lengths
      change (lowered name).length ≤ length at shortRule
      omega

/-- The script finds the listed hosts only when the table and the rules cover each other. -/
theorem covers_of_found (agrees : ∀ host : HostName, found keys host.text = true ↔
    Listed rules host) : Covers keys rules := by
  obtain ⟨length, short⟩ := exists_length (keys ++ rules.map fun rule => lowered rule.name)
  rw [List.forall_mem_append, List.forall_mem_map] at short
  constructor
  · rintro key member ⟨dotted, ascii, lower⟩
    have under := longHost_under length key ascii
    rw [lower] at under
    have found := found_iff.mpr ⟨key, member, under, dotted⟩
    exact entry_of_found ascii lower short.2 ((agrees _).mp found)
  · intro rule member ascii
    cases rule with
    | full name =>
        have found := (agrees ⟨name, ascii⟩).mpr ⟨.full name, member, rfl⟩
        obtain ⟨key, known, under, dotted⟩ := found_iff.mp found
        exact ⟨key, known, dotted, under⟩
    | domain name =>
        have under := longHost_under length name.toList ascii
        rw [← lowered_eq_map] at under
        have found := (agrees _).mpr ⟨.domain name, member, under⟩
        obtain ⟨key, known, under, dotted⟩ := found_iff.mp found
        have covered := under_of_longHost (short.1 key known) under
        rw [← lowered_eq_map] at covered
        exact ⟨key, known, dotted, covered⟩

/-! ## The script of a rule list -/

/-- The key that the literal of a rule stands for. -/
def Rule.entry (rule : Rule) : Option (List Char) := literalValue (sanitise rule.name)

/-- The rules are read as they stand, and the entries and the rules cover each other. -/
structure Aligned (rules : List Rule) : Prop where
  whole : ∀ rule ∈ rules, rule.entry ≠ none
  once : (rules.map Rule.entry).count (some protoName) ≤ 1
  entries : ∀ rule ∈ rules, ∀ key ∈ rule.entry, Tested key →
    ∃ name, .domain name ∈ rules ∧ Under '.' key (lowered name)
  rules : ∀ rule ∈ rules, IsAscii rule.name.toList →
    ∃ other ∈ rules, ∃ key ∈ other.entry, '.' ∈ key ∧ Under '.' (lowered rule.name) key

theorem tableOf_eq_some_iff :
    tableOf (rules.map Rule.name) = some keys ↔
      rules.map Rule.entry = keys.map some ∧ (rules.map Rule.entry).count (some protoName) ≤ 1 := by
  rw [tableOf, List.mapM_map, Option.filter_eq_some_iff, mapM_eq_some_iff, decide_eq_true_eq]
  change rules.map Rule.entry = _ ∧ _ ↔ _
  refine and_congr_right fun mapped => ?_
  rw [mapped, List.count_map_of_injective keys some (Option.some_injective _)]

/-- The entries of a table are those of the rules. -/
theorem mem_keys_iff (mapped : rules.map Rule.entry = keys.map some) (key : List Char) :
    key ∈ keys ↔ ∃ rule ∈ rules, key ∈ rule.entry := by
  rw [← List.mem_map_of_injective (Option.some_injective _), ← mapped, List.mem_map]
  rfl

theorem aligned_iff :
    Aligned rules ↔ ∃ keys, tableOf (rules.map Rule.name) = some keys ∧ Covers keys rules := by
  constructor
  · rintro ⟨whole, once, entries, covered⟩
    obtain ⟨keys, mapped⟩ := exists_map_some whole
    refine ⟨keys, tableOf_eq_some_iff.mpr ⟨mapped, once⟩, ?_, ?_⟩
    · intro key member tested
      obtain ⟨rule, ruleMember, read⟩ := (mem_keys_iff mapped key).mp member
      exact entries rule ruleMember key read tested
    · intro rule member ascii
      obtain ⟨other, otherMember, key, read, dotted, under⟩ := covered rule member ascii
      exact ⟨key, (mem_keys_iff mapped key).mpr ⟨other, otherMember, read⟩, dotted, under⟩
  · rintro ⟨keys, table, covers⟩
    obtain ⟨mapped, once⟩ := tableOf_eq_some_iff.mp table
    refine ⟨?_, once, ?_, ?_⟩
    · intro rule member unread
      have inside := List.mem_map_of_mem (f := Rule.entry) member
      rw [mapped, unread] at inside
      obtain ⟨key, _, same⟩ := List.mem_map.mp inside
      exact nomatch same
    · intro rule member key read tested
      exact covers.entries key ((mem_keys_iff mapped key).mpr ⟨rule, member, read⟩) tested
    · intro rule member ascii
      obtain ⟨key, known, dotted, under⟩ := covers.rules rule member ascii
      obtain ⟨other, otherMember, read⟩ := (mem_keys_iff mapped key).mp known
      exact ⟨other, otherMember, key, read, dotted, under⟩

/-- The script names the proxy behind the word for its kind. -/
theorem proxied_eq {mixedAddr : String} {proxied : List Char}
    (read : literalValue (proxyAnswer mixedAddr).toList = some proxied) :
    ∃ rest, proxied = "SOCKS5 ".toList ++ rest := by
  have plain : ∀ char ∈ "SOCKS5 ".toList,
      char ≠ '"' ∧ char ≠ '\\' ∧ char ≠ '\n' ∧ char ≠ '\r' :=
    List.all_iff_forall_prop.mp (by decide)
  rw [proxyAnswer, String.append_assoc, String.append_assoc, String.append_assoc,
    String.toList_append, literalValue_append plain] at read
  obtain ⟨rest, _, rfl⟩ := Option.map_eq_some_iff.mp read
  exact ⟨rest, rfl⟩

theorem takenAsListed_scriptAnswer {mixedAddr : String} {proxied : List Char}
    (read : literalValue (proxyAnswer mixedAddr).toList = some proxied) (mode : PacRuleMode)
    (listed : Bool) : takenAsListed mode (scriptAnswer mode proxied listed) = listed := by
  obtain ⟨rest, rfl⟩ := proxied_eq read
  have other : String.ofList ("SOCKS5 ".toList ++ rest) ≠ "DIRECT" := by
    intro same
    have texts := congrArg String.toList same
    rw [String.toList_ofList] at texts
    exact absurd (List.cons.inj texts).1 (by decide)
  cases mode with
  | bypassChina =>
      cases listed with
      | true => rfl
      | false => exact decide_eq_false other
  | proxyGfw =>
      cases listed with
      | true =>
          exact List.isPrefixOf_iff_prefix.mpr ⟨rest, String.toList_ofList.symm⟩
      | false =>
          change takenAsListed .proxyGfw "DIRECT" = false
          decide

theorem findProxy_pacOf (mode : PacRuleMode) (mixedAddr content host : String)
    (others : List String) :
    findProxy mode mixedAddr (pacOf mode mixedAddr content others) host = do
      let keys ← tableOf ((rulesOf content).map Rule.name)
      let proxied ← literalValue (proxyAnswer mixedAddr).toList
      return scriptAnswer mode proxied (found keys host) := by
  cases mode with
  | bypassChina => rw [pacOf, findProxy_generatePac, scriptRules, parseDomainList_eq]
  | proxyGfw => rw [pacOf, findProxy_generatePac, scriptRules, parseDomainList_eq]

/-- The script treats the hosts as the rules say exactly when it is read as it was written,
and its entries and the rules cover each other. -/
theorem routes_iff (mode : PacRuleMode) (mixedAddr content : String) (others : List String) :
    (∀ host : HostName, ∃ answer,
        findProxy mode mixedAddr (pacOf mode mixedAddr content others) host.text = some answer ∧
          (takenAsListed mode answer = true ↔ Listed (rulesOf content) host)) ↔
      (literalValue (proxyAnswer mixedAddr).toList).isSome = true ∧ Aligned (rulesOf content) := by
  rw [aligned_iff]
  constructor
  · intro agrees
    obtain ⟨answer, returned, _⟩ := agrees ⟨"", List.forall_mem_nil _⟩
    rw [findProxy_pacOf] at returned
    obtain ⟨keys, table, returned⟩ := Option.bind_eq_some_iff.mp returned
    obtain ⟨proxied, read, _⟩ := Option.bind_eq_some_iff.mp returned
    refine ⟨Option.isSome_iff_exists.mpr ⟨proxied, read⟩, keys, table, covers_of_found ?_⟩
    intro host
    obtain ⟨answer, returned, agreed⟩ := agrees host
    rw [findProxy_pacOf, table, read] at returned
    obtain rfl := Option.some.inj returned
    rwa [takenAsListed_scriptAnswer read] at agreed
  · rintro ⟨whole, keys, table, covers⟩ host
    obtain ⟨proxied, read⟩ := Option.isSome_iff_exists.mp whole
    refine ⟨scriptAnswer mode proxied (found keys host.text), ?_, ?_⟩
    · rw [findProxy_pacOf, table, read]
      rfl
    · rw [takenAsListed_scriptAnswer read]
      exact covers.found_iff_listed host

/-- A rule behind `full:` takes what is under its host with it, and a rule of one label is
never looked up. -/
theorem fullRule_overreaches :
    ¬ (∃ answer,
        findProxy .bypassChina "127.0.0.1:1080"
            (pacOf .bypassChina "127.0.0.1:1080" "full:qq.com" []) "www.qq.com" = some answer ∧
          (takenAsListed .bypassChina answer = true ↔
            Listed (rulesOf "full:qq.com") ⟨"www.qq.com", List.all_iff_forall_prop.mp (by decide)⟩)) ∧
      ¬ (∃ answer,
        findProxy .bypassChina "127.0.0.1:1080"
            (pacOf .bypassChina "127.0.0.1:1080" "cn" []) "example.cn" = some answer ∧
          (takenAsListed .bypassChina answer = true ↔
            Listed (rulesOf "cn") ⟨"example.cn", List.all_iff_forall_prop.mp (by decide)⟩)) := by
  constructor
  · rintro ⟨answer, returned, agreed⟩
    have direct : findProxy .bypassChina "127.0.0.1:1080"
        (pacOf .bypassChina "127.0.0.1:1080" "full:qq.com" []) "www.qq.com" = some "DIRECT" := by
      rw [findProxy_pacOf]
      decide +kernel
    rw [← Option.some.inj (direct.symm.trans returned)] at agreed
    have rules : rulesOf "full:qq.com" = [.full "qq.com"] := by decide
    obtain ⟨rule, member, listed⟩ := agreed.mp rfl
    rw [rules, List.mem_singleton] at member
    obtain rfl := member
    exact absurd (show lowered "www.qq.com" = lowered "qq.com" from listed) (by decide)
  · rintro ⟨answer, returned, agreed⟩
    have proxied : findProxy .bypassChina "127.0.0.1:1080"
        (pacOf .bypassChina "127.0.0.1:1080" "cn" []) "example.cn" =
          some "SOCKS5 127.0.0.1:1080; PROXY 127.0.0.1:1080; DIRECT" := by
      rw [findProxy_pacOf]
      decide +kernel
    rw [← Option.some.inj (proxied.symm.trans returned)] at agreed
    have rules : .domain "cn" ∈ rulesOf "cn" := by decide
    exact absurd (agreed.mpr ⟨_, rules, .inr ⟨"example".toList, by decide⟩⟩) (by decide)

/-- A list of domains with dots in lower case, without quotes and escapes, means what it says. -/
theorem aligned_of_domains (domains : ∀ rule ∈ rules, ∃ name, rule = .domain name)
    (dotted : ∀ rule ∈ rules, '.' ∈ rule.name.toList)
    (lower : ∀ rule ∈ rules, lowered rule.name = rule.name.toList)
    (plain : ∀ rule ∈ rules, ∀ char ∈ rule.name.toList,
      char ≠ '"' ∧ char ≠ '\\' ∧ char ≠ '\n' ∧ char ≠ '\r') : Aligned rules := by
  have entry : ∀ rule ∈ rules, rule.entry = some rule.name.toList := by
    intro rule member
    have kept : sanitise rule.name = rule.name.toList :=
      List.filter_eq_self.mpr fun char inside => decide_eq_true (plain rule member char inside).1
    rw [Rule.entry, kept]
    exact literalValue_plain (plain rule member)
  constructor
  · intro rule member unread
    rw [entry rule member] at unread
    exact nomatch unread
  · refine (List.count_eq_zero_of_not_mem ?_).le.trans (Nat.zero_le 1)
    intro inside
    obtain ⟨rule, member, read⟩ := List.mem_map.mp inside
    rw [entry rule member] at read
    have named := dotted rule member
    rw [Option.some.inj read] at named
    exact absurd named (by decide)
  · intro rule member key read _
    obtain ⟨name, rfl⟩ := domains rule member
    have same := lower _ member
    rw [entry _ member] at read
    obtain rfl := Option.some.inj read
    exact ⟨name, member, .inl same.symm⟩
  · intro rule member _
    exact ⟨rule, member, _, entry rule member, dotted rule member, .inl (lower rule member)⟩

end Juicity.Gui.PacRouting

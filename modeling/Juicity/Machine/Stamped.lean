import Mathlib.Data.List.Basic
import Mathlib.Tactic.Common

/-!
Contract: sources that are replaced under a reader who compares stamps.

Every version of a source carries a stamp that no version before it had. A
reader asks for the stamp first and reads the content later, so what it read
may be newer than its stamp. It never is when the stamp is still the current
one: this is `Source.Reads`, and replacing a source keeps it.
-/

namespace Juicity.Machine

universe u v

/-- A version of a source. -/
structure Version (Stamp : Type u) (Content : Type v) where
  stamp : Stamp
  content : Content

/-- A source with the stamps its versions have had; it can be missing. -/
structure Source (Stamp : Type u) (Content : Type v) where
  version : Option (Version Stamp Content)
  past : List Stamp
  recorded : ∀ current, version = some current → current.stamp ∈ past

namespace Source

variable {Stamp : Type u} {Content : Type v}

/-- The first version. -/
def new (version : Version Stamp Content) : Source Stamp Content :=
  ⟨some version, [version.stamp], by
    rintro current same
    obtain rfl := Option.some.inj same
    exact List.mem_cons_self⟩

/-- A new version takes the place of the current one. -/
def replace (source : Source Stamp Content) (version : Version Stamp Content) :
    Source Stamp Content :=
  ⟨some version, version.stamp :: source.past, by
    rintro current same
    obtain rfl := Option.some.inj same
    exact List.mem_cons_self⟩

def remove (source : Source Stamp Content) : Source Stamp Content :=
  ⟨none, source.past, by simp⟩

def stamp? (source : Source Stamp Content) : Option Stamp := source.version.map Version.stamp

def content? (source : Source Stamp Content) : Option Content :=
  source.version.map Version.content

/-- The stamp was the source's at some time, and while it still is, `holds` is
true of the current content. -/
def Reads (source : Source Stamp Content) (stamp : Stamp) (holds : Content → Prop) : Prop :=
  stamp ∈ source.past ∧
    ∀ current, source.version = some current → current.stamp = stamp → holds current.content

variable {source : Source Stamp Content} {stamp : Stamp} {version : Version Stamp Content}
  {holds : Content → Prop}

theorem mem_past_of_stamp (asked : source.stamp? = some stamp) : stamp ∈ source.past := by
  obtain ⟨current, here, rfl⟩ := Option.map_eq_some_iff.mp asked
  exact source.recorded current here

/-- What is read is true of the current content, whatever the stamp asked before. -/
theorem reads_of_content {content : Content} (asked : stamp ∈ source.past)
    (read : source.content? = some content) (held : holds content) : source.Reads stamp holds := by
  refine ⟨asked, fun current here _ => ?_⟩
  obtain ⟨other, there, rfl⟩ := Option.map_eq_some_iff.mp read
  rw [here] at there
  obtain rfl := Option.some.inj there
  exact held

/-- A fresh stamp outdates everything read before. -/
theorem Reads.replace (reads : source.Reads stamp holds) (fresh : version.stamp ∉ source.past) :
    (source.replace version).Reads stamp holds := by
  refine ⟨List.mem_cons_of_mem _ reads.1, ?_⟩
  rintro current here same
  obtain rfl := Option.some.inj here
  rw [same] at fresh
  exact absurd reads.1 fresh

theorem Reads.remove (reads : source.Reads stamp holds) : source.remove.Reads stamp holds :=
  ⟨reads.1, fun _ here => nomatch here⟩

/-- A reader whose stamp is the current one read the current content. -/
theorem Reads.current (reads : source.Reads stamp holds) (asked : source.stamp? = some stamp) :
    ∃ content, source.content? = some content ∧ holds content := by
  obtain ⟨current, here, same⟩ := Option.map_eq_some_iff.mp asked
  exact ⟨current.content, by rw [content?, here]; rfl, reads.2 current here same⟩

end Source

end Juicity.Machine

import SourcePrologue.Ascending
import SourcePrologue.Section.Name

/-!
# Standard sections

The sections that every prologue may have, in the order in which they are written. Sections of
other names have a place among them. Some sections hold a placeholder when they are empty, some end
with one, and two are known by a second spelling.
-/

namespace SourcePrologue.Standard

/-- A place in the written order: a **named** section, or all **other** sections by name. -/
inductive Slot where
  | named (name : Text)
  | other
  deriving DecidableEq

/-- The order of sections in a written prologue. -/
def slots : List Slot := [
  .named "Name", .named "Purpose", .named "Language", .named "Type of Module",
  .named "Invocation", .named "Synopsis", .named "Description", .named "Arguments",
  .named "Usage", .named "Parameters", .named "ADAM Parameters", .named "Returned Value",
  .named "Examples", .named "Notes", .named "Algorithm", .named "References",
  .named "Related Applications", .named "Implementation Status",
  .named "Implementation Deficiencies", .other, .named "Copyright", .named "Licence",
  .named "Authors", .named "History", .named "Bugs"]

/-- What stands for the place of the other sections in a list of names. -/
def otherSlotName : Text := "__MISCELLANEOUS__PLACEHOLDER__"

/-- The name of a slot. -/
def Slot.label : Slot → Text
  | named name => name
  | other => otherSlotName

/-- The names of the standard sections in written order. -/
def written : List Text := slots.filterMap fun
  | .named name => some name
  | .other => none

/-- The lines written for an empty section when defaults are asked for. -/
def defaults : List (Text × Text) := [
  ("Bugs", "\x7bnote_any_bugs_here\x7d"), ("History", "\x7benter_changes_here\x7d"),
  ("Authors", "\x7boriginal_author_entry\x7d"), ("Language", "\x7broutine_language\x7d")]

/-- The lines that close a section open to new entries. -/
def terminators : List (Text × Text) := [
  ("Bugs", "\x7bnote_new_bugs_here\x7d"), ("History", "\x7benter_further_changes_here\x7d"),
  ("Authors", "\x7benter_new_authors_here\x7d")]

/-- The second spellings of section names. -/
def aliases : List (Text × Text) := [("Authors", "Author"), ("Licence", "License")]

/-- The canonical names of the standard sections and their second spellings, in order of names. -/
def names : List Text := ascending (written ++ aliases.map (·.2))

/-- The name of a section as a single word: small letters, with underscores for spaces. -/
def wordFor (name : Text) : Text :=
  name.lower.map fun g => if g = .char ' ' then .char '_' else g

/-- The words by which the standard sections can be asked for, with the sections' names. -/
def accessors : List (Text × Text) := written.map fun name => (wordFor name, name)

end SourcePrologue.Standard

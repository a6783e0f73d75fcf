import SourcePrologue.Prologue.Notice
import SourcePrologue.Section.Body
import SourcePrologue.Section.Standard
import SourcePrologue.Section.Store

/-!
# Prologues

A prologue documents a source file in sections. It is found inside comments, of which it remembers
the character and whether they began and ended together with it. Sections are asked for by any
spelling of their name; a name stands for its canonical form at every access.
-/

namespace SourcePrologue

/-- The conventions for writing prologues: the **modern** one with an end marker, and the **legacy**
one in which the code ends the prologue. -/
inductive Style where
  | modern
  | legacy
  deriving DecidableEq

/-- The name of a convention. -/
def Style.tag : Style → Text
  | modern => "STARLSE"
  | legacy => "ADAMSSE"

/-- The conventions, in the order in which they are tried. -/
def Style.all : List Style := [.modern, .legacy]

/-- The documentation of a source file. -/
structure Prologue where
  /-- What every line begins with. -/
  commentChar : Text := Text.ofChar '*'
  /-- Whether a comment of the C language opens together with the prologue. -/
  opensComment : Bool := false
  /-- Whether that comment closes together with the prologue. -/
  closesComment : Bool := false
  /-- The convention in which the prologue was found, if it was found. -/
  style : Option Style := none
  /-- Whether placeholders are written for some of the empty sections. -/
  writeDefaults : Bool := false
  sections : Sections := .empty

namespace Prologue

/-- The lines of a section, none if it is empty. -/
def content (p : Prologue) (name : Text) : List Text := p.sections.find (SectionName.canonical name)

/-- The prologue with the lines of a section replaced. Line ends are taken off them, and without
lines the section is gone. -/
def setContent (p : Prologue) (name : Text) (ls : List Text) : Prologue :=
  { p with sections := p.sections.set (SectionName.canonical name) (ls.map Text.chomp) }

/-- The prologue without a section. -/
def eraseContent (p : Prologue) (name : Text) : Prologue :=
  { p with sections := p.sections.erase (SectionName.canonical name) }

/-- The names of the populated sections, ascending. -/
def sectionNames (p : Prologue) : List Text := p.sections.names

/-- The populated sections, each with the lines that its name gives access to. They are the lines
stored if the name is canonical. -/
def listing (p : Prologue) : List (Text × List Text) :=
  p.sectionNames.map fun name => (name, p.content name)

/-- The names of the populated sections that are not standard, ascending. -/
def otherNames (p : Prologue) : List Text :=
  p.sectionNames.filter fun name => !Standard.names.contains name

/-- The name under which a section is populated: its own, or else its second spelling. -/
def resolve? (p : Prologue) (name : Text) : Option Text :=
  let key := SectionName.canonical name
  if p.sections.has key then some key
  else (Standard.aliases.lookup key).filter p.sections.has

/-- What is to be told when a section is populated under both spellings. -/
def conflict? (p : Prologue) (name : Text) : Option Notice :=
  let key := SectionName.canonical name
  if p.sections.has key then
    ((Standard.aliases.lookup key).filter p.sections.has).map (.bothSpellings key)
  else none

/-- A section with the name under which it is populated; an empty one with its canonical name. -/
def resolved (p : Prologue) (name : Text) : Text × List Text :=
  match p.resolve? name with
  | some found => (found, p.content found)
  | none => (SectionName.canonical name, [])

/-- The lines of the standard section that a word asks for. -/
def access? (p : Prologue) (word : Text) : Option (List Text) :=
  (Standard.accessors.lookup word).map p.content

/-- Whether the prologue documents a task of the ADAM environment. -/
def isAdamTask (p : Prologue) : Bool :=
  !(p.content "ADAM Parameters").isEmpty
    || (p.content "Type of Module").any (Text.occursIn "ADAM")

end Prologue

end SourcePrologue

import SourcePrologue.Convention.Draft
import SourcePrologue.Convention.Heading
import SourcePrologue.Text.Letters

/-!
# The legacy convention

A prologue begins with a line that gives the name and the purpose of the routine. Comment lines
follow, some of them headings, which may have text behind the colon. The prologue ends with the
first line of code below a heading, with a heading that introduces declarations, or with an end
marker. Code above the first heading is passed through. Markers stand in the first column.
-/

namespace SourcePrologue.Legacy

/-- What a start line says. -/
structure Opening where
  marker : Marker
  name : Text
  purpose : Text
  deriving DecidableEq

/-- What follows the white space at the start of a text, of which there has to be some. -/
def afterBlank? : Text → Option Text
  | [] => none
  | g :: t => if g.isBlank then some (Text.trimStart t) else none

/-- The text of a start line behind its marker: the name, a hyphen, and the purpose. -/
def titleOf? (t : Text) : Option (Text × Text) := do
  let t ← afterBlank? t
  let name := t.takeWhile (!·.isBlank)
  let t ← afterBlank? (t.dropWhile (!·.isBlank))
  let t ← Text.after? (Text.ofChar '-') t
  let purpose ← afterBlank? t
  if name.isEmpty || purpose.isEmpty || purpose.contains Text.newline then none
  else some (name, purpose)

/-- What a line says if it is a start line. -/
def opening? (line : Text) : Option Opening :=
  match line.trim with
  | g :: .char '+' :: rest => do
    let marker ← Marker.ofGlyph? g
    let (name, purpose) ← titleOf? rest
    some ⟨marker, name, purpose⟩
  | _ => none

/-- What a line inside a prologue is. -/
inductive Line where
  /-- A line that no marker begins. -/
  | code
  /-- The end marker. -/
  | closing
  /-- The line that may end a history. -/
  | endHistory
  /-- A heading that introduces declarations. -/
  | declaration
  /-- Any other heading, with the canonical name of its section and the text behind the colon. -/
  | heading (name trailing : Text)
  /-- A line of a section, empty if nothing follows the marker. -/
  | content (text : Text)
  deriving DecidableEq

/-- The number of words that the name of a heading may have; with more of them it is a sentence. -/
def maxHeadingWords : Nat := 4

/-- The headings that introduce declarations instead of documentation. -/
def declarations : List Text := [
  "Type Definitions", "Global Constants", "Global Variables", "Import", "Export", "Import-export",
  "Status", "Local Constants", "Local Variables", "Local Data", "Internal References",
  "External References"]

/-- Section names that have changed, with their modern forms. -/
def renames : List (Text × Text) := [
  ("Method", "Algorithm"), ("Deficiencies", "Implementation Deficiencies"), ("Author", "Authors")]

/-- The text behind the colon of a heading, which ends with the line. -/
def trailing? (t : Text) : Option Text :=
  let t := t.trimStart.dropNewline
  if t.contains Text.newline then none else some t.trimEnd

/-- The canonical name in a heading behind a marker and the text behind its colon. -/
def heading? (t : Text) : Option (Text × Text) := do
  let (name, rest) ← Heading.split? t
  let trailing ← trailing? rest
  if name.words.length ≤ maxHeadingWords then some (SectionName.canonical name, trailing) else none

/-- What a line is, judged by the text behind its marker. -/
def classifyMarked (t : Text) : Line :=
  if t.head? = some (.char '-') ∧ Text.isBlank t.tail then .closing
  else if t.trim.plain = Text.ofString "endhistory" then .endHistory
  else
    match heading? t with
    | some (name, trailing) =>
      if name ∈ declarations then .declaration
      else .heading ((renames.lookup name).getD name) trailing
    | none => .content (if t.isBlank then [] else Body.stripIndent Body.indentation t)

/-- What a line is in a prologue with a given marker. -/
def classify (marker : Marker) : Text → Line
  | [] => .code
  | g :: rest => if g = marker.glyph then classifyMarked rest else .code

/-- The draft of a prologue at its start line. Comment lines above the first heading continue the
purpose. -/
def openDraft (opening : Opening) : Draft :=
  let prologue : Prologue := { style := some .legacy, commentChar := [opening.marker.glyph] }
  (Draft.start { prologue := prologue.setContent "Name" [opening.name] } "Purpose").add
    opening.purpose

/-- Whether a line ends the prologue; code does so below a heading only. -/
def Line.isEnd (seenHeading : Bool) : Line → Bool
  | code => seenHeading
  | closing | declaration => true
  | _ => false

/-- Whether a line is handed back because it is not part of the documentation. -/
def Line.isPassed : Line → Bool
  | code | declaration => true
  | _ => false

/-- The draft after a line that does not end the prologue. -/
def step (d : Draft) : Line → Draft
  | .heading name trailing =>
    let d := d.start name
    if trailing.isEmpty then d else d.add trailing
  | .content text => if d.isOpen then d.add text else d
  | _ => d

end SourcePrologue.Legacy

import SourcePrologue.Convention.Draft
import SourcePrologue.Convention.Heading

/-!
# The modern convention

A prologue stands between a start marker, `*+`, and an end marker, `*-`; either may share its line
with the C comment around it. A heading ends with its colon, and the lines of a section follow
behind five spaces. A line with nothing on it ends a section. Indentation in front of a comment
marker does not count.
-/

namespace SourcePrologue.Modern

/-- The marker on a start line, and whether a C comment opens with it. -/
def opening? (line : Text) : Option (Bool × Marker) :=
  match line.trim with
  | [g, .char '+'] => (Marker.ofGlyph? g).map (false, ·)
  | [.char '/', g, .char '+'] => (Marker.ofGlyph? g).map (true, ·)
  | _ => none

/-- What a line inside a prologue is. -/
inductive Line where
  /-- Nothing at all, which ends a section. -/
  | separator
  /-- A text that no marker stands before. -/
  | unmarked (text : Text)
  /-- The end marker, and whether a C comment closes with it. -/
  | closing (comment : Bool)
  | heading (name : Text)
  /-- A line of a section, empty if nothing follows the marker. -/
  | content (text : Text)
  deriving DecidableEq

/-- Whether a C comment closes with an end marker, if the text behind a marker makes it one. -/
def closing? : Text → Option Bool
  | .char '-' :: rest =>
    match Text.trim rest with
    | [] => some false
    | [.char '*', .char '/'] => some true
    | _ => none
  | _ => none

/-- The name of a heading behind a marker, which nothing may follow. -/
def heading? (t : Text) : Option Text :=
  match Heading.split? t with
  | some (name, rest) => if rest.isBlank then some name else none
  | none => none

/-- What a line is, judged by the text behind its marker. -/
def classifyMarked (t : Text) : Line :=
  match closing? t with
  | some comment => .closing comment
  | none =>
    match heading? t with
    | some name => .heading name
    | none => .content (if t.isBlank then [] else Body.stripIndent Body.indentation t)

/-- What a line is in a prologue with a given marker. -/
def classify (marker : Marker) (line : Text) : Line :=
  match line.trimStart with
  | [] => .separator
  | g :: rest => if g = marker.glyph then classifyMarked rest else .unmarked (g :: rest)

/-- The draft of a prologue at its start line. -/
def openDraft (comment : Bool) (marker : Marker) : Draft where
  prologue := { style := some .modern, commentChar := [marker.glyph], opensComment := comment }

/-- Adds a line to the open block; before the first heading it is dropped. -/
def keep (d : Draft) (line : Text) : Draft := if d.isOpen then d.add line else d

/-- What is to be told about a line that may be dropped. -/
def keepNotices (d : Draft) (line : Text) : List Notice :=
  if d.isOpen || line.isBlank then [] else [.discarded line]

/-- The draft after a line. -/
def step (d : Draft) : Line → Draft
  | .separator => d.close
  | .unmarked text => keep d text
  | .closing comment => Draft.settle { d with prologue := { d.prologue with closesComment := comment } }
  | .heading name => d.start name
  | .content text => keep d text

/-- Whether a line ends the prologue. -/
def Line.isClosing : Line → Bool
  | closing _ => true
  | _ => false

/-- What is to be told about a line that is classified as told. -/
def stepNotices (d : Draft) (line : Text) : Line → List Notice
  | .unmarked text => .unmarkedLine line :: keepNotices d text
  | .content text => keepNotices d text
  | _ => []

end SourcePrologue.Modern

import SourcePrologue.Prologue.Written
import SourcePrologue.Source.Scanner
import SourcePrologue.Text.Utf8

/-!
# Source files in parts

A source file is a row of ordinary lines and prologues. `split` takes the lines of a file apart and
`render` writes the parts out again; `read` and `write` go between bytes and lines.
-/

namespace SourcePrologue

/-- A part of a source file. -/
inductive Item where
  | line (text : Text)
  | prologue (p : Prologue)

namespace Source

/-- The parts that come of a line. A line that has ended a prologue stands after it. -/
def items (emission : Emission) : List Item :=
  (emission.prologue.map .prologue).toList ++ (emission.line.map .line).toList

/-- The parts of the lines that a scanner has yet to see. A prologue that is still open at the end
goes as far as they do. -/
def splitFrom (s : Scanner) : List Text → List Item
  | [] => (s.flush.map .prologue).toList
  | line :: ls =>
    let (next, emission) := s.push line
    items emission ++ splitFrom next ls

/-- The parts of a source file with given lines. -/
def split (ls : List Text) : List Item := splitFrom {} ls

/-- What is to be told about the lines that a scanner has yet to see. -/
def noticesFrom (s : Scanner) : List Text → List Notice
  | [] => []
  | line :: ls => s.notices line ++ noticesFrom (s.push line).1 ls

/-- What is to be told while lines are taken apart. -/
def splitNotices (ls : List Text) : List Notice := noticesFrom {} ls

/-- The prologues of a file. -/
def prologues (parts : List Item) : List Prologue := parts.filterMap fun
  | .prologue p => some p
  | .line _ => none

/-- The file with every prologue changed. -/
def mapPrologues (f : Prologue → Prologue) (parts : List Item) : List Item := parts.map fun
  | .prologue p => .prologue (f p)
  | .line text => .line text

/-- The name of the convention that a prologue was found in. -/
def styleName (style : Option Style) : Text := (style.map Style.tag).getD "None"

/-- The names of the conventions of the prologues of a file, ascending. -/
def styleNames (parts : List Item) : List Text :=
  ascending ((prologues parts).map fun p => styleName p.style)

/-- Whether a file may be written over: it has prologues, and all of them are modern. -/
def isModern (parts : List Item) : Bool :=
  !(prologues parts).isEmpty && (prologues parts).all (·.style == some .modern)

/-- The text of a part of a file. -/
def renderItem : Item → Text
  | .line text => text ++ [Text.newline]
  | .prologue p => p.render

/-- The text of a file. -/
def render (parts : List Item) : Text := parts.flatMap renderItem

/-- What is to be told while a file is written. -/
def renderNotices (parts : List Item) : List Notice :=
  (prologues parts).flatMap Prologue.renderNotices

/-- The lines in the bytes of a file. -/
def read (bytes : List UInt8) : List Text := (Utf8.decode bytes).unifyBreaks.lines

/-- The bytes of a file with a given text. -/
def write (text : Text) : List UInt8 := Utf8.encode text

end Source

end SourcePrologue

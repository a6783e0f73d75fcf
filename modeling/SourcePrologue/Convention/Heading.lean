import SourcePrologue.Text.Basic

/-!
# Markers and headings

Both conventions write prologues in comment lines that begin with one marker character, and both
open a section with a heading: behind the marker one to four spaces, a name, and a colon.
-/

namespace SourcePrologue

/-- A comment **marker**. -/
inductive Marker where
  | star
  | hash
  deriving DecidableEq

namespace Marker

/-- The character of a marker. -/
def glyph : Marker → Glyph
  | star => .char '*'
  | hash => .char '#'

/-- The marker that a glyph is. -/
def ofGlyph? (g : Glyph) : Option Marker :=
  if g = star.glyph then some star else if g = hash.glyph then some hash else none

end Marker

namespace Heading

/-- Whether a glyph may stand in the name of a heading. -/
def isNameGlyph (g : Glyph) : Bool := g.isWord || g == .char '-' || g == .char ' '

/-- Whether a text is a name that a heading may have: a letter, and then letters, digits,
underscores, hyphens and spaces. -/
def isName : Text → Bool
  | [] => false
  | g :: t => g.isLatin && t.all isNameGlyph

/-- The name in a heading and what follows its colon. The text is what stands behind the marker. -/
def split? (t : Text) : Option (Text × Text) :=
  let margin := t.takeWhile (· == .char ' ')
  let label := t.dropWhile (· == .char ' ')
  let name := Text.trimEnd (label.takeWhile (· != .char ':'))
  match label.dropWhile (· != .char ':') with
  | [] => none
  | _ :: rest =>
    if 1 ≤ margin.length ∧ margin.length ≤ 4 ∧ isName name then some (name, rest) else none

end Heading

end SourcePrologue

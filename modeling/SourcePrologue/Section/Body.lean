import SourcePrologue.Text.Basic

/-!
# The lines of a section

A section's lines are stored without comment marker and indentation. Blank lines at either end are
not written, and a line that is nothing but a **placeholder** such as `{enter_changes_here}` marks
the place where somebody is to write.
-/

namespace SourcePrologue.Body

/-- The columns between the comment marker and the text of a line. -/
def indentation : Nat := 5

/-- Lines without the blank ones at either end. -/
def trimBlankEdges (ls : List Text) : List Text := Text.dropEnd Text.isBlank (ls.dropWhile Text.isBlank)

/-- Whether a line is a word between braces and nothing else. -/
def isPlaceholder (line : Text) : Bool :=
  match line.trim with
  | .char '\x7b' :: rest =>
    rest.getLast? == some (.char '\x7d') && !rest.dropLast.isEmpty && rest.dropLast.all Glyph.isWord
  | _ => false

/-- A text without its leading spaces, of which at most `width` are taken. -/
def stripIndent : Nat → Text → Text
  | width + 1, g :: t => if g = .char ' ' then stripIndent width t else g :: t
  | _, t => t

end SourcePrologue.Body

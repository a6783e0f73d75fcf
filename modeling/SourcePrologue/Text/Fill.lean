import SourcePrologue.Text.Basic

/-!
# Filling lines

Words are laid out in lines of a given width, each word on the current line while it fits there
after a space. A word longer than a whole line is **poured**: it goes on after the space as far as
the line reaches, and then over further lines.
-/

namespace SourcePrologue.Text

/-- Lines that are full, and the line that is being filled. -/
structure Filling where
  full : List Text := []
  line : Text := []

/-- Glyphs put one by one on the current line, and on a new one whenever that is full. -/
def Filling.pour (width : Nat) (f : Filling) : Text → Filling
  | [] => f
  | g :: t =>
    if f.line.length < width then Filling.pour width { f with line := f.line ++ [g] } t
    else Filling.pour width ⟨f.full ++ [f.line], [g]⟩ t

/-- A word after the words before it. -/
def Filling.place (width : Nat) (f : Filling) (word : Text) : Filling :=
  if f.line.isEmpty then f.pour width word
  else if f.line.length + 1 + word.length ≤ width then
    { f with line := f.line ++ .char ' ' :: word }
  else if width < word.length ∧ f.line.length < width then
    Filling.pour width { f with line := f.line ++ [.char ' '] } word
  else Filling.pour width ⟨f.full ++ [f.line], []⟩ word

/-- All lines, the last one as well if there is anything on it. -/
def Filling.lines (f : Filling) : List Text :=
  if f.line.isEmpty then f.full else f.full ++ [f.line]

/-- Words in lines of a given width. -/
def fill (width : Nat) (ws : List Text) : List Text :=
  (ws.foldl (Filling.place width) {}).lines

end SourcePrologue.Text

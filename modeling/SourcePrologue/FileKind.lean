import SourcePrologue.Path
import SourcePrologue.Text.Letters

/-!
# What a file name tells

The language of a file and the type of its module, guessed from its name. A suffix decides the
language; without one the naming habits of the Starlink sources do. The ending `.in` of a template
does not count.
-/

namespace SourcePrologue.FileKind

/-- The language of Fortran sources and include files. -/
def fortran : Text := "Starlink Fortran 77"

/-- The languages of suffixes that are spelled exactly so. -/
def suffixLanguages : List (Text × Text) := [
  ("pl", "Perl"), ("pm", "Perl"), ("t", "Perl Test"), ("c", "Starlink C"), ("h", "Starlink C"),
  ("C", "Starlink C++"), ("cc", "Starlink C++"), ("sh", "Bourne shell"), ("csh", "C-shell"),
  ("tcl", "TCL"), ("py", "Python"), ("awk", "AWK"), ("icl", "ICL")]

/-- The name that counts: the last one of the path, without the ending of a template. -/
def baseName (file : Text) : Text :=
  let name := (Path.ofText file).name
  if name.endsWith ".in" then name.take (name.length - 3) else name

/-- Whether a name ends with a text; a line feed after it does not matter. -/
def hasEnding (name ending : Text) : Bool := name.endsWith ending || name.dropNewline.endsWith ending

/-- Whether a name ends with an underscore and one of some words, in letters of any case. -/
def hasTag (name : Text) (tags : List Text) : Bool :=
  tags.any fun tag => hasEnding name.plain (Text.ofChar '_' ++ tag)

/-- What follows the last dot of a name, if it has one. -/
def suffix? (name : Text) : Option Text :=
  if .char '.' ∈ name then some (name.reverse.takeWhile (· != .char '.')).reverse else none

/-- The language of a file. -/
def language? (file : Text) : Option Text :=
  let name := baseName file
  match suffix? name with
  | some suffix =>
    if suffix.lower = Text.ofString "f" ∨ suffix.lower = Text.ofString "for" then some fortran
    else suffixLanguages.lookup suffix
  | none =>
    if hasTag name ["err", "sys", "cmn", "par"] then some fortran
    else if hasEnding name "_link" || hasEnding name "_link_adam" then some "Bourne Shell"
    else if name.startsWith "Makefile" then some "Makefile"
    else none

/-- The type of the module in a file, which only the names of include files tell. -/
def moduleType? (file : Text) : Option Text :=
  let name := baseName file
  if hasTag name ["cmn"] then some "COMMON BLOCK"
  else if hasTag name ["err", "par", "sys"] then some "FORTRAN INCLUDE"
  else none

end SourcePrologue.FileKind

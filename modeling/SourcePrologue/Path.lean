import SourcePrologue.Text.Basic

/-!
# Paths

A path is a row of names that lead from a starting directory to a file. Empty names and `.` lead
nowhere and are left out; `..` stays. Two slashes in front, not one or three, are a root of their own.
-/

namespace SourcePrologue

/-- A **path**: the slashes it starts from, none for the current directory, and its names. -/
structure Path where
  root : Text := []
  names : List Text
  deriving DecidableEq

namespace Path

/-- The character between the names of a path. -/
def separator : Glyph := .char '/'

/-- The path that a text spells. -/
def ofText (t : Text) : Path where
  root :=
    match (t.takeWhile (· == separator)).length with
    | 0 => []
    | 2 => [separator, separator]
    | _ => [separator]
  names := (Text.splitOn (· == separator) t).filter fun name =>
    !name.isEmpty && name != Text.ofChar '.'

/-- A path in its shortest spelling. -/
def text (path : Path) : Text :=
  let spelled := path.root ++ Text.join [separator] path.names
  if spelled.isEmpty then Text.ofChar '.' else spelled

/-- The last name of a path, empty if there is none. -/
def name (path : Path) : Text := path.names.getLastD []

end Path

end SourcePrologue

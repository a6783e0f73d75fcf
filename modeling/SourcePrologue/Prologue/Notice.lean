import SourcePrologue.Text.Quoted

/-!
# Notices

What the library tells its user while it works, beside its answers. A notice is a warning, or it is
of interest only to somebody who follows the reading of a file line by line.
-/

namespace SourcePrologue

/-- How much a notice matters. -/
inductive Level where
  | debug
  | info
  | warning
  | error
  deriving DecidableEq

/-- The name of a level. -/
def Level.text : Level → Text
  | debug => "DEBUG"
  | info => "INFO"
  | warning => "WARNING"
  | error => "ERROR"

/-- Something worth telling about a prologue. -/
inductive Notice where
  /-- A section is there under both of its spellings. -/
  | bothSpellings (name second : Text)
  /-- A prologue's history names no year, so another one is used. -/
  | undatedHistory (name : Text) (year : Int)
  /-- A line inside a prologue does not begin with the comment marker. -/
  | unmarkedLine (line : Text)
  /-- A text stands before the first heading and is dropped. -/
  | discarded (text : Text)
  deriving DecidableEq

namespace Notice

/-- How much a notice matters. -/
def level : Notice → Level
  | bothSpellings .. | undatedHistory .. => .warning
  | unmarkedLine .. | discarded .. => .debug

/-- The wording of a notice. -/
def message : Notice → Text
  | bothSpellings name second =>
    Text.ofString "Both section (" ++ name ++ Text.ofString ") and alias (" ++ second
      ++ Text.ofString ") exist"
  | undatedHistory name year =>
    Text.ofString "No years found in History of " ++ name ++ Text.ofString ", using "
      ++ Text.ofInt year
  | unmarkedLine line =>
    Text.ofString "Line without comment marker inside prologue: " ++ line.quoted
  | discarded text =>
    Text.ofString "Discarding prologue text before first section: " ++ text.quoted

end Notice

end SourcePrologue

import SourcePrologue.Command.Arguments
import SourcePrologue.Source.Disk
import SourcePrologue.Source.Item

/-!
# Sessions

A command works through its files in a `Session`: it changes the disk, prints, and reports what
happens. A file that cannot be found or read is reported and the next file is taken; a path that is
none ends the command, and so does an error in writing a file.
-/

namespace SourcePrologue.Command

/-- What ends a command before its time. -/
inductive Failure where
  | file (failure : FileFailure)
  /-- A text with stray bytes was to be printed as JSON. -/
  | unwritable
  /-- An option was given nothing where its value is needed; what was needed is said in a word. -/
  | valueless (need : Text)

/-- The wording of a failure. -/
def Failure.message : Failure → Text
  | file failure => failure.message
  | unwritable => "str is not valid UTF-8: surrogates not allowed"
  | valueless need => Text.ofString "'list' object has no attribute " ++ need.quoted

/-- The state of a command at work: the disk, what has been printed and reported, and whether a file
could not be read. -/
structure Session where
  disk : Disk
  printed : Text := []
  reports : List (Level × Text) := []
  troubled : Bool := false

/-- A command that has failed, with the state it leaves behind. -/
structure Interruption where
  failure : Failure
  session : Session

namespace Session

/-- Reports something. -/
def report (s : Session) (level : Level) (message : Text) : Session :=
  { s with reports := s.reports ++ [(level, message)] }

/-- Reports what the library tells. -/
def tell (s : Session) (notices : List Notice) : Session :=
  { s with reports := s.reports ++ notices.map fun n => (n.level, n.message) }

/-- Prints a text. -/
def print (s : Session) (text : Text) : Session := { s with printed := s.printed ++ text }

/-- Reports that a file cannot be read, if it has a path. -/
def cannotRead (s : Session) (path : Path) (error : FileError) : Except Interruption Session :=
  if error.isSystemError then
    .ok { s.report .error (Text.ofString "Unable to read " ++ path.text ++ Text.ofString ": "
        ++ FileFailure.message ⟨error, path⟩) with troubled := true }
  else .error ⟨.file ⟨error, path⟩, s⟩

/-- Writes a text to a file. -/
def save (s : Session) (path : Path) (text : Text) : Except Interruption Session :=
  match s.disk.write path (Source.write text) with
  | .ok disk => .ok { s with disk }
  | .error error => .error ⟨.file ⟨error, path⟩, s⟩

/-- Goes on with the parts of the file at a path, if it can be read. -/
def withFile (s : Session) (path : Path)
    (next : Session → List Item → Except Interruption Session) : Except Interruption Session :=
  match s.disk.read path with
  | .error error => s.cannotRead path error
  | .ok bytes =>
    let ls := Source.read bytes
    next (s.tell (Source.splitNotices ls)) (Source.split ls)

end Session

end SourcePrologue.Command

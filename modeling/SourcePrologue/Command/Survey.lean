import SourcePrologue.Command.Json
import SourcePrologue.Command.Session
import SourcePrologue.Prologue.History

/-!
# Listing prologues

The command `prolis` prints a record of every prologue in some files: where it is, its convention,
its name and its sections.
-/

namespace SourcePrologue.Command.Survey

/-- What the command is asked to do. -/
structure Settings where
  json : Bool := false
  verbose : Bool := false

/-- The options of the command. -/
def flags : List (Arguments.Flag Settings) := [
  ⟨["-h", "--help"], .help⟩,
  ⟨["--json"], .switch fun s => { s with json := true }⟩,
  ⟨["--verbose", "-v"], .switch fun s => { s with verbose := true }⟩]

/-- What is known of a prologue. -/
structure Record where
  file : Text
  style : Option Style
  name : Option Text
  sections : List Text
  otherSections : List Text
  adamTask : Bool
  years : List Int

/-- The record of a prologue in a file. -/
def describe (path : Path) (p : Prologue) : Record where
  file := path.text
  style := p.style
  name := (p.content "Name").head?
  sections := p.sectionNames
  otherSections := p.otherNames
  adamTask := p.isAdamTask
  years := p.years

/-- A record as a JSON document. -/
def Record.toJson (r : Record) : Json := .object [
  ("file", .string r.file),
  ("style", (r.style.map fun style => Json.string style.tag).getD .null),
  ("name", (r.name.map Json.string).getD .null),
  ("sections", .list (r.sections.map .string)),
  ("misc_sections", .list (r.otherSections.map .string)),
  ("adam_task", .bool r.adamTask),
  ("years", .list (r.years.map .number))]

/-- A record in lines. -/
def Record.text (r : Record) : Text :=
  let name := r.name.getD []
  Text.unlines (
    (r.file ++ Text.ofString ": "
      ++ (if name.isEmpty then Text.ofString "<unnamed>" else name)
      ++ Text.ofString " (" ++ Source.styleName r.style ++ Text.ofString ")")
    :: r.sections.map (Text.ofString "    " ++ ·))

/-- Takes the records of one file. -/
def surveyFile (progress : Session × List Record) (path : Path) :
    Except Interruption (Session × List Record) :=
  let (s, records) := progress
  match s.disk.read path with
  | .error error => (s.cannotRead path error).map (·, records)
  | .ok bytes =>
    let ls := Source.read bytes
    let s := s.tell (Source.splitNotices ls)
    let found := Source.prologues (Source.split ls)
    let s :=
      if found.isEmpty then s.report .info (Text.ofString "No prologue found in " ++ path.text)
      else s
    .ok (s, records ++ found.map (describe path))

/-- Runs the command: all files are read before anything is printed. -/
def run (s : Session) (settings : Settings) (paths : List Path) :
    Except Interruption Session := do
  let (s, records) ← paths.foldlM surveyFile (s, [])
  if settings.json then
    let document := Json.list (records.map Record.toJson)
    if document.isWritable then .ok (s.print (document.write 0 ++ [Text.newline]))
    else .error ⟨.unwritable, s⟩
  else .ok (s.print (records.flatMap Record.text))

end SourcePrologue.Command.Survey

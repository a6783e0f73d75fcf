import SourcePrologue.Command.Session
import SourcePrologue.Prologue.Edit

/-!
# Converting prologues

The command `procvt` writes source files with all prologues in the modern layout, legacy ones
included, and everything else as it was.
-/

namespace SourcePrologue.Command.Convert

/-- What the command is asked to do. -/
structure Settings where
  output : Option Arguments.Given := none
  defaults : Bool := true
  verbose : Bool := false

/-- The options of the command. -/
def flags : List (Arguments.Flag Settings) := [
  ⟨["-h", "--help"], .help⟩,
  ⟨["--output"], .value fun given s => { s with output := some given }⟩,
  ⟨["--no-defaults"], .switch fun s => { s with defaults := false }⟩,
  ⟨["--verbose", "-v"], .switch fun s => { s with verbose := true }⟩]

/-- The parts of a file in the modern layout, given the name of the file. -/
def convert (name : Text) (defaults : Bool) (parts : List Item) : List Item :=
  Source.mapPrologues (·.modernise (some name) defaults) parts

/-- Converts one file. -/
def convertFile (settings : Settings) (s : Session) (path : Path) :
    Except Interruption Session :=
  s.withFile path fun s parts =>
    let parts := convert path.name settings.defaults parts
    let s := s.tell (Source.renderNotices parts)
    let s :=
      if (Source.prologues parts).isEmpty then
        s.report .warning (Text.ofString "No prologue found in " ++ path.text)
      else s
    let text := Source.render parts
    match settings.output with
    | none => .ok (s.print text)
    | some .nothing => .error ⟨.valueless "write_text", s⟩
    | some (.value output) => do
      let path := Path.ofText output
      let s ← s.save path text
      .ok (s.report .info (Text.ofString "Wrote " ++ path.text))

/-- Runs the command; only one file can be converted into another one. -/
def run (s : Session) (settings : Settings) (paths : List Path) :
    Except Arguments.Problem (Except Interruption Session) :=
  if settings.output.isSome ∧ paths.length ≠ 1 then .error .oneFileOnly
  else .ok (paths.foldlM (convertFile settings) s)

end SourcePrologue.Command.Convert

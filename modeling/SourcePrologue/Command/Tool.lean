import SourcePrologue.Command.Convert
import SourcePrologue.Command.License
import SourcePrologue.Command.Survey

/-!
# The commands

A command reads its arguments and works through its files. Its outcome is how it ends, what it
prints and reports, and the disk it leaves.
-/

namespace SourcePrologue.Command

/-- The commands. -/
inductive Tool where
  | convert
  | survey
  | license
  deriving DecidableEq

/-- The name of a command. -/
def Tool.name : Tool → Text
  | convert => "procvt"
  | survey => "prolis"
  | license => "prolic"

/-- The command of a name. -/
def Tool.ofName? (name : Text) : Option Tool := [convert, survey, license].find? (·.name == name)

/-- How a command is used, in a line. -/
def Tool.usage : Tool → Text
  | convert => "usage: procvt [--output OUTPUT] [--no-defaults] [--verbose] FILE..."
  | survey => "usage: prolis [--json] [--verbose] FILE..."
  | license => "usage: prolic [--copyright HOLDER] [--inplace] [--verbose] FILE..."

/-- How a command ends. -/
inductive Ending where
  /-- All files have been taken, though some may not have been readable. -/
  | finished (allRead : Bool)
  /-- The arguments make no sense. -/
  | misused
  /-- An explanation was asked for. -/
  | explained
  | failed (failure : Failure)

/-- What comes of a command. -/
structure Outcome where
  ending : Ending
  printed : Text := []
  reported : List Text := []
  disk : Disk

/-- The lines of a report. -/
def reportLines (report : Level × Text) : List Text :=
  Text.splitOn (· == Text.newline) (report.1.text ++ Text.ofChar ' ' ++ report.2)

/-- What a session has reported, without what only matters to those who want to know everything. -/
def Session.reported (s : Session) (verbose : Bool) : List Text :=
  (s.reports.filter fun report => verbose || report.1 != .debug).flatMap reportLines

/-- The outcome of a session. -/
def outcome (verbose : Bool) : Except Interruption Session → Outcome
  | .ok s => ⟨.finished !s.troubled, s.printed, s.reported verbose, s.disk⟩
  | .error stop =>
    ⟨.failed stop.failure, stop.session.printed, stop.session.reported verbose, stop.session.disk⟩

/-- The outcome of a refusal of the arguments; only the last line of the message is shown, which is
empty if the message ends in a line feed. -/
def Tool.misuse (tool : Tool) (problem : Arguments.Problem) (disk : Disk) : Outcome where
  ending := .misused
  reported :=
    let message := tool.name ++ Text.ofString ".py: error: " ++ problem.message
    (Text.splitOn (· == Text.newline) message).getLast?.toList
  disk := disk

/-- Reads arguments for a command and goes on with the settings and the files. -/
def Tool.withArguments {σ : Type} (tool : Tool) (flags : List (Arguments.Flag σ)) (settings : σ)
    (arguments : List Text) (disk : Disk) (next : σ → List Path → Outcome) : Outcome :=
  match Arguments.read flags settings arguments with
  | .ok (settings, files) => next settings (files.map Path.ofText)
  | .error .help => { ending := .explained, printed := tool.usage ++ [Text.newline], disk }
  | .error (.problem problem) => tool.misuse problem disk

/-- Runs a command with its arguments. -/
def Tool.run (tool : Tool) (arguments : List Text) (currentYear : Int) (disk : Disk) : Outcome :=
  match tool with
  | .convert => tool.withArguments Convert.flags {} arguments disk fun settings paths =>
      match Convert.run { disk } settings paths with
      | .ok result => outcome settings.verbose result
      | .error problem => tool.misuse problem disk
  | .survey => tool.withArguments Survey.flags {} arguments disk fun settings paths =>
      outcome settings.verbose (Survey.run { disk } settings paths)
  | .license => tool.withArguments License.flags {} arguments disk fun settings paths =>
      outcome settings.verbose (License.run currentYear { disk } settings paths)

end SourcePrologue.Command

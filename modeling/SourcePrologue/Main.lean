import SourcePrologue.Command.Tool
import Std.Time.Zoned

/-!
# The program

`sourceprologue COMMAND ARGUMENT...` runs one of the commands `procvt`, `prolis` and `prolic`. The
files that the arguments name are loaded, the command is run on them, and what it has changed is
written back.
-/

namespace SourcePrologue.Main

/-- The string of a text, without its stray bytes. -/
def string (t : Text) : String :=
  String.ofList (t.filterMap fun
    | .char c => some c
    | .stray _ => none)

/-- The spelling of names that lead from the root. -/
def fileName (names : List Text) : String := string (Path.text { root := Text.ofChar '/', names })

/-- The names that a path leads through from the root. -/
def namesFrom (workingDirectory : List Text) (path : Path) : List Text :=
  path.names.foldl (fun here name => if name = Text.ofString ".." then here.dropLast else here ++ [name])
    (if path.root.isEmpty then workingDirectory else [])

/-- Loads the file or the directory of given names, if there is one. -/
def load (disk : Disk) (names : List Text) : IO Disk := do
  if ← ((← IO.currentDir) / fileName names).isDir then
    return { disk with directories := names :: disk.directories }
  try
    let bytes ← IO.FS.readBinFile (fileName names)
    return { disk with files := Disk.replace names bytes.toList disk.files }
  catch _ => return disk

/-- The paths that an argument may name. -/
def pathsOf (argument : Text) : List Path :=
  [Path.ofText argument] ++ ((Arguments.splitEquals argument).2.map Path.ofText).toList

/-- Loads everything that arguments may name, and the directories around it. -/
def loadAll (workingDirectory : List Text) (arguments : List Text) : IO Disk :=
  (arguments.flatMap pathsOf).foldlM (fun disk path => do
    let names := namesFrom workingDirectory path
    load (← load disk names.dropLast) names) { files := [], workingDirectory }

/-- Writes back the files that have changed. -/
def store (before after : Disk) : IO Unit := do
  for (names, bytes) in after.files do
    if before.file? names != some bytes then
      IO.FS.writeBinFile (fileName names) ⟨bytes.toArray⟩

/-- The code that the program ends with. -/
def exitCode : Command.Ending → UInt32
  | .finished true | .explained => 0
  | .finished false | .failed _ => 1
  | .misused => 2

/-- Runs a command on the files of the disk. -/
def run (tool : Command.Tool) (arguments : List Text) : IO UInt32 := do
  let workingDirectory := (Path.ofText (Text.ofString (← IO.currentDir).toString)).names
  let today ← Std.Time.PlainDate.now
  let disk ← loadAll workingDirectory arguments
  let result := tool.run arguments today.year.toInt disk
  store disk result.disk
  (← IO.getStdout).write ⟨(Utf8.encode result.printed).toArray⟩
  for line in result.reported do
    IO.eprintln (string line)
  if let .failed failure := result.ending then
    IO.eprintln (string failure.message)
  return exitCode result.ending

end SourcePrologue.Main

/-- Takes the name of a command and its arguments. -/
def main (arguments : List String) : IO UInt32 := do
  match arguments.map SourcePrologue.Text.ofString with
  | name :: rest =>
    match SourcePrologue.Command.Tool.ofName? name with
    | some tool => SourcePrologue.Main.run tool rest
    | none =>
      IO.eprintln "the commands are procvt, prolis and prolic"
      return 2
  | [] =>
    IO.eprintln "the commands are procvt, prolis and prolic"
    return 2

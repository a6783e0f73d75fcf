import SourcePrologue.Path
import SourcePrologue.Text.Quoted
import SourcePrologue.Text.Utf8

/-!
# Files on a disk

A `Disk` is a tree of directories with files in them, and a directory in which the work is done. A
path leads through the tree name by name, from the root or from the working directory; `..` leads
one directory up, and from the root nowhere. Names and paths have a greatest length in bytes.
-/

namespace SourcePrologue

/-- Why a file cannot be read or written. -/
inductive FileError where
  | notFound
  | notDirectory
  | isDirectory
  | nameTooLong
  /-- The path holds the character that ends paths, and so is none. -/
  | noPath
  deriving DecidableEq

/-- The number and the wording of an error. -/
def FileError.text : FileError → Text
  | notFound => "[Errno 2] No such file or directory"
  | notDirectory => "[Errno 20] Not a directory"
  | isDirectory => "[Errno 21] Is a directory"
  | nameTooLong => "[Errno 36] File name too long"
  | noPath => "embedded null byte"

/-- Whether an error is found in looking for the file, rather than in the path itself. -/
def FileError.isSystemError : FileError → Bool
  | noPath => false
  | _ => true

/-- An error at a path. -/
structure FileFailure where
  error : FileError
  path : Path

/-- The wording of a failure, with the path if it is one. -/
def FileFailure.message (failure : FileFailure) : Text :=
  if failure.error.isSystemError then
    failure.error.text ++ Text.ofString ": " ++ failure.path.text.quoted
  else failure.error.text

/-- Files with their bytes and directories, both by the names that lead to them from the root. -/
structure Disk where
  files : List (List Text × List UInt8)
  directories : List (List Text) := []
  workingDirectory : List Text

namespace Disk

/-- The bytes of the file of given names. -/
def file? (disk : Disk) (names : List Text) : Option (List UInt8) := disk.files.lookup names

/-- Whether names lead to a directory: one that is listed or has something below it. -/
def isDirectory (disk : Disk) (names : List Text) : Bool :=
  names.isPrefixOf disk.workingDirectory || disk.directories.any (names.isPrefixOf ·)
    || disk.files.any fun f => names.isPrefixOf f.1 && f.1 != names

/-- The greatest number of bytes in a name. -/
def maxNameBytes : Nat := 255

/-- The greatest number of bytes in a path. -/
def maxPathBytes : Nat := 4095

/-- Where names lead to from the place `here`. Every name but the last has to lead to a
directory. -/
def walk (disk : Disk) (here : List Text) : List Text → Except FileError (List Text)
  | [] => .ok here
  | name :: rest =>
    if !disk.isDirectory here then
      .error (if (disk.file? here).isSome then .notDirectory else .notFound)
    else if name = Text.ofString ".." then walk disk here.dropLast rest
    else if maxNameBytes < (Utf8.encode name).length then .error .nameTooLong
    else walk disk (here ++ [name]) rest

/-- The names of the file that a path leads to, whether or not there is one. -/
def locate (disk : Disk) (path : Path) : Except FileError (List Text) :=
  if path.text.contains (.char '\x00') then .error .noPath
  else if maxPathBytes < (Utf8.encode path.text).length then .error .nameTooLong
  else do
    let names ← disk.walk (if path.root.isEmpty then disk.workingDirectory else []) path.names
    if disk.isDirectory names then .error .isDirectory else .ok names

/-- The bytes of the file at a path. -/
def read (disk : Disk) (path : Path) : Except FileError (List UInt8) := do
  let names ← disk.locate path
  match disk.file? names with
  | some bytes => .ok bytes
  | none => .error .notFound

/-- Files with the bytes of one of them replaced, or with one more file. -/
def replace (names : List Text) (bytes : List UInt8) :
    List (List Text × List UInt8) → List (List Text × List UInt8)
  | [] => [(names, bytes)]
  | f :: rest => if f.1 = names then (names, bytes) :: rest else f :: replace names bytes rest

/-- The disk with bytes written to the file at a path. -/
def write (disk : Disk) (path : Path) (bytes : List UInt8) : Except FileError Disk := do
  let names ← disk.locate path
  .ok { disk with files := replace names bytes disk.files }

end Disk

end SourcePrologue

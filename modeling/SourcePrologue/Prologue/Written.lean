import SourcePrologue.Prologue.Basic
import SourcePrologue.Text.Lines

/-!
# The written form of a prologue

A prologue is written between an open and a close marker, section by section in the standard order
and whatever the order in which they came. Each section is a heading with its lines below it, every
line behind the comment character, and an empty line after it.
-/

namespace SourcePrologue.Prologue

/-- The names of all sections in the order in which they are written. The documentation of an ADAM
task gives the arguments before the description, which they follow otherwise. -/
def order (p : Prologue) : List Text :=
  Standard.slots.flatMap fun
    | .other => p.otherNames
    | .named name =>
      if p.isAdamTask then
        if name = Text.ofString "Description" then [Text.ofString "Arguments", name]
        else if name = Text.ofString "Arguments" then []
        else [name]
      else [name]

/-- The name and the lines that are written for a section: what it holds, without blank edges, or
else its default. Lists that are open to new entries end with a placeholder. -/
def written? (p : Prologue) (name : Text) : Option (Text × List Text) :=
  let (found, held) := p.resolved name
  let ls := Body.trimBlankEdges held
  match ls.getLast? with
  | none =>
    if p.writeDefaults then (Standard.defaults.lookup name).map fun line => (name, [line]) else none
  | some last =>
    match Standard.terminators.lookup name with
    | some terminator => some (found, if Body.isPlaceholder last then ls else ls ++ [terminator])
    | none => some (found, ls)

/-- A line of a section as it is written. A continued Fortran statement stands one column to the
left, so that its marker is where the compiler wants it. -/
def writeLine (p : Prologue) (name line : Text) : Text :=
  if line.isBlank then p.commentChar
  else if name = Text.ofString "Invocation" ∧ line.head? = some (.char ':') then
    p.commentChar ++ List.replicate 4 (.char ' ') ++ line
  else p.commentChar ++ List.replicate 5 (.char ' ') ++ line

/-- The lines of a section with its heading and the empty line that ends it. -/
def writeSection (p : Prologue) (name : Text) (ls : List Text) : List Text :=
  (p.commentChar ++ Text.ofString "  " ++ name ++ Text.ofChar ':') :: ls.map (p.writeLine name)
    ++ [[]]

/-- The lines of a written prologue. -/
def writtenLines (p : Prologue) : List Text :=
  (if p.opensComment then [Text.ofString "/*"] else [])
    ++ [p.commentChar ++ Text.ofChar '+']
    ++ p.order.flatMap (fun name =>
        match p.written? name with
        | some (found, ls) => p.writeSection found ls
        | none => [])
    ++ [p.commentChar ++ Text.ofChar '-']
    ++ (if p.closesComment then [Text.ofString "*/"] else [])

/-- A prologue as source text. -/
def render (p : Prologue) : Text := Text.unlines p.writtenLines

/-- What is to be told while a prologue is written. -/
def renderNotices (p : Prologue) : List Notice := p.order.filterMap p.conflict?

end SourcePrologue.Prologue

import SourcePrologue.Prologue.Basic

/-!
# Drafts

A `Draft` is a prologue while it is being read: what is known of it so far, the blocks of lines that
have been closed, and the block that is open. A block without a line that is not blank is dropped.
Settling a draft puts the closed blocks into the prologue, those of one name one after another with
an empty line between them.
-/

namespace SourcePrologue

/-- A prologue with lines added to a section, after an empty line if it holds lines already. -/
def Prologue.append (p : Prologue) (name : Text) (ls : List Text) : Prologue :=
  let held := p.content name
  p.setContent name (if held.isEmpty then ls else held ++ [] :: ls)

/-- A prologue that is being read. -/
structure Draft where
  prologue : Prologue
  /-- The name of the open block, if there is one. -/
  heading : Option Text := none
  /-- The lines of the open block. -/
  block : List Text := []
  /-- The closed blocks that have not been put into the prologue, with their names. -/
  blocks : List (Text × List Text) := []

namespace Draft

/-- Whether a block is open. -/
def isOpen (d : Draft) : Bool := d.heading.isSome

/-- Closes the open block. -/
def close (d : Draft) : Draft :=
  match d.heading with
  | none => d
  | some name =>
    let ls := Body.trimBlankEdges d.block
    { d with
      heading := none
      block := []
      blocks := if ls.isEmpty then d.blocks else d.blocks ++ [(name, ls)] }

/-- Opens a block. -/
def start (d : Draft) (name : Text) : Draft :=
  { d.close with heading := some (SectionName.canonical name) }

/-- Adds a line to the open block. -/
def add (d : Draft) (line : Text) : Draft := { d with block := d.block ++ [line] }

/-- Puts everything read into the prologue. -/
def settle (d : Draft) : Draft :=
  let d := d.close
  { d with prologue := d.blocks.foldl (fun p b => p.append b.1 b.2) d.prologue, blocks := [] }

end Draft

end SourcePrologue

import SourcePrologue.Convention.Legacy
import SourcePrologue.Convention.Modern

/-!
# Readers

A `Reader` has been opened on a start line and takes the lines of one prologue after it. For every
line it says what it makes of it: nothing, a line of ordinary source to be passed on, the prologue
that is complete, or both, when a line of source has ended the prologue.

A `Worker` reads by one convention only and refuses lines until one of them is a start line.
-/

namespace SourcePrologue

/-- What comes of a line: ordinary source, a complete prologue, both or neither. -/
structure Emission where
  line : Option Text := none
  prologue : Option Prologue := none

/-- A prologue that is being read by one of the conventions. -/
inductive Reader where
  | modern (marker : Marker) (draft : Draft)
  | legacy (marker : Marker) (seenHeading : Bool) (draft : Draft)

namespace Reader

/-- The reader of the prologue that a line opens in a convention. -/
def openAs? : Style → Text → Option Reader
  | .modern, line => (Modern.opening? line).map fun (comment, marker) =>
      .modern marker (Modern.openDraft comment marker)
  | .legacy, line => (Legacy.opening? line).map fun opening =>
      .legacy opening.marker false (Legacy.openDraft opening)

/-- The reader of the prologue that a line opens in the first convention that allows it. -/
def open? (line : Text) : Option Reader := Style.all.findSome? (openAs? · line)

/-- What has been read. -/
def draft : Reader → Draft
  | modern _ draft => draft
  | legacy _ _ draft => draft

/-- The reader with everything read put into the prologue. -/
def settle : Reader → Reader
  | modern marker draft => modern marker draft.settle
  | legacy marker seenHeading draft => legacy marker seenHeading draft.settle

/-- The prologue read so far. -/
def result (r : Reader) : Prologue := r.settle.draft.prologue

/-- The reader after a line, and what comes of the line. -/
def push (r : Reader) (line : Text) : Reader × Emission :=
  match r with
  | modern marker draft =>
    let kind := Modern.classify marker line
    let draft := Modern.step draft kind
    (modern marker draft, { prologue := if kind.isClosing then some draft.prologue else none })
  | legacy marker seenHeading draft =>
    let kind := Legacy.classify marker line
    let passed := if kind.isPassed then some line else none
    if kind.isEnd seenHeading then
      let draft := draft.settle
      (legacy marker seenHeading draft, { line := passed, prologue := some draft.prologue })
    else
      let seenHeading := seenHeading || match kind with
        | .heading .. => true
        | _ => false
      (legacy marker seenHeading (Legacy.step draft kind), { line := passed })

/-- What is to be told about a line. -/
def notices (r : Reader) (line : Text) : List Notice :=
  match r with
  | modern marker draft => Modern.stepNotices draft line (Modern.classify marker line)
  | legacy .. => []

end Reader

/-- A reader for one convention, which waits for a start line. -/
structure Worker where
  style : Style
  reader : Option Reader := none

namespace Worker

/-- The refusal of a line that is no start line. -/
structure NotAStart where
  style : Style
  line : Text

/-- The wording of a refusal. -/
def NotAStart.message (refusal : NotAStart) : Text :=
  (match refusal.style with
    | .modern => Text.ofString "Not the start of a STARLSE prologue: "
    | .legacy => Text.ofString "Not the start of an ADAM/SSE prologue: ")
  ++ refusal.line.quoted

/-- The worker after a line, and what comes of the line. -/
def push (w : Worker) (line : Text) : Except NotAStart (Worker × Emission) :=
  match w.reader with
  | some r =>
    let (r, emission) := r.push line
    .ok ({ w with reader := some r }, emission)
  | none =>
    match Reader.openAs? w.style line with
    | some r => .ok ({ w with reader := some r }, {})
    | none => .error ⟨w.style, line⟩

/-- What is to be told about a line. -/
def notices (w : Worker) (line : Text) : List Notice :=
  (w.reader.map (·.notices line)).getD []

/-- The worker with everything read put into the prologue. -/
def settle (w : Worker) : Worker := { w with reader := w.reader.map Reader.settle }

/-- The prologue read so far; an empty one before the start line. -/
def result (w : Worker) : Prologue :=
  match w.reader with
  | some r => r.result
  | none => { style := some w.style }

/-- Whether a section is open. -/
def inSection (w : Worker) : Bool := w.reader.any (·.draft.isOpen)

end Worker

end SourcePrologue

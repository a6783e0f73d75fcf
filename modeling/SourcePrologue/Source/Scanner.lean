import SourcePrologue.Convention.Reader

/-!
# Scanning source lines

The scanner takes the lines of a source file one after another and finds the prologues in them.
Outside a prologue it asks of every line whether it opens one; inside, the line goes to the reader
of that prologue.
-/

namespace SourcePrologue

/-- A scanner is outside all prologues, or it holds the **reader** of the one it is in. -/
structure Scanner where
  reader : Option Reader := none

namespace Scanner

/-- Whether the scanner is inside a prologue. -/
def inPrologue (s : Scanner) : Bool := s.reader.isSome

/-- The scanner after a line, and what comes of the line. Line ends at its end do not count. -/
def push (s : Scanner) (line : Text) : Scanner × Emission :=
  let line := line.chomp
  match s.reader with
  | some r =>
    let (r, emission) := r.push line
    (⟨if emission.prologue.isSome then none else some r⟩, emission)
  | none =>
    match Reader.open? line with
    | some r => (⟨some r⟩, {})
    | none => (s, { line := some line })

/-- What is to be told about a line. -/
def notices (s : Scanner) (line : Text) : List Notice :=
  (s.reader.map (·.notices line.chomp)).getD []

/-- The prologue that the scanner is inside when the lines end, as far as it goes. -/
def flush (s : Scanner) : Option Prologue := s.reader.map Reader.result

end Scanner

end SourcePrologue

import SourcePrologue.Prologue.Basic

/-!
# The years of a history

Every line of the section History is dated by the first four digits in a row that it holds. A line
without them may hold a date such as `14/06/88` or `2.5.07`, whose two digits stand for a year
after 1950 and up to 2050.
-/

namespace SourcePrologue

namespace History

/-- The year at the start of a text that begins with four digits. -/
def fullYear? : Text → Option Int
  | a :: b :: c :: d :: _ => do
    let a ← a.digit?
    let b ← b.digit?
    let c ← c.digit?
    let d ← d.digit?
    some (((a * 10 + b) * 10 + c) * 10 + d : Nat)
  | _ => none

/-- What follows a number and a stroke or full stop at the start of a text. -/
def afterDatePart? (t : Text) : Option Text :=
  match t.takeWhile Glyph.isDigit, t.dropWhile Glyph.isDigit with
  | _ :: _, .char c :: rest => if c = '/' ∨ c = '.' then some rest else none
  | _, _ => none

/-- The year that two digits stand for. -/
def century (n : Nat) : Int := if 50 < n then 1900 + n else 2000 + n

/-- The year of a date with a year of two digits at the start of a text. -/
def shortYear? (t : Text) : Option Int := do
  let t ← afterDatePart? t
  let t ← afterDatePart? t
  match t with
  | a :: b :: _ => do
    let a ← a.digit?
    let b ← b.digit?
    some (century (a * 10 + b))
  | _ => none

/-- The year that a line of a history is dated with. -/
def year? (line : Text) : Option Int :=
  (Text.firstMatch fullYear? line).orElse fun _ => Text.firstMatch shortYear? line

end History

/-- The years in the history of a prologue, each once and in order. -/
def Prologue.years (p : Prologue) : List Int :=
  ascending ((p.content "History").filterMap History.year?)

end SourcePrologue

import SourcePrologue.Text.Basic

/-!
# Runs of years

Years in a row are written as one **run**, `1990-1992`, and a year by itself as `1995`.
-/

namespace SourcePrologue.Copyright

/-- The years from `first` to `last`. -/
structure YearRun where
  first : Int
  last : Int
  deriving DecidableEq

/-- The runs of years that go on from the run from `first` to `last`. A year that lies more than one
after the last one begins a new run. -/
def runsFrom (first last : Int) : List Int → List YearRun
  | [] => [⟨first, last⟩]
  | year :: years =>
    if 1 < year - last then ⟨first, last⟩ :: runsFrom year year years
    else runsFrom first year years

/-- The runs of a list of ascending years. -/
def runs : List Int → List YearRun
  | [] => []
  | year :: years => runsFrom year year years

/-- A run as it is written. -/
def YearRun.text (r : YearRun) : Text :=
  if r.first < r.last then Text.ofInt r.first ++ Text.ofChar '-' ++ Text.ofInt r.last
  else Text.ofInt r.first

/-- Years as they are written in a notice, run by run. -/
def compress (years : List Int) : List Text := (runs years).map YearRun.text

end SourcePrologue.Copyright

import SourcePrologue.Text.Glyph

/-!
# Holders of the rights

The rights in a file belong to whoever paid for the work in a year. A **funding body** is a label
with an interval of years that may be open at either end; a year goes to the first body in a list
that holds it.
-/

namespace SourcePrologue.Copyright

/-- A **funding body**: the holder of the rights of a range of years. -/
structure FundingBody where
  label : Text
  firstYear : Option Int := none
  lastYear : Option Int := none
  deriving DecidableEq

/-- Whether the body holds the rights of a year. -/
def FundingBody.holds (body : FundingBody) (year : Int) : Bool :=
  body.firstYear.all (· ≤ year) && body.lastYear.all (year ≤ ·)

/-- The bodies that paid for the work on the sources. -/
def fundingBodies : List FundingBody := [
  ⟨"Science & Engineering Research Council", none, some 1994⟩,
  ⟨"Central Laboratory of the Research Councils", some 1995, some 2004⟩,
  ⟨"Particle Physics & Astronomy Research Council", some 2005, some 2006⟩,
  ⟨"Science & Technology Facilities Council", some 2007, none⟩]

/-- The years credited to a label: those whose first holder bears it. -/
def share (bodies : List FundingBody) (label : Text) (years : List Int) : List Int :=
  years.filter fun year => (bodies.find? (·.holds year)).any (·.label == label)

/-- Who is credited: the **bodies** of the time, or one **holder** for all years. -/
inductive Credit where
  | bodies (bodies : List FundingBody)
  | holder (name : Text)

end SourcePrologue.Copyright

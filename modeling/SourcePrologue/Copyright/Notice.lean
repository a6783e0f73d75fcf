import SourcePrologue.Copyright.Holder
import SourcePrologue.Copyright.YearRun
import SourcePrologue.Text.Fill

/-!
# The copyright notice

A notice has one sentence for each holder with the years credited to it, and a closing phrase. It is
laid out in lines of a given width. Without a year that somebody holds there is no notice.
-/

namespace SourcePrologue.Copyright

/-- The width of the lines of a notice. -/
def noticeWidth : Nat := 66

/-- The phrase that closes a notice. -/
def closingPhrase : Text := "All Rights Reserved."

/-- The sentence that credits years to a holder. -/
def sentence (years : List Int) (holder : Text) : Text :=
  Text.ofString "Copyright (C) " ++ Text.join (Text.ofChar ',') (compress years)
    ++ Text.ofChar ' ' ++ holder ++ Text.ofChar '.'

/-- The sentences of a notice, one for each entry of the list of bodies that has a share. -/
def sentences (years : List Int) : Credit → List Text
  | .holder name => if years.isEmpty then [] else [sentence years name.trim]
  | .bodies bodies => bodies.filterMap fun body =>
      let credited := share bodies body.label years
      if credited.isEmpty then none else some (sentence credited body.label)

/-- The words of a notice. -/
def noticeWords (years : List Int) (credit : Credit) : List Text :=
  let said := sentences years credit
  if said.isEmpty then [] else (Text.unwords (said ++ [closingPhrase])).words

/-- A notice in lines of a given width. -/
def notice (width : Nat) (years : List Int) (credit : Credit) : List Text :=
  Text.fill width (noticeWords years credit)

/-- A width in which nothing can be laid out. -/
structure InvalidWidth where
  width : Int

/-- The wording of the refusal of a width. -/
def InvalidWidth.message (refusal : InvalidWidth) : Text :=
  Text.ofString "invalid width " ++ Text.ofInt refusal.width ++ Text.ofString " (must be > 0)"

/-- A notice in lines of a width that may be anything; it matters only if there is a notice. -/
def noticeIn (width : Int) (years : List Int) (credit : Credit) :
    Except InvalidWidth (List Text) :=
  if width ≤ 0 ∧ noticeWords years credit ≠ [] then .error ⟨width⟩
  else .ok (notice width.toNat years credit)

end SourcePrologue.Copyright

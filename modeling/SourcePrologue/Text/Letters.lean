import SourcePrologue.Text.Basic
import SourcePrologue.Unicode.Case

/-!
# Letter case of texts

Small letters by the full case mapping, in which one character may become several, and capitalised
words. A capital sigma becomes the final small form at the end of a word: a cased character stands
before it and none after it, case-ignorable characters being skipped on both sides. Comparisons that
ignore case (`plain`) know the Latin letters only.
-/

namespace SourcePrologue.Text

/-- Whether a glyph is skipped in looking for the letters beside a sigma. -/
def isIgnorable : Glyph → Bool
  | .char c => Unicode.isCaseIgnorable c
  | .stray _ => false

/-- Whether the first glyph that is not skipped is a cased character. -/
def meetsCased (t : Text) : Bool :=
  match t.dropWhile isIgnorable with
  | .char c :: _ => Unicode.isCased c
  | _ => false

/-- The small form of a glyph that follows a cased character or not and stands before `rest`. -/
def lowerGlyph (afterCased : Bool) (rest : Text) : Glyph → Text
  | .char c =>
    if c = 'Σ' then [.char (if afterCased && !meetsCased rest then 'ς' else 'σ')]
    else (Unicode.lower c).map .char
  | .stray high => [.stray high]

/-- Small letters for a text whose surroundings on the left are told by `afterCased`. -/
def lowerFrom (afterCased : Bool) : Text → Text
  | [] => []
  | g :: t =>
    lowerGlyph afterCased t g
      ++ lowerFrom (if isIgnorable g then afterCased else meetsCased [g]) t

/-- A text in small letters. -/
def lower (t : Text) : Text := lowerFrom false t

/-- The form of a glyph at the head of a capitalised word. -/
def titleGlyph : Glyph → Text
  | .char c => (Unicode.title c).map .char
  | .stray high => [.stray high]

/-- A word in small letters but for its first, which takes its title-case form. -/
def capitalize (word : Text) : Text :=
  match lower word with
  | [] => []
  | g :: t => titleGlyph g ++ t

/-- A glyph with the case of Latin letters ignored: their capitals and the signs that have them as
another case (dotted and dotless i, long s, the Kelvin sign) become the small letter. -/
def plainLetter : Glyph → Glyph
  | .char c =>
    .char (if c.isUpper then c.toLower
      else if c = '\u0130' ∨ c = '\u0131' then 'i'
      else if c = '\u017f' then 's'
      else if c = '\u212a' then 'k'
      else c)
  | .stray high => .stray high

/-- A text with the case of Latin letters ignored. -/
def plain (t : Text) : Text := t.map plainLetter

end SourcePrologue.Text

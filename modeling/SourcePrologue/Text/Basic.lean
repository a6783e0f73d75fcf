import SourcePrologue.Text.Glyph

/-!
# Blanks, words and separators

Operations on texts that depend on white space or on a separator. `trim` takes the white space off
both ends, `words` gives the runs between white space, and `splitOn` cuts a text at every separator;
joining the pieces again gives the text back (`join_splitOn`).
-/

namespace SourcePrologue.Text

/-- Whether a text holds nothing but white space. -/
def isBlank (t : Text) : Bool := t.all Glyph.isBlank

/-- A text without its leading white space. -/
def trimStart (t : Text) : Text := t.dropWhile Glyph.isBlank

/-- A list without its longest tail of elements with property `p`. -/
def dropEnd {α : Type} (p : α → Bool) (l : List α) : List α := (l.reverse.dropWhile p).reverse

/-- A text without its trailing white space. -/
def trimEnd (t : Text) : Text := dropEnd Glyph.isBlank t

/-- A text without the white space at its ends. -/
def trim (t : Text) : Text := (trimStart t).trimEnd

/-- The character that ends a line. -/
def newline : Glyph := .char '\n'

/-- The carriage return. -/
def carriageReturn : Glyph := .char '\r'

/-- A line without the line feeds and carriage returns at its end. -/
def chomp (t : Text) : Text := dropEnd (fun g => g == newline || g == carriageReturn) t

/-- A text without a line feed at its end; only one is taken. -/
def dropNewline (t : Text) : Text := if t.getLast? = some newline then t.dropLast else t

/-- The pieces between the separators, which are the glyphs with property `p`. There is one piece
more than there are separators, and pieces may be empty. -/
def splitOn (p : Glyph → Bool) : Text → List Text
  | [] => [[]]
  | g :: t =>
    if p g then [] :: splitOn p t
    else match splitOn p t with
      | [] => [[g]]
      | piece :: pieces => (g :: piece) :: pieces

/-- The maximal runs of glyphs that are not white space. -/
def words (t : Text) : List Text := (splitOn Glyph.isBlank t).filter (!·.isEmpty)

/-- Texts in a row with a separator between each two. -/
def join (separator : Text) : List Text → Text
  | [] => []
  | [t] => t
  | t :: ts => t ++ separator ++ join separator ts

/-- Words with single spaces between them. -/
def unwords (ws : List Text) : Text := join (ofChar ' ') ws

/-- What is left of a text after a given beginning. -/
def after? (beginning : Text) (t : Text) : Option Text := beginning.isPrefixOf? t

/-- Whether a text begins with another one. -/
def startsWith (t beginning : Text) : Bool := beginning.isPrefixOf t

/-- Whether a text ends with another one. -/
def endsWith (t ending : Text) : Bool := ending.isSuffixOf t

/-- Whether a text stands somewhere within another one. -/
def occursIn (part : Text) : Text → Bool
  | [] => part.isEmpty
  | g :: t => part.isPrefixOf (g :: t) || occursIn part t

/-- The value of the leftmost place of a text where `f` finds something. -/
def firstMatch {α : Type} (f : Text → Option α) : Text → Option α
  | [] => f []
  | g :: t => (f (g :: t)).orElse fun _ => firstMatch f t

/-- A number in decimal notation, with a hyphen in front if it is negative. -/
def ofInt : Int → Text
  | .ofNat n => (Nat.toDigits 10 n).map .char
  | .negSucc n => .char '-' :: (Nat.toDigits 10 (n + 1)).map .char

theorem splitOn_ne_nil (p : Glyph → Bool) (t : Text) : splitOn p t ≠ [] := by
  cases t with
  | nil => simp [splitOn]
  | cons g t =>
    simp only [splitOn]
    split
    · simp
    · split <;> simp

/-- Cutting a text at a separator loses nothing. -/
theorem join_splitOn (separator : Glyph) (t : Text) :
    join [separator] (splitOn (· == separator) t) = t := by
  induction t with
  | nil => rfl
  | cons g t ih =>
    have hne := splitOn_ne_nil (· == separator) t
    simp only [splitOn]
    split
    · next h =>
      rw [show g = separator by simpa using h]
      cases hs : splitOn (· == separator) t with
      | nil => exact absurd hs hne
      | cons a l => rw [hs] at ih; simp [join, ih]
    · cases hs : splitOn (· == separator) t with
      | nil => exact absurd hs hne
      | cons a l =>
        rw [hs] at ih
        cases l with
        | nil => simpa [join] using ih
        | cons b l => simpa [join] using ih

end SourcePrologue.Text

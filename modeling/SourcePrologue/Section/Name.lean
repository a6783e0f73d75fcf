import SourcePrologue.Text.Letters
import SourcePrologue.Text.Quoted

/-!
# Section names

A section is known by the **canonical** form of its name: single spaces between the words, words of
capital letters as they are, `of` in small letters, and any other word capitalised. A name without
a word is refused.
-/

namespace SourcePrologue.SectionName

/-- Why a name cannot stand for a section. -/
inductive Refusal where
  | missing
  | blank (given : Text)
  deriving DecidableEq

/-- The wording of a refusal. -/
def Refusal.message : Refusal → Text
  | .missing => "Section name is not defined"
  | .blank given => Text.ofString "Section name is empty: " ++ given.quoted

/-- Whether a glyph is one of the capitals `A` to `Z` or the underscore. -/
def isCapital : Glyph → Bool
  | .char c => c.isUpper || c == '_'
  | .stray _ => false

/-- The canonical form of a word. -/
def canonicalWord (word : Text) : Text :=
  if word.all isCapital then word
  else if word.lower = Text.ofString "of" then Text.ofString "of"
  else word.capitalize

/-- The canonical form of a name; of a blank name it is empty. -/
def canonical (name : Text) : Text := Text.unwords (name.words.map canonicalWord)

/-- A name that may be missing or blank, if it is neither. -/
def require : Option Text → Except Refusal Text
  | none => .error .missing
  | some name => if name.isBlank then .error (.blank name) else .ok name

/-- The canonical form of a name that may be missing or blank. -/
def normalize (name : Option Text) : Except Refusal Text := (require name).map canonical

end SourcePrologue.SectionName

import SourcePrologue.Text.Basic
import SourcePrologue.Unicode.Hidden

/-!
# Quoted texts

Messages show a text between quotation marks with everything escaped that could not be read: the
mark itself, backslashes, line ends, hidden characters and stray bytes. Single marks are used
unless the text holds a single mark and no double one.
-/

namespace SourcePrologue.Text

/-- The hexadecimal digits of a number, padded with zeros to a width. -/
def hexDigits (width n : Nat) : Text :=
  let digits := Nat.toDigits 16 n
  (List.replicate (width - digits.length) '0' ++ digits).map .char

/-- The escape for a code point, in the shortest of the three forms that holds it. -/
def escapeCode (n : Nat) : Text :=
  if n < 0x100 then ofString "\\x" ++ hexDigits 2 n
  else if n < 0x10000 then ofString "\\u" ++ hexDigits 4 n
  else ofString "\\U" ++ hexDigits 8 n

/-- A glyph as it stands between quotation marks. -/
def quoteGlyph (mark : Char) : Glyph → Text
  | .char c =>
    if c = mark ∨ c = '\\' then [.char '\\', .char c]
    else if c = '\t' then ofString "\\t"
    else if c = '\n' then ofString "\\n"
    else if c = '\r' then ofString "\\r"
    else if Unicode.isHidden c then escapeCode c.toNat
    else [.char c]
  | .stray high => escapeCode (Glyph.stray high).code

/-- The mark that a text is quoted with. -/
def quotationMark (t : Text) : Char :=
  if .char '\x27' ∈ t ∧ .char '\x22' ∉ t then '\x22' else '\x27'

/-- A text between quotation marks. -/
def quoted (t : Text) : Text :=
  let mark := quotationMark t
  ofChar mark ++ t.flatMap (quoteGlyph mark) ++ ofChar mark

end SourcePrologue.Text

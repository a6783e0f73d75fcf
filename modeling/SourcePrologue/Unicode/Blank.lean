import SourcePrologue.Unicode.Spans

/-!
# Blank characters

The characters that count as white space: the separators of categories Zs, Zl and Zp, the
bidirectional classes B, S and WS among the controls (so U+001C to U+001F and U+0085 belong to
them), and nothing else; U+200B and U+FEFF do not.
-/

namespace SourcePrologue.Unicode

/-- The code points of the **blank** characters. -/
def blankSpans : Spans := [
  (0x9, 0xD), (0x1C, 0x20), (0x85, 0x85), (0xA0, 0xA0), (0x1680, 0x1680), (0x2000, 0x200A),
  (0x2028, 0x2029), (0x202F, 0x202F), (0x205F, 0x205F), (0x3000, 0x3000)]

/-- Whether a character is white space. -/
def isBlank (c : Char) : Bool := blankSpans.has c.toNat

/-- Every character that the core library takes for white space is blank. -/
theorem isBlank_of_isWhitespace {c : Char} (h : c.isWhitespace = true) : isBlank c = true := by
  simp only [Char.isWhitespace, Bool.or_eq_true, decide_eq_true_eq] at h
  rcases h with ((rfl | rfl) | rfl) | rfl <;> decide

end SourcePrologue.Unicode

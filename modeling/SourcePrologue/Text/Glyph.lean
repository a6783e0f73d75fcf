import SourcePrologue.Unicode.Blank
import SourcePrologue.Unicode.Digit
import SourcePrologue.Unicode.Word

/-!
# Glyphs

Source files are meant to be UTF-8 and not all of them are. A text is a list of **glyphs**: a glyph
is a character, or a byte that belongs to no valid character and is carried along as it is. Stray
bytes have no properties: they are neither blank, nor word characters, nor digits.

Texts are ordered by code point; a stray byte takes the place of the code point U+DC00 plus its
value, which no character has. Main statements: `Glyph.code_injective`, and the order of texts is
irreflexive, transitive and total (`Text.lt_irrefl`, `Text.lt_trans`, `Text.lt_or_eq_or_gt`).
-/

namespace SourcePrologue

/-- One unit of source text: a **character**, or the **stray** byte `128 + high`. -/
inductive Glyph where
  | char (c : Char)
  | stray (high : Fin 128)
  deriving DecidableEq, Inhabited

namespace Glyph

instance : Coe Char Glyph := ⟨.char⟩

/-- The number by which glyphs are ordered. -/
def code : Glyph → Nat
  | char c => c.toNat
  | stray high => 0xDC80 + high

/-- No character has a code point between U+D800 and U+DFFF, so the codes tell glyphs apart. -/
theorem code_injective {a b : Glyph} (h : a.code = b.code) : a = b := by
  have valid (c : Char) : c.toNat < 0xD800 ∨ 0xDFFF < c.toNat := by
    rcases c.valid with h | h
    · exact Or.inl h
    · exact Or.inr h.1
  cases a with
  | char c =>
    cases b with
    | char d => exact congrArg char (Char.toNat_inj.1 h)
    | stray j => have := valid c; simp only [code] at h; omega
  | stray i =>
    cases b with
    | char d => have := valid d; simp only [code] at h; omega
    | stray j => simp only [code] at h; exact congrArg stray (Fin.ext (by omega))

instance : LT Glyph := ⟨fun a b => a.code < b.code⟩

instance (a b : Glyph) : Decidable (a < b) := inferInstanceAs (Decidable (a.code < b.code))

/-- Whether a glyph is a character and no stray byte. -/
def isChar : Glyph → Bool
  | char _ => true
  | stray _ => false

/-- White space; a stray byte is not. -/
def isBlank : Glyph → Bool
  | char c => Unicode.isBlank c
  | stray _ => false

/-- A letter, a number or the underscore; a stray byte is not. -/
def isWord : Glyph → Bool
  | char c => Unicode.isWord c
  | stray _ => false

/-- The value of a decimal digit of any script. -/
def digit? : Glyph → Option Nat
  | char c => Unicode.digitValue? c
  | stray _ => none

/-- Whether a glyph is a decimal digit. -/
def isDigit (g : Glyph) : Bool := g.digit?.isSome

/-- Whether a glyph is one of the letters `A` to `Z` and `a` to `z`. -/
def isLatin : Glyph → Bool
  | char c => c.isAlpha
  | stray _ => false

end Glyph

/-- A **text** is a list of glyphs. -/
abbrev Text := List Glyph

namespace Text

/-- The text with the characters of a string. -/
def ofString (s : String) : Text := s.toList.map .char

instance : Coe String Text := ⟨ofString⟩

theorem ofString_inj {a b : String} : ofString a = ofString b ↔ a = b := by
  constructor
  · intro h
    exact String.toList_inj.1 ((List.map_inj_right fun _ _ => Glyph.char.inj).1 h)
  · exact congrArg ofString

/-- The text of one character. -/
def ofChar (c : Char) : Text := [.char c]

theorem lt_irrefl (t : Text) : ¬ t < t := by
  induction t with
  | nil => simp
  | cons a t ih =>
    rw [List.cons_lt_cons_iff]
    rintro (h | h)
    · exact Nat.lt_irrefl _ h
    · exact ih h.2

theorem lt_trans {r s t : Text} (h₁ : r < s) (h₂ : s < t) : r < t := by
  induction r generalizing s t with
  | nil =>
    cases t with
    | nil => cases s <;> simp_all
    | cons => simp
  | cons a r ih =>
    cases s with
    | nil => simp at h₁
    | cons b s =>
      cases t with
      | nil => simp at h₂
      | cons c t =>
        rw [List.cons_lt_cons_iff] at h₁ h₂ ⊢
        rcases h₁ with h₁ | ⟨rfl, h₁⟩ <;> rcases h₂ with h₂ | ⟨rfl, h₂⟩
        · exact Or.inl (Nat.lt_trans h₁ h₂)
        · exact Or.inl h₁
        · exact Or.inl h₂
        · exact Or.inr ⟨rfl, ih h₁ h₂⟩

theorem lt_or_eq_or_gt (s t : Text) : s < t ∨ s = t ∨ t < s := by
  induction s generalizing t with
  | nil => cases t <;> simp
  | cons a s ih =>
    cases t with
    | nil => simp
    | cons b t =>
      simp only [List.cons_lt_cons_iff, List.cons.injEq]
      rcases Nat.lt_trichotomy a.code b.code with h | h | h
      · exact Or.inl (Or.inl h)
      · have := Glyph.code_injective h
        subst this
        rcases ih t with h | h | h <;> simp [h]
      · exact Or.inr (Or.inr (Or.inl h))

end Text

end SourcePrologue

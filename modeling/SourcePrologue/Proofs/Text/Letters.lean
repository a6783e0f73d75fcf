import Mathlib.Data.List.Basic
import SourcePrologue.Text.Letters

/-!
# ASCII words

What the case mappings do to words of ASCII characters:

* **`capitalize_cons_of_isAscii`** — the mappings go letter by letter (`small`, `large`).

The tables are inspected for the first 128 code points (`lower_ascii`, `title_ascii`); the rest
follows from that.
-/

namespace SourcePrologue

namespace Unicode

/-- What holds of the first 128 code points holds of every ASCII character. -/
theorem forall_ascii {P : Char → Prop} (h : ∀ n < 128, P (Char.ofNat n)) {c : Char}
    (hc : c.toNat < 128) : P c := by
  have := h c.toNat hc
  rwa [Char.ofNat_toNat] at this

theorem lower_ascii {c : Char} (hc : c.toNat < 128) : lower c = [c.toLower] :=
  forall_ascii (P := fun c => lower c = [c.toLower]) (by decide +kernel) hc

theorem title_ascii {c : Char} (hc : c.toNat < 128) : title c = [c.toUpper] :=
  forall_ascii (P := fun c => title c = [c.toUpper]) (by decide +kernel) hc

end Unicode

namespace Text

/-- Whether a glyph is an ASCII character. -/
def isAsciiGlyph : Glyph → Bool
  | .char c => c.toNat < 128
  | .stray _ => false

/-- Whether a text consists of ASCII characters. -/
def isAscii (t : Text) : Bool := t.all isAsciiGlyph

theorem isAscii_cons {g : Glyph} {t : Text} :
    isAscii (g :: t) = true ↔ isAsciiGlyph g = true ∧ ∀ x ∈ t, isAsciiGlyph x = true := by
  rw [isAscii, List.all_cons, Bool.and_eq_true, List.all_eq_true]

/-- The small form of an ASCII letter; any other glyph is left as it is. -/
def small : Glyph → Glyph
  | .char c => .char c.toLower
  | .stray high => .stray high

/-- The capital form of an ASCII letter; any other glyph is left as it is. -/
def large : Glyph → Glyph
  | .char c => .char c.toUpper
  | .stray high => .stray high

theorem lowerFrom_of_isAscii {t : Text} (h : t.isAscii = true) (afterCased : Bool) :
    lowerFrom afterCased t = t.map small := by
  induction t generalizing afterCased with
  | nil => rfl
  | cons g t ih =>
    obtain ⟨hg, hrest⟩ := isAscii_cons.1 h
    rw [lowerFrom, ih (List.all_eq_true.2 hrest), List.map_cons]
    cases g with
    | stray high => simp [isAsciiGlyph] at hg
    | char c =>
      have hc : c.toNat < 128 := by simpa [isAsciiGlyph] using hg
      have hsigma : c ≠ 'Σ' := by
        rintro rfl
        exact absurd hc (by decide)
      rw [lowerGlyph, if_neg hsigma, Unicode.lower_ascii hc]
      rfl

theorem lower_of_isAscii {t : Text} (h : t.isAscii = true) : t.lower = t.map small :=
  lowerFrom_of_isAscii h false

theorem titleGlyph_small {g : Glyph} (h : isAsciiGlyph g = true) :
    titleGlyph (small g) = [large (small g)] := by
  cases g with
  | stray high => simp [isAsciiGlyph] at h
  | char c =>
    have hc : c.toNat < 128 := by simpa [isAsciiGlyph] using h
    have hlower : c.toLower.toNat < 128 :=
      Unicode.forall_ascii (P := fun c => c.toLower.toNat < 128) (by decide +kernel) hc
    rw [small, titleGlyph, Unicode.title_ascii hlower]
    rfl

theorem capitalize_cons_of_isAscii {g : Glyph} {t : Text} (h : isAscii (g :: t) = true) :
    capitalize (g :: t) = large (small g) :: t.map small := by
  rw [capitalize, lower_of_isAscii h, List.map_cons]
  show titleGlyph (small g) ++ t.map small = _
  rw [titleGlyph_small (isAscii_cons.1 h).1]
  rfl

end Text

end SourcePrologue

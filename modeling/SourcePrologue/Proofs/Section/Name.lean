import SourcePrologue.Convention.Heading
import SourcePrologue.Proofs.Section.Settled
import SourcePrologue.Proofs.Text.Letters
import SourcePrologue.Section.Standard

/-!
# Labels

A **label** is a name that is canonical and that a heading may have: what a section is stored and
written under.

* **`IsLabel.trimEnd`**, **`IsLabel.colon_notMem`** — nothing of a label is lost between marker and
  colon;
* **`isLabel_canonical`** — the canonical form of an ASCII name that a heading may have is a label;
  in particular taking the canonical form again changes nothing;
* **`isLabel_of_mem_names`** — the standard names are labels.
-/

namespace SourcePrologue

/-- What is found in a table stands in it. -/
theorem mem_of_lookup {α β : Type} [BEq α] [LawfulBEq α] {table : List (α × β)} {key : α}
    {value : β} (h : table.lookup key = some value) : (key, value) ∈ table := by
  obtain ⟨l₁, l₂, hl, -⟩ := List.lookup_eq_some_iff.1 h
  rw [hl]
  simp

namespace Unicode

/-- The characters that part words and lines. -/
def gaps : List Char := [' ', '\n', '\r']

theorem forall_mem_gaps {P : Char → Prop} : (∀ d ∈ gaps, P d) ↔ P ' ' ∧ P '\n' ∧ P '\r' := by
  simp [gaps]

end Unicode

/-! ### Glyphs of names -/

namespace Heading

theorem isBlank_of_isWord {g : Glyph} (h : g.isWord = true) : g.isBlank = false := by
  -- the tables of blank and of word characters have no code point in common
  have hdisjoint : ∀ p ∈ Unicode.blankSpans, ∀ k ≤ p.2 - p.1,
      Unicode.wordSpans.has (p.1 + k) = false := by decide +kernel
  cases g with
  | stray high => rfl
  | char c =>
    by_contra hblank
    rw [Bool.not_eq_false] at hblank
    obtain ⟨p, hp, hfirst, hlast⟩ := Unicode.Spans.exists_of_has hblank
    have hnone := hdisjoint p hp (c.toNat - p.1) (by omega)
    rw [show p.1 + (c.toNat - p.1) = c.toNat by omega] at hnone
    rw [show Unicode.wordSpans.has c.toNat = true from h] at hnone
    exact Bool.noConfusion hnone

theorem isWord_of_isLatin {g : Glyph} (h : g.isLatin = true) : g.isWord = true := by
  cases g with
  | stray high => simp [Glyph.isLatin] at h
  | char c =>
    have halpha : c.isAlpha = true := h
    have hascii : c.toNat < 128 := by
      have hcases : (c.isUpper || c.isLower) = true := halpha
      rcases Bool.or_eq_true_iff.1 hcases with hupper | hlower
      · have hle : c.val ≤ 'Z'.val := (of_decide_eq_true hupper).2
        exact lt_of_le_of_lt (UInt32.le_iff_toNat_le.1 hle) (by decide)
      · have hle : c.val ≤ 'z'.val := of_decide_eq_true (Bool.and_eq_true_iff.1 hlower).2
        exact lt_of_le_of_lt (UInt32.le_iff_toNat_le.1 hle) (by decide)
    exact Unicode.forall_ascii (P := fun c => c.isAlpha = true → Unicode.isWord c = true)
      (by decide +kernel) hascii halpha

theorem isBlank_of_isLatin {g : Glyph} (h : g.isLatin = true) : g.isBlank = false :=
  isBlank_of_isWord (isWord_of_isLatin h)

theorem isName_cons {g : Glyph} {t : Text} :
    isName (g :: t) = true ↔ g.isLatin = true ∧ ∀ x ∈ t, isNameGlyph x = true := by
  rw [isName, Bool.and_eq_true, List.all_eq_true]

theorem exists_cons_of_isName {t : Text} (h : isName t = true) :
    ∃ g rest, t = g :: rest ∧ g.isLatin = true := by
  cases t with
  | nil => simp [isName] at h
  | cons g rest => exact ⟨g, rest, rfl, (isName_cons.1 h).1⟩

theorem isNameGlyph_of_mem {t : Text} (h : isName t = true) : ∀ g ∈ t, isNameGlyph g = true := by
  obtain ⟨g, rest, rfl, hg⟩ := exists_cons_of_isName h
  intro x hx
  rcases List.mem_cons.1 hx with rfl | hx
  · simp [isNameGlyph, isWord_of_isLatin hg]
  · exact (isName_cons.1 h).2 x hx

/-- A name that a heading may have is not blank. -/
theorem isBlank_of_isName {t : Text} (h : isName t = true) : t.isBlank = false := by
  obtain ⟨g, rest, rfl, hg⟩ := exists_cons_of_isName h
  rw [Text.isBlank, List.all_cons, isBlank_of_isLatin hg, Bool.false_and]

/-- A glyph of a name is no blank other than the space. -/
theorem isBlank_of_isNameGlyph {g : Glyph} (h : isNameGlyph g = true) (hspace : g ≠ .char ' ') :
    g.isBlank = false := by
  rw [isNameGlyph, Bool.or_eq_true, Bool.or_eq_true, beq_iff_eq, beq_iff_eq] at h
  rcases h with (h | h) | h
  · exact isBlank_of_isWord h
  · rw [h]
    decide
  · exact absurd h hspace

end Heading

namespace SectionName

open Text Heading

/-! ### Canonical names of any script -/

theorem gap_notMem {w : Text} (hw : IsSolid w) {d : Char} (hd : d ∈ Unicode.gaps) :
    Glyph.char d ∉ w := by
  have hblank : ∀ d ∈ Unicode.gaps, (Glyph.char d).isBlank = true :=
    Unicode.forall_mem_gaps.2 (by decide)
  intro hmem
  have hsolid := hw.2 _ hmem
  rw [hblank d hd] at hsolid
  exact Bool.noConfusion hsolid

theorem getLast?_canonical {name : Text} {g : Glyph} (h : (canonical name).getLast? = some g) :
    g ≠ .char ' ' := by
  have hspec : ∀ w ∈ name.words.map canonicalWord, w ≠ [] ∧ Glyph.char ' ' ∉ w := by
    intro w hw
    obtain ⟨v, hv, rfl⟩ := List.mem_map.1 hw
    have hsolid := isSolid_canonicalWord (mem_words hv).1
    exact ⟨hsolid.1, gap_notMem hsolid (by decide)⟩
  obtain ⟨w, hw, hlast⟩ := getLast?_unwords (fun w hw => (hspec w hw).1) g h
  rintro rfl
  exact (hspec w hw).2 (List.mem_of_getLast? hlast)

/-- No canonical name holds a line end. -/
theorem lineEnd_notMem_canonical {d : Char} (hd : d ∈ Unicode.gaps) (hspace : d ≠ ' ')
    (name : Text) : Glyph.char d ∉ canonical name := by
  intro hmem
  rcases mem_unwords hmem with h | ⟨w, hw, hd'⟩
  · exact hspace (Glyph.char.inj h)
  · obtain ⟨v, hv, rfl⟩ := List.mem_map.1 hw
    exact gap_notMem (isSolid_canonicalWord (mem_words hv).1) hd hd'

/-! ### Labels -/

/-- A name that is canonical and that a heading may have. -/
structure IsLabel (name : Text) : Prop where
  canonical : canonical name = name
  grammar : isName name = true

instance (name : Text) : Decidable (IsLabel name) :=
  decidable_of_iff (canonical name = name ∧ isName name = true)
    ⟨fun h => ⟨h.1, h.2⟩, fun h => ⟨h.canonical, h.grammar⟩⟩

theorem IsLabel.trimEnd {name : Text} (h : IsLabel name) : name.trimEnd = name := by
  rw [trimEnd_eq_self_iff]
  intro g hg
  have hspace : g ≠ .char ' ' := by
    rw [← h.canonical] at hg
    exact getLast?_canonical hg
  exact isBlank_of_isNameGlyph (isNameGlyph_of_mem h.grammar g (List.mem_of_getLast? hg)) hspace

theorem IsLabel.colon_notMem {name : Text} (h : IsLabel name) : Glyph.char ':' ∉ name := by
  intro hmem
  have hglyph := isNameGlyph_of_mem h.grammar _ hmem
  rw [show isNameGlyph (.char ':') = false by decide +kernel] at hglyph
  exact Bool.noConfusion hglyph

theorem isLabel_of_mem_names : ∀ name ∈ Standard.names, IsLabel name := by
  have hlabels : ∀ name ∈ Standard.written ++ Standard.aliases.map (·.2), IsLabel name := by
    decide +kernel
  intro name h
  rw [Standard.names, mem_ascending] at h
  exact hlabels name h

/-! ### ASCII names -/

theorem isNameGlyph_small {g : Glyph} (ha : isAsciiGlyph g = true) (h : isNameGlyph g = true) :
    isNameGlyph (small g) = true ∧ isNameGlyph (large (small g)) = true := by
  cases g with
  | stray high => simp [isAsciiGlyph] at ha
  | char c =>
    have hc : c.toNat < 128 := by simpa [isAsciiGlyph] using ha
    exact Unicode.forall_ascii (P := fun c => isNameGlyph (.char c) = true →
      isNameGlyph (.char c.toLower) = true ∧ isNameGlyph (.char c.toLower.toUpper) = true)
      (by decide +kernel) hc h

theorem isLatin_large {g : Glyph} (ha : isAsciiGlyph g = true) (h : g.isLatin = true) :
    (large (small g)).isLatin = true := by
  cases g with
  | stray high => simp [isAsciiGlyph] at ha
  | char c =>
    have hc : c.toNat < 128 := by simpa [isAsciiGlyph] using ha
    exact Unicode.forall_ascii (P := fun c => c.isAlpha = true → c.toLower.toUpper.isAlpha = true)
      (by decide +kernel) hc h

theorem isNameGlyph_canonicalWord {w : Text} (ha : w.isAscii = true)
    (h : ∀ g ∈ w, isNameGlyph g = true) : ∀ g ∈ canonicalWord w, isNameGlyph g = true := by
  rw [canonicalWord]
  split
  · exact h
  · split
    · decide +kernel
    · cases w with
      | nil => simp [capitalize, lower, lowerFrom]
      | cons g t =>
        rw [capitalize_cons_of_isAscii ha]
        obtain ⟨hg, ht⟩ := isAscii_cons.1 ha
        intro x hx
        rcases List.mem_cons.1 hx with rfl | hx
        · exact (isNameGlyph_small hg (h g List.mem_cons_self)).2
        · obtain ⟨y, hy, rfl⟩ := List.mem_map.1 hx
          exact (isNameGlyph_small (ht y hy) (h y (List.mem_cons_of_mem g hy))).1

theorem canonicalWord_cons {g : Glyph} {t : Text} (ha : isAscii (g :: t) = true)
    (h : g.isLatin = true) :
    ∃ g' t', canonicalWord (g :: t) = g' :: t' ∧ g'.isLatin = true := by
  rw [canonicalWord]
  split
  · exact ⟨g, t, rfl, h⟩
  · split
    · exact ⟨.char 'o', ofString "f", rfl, by decide⟩
    · rw [capitalize_cons_of_isAscii ha]
      exact ⟨_, _, rfl, isLatin_large (isAscii_cons.1 ha).1 h⟩

section

variable {name : Text} (h : isName name = true) (ha : name.isAscii = true)

include ha in
theorem isAscii_of_mem_words {w : Text} (hw : w ∈ name.words) : w.isAscii = true := by
  rw [isAscii, List.all_eq_true] at ha ⊢
  exact fun g hg => ha g ((mem_words hw).2 g hg)

include ha in
/-- ASCII names are settled. -/
theorem isSettled_of_isAscii : IsSettled name := by
  intro w hw hhead
  have hglyph := List.all_eq_true.1 (isAscii_of_mem_words ha hw) _ (List.mem_of_head? hhead)
  exact absurd hglyph (by decide)

include h ha

/-- The canonical words of a name have the glyphs that a name may have. -/
theorem isNameGlyph_of_mem_canonicalWord {w : Text} (hw : w ∈ name.words) :
    ∀ g ∈ canonicalWord w, isNameGlyph g = true := by
  refine isNameGlyph_canonicalWord (isAscii_of_mem_words ha hw) fun g hg => ?_
  exact isNameGlyph_of_mem h g ((mem_words hw).2 g hg)

/-- The canonical form of a name begins with the first glyph of its first word. -/
theorem canonical_cons :
    ∃ g rest, SectionName.canonical name = g :: rest ∧ g.isLatin = true := by
  obtain ⟨g, t, rfl, hlatin⟩ := exists_cons_of_isName h
  obtain ⟨piece, ws, hwords⟩ := words_cons (isBlank_of_isLatin hlatin) t
  have hfirst : g :: piece ∈ words (g :: t) := by
    rw [hwords]
    exact List.mem_cons_self
  obtain ⟨g', t', hcons, hlatin'⟩ := canonicalWord_cons (isAscii_of_mem_words ha hfirst) hlatin
  rw [SectionName.canonical, hwords, List.map_cons, hcons]
  cases ws.map canonicalWord with
  | nil => exact ⟨g', t', rfl, hlatin'⟩
  | cons v vs => exact ⟨g', _, unwords_cons_cons (g' :: t') v vs, hlatin'⟩

theorem isName_canonical : isName (SectionName.canonical name) = true := by
  obtain ⟨g, rest, hcons, hlatin⟩ := canonical_cons h ha
  rw [hcons, isName_cons]
  refine ⟨hlatin, fun x hx => ?_⟩
  have hx : x ∈ SectionName.canonical name := by
    rw [hcons]
    exact List.mem_cons_of_mem g hx
  rcases mem_unwords hx with rfl | ⟨w, hw, hxw⟩
  · rfl
  · obtain ⟨v, hv, rfl⟩ := List.mem_map.1 hw
    exact isNameGlyph_of_mem_canonicalWord h ha hv x hxw

/-- **The canonical form of an ASCII heading is a label.** -/
theorem isLabel_canonical : IsLabel (SectionName.canonical name) :=
  ⟨canonical_canonical_iff.2 (isSettled_of_isAscii ha), isName_canonical h ha⟩

end

end SectionName

end SourcePrologue

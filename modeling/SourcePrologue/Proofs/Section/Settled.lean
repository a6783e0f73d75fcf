import SourcePrologue.Proofs.Section.Blocks
import SourcePrologue.Proofs.Text.Capitals
import SourcePrologue.Section.Name

/-!
# Names that are normalised again

A section is stored under the canonical form of its name, and whoever asks for it under the name
that it is listed with has the canonical form taken of a canonical form.

* **`SectionName.canonicalWord_canonicalWord_iff`** — the three rules for a word do not lead out of
  one another, so only the capital can be lost that the letter n behind an apostrophe turns into;
* **`SectionName.canonical_canonical_iff`** — a name is **settled** if no word of it begins with
  that letter, and only then is its canonical form its own;
* **`SectionName.normalize_again`** — the canonical form of a name with a word always exists, and
  what is written under a settled name is read back under the name that is listed.
-/

namespace SourcePrologue

namespace SectionName

open Text

/-- A name is **settled** if no word of it begins with the letter n behind an apostrophe. -/
def IsSettled (name : Text) : Prop := ∀ w ∈ name.words, w.head? ≠ some (.char 'ŉ')

instance (name : Text) : Decidable (IsSettled name) :=
  inferInstanceAs (Decidable (∀ w ∈ name.words, w.head? ≠ some (.char 'ŉ')))

/-! ### Words -/

/-- A canonical word is the word itself, the word `of` or the word capitalised. -/
theorem canonicalWord_cases (w : Text) :
    w.all isCapital = true ∧ canonicalWord w = w ∨
      w.lower = ofString "of" ∧ canonicalWord w = ofString "of" ∨
      w.lower ≠ ofString "of" ∧ canonicalWord w = w.capitalize := by
  rw [canonicalWord]
  split
  · next hcapital => exact Or.inl ⟨hcapital, rfl⟩
  · split
    · next hof => exact Or.inr (Or.inl ⟨hof, rfl⟩)
    · next hof => exact Or.inr (Or.inr ⟨hof, rfl⟩)

theorem canonicalWord_of : canonicalWord (ofString "of") = ofString "of" := by decide +kernel

theorem head?_of_isCapital {w : Text} (h : w.all isCapital = true) :
    w.head? ≠ some (.char 'ŉ') := by
  intro hhead
  have hn := List.all_eq_true.1 h _ (List.mem_of_head? hhead)
  exact absurd hn (by decide)

/-- No blank comes into a word whose canonical form is taken. -/
theorem isSolid_canonicalWord {w : Text} (h : IsSolid w) : IsSolid (canonicalWord w) := by
  rcases canonicalWord_cases w with ⟨-, hword⟩ | ⟨-, hword⟩ | ⟨-, hword⟩
  · rwa [hword]
  · rw [hword]
    decide
  · rw [hword]
    exact isSolid_capitalize h

theorem head?_canonicalWord_ne (w : Text) : (canonicalWord w).head? ≠ some (.char 'ŉ') := by
  rcases canonicalWord_cases w with ⟨hcapital, hword⟩ | ⟨-, hword⟩ | ⟨-, hword⟩
  · rw [hword]
    exact head?_of_isCapital hcapital
  · rw [hword]
    decide
  · rw [hword]
    exact head?_capitalize_ne w

/-- **The canonical form of a canonical word** is the word itself, unless it was the letter n behind
an apostrophe that was capitalised. -/
theorem canonicalWord_canonicalWord_iff {w : Text} :
    canonicalWord (canonicalWord w) = canonicalWord w ↔ w.head? ≠ some (.char 'ŉ') := by
  rcases canonicalWord_cases w with ⟨hcapital, hword⟩ | ⟨hof, hword⟩ | ⟨hof, hword⟩
  · rw [hword, hword]
    exact iff_of_true rfl (head?_of_isCapital hcapital)
  · rw [hword, canonicalWord_of]
    refine iff_of_true rfl fun hhead => ?_
    rw [← head?_lower_iff, hof] at hhead
    exact absurd hhead (by decide)
  · rw [hword]
    -- the capitalised word may fall under any of the three rules
    by_cases hhead : w.head? = some (.char 'ŉ')
    · obtain ⟨s, hapostrophe, hsmall⟩ := capitalize_of_head? hhead
      refine iff_of_false ?_ (not_not.2 hhead)
      rcases canonicalWord_cases w.capitalize with ⟨hcapital, -⟩ | ⟨hof', -⟩ | ⟨-, hagain⟩
      · rw [hapostrophe, List.all_cons] at hcapital
        exact absurd hcapital (by simp [isCapital])
      · rw [hsmall] at hof'
        have hhead' := congrArg List.head? hof'
        rw [List.head?_cons] at hhead'
        exact absurd hhead' (by decide)
      · rw [hagain]
        exact fun h => capitalize_capitalize_iff.1 h hhead
    · refine iff_of_true ?_ hhead
      rcases canonicalWord_cases w.capitalize with ⟨-, hagain⟩ | ⟨hof', -⟩ | ⟨-, hagain⟩
      · exact hagain
      · rcases capitalize_cases hhead with hback | ⟨ho, -⟩
        · exact absurd (hback.symm.trans hof') hof
        · exact absurd (by rw [hof']; rfl) ho
      · rw [hagain]
        exact capitalize_capitalize_iff.2 hhead

/-! ### Names -/

theorem words_canonical (name : Text) : (canonical name).words = name.words.map canonicalWord := by
  refine words_unwords fun w hw => ?_
  obtain ⟨v, hv, rfl⟩ := List.mem_map.1 hw
  exact isSolid_canonicalWord (mem_words hv).1

/-- **A canonical form is its own canonical form where the name is settled**, and only there. -/
theorem canonical_canonical_iff {name : Text} :
    canonical (canonical name) = canonical name ↔ IsSettled name := by
  have hwords : canonical (canonical name) = canonical name ↔
      ∀ w ∈ name.words, canonicalWord (canonicalWord w) = canonicalWord w := by
    constructor
    · intro h
      have hrow := congrArg words h
      rw [words_canonical, words_canonical, List.map_map, List.map_inj_left] at hrow
      exact hrow
    · intro h
      rw [canonical, words_canonical, List.map_map, canonical]
      exact congrArg unwords (List.map_congr_left h)
  rw [hwords]
  exact forall₂_congr fun w _ => canonicalWord_canonicalWord_iff

/-- Every canonical form is settled, so taking it a third time changes nothing. -/
theorem isSettled_canonical (name : Text) : IsSettled (canonical name) := by
  rw [IsSettled, words_canonical]
  intro w hw
  obtain ⟨v, -, rfl⟩ := List.mem_map.1 hw
  exact head?_canonicalWord_ne v

theorem isBlank_canonical {name : Text} (h : name.isBlank = false) :
    (canonical name).isBlank = false := by
  rw [← Bool.not_eq_true, ← words_eq_nil_iff] at h ⊢
  rw [words_canonical]
  exact fun hnil => h (List.map_eq_nil_iff.1 hnil)

theorem normalize_eq {name : Text} (h : name.isBlank = false) :
    normalize (some name) = .ok (canonical name) := by
  rw [normalize, require, h]
  rfl

/-- **Taking the canonical form again.** A name that is not blank has a canonical form, which is not
blank either. Normalising that gives it back where the name is settled, and only there, and in any
case once more is enough. So whatever stands under the name is read back under the canonical form
that it is listed with; for a name that is not settled, what is read there is another section. -/
theorem normalize_again (name : Text) (h : name.isBlank = false) :
    normalize (some name) = .ok (canonical name) ∧ (canonical name).isBlank = false ∧
      (normalize (some (canonical name)) = .ok (canonical name) ↔ IsSettled name) ∧
      canonical (canonical (canonical name)) = canonical (canonical name) ∧
      ∀ (p : Prologue) (ls : List Text), ls ≠ [] →
        canonical name ∈ (p.setContent name ls).sectionNames ∧
        (p.setContent name ls).content (canonical name) =
          if IsSettled name then ls.map chomp else p.content (canonical name) := by
  refine ⟨normalize_eq h, isBlank_canonical h, ?_, canonical_canonical_iff.2
    (isSettled_canonical name), fun p ls hls => ⟨?_, ?_⟩⟩
  · rw [normalize_eq (isBlank_canonical h), Except.ok.injEq, canonical_canonical_iff]
  · rw [Prologue.sectionNames, Sections.mem_names_iff, Prologue.setContent, Sections.find_set,
      if_pos rfl]
    exact fun hnil => hls (List.map_eq_nil_iff.1 hnil)
  · rw [Prologue.content, Prologue.setContent, Sections.find_set]
    split
    · next hsame => rw [if_pos (canonical_canonical_iff.1 hsame)]
    · next hother =>
      rw [if_neg fun hsettled => hother (canonical_canonical_iff.2 hsettled), Prologue.content]

theorem normalize_again_returned :
    Text.isBlank "returned  VALUE of" = false ∧
      normalize (some (canonical "returned  VALUE of")) = .ok "Returned VALUE of" ∧
      ∀ p : Prologue, (p.setContent "returned  VALUE of" ["one"]).content "Returned VALUE of"
        = ["one"] := by
  have hblank : Text.isBlank "returned  VALUE of" = false := by decide +kernel
  have hsettled : IsSettled "returned  VALUE of" := by decide +kernel
  have hcanonical : canonical "returned  VALUE of" = "Returned VALUE of" := by decide +kernel
  obtain ⟨-, -, hagain, -, hread⟩ := normalize_again "returned  VALUE of" hblank
  refine ⟨hblank, ?_, fun p => ?_⟩
  · rw [hagain.2 hsettled, hcanonical]
  · have hstored := (hread p ["one"] (List.cons_ne_nil _ _)).2
    rw [hcanonical, if_pos hsettled] at hstored
    rw [hstored]
    decide +kernel

/-- The letter n behind an apostrophe loses its capital, and the section with it. -/
theorem capital_lost_again :
    Text.isBlank "ŉ" = false ∧ normalize (some "ŉ") = .ok "ʼN" ∧
      normalize (some "ʼN") = .ok "ʼn" ∧
      (({} : Prologue).setContent "ŉ" ["one"]).sectionNames = ["ʼN"] ∧
      (({} : Prologue).setContent "ŉ" ["one"]).content "ʼN" = [] := by
  decide +kernel

end SectionName

end SourcePrologue

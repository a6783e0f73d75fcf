import SourcePrologue.Proofs.Copyright.Notice
import SourcePrologue.Proofs.Prologue.Outcome
import SourcePrologue.Prologue.Edit

/-!
# Sections that last

A section is found again behind writing and reading if its first line that is not blank is read as
a line that is not blank (`Body.Shows`). A prologue is `Lasting` if all of its sections are so,
whatever their names are.

* **`Prologue.lacks_iff`** — a section is lacking if it is populated under none of its spellings;
* **`Prologue.Lasting.license`**, **`Prologue.Lasting.creditYears`** — a licence and a notice leave a
  prologue lasting, and nothing that was there is lacking then;
* **`Prologue.Lasting.written`** — a section that is not lacking is written with a line that shows.
-/

namespace SourcePrologue

open Body Standard

/-! ### Lines that show -/

namespace Body

/-- A line that is not blank and is not read as a blank one once it has been written. -/
def IsShown (line : Text) : Prop := line.isBlank = false ∧ (Utf8.recode line).isBlank = false

/-- Lines without blank edges of which the first one is shown. -/
def Shows (ls : List Text) : Prop :=
  ∃ line rest, trimBlankEdges ls = line :: rest ∧ IsShown line

theorem shows_cons {line : Text} (h : IsShown line) (rest : List Text) : Shows (line :: rest) := by
  obtain ⟨rest', htrim⟩ := trimBlankEdges_cons h.1 rest
  exact ⟨line, rest', htrim, h⟩

/-- A line that begins with an ASCII character other than a blank is shown. -/
theorem isShown_of_ascii {c : Char} (hc : c.toNat < 0x80) (hblank : (Glyph.char c).isBlank = false)
    (t : Text) : IsShown (.char c :: t) := by
  have hcons : ∀ t : Text, Text.isBlank (.char c :: t) = false := fun t => by
    rw [Text.isBlank, List.all_cons, hblank]
    rfl
  refine ⟨hcons t, ?_⟩
  rw [Utf8.recode_cons_ascii hc]
  exact hcons _

theorem isShown_of_isDecoded {line : Text} (hdecoded : Utf8.IsDecoded line)
    (h : line.isBlank = false) : IsShown line :=
  ⟨h, by rw [show Utf8.recode line = line from hdecoded]; exact h⟩

theorem shows_of_trimmed {ls : List Text} (h : Trimmed ls)
    (hdecoded : ∀ line ∈ ls, Utf8.IsDecoded line) : Shows ls := by
  obtain ⟨⟨line, hhead, hblank⟩, -⟩ := h
  obtain ⟨rest, rfl⟩ := List.head?_eq_some_iff.1 hhead
  exact shows_cons (isShown_of_isDecoded (hdecoded line List.mem_cons_self) hblank) rest

end Body

namespace Prologue

/-- A prologue whose sections **last**: it has a marker, its lines have no line ends, and every
section shows. -/
structure Lasting (p : Prologue) : Prop where
  marked : ∃ m : Marker, p.commentChar = [m.glyph]
  lines : ∀ key, ∀ line ∈ p.sections.find key, line.IsLine
  shows : ∀ key, p.sections.find key ≠ [] → Shows (p.sections.find key)

variable {p : Prologue} {name : Text} {ls : List Text}

theorem find_setContent (h : ∀ line ∈ ls, line.IsLine) (key : Text) :
    (p.setContent name ls).sections.find key =
      if key = SectionName.canonical name then ls else p.sections.find key := by
  have hkept : ls.map Text.chomp = ls :=
    (List.map_congr_left fun line hline => (h line hline).chomp).trans (List.map_id' ls)
  rw [setContent, Sections.find_set, hkept]

theorem Lasting.setContent (hp : p.Lasting) (hls : ∀ line ∈ ls, line.IsLine) (hshows : Shows ls) :
    (p.setContent name ls).Lasting := by
  refine ⟨hp.marked, fun key => ?_, fun key => ?_⟩
  · rw [find_setContent hls]
    split
    · exact hls
    · exact hp.lines key
  · rw [find_setContent hls]
    split
    · exact fun _ => hshows
    · exact hp.shows key

/-! ### Sections that are lacking -/

/-- **A section is lacking** if it is populated under none of its spellings. -/
theorem lacks_iff (hc : SectionName.canonical name = name) : p.lacks name = true ↔
    p.sections.find name = [] ∧
      ∀ second, aliases.lookup name = some second → p.sections.find second = [] := by
  rw [lacks, Option.isNone_iff_eq_none, resolve?, hc]
  by_cases hhas : p.sections.has name = true
  · simp [hhas, Sections.has_iff.1 hhas]
  · rw [Bool.not_eq_true] at hhas
    simp only [hhas, Bool.false_eq_true, if_false, Sections.has_eq_false_iff.1 hhas, true_and,
      Option.filter_eq_none_iff, Bool.not_eq_true, Sections.has_eq_false_iff]

theorem lacks_setContent_self (hc : SectionName.canonical name = name) (hne : ls ≠ []) :
    (p.setContent name ls).lacks name = false := by
  rw [← Bool.not_eq_true, lacks_iff hc, setContent, Sections.find_set, if_pos hc.symm]
  exact fun h => hne (List.map_eq_nil_iff.1 h.1)

/-- Filling a section makes no other one lacking. -/
theorem lacks_setContent {other : Text} (hc : SectionName.canonical other = other) (hne : ls ≠ [])
    (h : p.lacks other = false) : (p.setContent name ls).lacks other = false := by
  have hkept : ∀ key, (p.setContent name ls).sections.find key = [] → p.sections.find key = [] := by
    intro key hkey
    rw [setContent, Sections.find_set] at hkey
    split at hkey
    · exact absurd (List.map_eq_nil_iff.1 hkey) hne
    · exact hkey
  rw [← Bool.not_eq_true, lacks_iff hc] at h ⊢
  exact fun hlacks => h ⟨hkept _ hlacks.1, fun second hsecond => hkept _ (hlacks.2 second hsecond)⟩

/-! ### Licences and notices -/

theorem isLine_of_mem_licence : ∀ line ∈ generalPublicLicence, line.IsLine := by
  rw [generalPublicLicence]
  -- evaluating the strings as a whole is slow, so that they are taken for lists of characters
  repeat refine List.forall_mem_cons.2 ⟨Text.isLine_ofString rfl (by decide), ?_⟩
  exact List.forall_mem_nil _

theorem shows_licence : Shows generalPublicLicence :=
  shows_cons (isShown_of_ascii (c := 'T') (by decide) (by decide) _) _

theorem Lasting.license (hp : p.Lasting) : (p.license generalPublicLicence).Lasting := by
  rw [Prologue.license]
  split
  · exact hp.setContent isLine_of_mem_licence shows_licence
  · exact hp

theorem lacks_license (p : Prologue) :
    (p.license generalPublicLicence).lacks "Licence" = false := by
  rw [Prologue.license]
  split
  · exact lacks_setContent_self (by decide +kernel) (by decide)
  · next h => simpa using h

theorem creditedYears_ne_nil (p : Prologue) (currentYear : Int) :
    p.creditedYears currentYear ≠ [] := by
  rw [creditedYears]
  split
  · simp
  · next h => simpa using h

/-- The notice that a prologue is given. -/
def credited (p : Prologue) (holder : Option Text) (currentYear : Int) : List Text :=
  Copyright.notice Copyright.noticeWidth (p.creditedYears currentYear) (match holder with
    | some name => .holder name
    | none => .bodies Copyright.fundingBodies)

theorem creditYears_eq (p : Prologue) (holder : Option Text) (currentYear : Int) :
    p.creditYears holder currentYear =
      if p.lacks "Copyright" then p.setContent "Copyright" (p.credited holder currentYear)
      else p := rfl

theorem credited_spec (p : Prologue) (holder : Option Text) (currentYear : Int) :
    (∀ line ∈ p.credited holder currentYear, line.IsLine) ∧
      Shows (p.credited holder currentYear) ∧ p.credited holder currentYear ≠ [] := by
  have hyears := p.creditedYears_ne_nil currentYear
  have hcons : ∃ t rest, p.credited holder currentYear = (.char 'C' :: t) :: rest := by
    cases holder with
    | none => exact Copyright.notice_cons (Copyright.sentences_bodies hyears)
    | some name => exact Copyright.notice_cons (Copyright.sentences_holder hyears name)
  refine ⟨fun line => Copyright.isLine_of_mem_notice, ?_⟩
  obtain ⟨t, rest, hcons⟩ := hcons
  rw [hcons]
  exact ⟨shows_cons (isShown_of_ascii (by decide) (by decide) t) rest, List.cons_ne_nil _ _⟩

theorem Lasting.creditYears (hp : p.Lasting) (holder : Option Text) (currentYear : Int) :
    (p.creditYears holder currentYear).Lasting := by
  obtain ⟨hlines, hshows, -⟩ := p.credited_spec holder currentYear
  rw [creditYears_eq]
  split
  · exact hp.setContent hlines hshows
  · exact hp

theorem lacks_creditYears (p : Prologue) (holder : Option Text) (currentYear : Int) :
    (p.creditYears holder currentYear).lacks "Copyright" = false := by
  rw [creditYears_eq]
  split
  · exact lacks_setContent_self (by decide +kernel) (p.credited_spec holder currentYear).2.2
  · next h => simpa using h

/-- A notice makes nothing lacking. -/
theorem lacks_creditYears_of {other : Text} (hc : SectionName.canonical other = other)
    (h : p.lacks other = false) (holder : Option Text) (currentYear : Int) :
    (p.creditYears holder currentYear).lacks other = false := by
  rw [creditYears_eq]
  split
  · exact lacks_setContent hc (p.credited_spec holder currentYear).2.2 h
  · exact h

/-! ### Sections that are written -/

theorem closed_cons (slot line : Text) (rest : List Text) :
    ∃ rest', closed slot (line :: rest) = line :: rest' := by
  rw [closed]
  split
  · split
    · exact ⟨rest, rfl⟩
    · exact ⟨_, List.cons_append⟩
  · exact ⟨rest, rfl⟩

/-- **A section that is not lacking is written**, under its name or its second spelling, and the
first of its lines is shown. -/
theorem Lasting.written (hp : p.Lasting) (hname : name ∈ Standard.written)
    (h : p.lacks name = false) : ∃ b ∈ p.blocks, (b.1 = name ∨ aliases.lookup name = some b.1) ∧
      ∃ line rest, b.2 = line :: rest ∧ line.IsLine ∧ IsShown line := by
  have hc := (isLabel_of_mem_written hname).canonical
  rw [← Bool.not_eq_true, lacks_iff hc] at h
  have hresolved : ∃ found, (found = name ∨ aliases.lookup name = some found) ∧
      p.sections.find found ≠ [] ∧ p.resolved name = (found, p.sections.find found) := by
    rcases resolved_cases p hc with ⟨hhas, hresolved⟩ | ⟨second, hlookup, hhas, hresolved⟩ |
      ⟨hhas, -, hlacks⟩
    · exact ⟨name, Or.inl rfl, Sections.has_iff.1 hhas, hresolved⟩
    · refine ⟨second, Or.inr hlookup, fun hsecond => h ⟨Sections.has_eq_false_iff.1 hhas, ?_⟩,
        hresolved⟩
      intro other hother
      rw [hlookup, Option.some.injEq] at hother
      rw [← hother]
      exact hsecond
    · exact absurd ⟨Sections.has_eq_false_iff.1 hhas, hlacks⟩ h
  obtain ⟨found, hfound, hne, hresolved⟩ := hresolved
  obtain ⟨line, rest, htrim, hshown⟩ := hp.shows found hne
  obtain ⟨rest', hclosed⟩ := closed_cons name line rest
  have hline : line.IsLine :=
    hp.lines found line (mem_of_mem_trimBlankEdges (by rw [htrim]; exact List.mem_cons_self))
  have hwritten : p.written? name = some (found, line :: rest') := by
    rw [written?_of_ne_nil (by rw [hresolved, htrim]; exact List.cons_ne_nil _ _), hresolved, htrim,
      hclosed]
  refine ⟨(found, line :: rest'), ?_, hfound, line, rest', rfl, hline, hshown⟩
  exact List.mem_filterMap.2 ⟨name, mem_order_iff.2 (Or.inl hname), hwritten⟩

end Prologue

end SourcePrologue
